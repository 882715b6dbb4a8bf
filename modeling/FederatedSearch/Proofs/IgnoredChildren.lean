import FederatedSearch.Proofs.QueryFaults

/-!
Children that a negation ignores. A negation is judged by its first child, so that a tree can be
cut down to the first children of its negations: it stays the same condition, with the same
faults, and asks the same of an index. The terms to exclude are gathered from all children
though. A record is lost for them if a text is found in it that only ignored children seek.
-/

namespace FederatedSearch

open FederatedSearch.Index FederatedSearch.ExclusionFilter

namespace Occurrence

/-- Evaluation reaches the leaf. -/
def isHeeded (occurrence : Occurrence) : Bool := occurrence.place.isHeeded

/-- The text that the leaf seeks occurs in the record. -/
def rulesOut (record : Record) (occurrence : Occurrence) : Bool :=
  occurrence.sought?.any (termExcludes record)

@[simp] theorem heeded_below (step : Step) (occurrence : Occurrence) :
    (occurrence.below step).isHeeded = (step.isHeeded && occurrence.isHeeded) := rfl

theorem negated_of_ignored {occurrence : Occurrence} (ignored : occurrence.isHeeded = false) :
    occurrence.isNegated = true := by
  obtain ⟨step, above, notHeeded⟩ := List.all_eq_false.mp ignored
  refine List.any_eq_true.mpr ⟨step, above, ?_⟩
  have negation : step.operator = .not := by
    apply of_not_not
    intro other
    simp [Step.isHeeded, other] at notHeeded
  rw [negation]
  rfl

end Occurrence

namespace Query

mutual

/-- The tree with every negation cut down to its first child. -/
def pruned : Query → Query
  | .logical .not children => .logical .not (firstPruned children)
  | .logical operator children => .logical operator (allPruned children)
  | leaf => leaf

def firstPruned : List Query → List Query
  | [] => []
  | child :: _ => [pruned child]

def allPruned : List Query → List Query
  | [] => []
  | child :: rest => pruned child :: allPruned rest

end

theorem all_pruned_eq (children : List Query) : allPruned children = children.map pruned := by
  induction children with
  | nil => rfl
  | cons child rest ih => rw [allPruned, ih, List.map_cons]

theorem pruned_logical (operator : LogicalOperator) (children : List Query) :
    (logical operator children).pruned =
      .logical operator ((considered operator children).map pruned) := by
  cases operator with
  | and | or | nor => rw [pruned, all_pruned_eq, considered]; simp
  | not => cases children <;> rfl

theorem pruned_leaf (leaf : Query) (isLeaf : leaf.isLeaf = true) : leaf.pruned = leaf := by
  cases leaf with
  | logical operator children => cases isLeaf
  | comparison | textSearch | field | literal => rfl

theorem considered_pruned (operator : LogicalOperator) (children : List Query) :
    considered operator ((considered operator children).map pruned) =
      (considered operator children).map pruned := by
  cases operator with
  | and | or | nor => rfl
  | not => rw [considered, considered, ← List.map_take, List.take_take, Nat.min_self]

theorem fault_pruned (query : Query) : query.pruned.fault? = query.fault? := by
  induction query using node_induction with
  | leaf node isLeaf => rw [pruned_leaf node isLeaf]
  | logical operator children ih =>
      have same : ((considered operator children).map pruned).findSome? fault? =
          (considered operator children).findSome? fault? := by
        rw [find_fault_eq, find_fault_eq, List.map_map]
        apply congrArg (List.findSome? id)
        apply List.map_congr_left
        intro child looked
        exact ih child (mem_of_considered looked)
      have empty : ((considered operator children).map pruned).isEmpty = children.isEmpty := by
        cases operator <;> cases children <;> rfl
      rw [pruned_logical, fault_of_node, fault_of_node, empty, considered_pruned, same]

theorem reading_pruned (query : Query) (relax negated : Bool) (record : Record) :
    query.pruned.truth (reading relax negated record) =
      query.truth (reading relax negated record) := by
  induction query using node_induction generalizing negated with
  | leaf node isLeaf => rw [pruned_leaf node isLeaf]
  | logical operator children ih =>
      rw [pruned_logical, reading_logical, reading_logical, considered_pruned, List.map_map]
      apply congrArg (combined operator)
      apply List.map_congr_left
      intro child looked
      exact ih child (mem_of_considered looked) _

theorem compile_pruned (query : Query) (relax negated : Bool) :
    query.pruned.compileWith relax negated = query.compileWith relax negated := by
  simp only [compile_eq_checked, checked, fault_pruned, reading_pruned]

theorem expression_pruned (query : Query) : query.pruned.expression? = query.expression? := by
  induction query using node_induction with
  | leaf node isLeaf => rw [pruned_leaf node isLeaf]
  | logical operator children ih =>
      rw [pruned_logical, expression_logical, expression_logical]
      cases operator with
      | not | nor => rfl
      | and | or =>
          have same : children.filterMap (expression? ∘ pruned) = children.filterMap expression? :=
            List.filterMap_congr ih
          rw [considered, List.filterMap_map, same]

theorem engine_query_pruned (query : Query) :
    query.pruned.fullTextPart.engineQuery = query.fullTextPart.engineQuery := by
  rw [fullTextPart, fullTextPart, expression_pruned]

theorem structured_of_pruned {query : Query} (structured : query.pruned.hasStructuredLeaf = true) :
    query.hasStructuredLeaf = true := by
  induction query using node_induction with
  | leaf node isLeaf => rwa [pruned_leaf node isLeaf] at structured
  | logical operator children ih =>
      rw [pruned_logical, structured_logical, List.any_map, List.any_eq_true] at structured
      obtain ⟨child, looked, below⟩ := structured
      have among := mem_of_considered looked
      exact (structured_logical operator children).trans
        (List.any_eq_true.mpr ⟨child, among, ih child among below⟩)

theorem occurrences_of_all_pruned {operator : LogicalOperator} {children : List Query}
    (heeded : ∀ index, Step.isHeeded ⟨operator, index⟩ = true)
    (each : ∀ child ∈ children,
      child.pruned.occurrences = child.occurrences.filter Occurrence.isHeeded) (index : Nat) :
    occurrencesOfAll operator index (children.map pruned) =
      (occurrencesOfAll operator index children).filter Occurrence.isHeeded := by
  induction children generalizing index with
  | nil => rfl
  | cons child rest ih =>
      have others := ih fun other member => each other (List.mem_cons_of_mem child member)
      have here : Occurrence.isHeeded ∘ (·.below ⟨operator, index⟩) = Occurrence.isHeeded := by
        funext occurrence
        simp [heeded index]
      rw [List.map_cons, occurrencesOfAll, occurrencesOfAll, List.filter_append, others,
        List.filter_map, here, each child List.mem_cons_self]

/-- The leaves that are left are those that evaluation reaches. -/
theorem occurrences_pruned (query : Query) :
    query.pruned.occurrences = query.occurrences.filter Occurrence.isHeeded := by
  induction query using node_induction with
  | leaf node isLeaf =>
      rw [pruned_leaf node isLeaf, occurrences_of_leaf node isLeaf]
      rfl
  | logical operator children ih =>
      rw [pruned_logical, occurrences, occurrences]
      cases operator with
      | and | or | nor => exact occurrences_of_all_pruned (fun index => rfl) ih 0
      | not =>
          cases children with
          | nil => rfl
          | cons first rest =>
              have ignored : (occurrencesOfAll .not 1 rest).filter Occurrence.isHeeded = [] := by
                apply List.filter_eq_nil_iff.mpr
                intro occurrence member
                obtain ⟨position, _, inner, _, _, rfl⟩ := mem_occurrences_of_all.mp member
                simp [Step.isHeeded]
              have here : Occurrence.isHeeded ∘ (·.below ⟨.not, 0⟩) = Occurrence.isHeeded := rfl
              rw [considered, List.take_succ_cons, List.take_zero, List.map_singleton,
                occurrencesOfAll, occurrencesOfAll, occurrencesOfAll, List.append_nil,
                List.filter_append, ignored, List.append_nil, List.filter_map, here,
                ih first List.mem_cons_self]

def negatedLeaves (query : Query) : List Occurrence := query.occurrences.filter Occurrence.isNegated

def heededNegatedLeaves (query : Query) : List Occurrence :=
  query.negatedLeaves.filter Occurrence.isHeeded

theorem negated_leaves_pruned (query : Query) :
    query.pruned.negatedLeaves = query.heededNegatedLeaves := by
  rw [negatedLeaves, occurrences_pruned, heededNegatedLeaves, negatedLeaves, List.filter_comm]

theorem excluded_terms_eq (query : Query) :
    query.fullTextPart.excludedTerms =
      (query.negatedLeaves.filterMap Occurrence.sought?).eraseDups := by
  rw [negatedLeaves, negated_sought_terms]
  rfl

theorem mem_excluded_terms {query : Query} {term : ExcludedTerm} :
    term ∈ query.fullTextPart.excludedTerms ↔
      ∃ leaf ∈ query.negatedLeaves, leaf.sought? = some term := by
  rw [excluded_terms_eq, List.mem_eraseDups, List.mem_filterMap]

/-- A record is dropped if one of the leaves below negations rules it out. -/
theorem excludes_eq_ruled_out (query : Query) (record : Record) :
    (ExclusionFilter.ofTerms query.fullTextPart.excludedTerms).excludes record =
      query.negatedLeaves.any (Occurrence.rulesOut record) := by
  have asTerms : query.negatedTerms.any record.mentions =
      (query.negatedTerms.map .ofTerm).any (termExcludes record) := by
    rw [List.any_map]
    exact congrArg _ (funext fun term => (term_excludes_eq_mentions record term).symm)
  rw [excludes_eq_mentions, asTerms, ← negated_sought_terms, List.any_filterMap]
  rfl

theorem heeded_or_ignored {query : Query} {leaf : Occurrence} :
    leaf ∈ query.negatedLeaves ↔
      leaf ∈ query.heededNegatedLeaves ∨ leaf ∈ query.occurrences ∧ leaf.isHeeded = false := by
  simp only [heededNegatedLeaves, negatedLeaves, List.mem_filter]
  constructor
  · rintro ⟨member, negated⟩
    cases heeded : leaf.isHeeded with
    | true => exact Or.inl ⟨⟨member, negated⟩, rfl⟩
    | false => exact Or.inr ⟨member, rfl⟩
  · rintro (⟨negated, _⟩ | ⟨member, ignored⟩)
    · exact negated
    · exact ⟨member, Occurrence.negated_of_ignored ignored⟩

/-- An ignored leaf rules out the record, and no leaf below a negation does that is heeded. -/
def OnlyIgnoredRuleOut (query : Query) (record : Record) : Prop :=
  (∃ leaf ∈ query.occurrences, leaf.isHeeded = false ∧ leaf.rulesOut record = true) ∧
    ∀ leaf ∈ query.heededNegatedLeaves, leaf.rulesOut record = false

theorem excludes_pruned (query : Query) (record : Record) :
    (ExclusionFilter.ofTerms query.pruned.fullTextPart.excludedTerms).excludes record =
      query.heededNegatedLeaves.any (Occurrence.rulesOut record) := by
  rw [excludes_eq_ruled_out, negated_leaves_pruned]

theorem only_ignored_rule_out_iff {query : Query} {record : Record} :
    query.OnlyIgnoredRuleOut record ↔
      query.negatedLeaves.any (Occurrence.rulesOut record) = true ∧
        query.heededNegatedLeaves.any (Occurrence.rulesOut record) = false := by
  have noneHeeded : query.heededNegatedLeaves.any (Occurrence.rulesOut record) = false ↔
      ∀ leaf ∈ query.heededNegatedLeaves, leaf.rulesOut record = false := by
    simp only [List.any_eq_false, Bool.not_eq_true]
  rw [OnlyIgnoredRuleOut, noneHeeded, List.any_eq_true]
  constructor
  · rintro ⟨⟨leaf, member, ignored, rulesOut⟩, free⟩
    exact ⟨⟨leaf, heeded_or_ignored.mpr (Or.inr ⟨member, ignored⟩), rulesOut⟩, free⟩
  · rintro ⟨⟨leaf, negated, rulesOut⟩, free⟩
    rcases heeded_or_ignored.mp negated with heeded | ⟨member, ignored⟩
    · rw [free leaf heeded] at rulesOut
      cases rulesOut
    · exact ⟨⟨leaf, member, ignored, rulesOut⟩, free⟩

theorem excluded_terms_pruned_iff (query : Query) :
    (∀ term, term ∈ query.pruned.fullTextPart.excludedTerms ↔
        term ∈ query.fullTextPart.excludedTerms) ↔
      ∀ leaf ∈ query.occurrences, leaf.isHeeded = false → ∀ term, leaf.sought? = some term →
        ∃ other ∈ query.heededNegatedLeaves, other.sought? = some term := by
  simp only [mem_excluded_terms, negated_leaves_pruned]
  constructor
  · intro same leaf member ignored term sought
    exact (same term).mpr ⟨leaf, heeded_or_ignored.mpr (Or.inr ⟨member, ignored⟩), sought⟩
  · intro covered term
    constructor
    · rintro ⟨leaf, heeded, sought⟩
      exact ⟨leaf, heeded_or_ignored.mpr (Or.inl heeded), sought⟩
    · rintro ⟨leaf, negated, sought⟩
      rcases heeded_or_ignored.mp negated with heeded | ⟨member, ignored⟩
      · exact ⟨leaf, heeded, sought⟩
      · exact covered leaf member ignored term sought

theorem full_text_part_pruned_iff (query : Query) :
    query.pruned.fullTextPart = query.fullTextPart ↔
      (query.heededNegatedLeaves.filterMap Occurrence.sought?).eraseDups =
        (query.negatedLeaves.filterMap Occurrence.sought?).eraseDups := by
  rw [← negated_leaves_pruned, ← excluded_terms_eq, ← excluded_terms_eq]
  constructor
  · intro same
    rw [same]
  · intro sameTerms
    have part : query.pruned.fullTextPart =
        ⟨query.fullTextPart.engineQuery, query.pruned.fullTextPart.excludedTerms⟩ := by
      rw [← engine_query_pruned]
    rw [part, sameTerms]

/-- The check of a tree may fail for the sake of an ignored leaf. -/
theorem structured_error_pruned_iff (query : Query) :
    (∀ error, query.pruned.compileStructured = .error error ↔
        query.compileStructured = .error error) ↔
      (∃ test, query.compile = .ok test) ∨
        query.pruned.hasStructuredLeaf = query.hasStructuredLeaf := by
  have compiled : query.pruned.compile = query.compile := compile_pruned query false false
  simp only [compile_structured_error_iff, compiled]
  constructor
  · intro same
    cases outcome : query.compile with
    | ok test => exact Or.inl ⟨test, rfl⟩
    | error error =>
        refine Or.inr (Bool.eq_iff_iff.mpr ⟨structured_of_pruned, fun structured => ?_⟩)
        exact ((same error).mpr ⟨structured, outcome⟩).1
  · rintro (⟨test, outcome⟩ | same) error
    · simp [outcome]
    · rw [same]

theorem structured_pruned {query : Query} {structured : Option Predicate}
    (compiled : query.compileStructured = .ok structured) :
    ∃ prunedStructured, query.pruned.compileStructured = .ok prunedStructured ∧
      ∀ record, prunedStructured.all (· record) = structured.all (· record) := by
  cases leaf : query.hasStructuredLeaf with
  | false =>
      have prunedLeaf : query.pruned.hasStructuredLeaf = false :=
        Bool.eq_false_iff.mpr (mt structured_of_pruned (Bool.eq_false_iff.mp leaf))
      rw [compileStructured, leaf, if_neg Bool.false_ne_true] at compiled
      cases compiled
      refine ⟨none, ?_, fun record => rfl⟩
      rw [compileStructured, prunedLeaf, if_neg Bool.false_ne_true]
  | true =>
      have faultless : query.fault? = none := by
        cases fault : query.fault? with
        | none => rfl
        | some error =>
            rw [compile_structured_error_iff.mpr ⟨leaf, compile_error_iff.mpr fault⟩] at compiled
            cases compiled
      obtain ⟨_, same, reads⟩ := compile_structured_reads faultless
      obtain ⟨prunedStructured, prunedCompiled, prunedReads⟩ :=
        compile_structured_reads (query.fault_pruned.trans faultless)
      rw [same] at compiled
      cases compiled
      refine ⟨prunedStructured, prunedCompiled, fun record => ?_⟩
      rw [prunedReads, reads, reading_pruned]

/-- The filters of the two trees differ on a record that the test behind the index accepts and
ignored leaves alone rule out. -/
theorem keeps_pruned_iff (query : Query) {structured prunedStructured : Option Predicate}
    {record : Record} (same : prunedStructured.all (· record) = structured.all (· record)) :
    keepsRecord (.ofTerms query.pruned.fullTextPart.excludedTerms) prunedStructured record =
        keepsRecord (.ofTerms query.fullTextPart.excludedTerms) structured record ↔
      ¬(structured.all (· record) = true ∧ query.OnlyIgnoredRuleOut record) := by
  have fewer (ruledOut : query.heededNegatedLeaves.any (Occurrence.rulesOut record) = true) :
      query.negatedLeaves.any (Occurrence.rulesOut record) = true := by
    obtain ⟨leaf, heeded, rulesOut⟩ := List.any_eq_true.mp ruledOut
    exact List.any_eq_true.mpr ⟨leaf, heeded_or_ignored.mpr (Or.inl heeded), rulesOut⟩
  rw [keepsRecord, keepsRecord, excludes_pruned, excludes_eq_ruled_out, same,
    only_ignored_rule_out_iff]
  cases heeded : query.heededNegatedLeaves.any (Occurrence.rulesOut record) with
  | true => simp [fewer heeded]
  | false =>
      cases query.negatedLeaves.any (Occurrence.rulesOut record) <;>
        cases structured.all (· record) <;> simp

/-- A tree whose negations are cut down to their first children is the same condition as the
tree. It excludes the terms that heeded leaves below negations seek, which may be fewer, so that
it keeps a record that the tree drops if and only if ignored leaves alone rule the record out. -/
theorem cut_down_tree_keeps_iff (query : Query) :
    query.pruned.compile = query.compile ∧
    query.pruned.compileRelaxed = query.compileRelaxed ∧
    query.pruned.fullTextPart.engineQuery = query.fullTextPart.engineQuery ∧
    (query.pruned.fullTextPart = query.fullTextPart ↔
      (query.heededNegatedLeaves.filterMap Occurrence.sought?).eraseDups =
        (query.negatedLeaves.filterMap Occurrence.sought?).eraseDups) ∧
    ((∀ term, term ∈ query.pruned.fullTextPart.excludedTerms ↔
        term ∈ query.fullTextPart.excludedTerms) ↔
      ∀ leaf ∈ query.occurrences, leaf.isHeeded = false → ∀ term, leaf.sought? = some term →
        ∃ other ∈ query.heededNegatedLeaves, other.sought? = some term) ∧
    ((∀ error, query.pruned.compileStructured = .error error ↔
        query.compileStructured = .error error) ↔
      (∃ test, query.compile = .ok test) ∨
        query.pruned.hasStructuredLeaf = query.hasStructuredLeaf) ∧
    ∀ structured, query.compileStructured = .ok structured →
      ∃ prunedStructured, query.pruned.compileStructured = .ok prunedStructured ∧
        ∀ record, prunedStructured.all (· record) = structured.all (· record) ∧
          (keepsRecord (.ofTerms query.pruned.fullTextPart.excludedTerms) prunedStructured record =
              keepsRecord (.ofTerms query.fullTextPart.excludedTerms) structured record ↔
            ¬(structured.all (· record) = true ∧ query.OnlyIgnoredRuleOut record)) := by
  refine ⟨compile_pruned query false false, compile_pruned query true false,
    engine_query_pruned query, full_text_part_pruned_iff query, excluded_terms_pruned_iff query,
    structured_error_pruned_iff query, ?_⟩
  intro structured compiled
  obtain ⟨prunedStructured, prunedCompiled, reads⟩ := structured_pruned compiled
  refine ⟨prunedStructured, prunedCompiled, fun record => ⟨reads record, ?_⟩⟩
  exact keeps_pruned_iff query (reads record)

def notSpamIgnoringRust : Query := .logical .not [.text "spam", .text "rust"]

/-- The first child is not true of the talk, and the second one, which is ignored, is sought in
it. The tests in full accept the talk, and the tree drops it. -/
theorem ignored_rust_drops_talk :
    notSpamIgnoringRust.pruned = .not (.text "spam") ∧
    (∃ test, notSpamIgnoringRust.compile = .ok test ∧ test rustTalk = true) ∧
    notSpamIgnoringRust.compileStructured = .ok none ∧
    notSpamIgnoringRust.pruned.compileStructured = .ok none ∧
    keepsRecord (.ofTerms notSpamIgnoringRust.pruned.fullTextPart.excludedTerms) none rustTalk =
      true ∧
    keepsRecord (.ofTerms notSpamIgnoringRust.fullTextPart.excludedTerms) none rustTalk = false ∧
    notSpamIgnoringRust.pruned.fullTextPart ≠ notSpamIgnoringRust.fullTextPart := by
  have kept : keepsRecord (.ofTerms notSpamIgnoringRust.pruned.fullTextPart.excludedTerms) none
      rustTalk = true := by decide
  have dropped : keepsRecord (.ofTerms notSpamIgnoringRust.fullTextPart.excludedTerms) none
      rustTalk = false := by decide
  refine ⟨rfl, ⟨_, rfl, by decide⟩, rfl, rfl, kept, dropped, ?_⟩
  intro same
  rw [same, dropped] at kept
  cases kept

end Query

end FederatedSearch
