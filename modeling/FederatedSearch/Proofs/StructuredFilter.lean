import FederatedSearch.Proofs.EngineAnswers

/-!
Which records pass a node although the tree is false of them. Of some alternatives the engine
may find one while the conditions of another one are met, and neither the engine nor the test
behind it sees that no alternative is true as a whole.
-/

namespace FederatedSearch

open FederatedSearch.Index

namespace Query

mutual

/-- A condition of the tree is not met by the record. From there up every conjunction is found,
and every group of alternatives fails, although the engine is asked about the alternative with
the condition, or about none. -/
def passesIf (found fails : Query → Bool) (record : Record) : Query → Bool
  | .logical .and children =>
      found (.logical .and children) && anyPassesIf found fails record children
  | .logical .or children =>
      fails (.logical .or children) &&
        (!children.any isAsked || anyAskedPassesIf found fails record children)
  | .logical _ _ => false
  | leaf => !leaf.isFullTextLeaf && !leaf.leafHolds record

def anyPassesIf (found fails : Query → Bool) (record : Record) : List Query → Bool
  | [] => false
  | child :: rest => passesIf found fails record child || anyPassesIf found fails record rest

def anyAskedPassesIf (found fails : Query → Bool) (record : Record) : List Query → Bool
  | [] => false
  | child :: rest =>
      child.isAsked && passesIf found fails record child || anyAskedPassesIf found fails record rest

end

section

variable {found fails : Query → Bool} {record : Record}

theorem any_passes_if_eq (children : List Query) :
    anyPassesIf found fails record children = children.any (passesIf found fails record) := by
  induction children with
  | nil => rfl
  | cons child rest induction => rw [anyPassesIf, induction, List.any_cons]

theorem any_asked_passes_if_eq (children : List Query) :
    anyAskedPassesIf found fails record children =
      children.any fun child => child.isAsked && child.passesIf found fails record := by
  induction children with
  | nil => rfl
  | cons child rest induction => rw [anyAskedPassesIf, induction, List.any_cons]

theorem passes_if_and (children : List Query) :
    (logical .and children).passesIf found fails record = true ↔
      found (logical .and children) = true ∧
        ∃ child ∈ children, child.passesIf found fails record = true := by
  rw [passesIf, any_passes_if_eq, Bool.and_eq_true, List.any_eq_true]

theorem passes_if_or (children : List Query) :
    (logical .or children).passesIf found fails record = true ↔
      fails (logical .or children) = true ∧ (children.any isAsked = false ∨
        ∃ child ∈ children, child.isAsked = true ∧ child.passesIf found fails record = true) := by
  rw [passesIf, any_asked_passes_if_eq, Bool.and_eq_true, Bool.or_eq_true, Bool.not_eq_true',
    List.any_eq_true]
  simp only [Bool.and_eq_true]

theorem passes_if_leaf (leaf : Query) (isLeaf : leaf.isLeaf = true) :
    leaf.passesIf found fails record = (!leaf.isFullTextLeaf && !leaf.leafHolds record) := by
  cases leaf with
  | logical operator children => cases isLeaf
  | comparison | textSearch | field | literal => rfl

theorem passes_if_mono {couldFind couldFail : Query → Bool}
    (finding : ∀ query, found query = true → couldFind query = true)
    (failing : ∀ query, query.containsNegation = false → fails query = true →
      couldFail query = true) (query : Query) (positive : query.containsNegation = false)
    (passes : query.passesIf found fails record = true) :
    query.passesIf couldFind couldFail record = true := by
  induction query, positive using positive_induction with
  | leaf node positive isLeaf =>
      rw [passes_if_leaf node isLeaf] at passes ⊢
      exact passes
  | and children positive induction =>
      obtain ⟨groupFound, child, member, childPasses⟩ := (passes_if_and children).mp passes
      rw [passes_if_and]
      exact ⟨finding _ groupFound, child, member, induction child member childPasses⟩
  | or children positive induction =>
      obtain ⟨groupFails, inChildren⟩ := (passes_if_or children).mp passes
      rw [passes_if_or]
      apply And.intro (failing _ positive groupFails)
      rcases inChildren with unasked | ⟨child, member, asked, childPasses⟩
      · exact Or.inl unasked
      · exact Or.inr ⟨child, member, asked, induction child member childPasses⟩

end

/-- The record is let through: the engine finds what it is asked about, but a condition of what
it found is not met. -/
def letsThrough (record : Record) (decides : Term → Bool) : Query → Bool :=
  passesIf (isFound decides) (fun query => !query.holdsBy (answered record decides)) record

/-- The record may be let through, depending on what the engine finds. -/
def oversteps (record : Record) : Query → Bool :=
  passesIf (fun _ => true) (fun query => !query.mustHold record) record

theorem found_or_iff {decides : Term → Bool} {children : List Query} :
    (logical .or children).isFound decides = true ↔ children.any isAsked = false ∨
      ∃ child ∈ children, child.isAsked = true ∧ child.isFound decides = true := by
  rw [found_or, Bool.or_eq_true, Bool.not_eq_true', List.any_filter, List.any_eq_true]
  simp only [Bool.and_eq_true]

theorem lets_through_iff {record : Record} {decides : Term → Bool} (query : Query)
    (positive : query.containsNegation = false) :
    query.letsThrough record decides = true ↔
      query.isFound decides = true ∧ query.holdsBy (answered record decides) = false := by
  unfold letsThrough
  induction query, positive using positive_induction with
  | leaf node positive isLeaf =>
      rw [passes_if_leaf node isLeaf, holds_by_leaf _ node isLeaf]
      cases fullText : node.isFullTextLeaf with
      | true => simp [found_full_text record decides node fullText isLeaf]
      | false => simp [found_structured decides node fullText isLeaf, answered, fullText]
  | and children positive induction =>
      rw [passes_if_and]
      apply and_congr_right
      intro found
      rw [found_and, List.all_eq_true] at found
      rw [holds_by_and, List.all_eq_false]
      constructor
      · rintro ⟨child, member, passes⟩
        have fails := ((induction child member).mp passes).2
        exact ⟨child, member, Bool.eq_false_iff.mp fails⟩
      · rintro ⟨child, member, fails⟩
        have passes := (induction child member).mpr
          ⟨found child member, Bool.eq_false_iff.mpr fails⟩
        exact ⟨child, member, passes⟩
  | or children positive induction =>
      rw [passes_if_or, Bool.not_eq_true', and_comm]
      apply and_congr_left
      intro fails
      rw [holds_by_or, List.any_eq_false] at fails
      rw [found_or_iff]
      refine or_congr_right (exists_congr fun child => and_congr_right fun member => ?_)
      have childFails := Bool.eq_false_iff.mpr (fails child member)
      rw [induction child member, childFails]
      simp

theorem oversteps_of_lets_through {record : Record} {decides : Term → Bool} (query : Query)
    (positive : query.containsNegation = false)
    (passes : query.letsThrough record decides = true) : query.oversteps record = true := by
  have failing : ∀ query : Query, query.containsNegation = false →
      (!query.holdsBy (answered record decides)) = true → (!query.mustHold record) = true := by
    intro query positive fails
    rw [Bool.not_eq_true', Bool.eq_false_iff] at fails ⊢
    intro sure
    exact fails (holds_of_must_hold decides positive sure)
  exact passes_if_mono (fun _ _ => rfl) failing query positive passes

/-- If all terms of a tree are distinct, with some engine each record passes that may pass. -/
theorem passes_of_oversteps {record : Record} (query : Query)
    (positive : query.containsNegation = false) (distinct : query.leafTerms.Nodup)
    (overstepped : query.oversteps record = true) :
    ∃ decides, query.isFound decides = true ∧ query.holdsBy (answered record decides) = false := by
  unfold oversteps at overstepped
  induction query, positive using positive_induction with
  | leaf node positive isLeaf =>
      rw [passes_if_leaf node isLeaf, Bool.and_eq_true, Bool.not_eq_true', Bool.not_eq_true']
        at overstepped
      obtain ⟨structured, fails⟩ := overstepped
      refine ⟨fun _ => false, found_structured _ node structured isLeaf, ?_⟩
      rw [holds_by_leaf _ node isLeaf, answered, structured]
      exact fails
  | and children positive induction =>
      rw [leaf_terms_logical] at distinct
      obtain ⟨_, child, member, childOverstepped⟩ := (passes_if_and children).mp overstepped
      obtain ⟨own, found, fails⟩ := induction child member
        (separate_siblings member distinct).1 childOverstepped
      obtain ⟨decides, sameChild, others⟩ := splice_siblings record member distinct own true
      refine ⟨decides, ?_, ?_⟩
      · rw [found_and, List.all_eq_true]
        intro sibling among
        rcases others sibling among with rfl | sameSibling
        · rw [sameChild.2, found]
        · rw [sameSibling.2, found_granted]
      · rw [holds_by_and, List.all_eq_false]
        have childFails := sameChild.1.trans fails
        exact ⟨child, member, Bool.eq_false_iff.mp childFails⟩
  | or children positive induction =>
      rw [leaf_terms_logical] at distinct
      obtain ⟨notSure, inChildren⟩ := (passes_if_or children).mp overstepped
      rw [Bool.not_eq_true'] at notSure
      rcases inChildren with unasked | ⟨child, member, asked, childOverstepped⟩
      · exact ⟨fun _ => false, found_or_iff.mpr (Or.inl unasked), notSure⟩
      · obtain ⟨own, found, fails⟩ := induction child member
          (separate_siblings member distinct).1 childOverstepped
        -- The engine finds nothing of the other alternatives, so that none of them is true.
        obtain ⟨decides, sameChild, others⟩ := splice_siblings record member distinct own false
        rw [mustHold, holds_by_or, List.any_eq_false] at notSure
        have childFound := sameChild.2.trans found
        refine ⟨decides, found_or_iff.mpr (Or.inr ⟨child, member, asked, childFound⟩), ?_⟩
        rw [holds_by_or, List.any_eq_false]
        intro sibling among
        rcases others sibling among with rfl | sameSibling
        · rw [sameChild.1, fails]
          exact Bool.false_ne_true
        · rw [sameSibling.1]
          exact notSure sibling among

theorem compile_structured_of_compile {query : Query} {test : Predicate}
    (accepted : query.compile = .ok test) :
    ∃ structured, query.compileStructured = .ok structured := by
  obtain ⟨faultless, _⟩ := compile_ok_iff.mp accepted
  unfold compileStructured
  cases query.hasStructuredLeaf with
  | false => exact ⟨none, rfl⟩
  | true =>
      have relaxed : query.compileRelaxed = .ok _ := compile_ok_iff.mpr ⟨faultless, rfl⟩
      exact ⟨_, by rw [if_pos rfl, relaxed]; rfl⟩

/-- A node that finds a record by its query and keeps it by its test returns a record of which
the tree is true, unless the record is let through. What a tree cannot overstep is never let
through; what it oversteps is, with some engine, as long as no term stands in the tree twice. -/
theorem node_keeps_iff (query : Query) (positive : query.containsNegation = false)
    (test : Predicate) (accepted : query.compile = .ok test) (record : Record) :
    ∃ structured, query.compileStructured = .ok structured ∧
      (∀ finds : Record → Term → Bool,
        (query.fullTextPart.engineQuery.holds (finds record) = true →
          structured.all (· record) = true →
          query.holdsBy (answered record (finds record)) = true) ↔
        ¬(structured.all (· record) = true ∧ query.letsThrough record (finds record) = true)) ∧
      (query.oversteps record = false →
        ∀ finds : Record → Term → Bool, query.letsThrough record (finds record) = false) ∧
      (query.leafTerms.Nodup → query.oversteps record = true →
        ∃ finds : Record → Term → Bool, query.letsThrough record (finds record) = true) := by
  obtain ⟨structured, compiled⟩ := compile_structured_of_compile accepted
  refine ⟨structured, compiled, ?_, ?_, ?_⟩
  · intro finds
    rw [engine_query_holds, lets_through_iff query positive, ← Bool.not_eq_true]
    constructor
    · rintro sound ⟨kept, found, fails⟩
      exact fails (sound found kept)
    · intro sound found kept
      apply Decidable.byContradiction
      intro fails
      exact sound ⟨kept, found, fails⟩
  · intro kept finds
    apply Bool.eq_false_iff.mpr
    intro passes
    rw [oversteps_of_lets_through query positive passes] at kept
    cases kept
  · intro distinct overstepped
    obtain ⟨decides, found, fails⟩ := passes_of_oversteps query positive distinct overstepped
    exact ⟨fun _ => decides, (lets_through_iff query positive).mpr ⟨found, fails⟩⟩

def redAlphaOrBeta : Query :=
  .or [.and [.text "alpha", .compare "tags" .equal (.text "red")], .text "beta"]

def alphaNote : Record := Record.plain "note" "alpha" ⟨0, 0⟩

theorem red_alpha_or_beta_oversteps_tag :
    ∃ test structured, redAlphaOrBeta.containsNegation = false ∧
      redAlphaOrBeta.compile = .ok test ∧ redAlphaOrBeta.leafTerms.Nodup ∧
      redAlphaOrBeta.oversteps alphaNote = true ∧
      redAlphaOrBeta.compileStructured = .ok structured ∧
      (∃ finds : Record → Term → Bool,
        redAlphaOrBeta.letsThrough alphaNote (finds alphaNote) = true) ∧
      redAlphaOrBeta.oversteps (alphaNote.withTags ["red"]) = false ∧
      ∀ finds : Record → Term → Bool, redAlphaOrBeta.letsThrough (alphaNote.withTags ["red"])
        (finds (alphaNote.withTags ["red"])) = false := by
  have positive : redAlphaOrBeta.containsNegation = false := by decide
  have distinct : redAlphaOrBeta.leafTerms.Nodup := by decide
  have overstepped : redAlphaOrBeta.oversteps alphaNote = true := by decide
  have kept : redAlphaOrBeta.oversteps (alphaNote.withTags ["red"]) = false := by decide
  obtain ⟨test, accepted⟩ : ∃ test, redAlphaOrBeta.compile = .ok test := ⟨_, rfl⟩
  obtain ⟨structured, compiled, _, _, passes⟩ :=
    node_keeps_iff redAlphaOrBeta positive test accepted alphaNote
  obtain ⟨_, _, _, never, _⟩ :=
    node_keeps_iff redAlphaOrBeta positive test accepted (alphaNote.withTags ["red"])
  exact ⟨test, structured, positive, accepted, distinct, overstepped, compiled,
    passes distinct overstepped, kept, never kept⟩

/-- The engine finds the first text, but without its tag; and the test takes the second one for
found. -/
theorem untagged_note_passes :
    redAlphaOrBeta.containsNegation = false ∧ redAlphaOrBeta.compile.isOk = true ∧
    redAlphaOrBeta.leafTerms = [⟨none, "alpha"⟩, ⟨none, "beta"⟩] ∧
    ∃ structured, redAlphaOrBeta.compileStructured = .ok (some structured) ∧
      structured alphaNote = true ∧ ∃ finds : Record → Term → Bool,
        redAlphaOrBeta.fullTextPart.engineQuery.holds (finds alphaNote) = true ∧
        redAlphaOrBeta.holdsBy (answered alphaNote (finds alphaNote)) = false := by
  refine ⟨by decide, by decide, by decide, _, rfl, ?_, fun _ term => term.text == "alpha", ?_, ?_⟩
  · decide
  · decide
  · decide

end Query

end FederatedSearch
