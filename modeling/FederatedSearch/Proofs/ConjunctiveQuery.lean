import FederatedSearch.Proofs.Selection

/-!
Conjunctive trees. A conjunction may hold full-text leaves, trees without any, and negations of
alternatives between the two. On such trees the engine and the filters behind it do not get in
each other's way: what a node selects is what the tree says, where the engine decides the leaves
that are sought and the record itself those that are negated.
-/

namespace FederatedSearch

open FederatedSearch.Index

def Place.belowNegation (place : Place) : Bool := place.any (·.operator.isNegation)

namespace Query

mutual

def hasFullTextLeaf : Query → Bool
  | .logical _ children => anyFullTextLeaf children
  | leaf => leaf.isFullTextLeaf

def anyFullTextLeaf : List Query → Bool
  | [] => false
  | child :: rest => hasFullTextLeaf child || anyFullTextLeaf rest

end

/-- Full-text leaves and trees without any, as alternatives. -/
inductive IsAlternatives : Query → Prop
  | fullText (leaf : Query) (fullText : leaf.isFullTextLeaf = true) : IsAlternatives leaf
  | structured (tree : Query) (structured : tree.hasFullTextLeaf = false) : IsAlternatives tree
  | or (children : List Query) (each : ∀ child ∈ children, IsAlternatives child) :
      IsAlternatives (logical .or children)

/-- A conjunction in which full-text leaves stand alone or as negated alternatives. -/
inductive IsConjunctive : Query → Prop
  | fullText (leaf : Query) (fullText : leaf.isFullTextLeaf = true) : IsConjunctive leaf
  | structured (tree : Query) (structured : tree.hasFullTextLeaf = false) : IsConjunctive tree
  | not (child : Query) (alternatives : IsAlternatives child) :
      IsConjunctive (logical .not [child])
  | nor (children : List Query) (each : ∀ child ∈ children, IsAlternatives child) :
      IsConjunctive (logical .nor children)
  | and (children : List Query) (each : ∀ child ∈ children, IsConjunctive child) :
      IsConjunctive (logical .and children)

/-- What a leaf says of a record if a full-text leaf asks for a mention of its text. A blank
text is not mentioned anywhere. -/
def mentionedIn (record : Record) (leaf : Query) : Bool :=
  if leaf.isFullTextLeaf then leaf.askedTerm?.any record.mentions else leaf.leafHolds record

/-- The engine decides the full-text leaves that are sought, and mentions those that are negated. -/
def soughtOrMentioned (record : Record) (decides : Term → Bool) : Valuation := fun place leaf =>
  if place.belowNegation then leaf.mentionedIn record else answered record decides leaf

theorem sought_below_positive (record : Record) (decides : Term → Bool) {step : Step}
    (positive : step.operator.isNegation = false) :
    (soughtOrMentioned record decides).below step = soughtOrMentioned record decides := by
  funext place leaf
  simp [Valuation.below, soughtOrMentioned, Place.belowNegation, positive]

theorem sought_below_negation (record : Record) (decides : Term → Bool) {step : Step}
    (negation : step.operator.isNegation = true) :
    (soughtOrMentioned record decides).below step = fun _ leaf => leaf.mentionedIn record := by
  funext place leaf
  simp [Valuation.below, soughtOrMentioned, Place.belowNegation, negation]

theorem any_full_text_leaf_eq (children : List Query) :
    anyFullTextLeaf children = children.any hasFullTextLeaf := by
  induction children with
  | nil => rfl
  | cons child rest ih => rw [anyFullTextLeaf, ih, List.any_cons]

theorem has_full_text_leaf_of_leaf (leaf : Query) (isLeaf : leaf.isLeaf = true) :
    leaf.hasFullTextLeaf = leaf.isFullTextLeaf := by
  cases leaf with
  | logical operator children => cases isLeaf
  | comparison | textSearch | field | literal => rfl

theorem is_leaf_of_full_text {leaf : Query} (fullText : leaf.isFullTextLeaf = true) :
    leaf.isLeaf = true := by
  cases leaf with
  | logical operator children => cases fullText
  | comparison | textSearch | field | literal => rfl

theorem all_true_congr {first second : Valuation} {children : List Query}
    (same : ∀ child ∈ children, ∀ index, child.truth (first.below ⟨.and, index⟩) =
      child.truth (second.below ⟨.and, index⟩)) (index : Nat) :
    allTrue first index children = allTrue second index children := by
  induction children generalizing index with
  | nil => rfl
  | cons child rest ih =>
      have head := same child (by simp) index
      have tail := ih (fun other member => same other (by simp [member])) (index + 1)
      rw [allTrue, allTrue, head, tail]

theorem any_true_congr {first second : Valuation} {operator : LogicalOperator}
    {children : List Query}
    (same : ∀ child ∈ children, ∀ index, child.truth (first.below ⟨operator, index⟩) =
      child.truth (second.below ⟨operator, index⟩)) (index : Nat) :
    anyTrue first operator index children = anyTrue second operator index children := by
  induction children generalizing index with
  | nil => rfl
  | cons child rest ih =>
      have head := same child (by simp) index
      have tail := ih (fun other member => same other (by simp [member])) (index + 1)
      rw [anyTrue, anyTrue, head, tail]

theorem truth_logical_congr {first second : Valuation} {operator : LogicalOperator}
    {children : List Query}
    (same : ∀ child ∈ children, ∀ index, child.truth (first.below ⟨operator, index⟩) =
      child.truth (second.below ⟨operator, index⟩)) :
    (logical operator children).truth first = (logical operator children).truth second := by
  cases operator with
  | and => exact all_true_congr same 0
  | or => exact any_true_congr same 0
  | nor =>
      rw [truth, truth]
      apply congrArg
      exact any_true_congr same 0
  | not =>
      rw [truth, truth]
      apply congrArg
      cases children with
      | nil => rfl
      | cons child rest => exact same child (by simp) 0

theorem truth_of_structured {first second : Valuation} {query : Query}
    (structured : query.hasFullTextLeaf = false)
    (agree : ∀ place leaf, leaf.isFullTextLeaf = false → first place leaf = second place leaf) :
    query.truth first = query.truth second := by
  induction query using node_induction generalizing first second with
  | leaf node isLeaf =>
      rw [has_full_text_leaf_of_leaf node isLeaf] at structured
      rw [truth_leaf _ node isLeaf, truth_leaf _ node isLeaf]
      exact agree [] node structured
  | logical operator children ih =>
      rw [hasFullTextLeaf, any_full_text_leaf_eq, List.any_eq_false] at structured
      apply truth_logical_congr
      intro child member index
      have below := Bool.eq_false_iff.mpr (structured child member)
      apply ih child member below
      intro place leaf notFullText
      exact agree (⟨operator, index⟩ :: place) leaf notFullText

theorem structured_leaf_terms {query : Query} (structured : query.hasFullTextLeaf = false) :
    query.leafTerms = [] := by
  induction query using node_induction with
  | leaf node isLeaf =>
      rw [has_full_text_leaf_of_leaf node isLeaf] at structured
      have unasked : node.fullTextLeaf? = none :=
        Option.not_isSome_iff_eq_none.mp (Bool.eq_false_iff.mp structured)
      rw [leaf_terms_of_leaf node isLeaf, askedTerm?, unasked]
      rfl
  | logical operator children ih =>
      rw [hasFullTextLeaf, any_full_text_leaf_eq, List.any_eq_false] at structured
      rw [leaf_terms_logical, List.flatMap_eq_nil_iff]
      intro child member
      exact ih child member (Bool.eq_false_iff.mpr (structured child member))

/-- Where nothing is decided by the engine, the tree says what its own leaves say. -/
theorem structured_parts {query : Query} (structured : query.hasFullTextLeaf = false)
    (decides : Term → Bool) :
    query.isFound decides = true ∧ query.negatedTerms = [] := by
  have noTerms := structured_leaf_terms structured
  constructor
  · have granted : query.isFound decides = query.isFound fun _ => true := by
      apply found_congr
      intro term sought
      rw [noTerms] at sought
      cases sought
    rw [granted, found_granted]
  · have subset := negated_terms_subset query
    rw [noTerms] at subset
    exact List.subset_nil.mp subset

theorem any_or_any {first second : Query → Bool} (children : List Query) :
    (children.any fun child => first child || second child) =
      (children.any first || children.any second) := by
  induction children with
  | nil => rfl
  | cons child rest ih =>
      rw [List.any_cons, List.any_cons, List.any_cons, ih]
      ac_rfl

theorem all_and_all {first second : Query → Bool} (children : List Query) :
    (children.all fun child => first child && second child) =
      (children.all first && children.all second) := by
  induction children with
  | nil => rfl
  | cons child rest ih =>
      rw [List.all_cons, List.all_cons, List.all_cons, ih]
      ac_rfl

/-- Alternatives below a negation hold if one of their texts is mentioned, or else without the
help of the full-text leaves. -/
theorem alternatives_hold {query : Query} (alternatives : IsAlternatives query)
    (record : Record) :
    query.holdsBy (mentionedIn record) =
      (query.leafTerms.any record.mentions || query.truth (reading true true record)) := by
  induction alternatives with
  | fullText leaf fullText =>
      have isLeaf := is_leaf_of_full_text fullText
      have relaxed : leaf.truth (reading true true record) = false := by
        simp [truth_leaf _ leaf isLeaf, reading, fullText, Place.isNegative]
      rw [holds_by_leaf _ leaf isLeaf, leaf_terms_of_leaf leaf isLeaf, relaxed, mentionedIn,
        if_pos fullText]
      cases leaf.askedTerm? <;> simp
  | structured tree structured =>
      have same : tree.holdsBy (mentionedIn record) = tree.truth (reading true true record) := by
        apply truth_of_structured structured
        intro place leaf notFullText
        simp [mentionedIn, reading, notFullText]
      rw [same, structured_leaf_terms structured]
      rfl
  | or children each ih =>
      have relaxed : (logical .or children).truth (reading true true record) =
          children.any (truth (reading true true record)) := by
        simp [reading_logical, considered, combined, LogicalOperator.isNegation]
      rw [relaxed, holds_by_or, leaf_terms_logical, List.any_flatMap, ← any_or_any]
      exact any_congr ih

/-- A negation of alternatives holds if none of their texts is mentioned, and it holds without
the help of the full-text leaves. -/
theorem negation_holds {operator : LogicalOperator} {children : List Query}
    (negative : operator.isNegation = true) (whole : considered operator children = children)
    (each : ∀ child ∈ children, IsAlternatives child) (record : Record) (decides : Term → Bool) :
    (logical operator children).truth (soughtOrMentioned record decides) =
      (!(logical operator children).negatedTerms.any record.mentions &&
        (logical operator children).truth (reading true false record)) := by
  have negates : ∀ values : List Bool, combined operator values = !values.any id := by
    cases operator with
    | and | or => cases negative
    | not | nor => exact fun values => rfl
  have below : ∀ index, (soughtOrMentioned record decides).below ⟨operator, index⟩ =
      fun _ leaf => leaf.mentionedIn record :=
    fun index => sought_below_negation record decides negative
  have hold := any_congr fun child member => alternatives_hold (each child member) record
  rw [truth_logical below, reading_logical, negates, negates, whole, List.any_map, List.any_map,
    negated_terms_negation negative, List.any_flatMap, negative, Bool.false_xor, ← Bool.not_or]
  apply congrArg
  calc
    children.any (holdsBy (mentionedIn record)) = _ := hold
    _ = _ := any_or_any children

/-- On conjunctive trees the three parts of a selection make up what the tree says. -/
theorem conjunctive_truth {query : Query} (conjunctive : IsConjunctive query) (record : Record)
    (decides : Term → Bool) :
    query.truth (soughtOrMentioned record decides) =
      (query.isFound decides && (!query.negatedTerms.any record.mentions &&
        query.truth (reading true false record))) := by
  induction conjunctive with
  | fullText leaf fullText =>
      have isLeaf := is_leaf_of_full_text fullText
      have relaxed : leaf.truth (reading true false record) = true := by
        simp [truth_leaf _ leaf isLeaf, reading, fullText, Place.isNegative]
      have sought : leaf.truth (soughtOrMentioned record decides) = answered record decides leaf :=
        truth_leaf _ leaf isLeaf
      rw [sought, relaxed, negated_terms_of_leaf leaf isLeaf,
        found_full_text record decides leaf fullText isLeaf]
      simp
  | structured tree structured =>
      obtain ⟨found, noneNegated⟩ := structured_parts structured decides
      rw [found, noneNegated, List.any_nil, Bool.not_false, Bool.true_and, Bool.true_and]
      apply truth_of_structured structured
      intro place leaf notFullText
      simp [soughtOrMentioned, mentionedIn, answered, reading, notFullText]
  | not child alternatives =>
      rw [found_negation decides rfl, Bool.true_and]
      apply negation_holds rfl rfl
      intro other member
      rw [List.mem_singleton.mp member]
      exact alternatives
  | nor children each =>
      rw [found_negation decides rfl, Bool.true_and]
      exact negation_holds rfl rfl each record decides
  | and children each ih =>
      have relaxed : (logical .and children).truth (reading true false record) =
          children.all (truth (reading true false record)) := by
        simp [reading_logical, considered, combined, LogicalOperator.isNegation]
      have sought : (logical .and children).truth (soughtOrMentioned record decides) =
          children.all (truth (soughtOrMentioned record decides)) := by
        rw [truth_logical fun index => sought_below_positive record decides rfl, considered,
          combined, List.all_map]
        rfl
      rw [sought, relaxed, found_and, negated_terms_group rfl, List.any_flatMap,
        List.not_any_eq_all_not, ← all_and_all, ← all_and_all]
      exact all_congr ih

/-- A node selects for a conjunctive tree exactly the records of which the tree is true. -/
theorem conjunctive_selection_is_exact (query : Query) (conjunctive : IsConjunctive query)
    (test : Predicate) (accepted : query.compile = .ok test) (record : Record)
    (decides : Term → Bool) :
    query.selects record decides =
      .ok (query.truth (soughtOrMentioned record decides)) := by
  obtain ⟨faultless, _⟩ := compile_ok_iff.mp accepted
  rw [selects_eq faultless, conjunctive_truth conjunctive]

def rustAtWork : Query :=
  .and [.text "rust", .compare "tags" .equal (.text "work"),
    .not (.or [.fieldText "title" "draft", .compare "tags" .equal (.text "draft")]),
    .nor [.text " "]]

def rustNote : Record := (Record.plain "note" "Rust in practice" ⟨0, 0⟩).withTags ["work"]

theorem rust_at_work_selects_note :
    ∃ test, IsConjunctive rustAtWork ∧ rustAtWork.compile = .ok test ∧
      rustAtWork.selects rustNote (fun _ => true) = .ok true ∧
      rustAtWork.selects rustNote (fun _ => false) = .ok false ∧
      rustAtWork.selects (rustNote.withTitle "A Draft") (fun _ => true) = .ok false := by
  have conjunctive : IsConjunctive rustAtWork := by
    apply IsConjunctive.and
    intro child member
    simp only [List.mem_cons, List.not_mem_nil, or_false] at member
    rcases member with rfl | rfl | rfl | rfl
    · exact .fullText _ rfl
    · exact .structured _ (by decide)
    · apply IsConjunctive.not
      apply IsAlternatives.or
      intro alternative among
      simp only [List.mem_cons, List.not_mem_nil, or_false] at among
      rcases among with rfl | rfl
      · exact .fullText _ (by decide)
      · exact .structured _ (by decide)
    · apply IsConjunctive.nor
      intro alternative among
      rw [List.mem_singleton.mp among]
      exact .fullText _ rfl
  obtain ⟨test, accepted⟩ : ∃ test, rustAtWork.compile = .ok test := ⟨_, rfl⟩
  have selected := conjunctive_selection_is_exact rustAtWork conjunctive test accepted
  refine ⟨test, conjunctive, accepted, ?_, ?_, ?_⟩
  · rw [selected]
    exact congrArg Except.ok (by decide)
  · rw [selected]
    exact congrArg Except.ok (by decide)
  · rw [selected]
    exact congrArg Except.ok (by decide)

end Query

end FederatedSearch
