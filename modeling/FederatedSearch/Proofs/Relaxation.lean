import FederatedSearch.Proofs.Compilation

/-!
Relaxed tests. A relaxed test accepts a record exactly if the full-text leaves of the tree,
each occurrence for itself, can be decided so that the tree is true of the record.
-/

namespace FederatedSearch

/-- The second valuation favours the truth of trees over the first: below an even number
of negations it makes more leaves true, below an odd number fewer. -/
def Valuation.Favours (lower upper : Valuation) : Prop :=
  ∀ (place : Place) (leaf : Query),
    if place.isNegative then upper place leaf = true → lower place leaf = true
    else lower place leaf = true → upper place leaf = true

namespace Valuation.Favours

variable {lower upper : Valuation}

theorem below_positive (favours : Favours lower upper) {step : Step}
    (positive : step.operator.isNegation = false) :
    Favours (lower.below step) (upper.below step) := by
  intro place leaf
  have own := favours (step :: place) leaf
  rwa [Place.isNegative, positive, Bool.false_xor] at own

theorem below_negation (favours : Favours lower upper) {step : Step}
    (negation : step.operator.isNegation = true) :
    Favours (upper.below step) (lower.below step) := by
  intro place leaf
  have own := favours (step :: place) leaf
  rw [Place.isNegative, negation, Bool.true_xor] at own
  cases negative : place.isNegative <;> simpa [negative, Valuation.below] using own

end Valuation.Favours

namespace Query

open FederatedSearch.Valuation (Favours)

theorem all_true_mono {lower upper : Valuation} {children : List Query}
    (each : ∀ child ∈ children, ∀ index, child.truth (lower.below ⟨.and, index⟩) = true →
      child.truth (upper.below ⟨.and, index⟩) = true) (index : Nat)
    (holds : allTrue lower index children = true) : allTrue upper index children = true := by
  induction children generalizing index with
  | nil => rfl
  | cons child rest induction =>
      rw [allTrue, Bool.and_eq_true] at holds ⊢
      exact ⟨each child (by simp) index holds.1,
        induction (fun other member => each other (by simp [member])) (index + 1) holds.2⟩

theorem any_true_mono {lower upper : Valuation} {operator : LogicalOperator}
    {children : List Query}
    (each : ∀ child ∈ children, ∀ index, child.truth (lower.below ⟨operator, index⟩) = true →
      child.truth (upper.below ⟨operator, index⟩) = true) (index : Nat)
    (holds : anyTrue lower operator index children = true) :
    anyTrue upper operator index children = true := by
  induction children generalizing index with
  | nil => cases holds
  | cons child rest induction =>
      rw [anyTrue, Bool.or_eq_true] at holds ⊢
      rcases holds with first | others
      · exact Or.inl (each child (by simp) index first)
      · exact Or.inr
          (induction (fun other member => each other (by simp [member])) (index + 1) others)

/-- A tree stays true under a valuation that favours it. -/
theorem truth_mono (query : Query) {lower upper : Valuation} (favours : Favours lower upper)
    (holds : query.truth lower = true) : query.truth upper = true := by
  induction query using operator_induction generalizing lower upper with
  | and children induction =>
      rw [truth] at holds ⊢
      exact all_true_mono
        (fun child member index => induction child member (favours.below_positive rfl)) 0 holds
  | or children induction =>
      rw [truth] at holds ⊢
      exact any_true_mono
        (fun child member index => induction child member (favours.below_positive rfl)) 0 holds
  | nor children induction =>
      rw [truth, Bool.not_eq_true'] at holds ⊢
      rw [Bool.eq_false_iff] at holds ⊢
      intro refuted
      exact holds (any_true_mono
        (fun child member index => induction child member (favours.below_negation rfl)) 0 refuted)
  | not children induction =>
      rw [truth, Bool.not_eq_true'] at holds ⊢
      cases children with
      | nil => rfl
      | cons child rest =>
          rw [firstTrue, Bool.eq_false_iff] at holds ⊢
          intro refuted
          exact holds (induction child (by simp) (favours.below_negation rfl) refuted)
  | leaf node isLeaf =>
      rw [truth_leaf _ _ isLeaf] at holds ⊢
      exact favours [] node holds

/-- Every way to decide the full-text leaves is favoured by relaxing them. -/
theorem relaxed_favours {value : Valuation} {record : Record}
    (structured : ∀ place leaf, leaf.isFullTextLeaf = false →
      value place leaf = leaf.leafHolds record) :
    Favours value (reading true false record) := by
  intro place leaf
  unfold reading
  cases fullText : leaf.isFullTextLeaf with
  | true => cases place.isNegative <;> simp
  | false => cases place.isNegative <;> simp [structured place leaf fullText]

/-- Each full-text leaf is decided for its own place, all other leaves by the record. -/
def decidedBy (assignment : Place → Bool) (record : Record) : Valuation := fun place leaf =>
  if leaf.isFullTextLeaf then assignment place else leaf.leafHolds record

theorem relaxed_reading_decided (record : Record) :
    reading true false record = decidedBy (fun place => !place.isNegative) record := by
  funext place leaf
  simp only [reading, decidedBy, Bool.true_and, Bool.false_xor]

theorem relaxed_iff_decidable (query : Query) (record : Record) :
    query.truth (reading true false record) = true ↔
      ∃ assignment, query.truth (decidedBy assignment record) = true := by
  constructor
  · intro holds
    rw [relaxed_reading_decided] at holds
    exact ⟨_, holds⟩
  · rintro ⟨assignment, holds⟩
    have decided : ∀ place (leaf : Query), leaf.isFullTextLeaf = false →
        decidedBy assignment record place leaf = leaf.leafHolds record := by
      intro place leaf structured
      rw [decidedBy, structured]
      rfl
    exact truth_mono query (relaxed_favours decided) holds

theorem full_favoured (record : Record) :
    Favours (reading false false record) (reading true false record) := by
  apply relaxed_favours
  intro place leaf structured
  simp only [reading, Bool.false_and]
  rfl

theorem any_structured_leaf_eq (children : List Query) :
    anyStructuredLeaf children = children.any hasStructuredLeaf := by
  induction children with
  | nil => rfl
  | cons child rest induction => rw [anyStructuredLeaf, induction, List.any_cons]

theorem structured_leaf_of_leaf (leaf : Query) (isLeaf : leaf.isLeaf = true) :
    leaf.hasStructuredLeaf = !leaf.isFullTextLeaf := by
  cases leaf with
  | logical operator children => cases isLeaf
  | comparison | textSearch | field | literal => rfl

theorem combined_constant (operator : LogicalOperator) {values : List Bool} (shared : Bool)
    (nonempty : values ≠ []) (same : ∀ value ∈ values, value = shared) :
    combined operator values = (shared ^^ operator.isNegation) := by
  obtain ⟨count, rfl⟩ : ∃ count, values = List.replicate count shared :=
    ⟨values.length, List.eq_replicate_of_mem same⟩
  cases count with
  | zero => cases nonempty rfl
  | succ count =>
      cases operator <;> cases shared <;>
        simp [combined, LogicalOperator.isNegation, List.all_replicate, List.any_replicate]

theorem relaxed_without_structured_leaf (query : Query) (faultless : query.fault? = none)
    (fullText : query.hasStructuredLeaf = false) (negated : Bool) (record : Record) :
    query.truth (reading true negated record) = !negated := by
  induction query using node_induction generalizing negated with
  | leaf node isLeaf =>
      rw [structured_leaf_of_leaf node isLeaf, Bool.not_eq_false'] at fullText
      rw [truth_leaf _ _ isLeaf, reading, fullText, Bool.true_and, if_pos rfl,
        Place.isNegative, Bool.xor_false]
  | logical operator children induction =>
      cases children with
      | nil => cases faultless
      | cons child rest =>
          have below : ∀ index, (reading true negated record).below ⟨operator, index⟩ =
              reading true (negated ^^ operator.isNegation) record :=
            fun index => reading_below true negated record ⟨operator, index⟩
          rw [fault_logical, first_fault_eq, List.findSome?_eq_none_iff] at faultless
          rw [hasStructuredLeaf, any_structured_leaf_eq, List.any_eq_false] at fullText
          rw [truth_logical below,
            combined_constant operator (!(negated ^^ operator.isNegation))]
          · cases negated <;> cases operator.isNegation <;> rfl
          · cases operator <;> simp [considered]
          · intro value said
            obtain ⟨other, member, rfl⟩ := List.mem_map.mp said
            have inTree := mem_of_considered member
            have otherFullText := Bool.eq_false_iff.mpr (fullText other inTree)
            exact induction other inTree (faultless other member) otherFullText _

theorem structured_leaf_absent {query : Query}
    (unneeded : query.compileStructured = .ok none) : query.hasStructuredLeaf = false := by
  unfold compileStructured at unneeded
  cases structured : query.hasStructuredLeaf with
  | false => rfl
  | true =>
      rw [structured, if_pos rfl] at unneeded
      cases compiled : query.compileRelaxed <;> rw [compiled] at unneeded <;> cases unneeded

/-- A tree compiles relaxed whenever it compiles in full, and fails with the same error. The
relaxed test accepts the records for which some decision of the full-text leaves makes the
tree true, hence all that the full test accepts, and every record if a tree has no other leaves. -/
theorem relaxed_test_is_exact (query : Query) :
    (∀ error, query.compileRelaxed = .error error ↔ query.compile = .error error) ∧
    (∀ relaxed, query.compileRelaxed = .ok relaxed → ∀ record,
      (relaxed record = true ↔
        ∃ assignment, query.truth (decidedBy assignment record) = true)) ∧
    (∀ full relaxed, query.compile = .ok full → query.compileRelaxed = .ok relaxed →
      ∀ record, full record = true → relaxed record = true) ∧
    (∀ full, query.compile = .ok full → query.compileStructured = .ok none →
      ∃ relaxed, query.compileRelaxed = .ok relaxed ∧ ∀ record, relaxed record = true) := by
  unfold compileRelaxed compile
  refine ⟨?_, ?_, ?_, ?_⟩
  · intro error
    rw [compile_error_iff, compile_error_iff]
  · intro relaxed compiled record
    obtain ⟨_, rfl⟩ := compile_ok_iff.mp compiled
    exact relaxed_iff_decidable query record
  · intro full relaxed compiled compiledRelaxed record accepted
    obtain ⟨_, rfl⟩ := compile_ok_iff.mp compiled
    obtain ⟨_, rfl⟩ := compile_ok_iff.mp compiledRelaxed
    exact truth_mono query (full_favoured record) accepted
  · intro full compiled unneeded
    obtain ⟨faultless, _⟩ := compile_ok_iff.mp compiled
    refine ⟨_, compile_ok_iff.mpr ⟨faultless, rfl⟩, ?_⟩
    intro record
    exact relaxed_without_structured_leaf query faultless (structured_leaf_absent unneeded)
      false record

def neitherSpamNorDraft : Query := .nor [.text "spam", .compare "tags" .equal (.text "draft")]

def spamNote : Record := Record.plain "note" "spam" ⟨0, 0⟩

theorem relaxed_nor_accepts_spam :
    (∃ full relaxed, neitherSpamNorDraft.compile = .ok full ∧ full spamNote = false ∧
      neitherSpamNorDraft.compileRelaxed = .ok relaxed ∧ relaxed spamNote = true ∧
      ∃ assignment, neitherSpamNorDraft.truth (decidedBy assignment spamNote) = true) ∧
    ∃ full, (Query.text "spam").compile = .ok full ∧
      (Query.text "spam").compileStructured = .ok none ∧
      ∃ relaxed, (Query.text "spam").compileRelaxed = .ok relaxed ∧
        ∀ record, relaxed record = true := by
  have decided := (relaxed_test_is_exact neitherSpamNorDraft).2.1 _ rfl spamNote
  have unneeded := (relaxed_test_is_exact (Query.text "spam")).2.2.2 _ rfl rfl
  exact ⟨⟨_, _, rfl, by decide, rfl, by decide, decided.mp (by decide)⟩, _, rfl, rfl, unneeded⟩

end Query

end FederatedSearch
