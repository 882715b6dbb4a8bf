import FederatedSearch.Proofs.Selection

/-!
Replacement of a part of a tree. Two trees can stand for each other if they agree in what their
parents read of them. Then they can do so anywhere in a tree: the index is asked the same, the
same terms are excluded, and the tests of records are the same, or fail for the same reason.
-/

namespace FederatedSearch

open FederatedSearch.Index

namespace Query

/-- The trees ask the same of an index, leave the same terms to exclude, and are the same tests
in full, relaxed and behind the index. A test is a function on records and a fault takes its
place, so that equal ones fail with the same error or agree on every record. -/
structure TreatedAlike (first second : Query) : Prop where
  fullTextPart : first.fullTextPart = second.fullTextPart
  compile : first.compile = second.compile
  compileRelaxed : first.compileRelaxed = second.compileRelaxed
  compileStructured : first.compileStructured = second.compileStructured

/-- The trees agree in all that is read of them below other nodes. -/
structure Interchangeable (first second : Query) : Prop where
  expression : first.expression? = second.expression?
  leafTerms : first.leafTerms = second.leafTerms
  negatedTerms : first.negatedTerms = second.negatedTerms
  fault : first.fault? = second.fault?
  structured : first.hasStructuredLeaf = second.hasStructuredLeaf
  truth : ∀ relax negated record,
    first.truth (reading relax negated record) = second.truth (reading relax negated record)

theorem expression_logical (operator : LogicalOperator) (children : List Query) :
    (logical operator children).expression? = (connective? operator).bind fun connective =>
      Expression.combine connective (children.filterMap expression?) := by
  rw [expression?, expressions_eq]
  cases connective? operator <;> rfl

theorem fault_of_node (operator : LogicalOperator) (children : List Query) :
    (logical operator children).fault? =
      if children.isEmpty then some (.noChildren operator)
      else (considered operator children).findSome? fault? := by
  cases children with
  | nil => rfl
  | cons child rest => rw [fault_logical, first_fault_eq]; rfl

theorem fault_of_filled (operator : LogicalOperator) {children : List Query}
    (filled : children ≠ []) :
    (logical operator children).fault? = (considered operator children).findSome? fault? := by
  rw [fault_of_node, if_neg]
  simpa using filled

theorem find_fault_eq (children : List Query) :
    children.findSome? fault? = (children.map fault?).findSome? id := by
  rw [List.findSome?_map]
  rfl

namespace Interchangeable

variable {first second : Query}

theorem treated_alike (same : Interchangeable first second) : TreatedAlike first second := by
  have compiled (relax negated : Bool) :
      first.compileWith relax negated = second.compileWith relax negated := by
    simp only [compile_eq_checked, checked, same.fault, same.truth]
  refine ⟨?_, compiled false false, compiled true false, ?_⟩
  · rw [fullTextPart, fullTextPart, same.expression, same.negatedTerms]
  · rw [compileStructured, compileStructured, same.structured, compileRelaxed, compileRelaxed,
      compiled]

section

variable (operator : LogicalOperator) (before after : List Query)

theorem considered_replaced {Reading : Type} {read : Query → Reading}
    (same : read first = read second) :
    (considered operator (before ++ first :: after)).map read =
      (considered operator (before ++ second :: after)).map read := by
  cases operator <;> simp [considered, List.map_take, same]

/-- A node reads of its children only what interchangeable children agree in. -/
theorem child (same : Interchangeable first second) :
    Interchangeable (.logical operator (before ++ first :: after))
      (.logical operator (before ++ second :: after)) where
  expression := by
    simp only [expression_logical, List.filterMap_append, List.filterMap_cons, same.expression]
  leafTerms := by
    simp only [leaf_terms_logical, List.flatMap_append, List.flatMap_cons, same.leafTerms]
  negatedTerms := by
    cases negative : operator.isNegation with
    | true =>
        simp only [negated_terms_negation negative, List.flatMap_append, List.flatMap_cons,
          same.leafTerms]
    | false =>
        simp only [negated_terms_group negative, List.flatMap_append, List.flatMap_cons,
          same.negatedTerms]
  fault := by
    have read := considered_replaced operator before after same.fault
    have filled (middle : Query) : (before ++ middle :: after).isEmpty = false := by
      cases before <;> rfl
    simp only [fault_of_node, find_fault_eq, read, filled]
  structured := by
    simp only [hasStructuredLeaf, any_structured_leaf_eq, List.any_append, List.any_cons,
      same.structured]
  truth relax negated record := by
    have below := same.truth relax (negated ^^ operator.isNegation) record
    rw [reading_logical, reading_logical, considered_replaced operator before after below]

end

end Interchangeable

end Query

/-- A tree with a gap, in which a tree can stand. -/
inductive TreeContext where
  | gap
  | node (operator : LogicalOperator) (before : List Query) (inner : TreeContext)
      (after : List Query)

namespace TreeContext

open FederatedSearch.Query (Interchangeable TreatedAlike)

def fill : TreeContext → Query → Query
  | gap, query => query
  | node operator before inner after, query =>
      .logical operator (before ++ inner.fill query :: after)

theorem fill_interchangeable (context : TreeContext) {first second : Query}
    (same : Interchangeable first second) :
    Interchangeable (context.fill first) (context.fill second) := by
  induction context with
  | gap => exact same
  | node operator before inner after ih => exact ih.child operator before after

theorem fill_treated_alike (context : TreeContext) {first second : Query}
    (same : Interchangeable first second) :
    TreatedAlike (context.fill first) (context.fill second) :=
  (context.fill_interchangeable same).treated_alike

end TreeContext

end FederatedSearch
