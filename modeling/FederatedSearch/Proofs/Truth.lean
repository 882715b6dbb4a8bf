import FederatedSearch.Query.Compilation

/-!
What query trees say. The leaves of a tree have truth values, which may differ from one
occurrence of a leaf to the next; the logical nodes combine them, and a negation looks at
its first child only.
-/

namespace FederatedSearch

structure Step where
  operator : LogicalOperator
  index : Nat
deriving DecidableEq

/-- The way from the root of a tree to a node. It tells the occurrences of equal nodes apart. -/
abbrev Place := List Step

/-- An odd number of negations stands above the place. -/
def Place.isNegative : Place → Bool
  | [] => false
  | step :: rest => step.operator.isNegation ^^ Place.isNegative rest

/-- The truth values of leaves, for each place at which they may stand. -/
abbrev Valuation := Place → Query → Bool

def Valuation.below (value : Valuation) (step : Step) : Valuation :=
  fun place => value (step :: place)

namespace Query

def isLeaf : Query → Bool
  | .logical _ _ => false
  | _ => true

theorem node_induction {motive : Query → Prop}
    (logical : ∀ operator children, (∀ child ∈ children, motive child) →
      motive (.logical operator children))
    (leaf : ∀ node, node.isLeaf = true → motive node) (query : Query) : motive query := by
  induction query using Query.induction with
  | logical operator children induction => exact logical operator children induction
  | comparison field operator value => exact leaf _ rfl
  | textSearch field text => exact leaf _ rfl
  | field reference => exact leaf _ rfl
  | literal value => exact leaf _ rfl

/-- Induction on query trees with a case for each logical operator. -/
theorem operator_induction {motive : Query → Prop}
    (and : ∀ children, (∀ child ∈ children, motive child) → motive (.logical .and children))
    (or : ∀ children, (∀ child ∈ children, motive child) → motive (.logical .or children))
    (not : ∀ children, (∀ child ∈ children, motive child) → motive (.logical .not children))
    (nor : ∀ children, (∀ child ∈ children, motive child) → motive (.logical .nor children))
    (leaf : ∀ node, node.isLeaf = true → motive node) (query : Query) : motive query := by
  induction query using node_induction with
  | logical operator children induction =>
      cases operator with
      | and => exact and children induction
      | or => exact or children induction
      | not => exact not children induction
      | nor => exact nor children induction
  | leaf node isLeaf => exact leaf node isLeaf

mutual

/-- What a tree says under a valuation of its leaves. Children are counted from an index on. -/
def truth (value : Valuation) : Query → Bool
  | .logical .and children => allTrue value 0 children
  | .logical .or children => anyTrue value .or 0 children
  | .logical .not children => !firstTrue value children
  | .logical .nor children => !anyTrue value .nor 0 children
  | leaf => value [] leaf

def allTrue (value : Valuation) (index : Nat) : List Query → Bool
  | [] => true
  | child :: rest =>
      truth (value.below ⟨.and, index⟩) child && allTrue value (index + 1) rest

def anyTrue (value : Valuation) (operator : LogicalOperator) (index : Nat) : List Query → Bool
  | [] => false
  | child :: rest =>
      truth (value.below ⟨operator, index⟩) child || anyTrue value operator (index + 1) rest

def firstTrue (value : Valuation) : List Query → Bool
  | [] => false
  | child :: _ => truth (value.below ⟨.not, 0⟩) child

end

theorem truth_leaf (value : Valuation) (node : Query) (leaf : node.isLeaf = true) :
    node.truth value = value [] node := by
  cases node with
  | logical operator children => cases leaf
  | comparison | textSearch | field | literal => rfl

/-- The children that a node looks at. -/
def considered : LogicalOperator → List Query → List Query
  | .and, children | .or, children | .nor, children => children
  | .not, children => children.take 1

def combined : LogicalOperator → List Bool → Bool
  | .and, values => values.all id
  | .or, values => values.any id
  | .not, values | .nor, values => !values.any id

theorem all_true_eq_all {value below : Valuation}
    (same : ∀ index, value.below ⟨.and, index⟩ = below) (index : Nat) (children : List Query) :
    allTrue value index children = (children.map (truth below)).all id := by
  induction children generalizing index with
  | nil => rfl
  | cons child rest induction =>
      rw [allTrue, same, induction, List.map_cons, List.all_cons, id]

theorem any_true_eq_any {value below : Valuation} {operator : LogicalOperator}
    (same : ∀ index, value.below ⟨operator, index⟩ = below) (index : Nat)
    (children : List Query) :
    anyTrue value operator index children = (children.map (truth below)).any id := by
  induction children generalizing index with
  | nil => rfl
  | cons child rest induction =>
      rw [anyTrue, same, induction, List.map_cons, List.any_cons, id]

/-- If a valuation is the same below all children, a node only combines what they say. -/
theorem truth_logical {value below : Valuation} {operator : LogicalOperator}
    (same : ∀ index, value.below ⟨operator, index⟩ = below) (children : List Query) :
    (logical operator children).truth value =
      combined operator ((considered operator children).map (truth below)) := by
  cases operator with
  | and => rw [truth, all_true_eq_all same]; rfl
  | or => rw [truth, any_true_eq_any same]; rfl
  | nor => rw [truth, any_true_eq_any same]; rfl
  | not =>
      rw [truth]
      cases children with
      | nil => rfl
      | cons child rest =>
          rw [firstTrue, same]
          simp [considered, combined]

/-- What a tree says if equal leaves have equal values wherever they stand. -/
def holdsBy (values : Query → Bool) (query : Query) : Bool := query.truth fun _ => values

theorem holds_by_logical (values : Query → Bool) (operator : LogicalOperator)
    (children : List Query) :
    (logical operator children).holdsBy values =
      combined operator ((considered operator children).map (holdsBy values)) :=
  truth_logical (fun _ => rfl) children

theorem holds_by_and (values : Query → Bool) (children : List Query) :
    (logical .and children).holdsBy values = children.all (holdsBy values) := by
  rw [holds_by_logical, considered, combined, List.all_map]
  rfl

theorem holds_by_or (values : Query → Bool) (children : List Query) :
    (logical .or children).holdsBy values = children.any (holdsBy values) := by
  rw [holds_by_logical, considered, combined, List.any_map]
  rfl

theorem holds_by_leaf (values : Query → Bool) (leaf : Query) (isLeaf : leaf.isLeaf = true) :
    leaf.holdsBy values = values leaf :=
  truth_leaf _ leaf isLeaf

theorem any_negation_eq (children : List Query) :
    anyNegation children = children.any containsNegation := by
  induction children with
  | nil => rfl
  | cons child rest induction => rw [anyNegation, induction, List.any_cons]

theorem positive_children {operator : LogicalOperator} {children : List Query}
    (positive : (logical operator children).containsNegation = false) :
    operator.isNegation = false ∧ ∀ child ∈ children, child.containsNegation = false := by
  rw [containsNegation, Bool.or_eq_false_iff, any_negation_eq, List.any_eq_false] at positive
  exact ⟨positive.1, fun child member => Bool.eq_false_iff.mpr (positive.2 child member)⟩

theorem positive_induction
    {motive : (query : Query) → query.containsNegation = false → Prop}
    (and : ∀ children positive,
      (∀ child member, motive child ((positive_children positive).2 child member)) →
      motive (.logical .and children) positive)
    (or : ∀ children positive,
      (∀ child member, motive child ((positive_children positive).2 child member)) →
      motive (.logical .or children) positive)
    (leaf : ∀ node positive, node.isLeaf = true → motive node positive) (query : Query)
    (positive : query.containsNegation = false) : motive query positive := by
  induction query using operator_induction with
  | and children induction =>
      apply and children positive
      intro child member
      exact induction child member _
  | or children induction =>
      apply or children positive
      intro child member
      exact induction child member _
  | not children => cases positive
  | nor children => cases positive
  | leaf node isLeaf => exact leaf node positive isLeaf

end Query

end FederatedSearch
