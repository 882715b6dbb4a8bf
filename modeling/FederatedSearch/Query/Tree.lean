import FederatedSearch.Query.Literal

/-!
Query trees. Leaves are conditions on one record; logical nodes combine them. A
negation looks at its first child only.
-/

namespace FederatedSearch

inductive LogicalOperator where
  | and | or | not | nor
deriving DecidableEq

def LogicalOperator.isNegation : LogicalOperator → Bool
  | .not | .nor => true
  | .and | .or => false

inductive ComparisonOperator where
  | equal | notEqual | greaterThan | greaterThanOrEqual | lessThan | lessThanOrEqual
  | contains | isIn | notIn | exists
deriving DecidableEq

structure FieldRef where
  path : String
  isMetadata : Bool
  metadataKey : Option String
deriving DecidableEq

def FieldRef.metadataStart : List Char := ['m', 'e', 't', 'a', 'd', 'a', 't', 'a', '.']

/-- The key behind `metadata.`, which may be in any case; there has to be one. -/
def FieldRef.keyOfPath? (path : String) : Option String :=
  let start := path.toList.take metadataStart.length
  let key := path.toList.drop metadataStart.length
  if Text.sameIgnoringAsciiCase start metadataStart && !key.isEmpty then
    some (String.ofList key)
  else none

def FieldRef.ofPath (path : String) : FieldRef :=
  let key := keyOfPath? path
  { path, isMetadata := key.isSome, metadataKey := key }

def FieldRef.ofMetadataKey (key : String) : FieldRef :=
  { path := "metadata." ++ key, isMetadata := true, metadataKey := some key }

inductive Query where
  | logical (operator : LogicalOperator) (children : List Query)
  | comparison (field : FieldRef) (operator : ComparisonOperator) (value : Literal)
  /-- A search for a text in one field, or in all text columns. -/
  | textSearch (field : Option FieldRef) (text : String)
  | field (field : FieldRef)
  | literal (value : Literal)

namespace Query

/-- Induction on query trees, with the statement for all children of a logical node. -/
theorem induction {motive : Query → Prop}
    (logical : ∀ operator children, (∀ child ∈ children, motive child) →
      motive (.logical operator children))
    (comparison : ∀ field operator value, motive (.comparison field operator value))
    (textSearch : ∀ field text, motive (.textSearch field text))
    (field : ∀ reference, motive (.field reference))
    (literal : ∀ value, motive (.literal value)) (query : Query) : motive query :=
  Query.rec (motive_1 := motive) (motive_2 := fun children => ∀ child ∈ children, motive child)
    logical comparison textSearch field literal (by simp)
    (fun child children first others => by simp [first]; exact others) query

mutual

/-- The height of the tree; a leaf has height 1. -/
def depth : Query → Nat
  | .logical _ children => 1 + greatestDepth children
  | _ => 1

def greatestDepth : List Query → Nat
  | [] => 0
  | child :: rest => max (depth child) (greatestDepth rest)

end

mutual

def nodeCount : Query → Nat
  | .logical _ children => 1 + totalCount children
  | _ => 1

def totalCount : List Query → Nat
  | [] => 0
  | child :: rest => nodeCount child + totalCount rest

end

mutual

def containsNegation : Query → Bool
  | .logical operator children => operator.isNegation || anyNegation children
  | _ => false

def anyNegation : List Query → Bool
  | [] => false
  | child :: rest => containsNegation child || anyNegation rest

end

def and (children : List Query) : Query := .logical .and children

def or (children : List Query) : Query := .logical .or children

def not (child : Query) : Query := .logical .not [child]

def nor (children : List Query) : Query := .logical .nor children

def text (text : String) : Query := .textSearch none text

def fieldText (path text : String) : Query := .textSearch (some (.ofPath path)) text

def compare (path : String) (operator : ComparisonOperator) (value : Literal) : Query :=
  .comparison (.ofPath path) operator value

end Query

end FederatedSearch
