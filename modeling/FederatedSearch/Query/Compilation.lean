import FederatedSearch.Decimal.Reading
import FederatedSearch.Query.Exclusion

/-!
Compilation of query trees into tests of records. Texts are compared without regard to
case. A record without a value in a field satisfies no positive comparison of it, and
hence every negated one.

Compiled for use beside an index, a tree has its full-text leaves relaxed: each one
counts as true if the negations above it are even in number, and as false otherwise, so
that no record is rejected for what the index has decided.
-/

namespace FederatedSearch

open FederatedSearch.Text FederatedSearch.Time

abbrev Predicate := Record → Bool

namespace Predicate

def constant (value : Bool) : Predicate := fun _ => value

def negate (predicate : Predicate) : Predicate := fun record => !predicate record

def expecting (predicate : Predicate) (wanted : Bool) : Predicate :=
  if wanted then predicate else predicate.negate

def all (predicates : List Predicate) : Predicate := fun record =>
  predicates.all fun predicate => predicate record

def any (predicates : List Predicate) : Predicate := fun record =>
  predicates.any fun predicate => predicate record

end Predicate

def Literal.lowerText (path : String) (value : Literal) : Except CompileError String :=
  match value.asText? with
  | some scalar => .ok (lowered scalar)
  | none => .error (.invalidValue path .scalar value)

/-- A text as a point in time: a timestamp of the internet format, or a date for its midnight. -/
def instantOfText? (text : String) : Option Instant :=
  let text := trimmed text
  match strict? text with
  | some t => some t
  | none => date? text

def Literal.toInstant (path : String) (value : Literal) : Except CompileError Instant :=
  let found := match value with
    | .instant t => some t
    | .text spelled => instantOfText? spelled
    | _ => none
  match found with
  | some t => .ok t
  | none => .error (.invalidValue path .timestamp value)

namespace ComparisonOperator

def isOrdering : ComparisonOperator → Bool
  | .greaterThan | .greaterThanOrEqual | .lessThan | .lessThanOrEqual => true
  | _ => false

/-- How the actual value may stand to the given one. -/
def admits : ComparisonOperator → Ordering → Bool
  | .greaterThan, order => order == .gt
  | .greaterThanOrEqual, order => order != .lt
  | .lessThan, order => order == .lt
  | .lessThanOrEqual, order => order != .gt
  | _, _ => false

end ComparisonOperator

/-- The order of two numbers; a value that is no number stands in none. -/
def compareFloats? (a b : Float) : Option Ordering :=
  if a < b then some .lt
  else if a > b then some .gt
  else if a == b then some .eq
  else none

def compareTexts (a b : String) : Ordering := compare a b

/-- The operators that a field of texts supports. The whole metadata map can only be searched,
and tags have no order. -/
def RecordField.supports (field : RecordField) (operator : ComparisonOperator) : Bool :=
  match field with
  | .metadata none => operator == .contains
  | .tags => !operator.isOrdering
  | _ => true

/-- How one text is ordered against a literal. In metadata a number is compared with the
number, and an instant with the point in time, that the text stands for. -/
def orderAgainst (path : String) (field : RecordField) (value : Literal) :
    Except CompileError (String → Option Ordering) :=
  match field, value with
  | .metadata _, .number bound => .ok fun actual =>
      (Decimal.readNumber? (trim actual.toList)).bind (compareFloats? · bound)
  | .metadata _, .instant bound => .ok fun actual =>
      (instantOfText? actual).map (·.compare bound)
  | _, _ => do
      let bound ← value.lowerText path
      return fun actual => some (compareTexts (lowered actual) bound)

def RecordField.anyEqual (field : RecordField) (expected : List String) : Predicate :=
  fun record => (field.texts record).any fun actual => expected.contains (lowered actual)

def RecordField.anyContains (field : RecordField) (needle : String) : Predicate :=
  fun record => (field.texts record).any (occursIgnoringCase needle.toList)

def RecordField.anyOrdered (field : RecordField) (operator : ComparisonOperator)
    (order : String → Option Ordering) : Predicate :=
  fun record => (field.texts record).any fun actual => (order actual).any operator.admits

def compileTexts (path : String) (field : RecordField) (operator : ComparisonOperator)
    (value : Literal) : Except CompileError Predicate :=
  if !field.supports operator then .error (.unsupportedOperator path operator)
  else
    match operator with
    | .equal => do return field.anyEqual [← value.lowerText path]
    | .notEqual => do return (field.anyEqual [← value.lowerText path]).negate
    | .isIn => do return field.anyEqual (← value.items.mapM (·.lowerText path))
    | .notIn => do return (field.anyEqual (← value.items.mapM (·.lowerText path))).negate
    | .contains => do return field.anyContains (← value.lowerText path)
    | .exists => .error (.unsupportedOperator path operator)
    | ordering => do return field.anyOrdered ordering (← orderAgainst path field value)

def createdAtOneOf (expected : List Instant) : Predicate :=
  fun record => expected.contains record.createdAt

def compileCreatedAt (path : String) (operator : ComparisonOperator) (value : Literal) :
    Except CompileError Predicate :=
  match operator with
  | .equal => do return createdAtOneOf [← value.toInstant path]
  | .notEqual => do return (createdAtOneOf [← value.toInstant path]).negate
  | .isIn => do return createdAtOneOf (← value.items.mapM (·.toInstant path))
  | .notIn => do return (createdAtOneOf (← value.items.mapM (·.toInstant path))).negate
  | .contains | .exists => .error (.unsupportedOperator path operator)
  | ordering => do
      let bound ← value.toInstant path
      return fun record => ordering.admits (record.createdAt.compare bound)

def RecordField.isPresent (field : RecordField) : Predicate := fun record =>
  match field with
  | .createdAt => true
  | _ => !(field.texts record).isEmpty

/-- Presence of a field, or its absence if the literal is the truth value false. -/
def compileExists (reference : FieldRef) (value : Literal) : Except CompileError Predicate := do
  let field ← RecordField.resolve reference
  return Predicate.expecting field.isPresent (value.asBool?.getD true)

def compileComparison (reference : FieldRef) (operator : ComparisonOperator) (value : Literal) :
    Except CompileError Predicate :=
  if operator = .exists then compileExists reference value
  else do
    match ← RecordField.resolve reference with
    | .createdAt => compileCreatedAt reference.path operator value
    | field => compileTexts reference.path field operator value

def anyColumnContains (needle : List Char) : Predicate := fun record =>
  (Column.all.filterMap record.column).any (occursIgnoringCase needle)

/-- A search for a text in a field of any kind, or in all columns. -/
def compileTextSearch (reference : Option FieldRef) (sought : String) :
    Except CompileError Predicate :=
  match reference with
  | none => .ok (anyColumnContains (lower sought.toList))
  | some reference => do
      match ← RecordField.resolve reference with
      | .createdAt => .error (.unsupportedOperator reference.path .contains)
      | field => return field.anyContains (lowered sought)

namespace Query

def compileLeaf : Query → Except CompileError Predicate
  | .logical operator _ => .error (.noChildren operator)
  | .comparison reference operator value => compileComparison reference operator value
  | .textSearch reference sought => compileTextSearch reference sought
  | .field reference => compileExists reference .null
  | .literal (.bool value) => .ok (Predicate.constant value)
  | .literal (.text sought) => compileTextSearch none sought
  | .literal (.number value) => compileTextSearch none (Literal.numberText value)
  | .literal value => .error (.notACondition value)

mutual

/-- A tree as a test. With `relax` the full-text leaves count as true, or as false if
`negated` says that an odd number of negations stands above them. -/
def compileWith (relax negated : Bool) : Query → Except CompileError Predicate
  | .logical operator [] => .error (.noChildren operator)
  | .logical .not (child :: _) => do
      return (← compileWith relax (!negated) child).negate
  | .logical .and (child :: rest) => do
      let first ← compileWith relax negated child
      return Predicate.all (first :: (← compileAll relax negated rest))
  | .logical .or (child :: rest) => do
      let first ← compileWith relax negated child
      return Predicate.any (first :: (← compileAll relax negated rest))
  | .logical .nor (child :: rest) => do
      let first ← compileWith relax (!negated) child
      return (Predicate.any (first :: (← compileAll relax (!negated) rest))).negate
  | leaf =>
      if relax && leaf.isFullTextLeaf then .ok (Predicate.constant !negated)
      else leaf.compileLeaf

def compileAll (relax negated : Bool) : List Query → Except CompileError (List Predicate)
  | [] => .ok []
  | child :: rest => do
      let first ← compileWith relax negated child
      return first :: (← compileAll relax negated rest)

end

def compile (query : Query) : Except CompileError Predicate := query.compileWith false false

def compileRelaxed (query : Query) : Except CompileError Predicate := query.compileWith true false

mutual

def hasStructuredLeaf : Query → Bool
  | .logical _ children => anyStructuredLeaf children
  | leaf => !leaf.isFullTextLeaf

def anyStructuredLeaf : List Query → Bool
  | [] => false
  | child :: rest => hasStructuredLeaf child || anyStructuredLeaf rest

end

/-- The test that is left beside an index. A tree without a leaf for it needs none. -/
def compileStructured (query : Query) : Except CompileError (Option Predicate) :=
  if query.hasStructuredLeaf then query.compileRelaxed.map some else .ok none

end Query

end FederatedSearch
