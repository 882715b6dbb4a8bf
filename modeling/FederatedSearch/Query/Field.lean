import FederatedSearch.Query.Tree

/-!
Fields of records as queries address them: resolving a reference to a field, the texts
that a record has in a field, and the errors of conditions that make no sense.
-/

namespace FederatedSearch

inductive RecordField where
  | id | title | description | content | tags | mimeType | createdAt
  /-- The entry under a key, or all entries. -/
  | metadata (key : Option String)
deriving DecidableEq

inductive ExpectedLiteral where
  | scalar | timestamp
deriving DecidableEq

inductive CompileError where
  | unknownField (path : String)
  | nestedField (path : String)
  | unsupportedOperator (path : String) (operator : ComparisonOperator)
  | invalidValue (path : String) (expected : ExpectedLiteral) (actual : Literal)
  | noChildren (operator : LogicalOperator)
  | notACondition (value : Literal)

namespace CompileError

def operatorLabel : ComparisonOperator → String
  | .equal => "Equal"
  | .notEqual => "NotEqual"
  | .greaterThan => "GreaterThan"
  | .greaterThanOrEqual => "GreaterThanOrEqual"
  | .lessThan => "LessThan"
  | .lessThanOrEqual => "LessThanOrEqual"
  | .contains => "Contains"
  | .isIn => "In"
  | .notIn => "NotIn"
  | .exists => "Exists"

def logicalLabel : LogicalOperator → String
  | .and => "And"
  | .or => "Or"
  | .not => "Not"
  | .nor => "Nor"

def expectedText : ExpectedLiteral → String
  | .scalar => "a scalar"
  | .timestamp => "a timestamp"

def message : CompileError → String
  | unknownField path => "Unknown field: " ++ path
  | nestedField path => "Nested field not supported: " ++ path
  | unsupportedOperator path operator =>
      "Operator " ++ operatorLabel operator ++ " is not supported on field '" ++ path ++ "'"
  | invalidValue path expected actual =>
      "Invalid value for field '" ++ path ++ "': expected " ++ expectedText expected ++
        ", got " ++ actual.describe
  | noChildren operator => logicalLabel operator ++ " node has no children"
  | notACondition value => "Not a condition: " ++ value.describe

end CompileError

namespace RecordField

def named? : String → Option RecordField
  | "id" => some .id
  | "title" => some .title
  | "description" => some .description
  | "content" => some .content
  | "tags" => some .tags
  | "mimetype" => some .mimeType
  | "createdat" => some .createdAt
  | "metadata" => some (.metadata none)
  | _ => none

/-- Resolves a path in which white space at the ends and the case of names do not count. The
key of a metadata entry keeps its spelling. -/
def ofPath (path : String) : Except CompileError RecordField :=
  let spelled := Text.trim path.toList
  let folded := Text.lower spelled
  match folded.dropWhile (· != '.') with
  | [] =>
      match named? (String.ofList folded) with
      | some field => .ok field
      | none => .error (.unknownField path)
  | _ :: rest =>
      if folded.takeWhile (· != '.') = "metadata".toList ∧ rest ≠ [] then
        .ok (.metadata (some (String.ofList (spelled.drop FieldRef.metadataStart.length))))
      else .error (.nestedField path)

def resolve (reference : FieldRef) : Except CompileError RecordField :=
  if reference.isMetadata then
    match reference.metadataKey with
    | some key =>
        if key = "" then .error (.unknownField reference.path) else .ok (.metadata (some key))
    | none => .error (.unknownField reference.path)
  else ofPath reference.path

def column? : RecordField → Option Column
  | .title => some .title
  | .description => some .description
  | .content => some .content
  | _ => none

/-- The field has at most one text. -/
def isScalar : RecordField → Bool
  | .id | .title | .description | .content | .mimeType => true
  | _ => false

/-- The texts that a record has in a field. The time of creation is no text. -/
def texts (record : Record) : RecordField → List String
  | .id => [record.id]
  | .title => record.title.toList
  | .description => record.description.toList
  | .content => [record.content]
  | .tags => record.tags
  | .mimeType => [record.mimeType]
  | .createdAt => []
  | .metadata (some key) => (record.metadataValue key).toList
  | .metadata none => record.metadata.map (·.2)

end RecordField

end FederatedSearch
