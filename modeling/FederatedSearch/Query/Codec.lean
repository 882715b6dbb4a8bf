import FederatedSearch.Query.Tree

/-!
Query trees as documents. A node is a table whose entry `type` says of which kind it
is, beside the entries of its parts.
-/

namespace FederatedSearch

namespace LogicalOperator

def name : LogicalOperator → String
  | .and => "and"
  | .or => "or"
  | .not => "not"
  | .nor => "nor"

def named? : String → Option LogicalOperator
  | "and" => some .and
  | "or" => some .or
  | "not" => some .not
  | "nor" => some .nor
  | _ => none

theorem named_of_name (operator : LogicalOperator) : named? operator.name = some operator := by
  cases operator <;> rfl

end LogicalOperator

namespace ComparisonOperator

def name : ComparisonOperator → String
  | .equal => "equal"
  | .notEqual => "not_equal"
  | .greaterThan => "greater_than"
  | .greaterThanOrEqual => "greater_than_or_equal"
  | .lessThan => "less_than"
  | .lessThanOrEqual => "less_than_or_equal"
  | .contains => "contains"
  | .isIn => "in"
  | .notIn => "not_in"
  | .exists => "exists"

def named? : String → Option ComparisonOperator
  | "equal" => some .equal
  | "not_equal" => some .notEqual
  | "greater_than" => some .greaterThan
  | "greater_than_or_equal" => some .greaterThanOrEqual
  | "less_than" => some .lessThan
  | "less_than_or_equal" => some .lessThanOrEqual
  | "contains" => some .contains
  | "in" => some .isIn
  | "not_in" => some .notIn
  | "exists" => some .exists
  | _ => none

theorem named_of_name (operator : ComparisonOperator) : named? operator.name = some operator := by
  cases operator <;> rfl

end ComparisonOperator

namespace FieldRef

def fieldNames : List String := ["field_path", "is_metadata_field", "metadata_key"]

def ofFields? (fields : Fields) : Option FieldRef := do
  return {
    path := ← fields.required "field_path" Decoder.text
    isMetadata := ← fields.required "is_metadata_field" Decoder.flag
    metadataKey := ← fields.optional "metadata_key" Decoder.text }

def decode? (document : Document) : Option FieldRef :=
  (document.fields? fieldNames).bind ofFields?

def entries (field : FieldRef) : List (String × Document) :=
  [("field_path", .text field.path),
   ("is_metadata_field", .bool field.isMetadata),
   ("metadata_key", .ofOption .text field.metadataKey)]

def encode (field : FieldRef) : Document := .table field.entries

end FieldRef

namespace Query

/-- The literal of a comparison stands in a structure of its own. -/
def boxedLiteral? (document : Document) : Option Literal :=
  (document.fields? ["value"]).bind fun fields => fields.required "value" Literal.decode?

/-- A node from its entries; `children` is what stands under that name. -/
def ofEntries? (entries : List (String × Document)) (children : Option (List Query)) :
    Option Query := do
  let fields : Fields := ⟨entries⟩
  match ← fields.required "type" Decoder.text with
  | "logical" =>
      return .logical
        (← fields.required "operator" (Decoder.variant LogicalOperator.named?)) (← children)
  | "comparison" =>
      return .comparison (← fields.required "field" FieldRef.decode?)
        (← fields.required "operator" (Decoder.variant ComparisonOperator.named?))
        (← fields.required "value" boxedLiteral?)
  | "text_search" =>
      return .textSearch (← fields.optional "field" FieldRef.decode?)
        (← fields.required "search_text" Decoder.text)
  | "field" => return .field (← FieldRef.ofFields? fields)
  | "literal" => return .literal (← fields.required "value" Literal.decode?)
  | _ => none

mutual

def decode? : Document → Option Query
  | .table entries => ofEntries? entries (childrenOf? entries)
  | _ => none

def childrenOf? : List (String × Document) → Option (List Query)
  | [] => none
  | (name, value) :: rest => if name = "children" then listed? value else childrenOf? rest

def listed? : Document → Option (List Query)
  | .list items => decodeAll? items
  | _ => none

def decodeAll? : List Document → Option (List Query)
  | [] => some []
  | item :: rest => do return (← decode? item) :: (← decodeAll? rest)

end

mutual

def encode : Query → Document
  | .logical operator children =>
      .table [("type", .text "logical"), ("operator", .text operator.name),
        ("children", .list (encodeAll children))]
  | .comparison reference operator value =>
      .table [("type", .text "comparison"), ("field", reference.encode),
        ("operator", .text operator.name), ("value", .table [("value", value.encode)])]
  | .textSearch reference sought =>
      .table [("type", .text "text_search"), ("field", .ofOption FieldRef.encode reference),
        ("search_text", .text sought)]
  | .field reference => .table (("type", .text "field") :: reference.entries)
  | .literal value => .table [("type", .text "literal"), ("value", value.encode)]

def encodeAll : List Query → List Document
  | [] => []
  | child :: rest => encode child :: encodeAll rest

end

end Query

end FederatedSearch
