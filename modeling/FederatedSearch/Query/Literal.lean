import FederatedSearch.Decimal.Notation
import FederatedSearch.Record
import FederatedSearch.Text.Quoted

/-!
Literals: the values that conditions compare with. In a document a literal is
written as the plain value, so that a string which reads as a timestamp stands for
an instant.
-/

namespace FederatedSearch

open FederatedSearch.Decimal FederatedSearch.Text FederatedSearch.Time

inductive Literal where
  | null
  | bool (value : Bool)
  | number (value : Float)
  | instant (value : Instant)
  | text (value : String)
  | list (items : List Literal)

namespace Literal

/-- A number as text: digits without an exponent, and zero without a sign. -/
def numberText (x : Float) : String := if x == 0 then "0" else plain64 x

def asText? : Literal → Option String
  | .text value => some value
  | .number value => some (numberText value)
  | .bool value => some (if value then "true" else "false")
  | .instant value => some value.numeric
  | .null => none
  | .list _ => none

def asBool? : Literal → Option Bool
  | .bool value => some value
  | _ => none

/-- The items of a list; any other value is its own only item. -/
def items : Literal → List Literal
  | .list items => items
  | value => [value]

mutual

def describe : Literal → String
  | .null => "Null"
  | .bool value => if value then "Bool(true)" else "Bool(false)"
  | .number value => "Number(" ++ marked64 value ++ ")"
  | .instant value => "DateTime(" ++ value.zulu ++ ")"
  | .text value => "String(" ++ quoted value ++ ")"
  | .list items => "List([" ++ ", ".intercalate (describeAll items) ++ "])"

def describeAll : List Literal → List String
  | [] => []
  | item :: rest => describe item :: describeAll rest

end

mutual

def decode? : Document → Option Literal
  | .null => some .null
  | .bool value => some (.bool value)
  | .number value => some (.number value.toFloat)
  | .text value => some (match lenient? value with
      | some t => .instant t
      | none => .text value)
  | .list items => (decodeAll? items).map .list
  | .table _ => none

def decodeAll? : List Document → Option (List Literal)
  | [] => some []
  | item :: rest => do return (← decode? item) :: (← decodeAll? rest)

end

mutual

def encode : Literal → Document
  | .null => .null
  | .bool value => .bool value
  | .number value => .ofFloat value
  | .instant value => .text value.zulu
  | .text value => .text value
  | .list items => .list (encodeAll items)

def encodeAll : List Literal → List Document
  | [] => []
  | item :: rest => encode item :: encodeAll rest

end

end Literal

end FederatedSearch
