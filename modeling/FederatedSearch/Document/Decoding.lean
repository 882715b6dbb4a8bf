import FederatedSearch.Document.Basic

/-!
Decoding documents into values of other types, and encoding simple values. A structure is
written as a table of its fields or as the list of their values in order; fields that it does
not know are passed over, and a field that is left out has its default if it has one.
-/

namespace FederatedSearch

abbrev Decoder (α : Type) := Document → Option α

namespace Decoder

def text : Decoder String
  | .text value => some value
  | _ => none

def flag : Decoder Bool
  | .bool value => some value
  | _ => none

def natural : Decoder Nat
  | .number (.natural n) => some n
  | _ => none

def float : Decoder Float
  | .number n => some n.toFloat
  | _ => none

def float32 : Decoder Float32
  | .number n => some n.toFloat32
  | _ => none

/-- The null value stands for nothing. -/
def optional {α : Type} (decode : Decoder α) : Decoder (Option α)
  | .null => some none
  | document => (decode document).map some

def list {α : Type} (decode : Decoder α) : Decoder (List α)
  | .list items => items.mapM decode
  | _ => none

def table {α : Type} (decode : Decoder α) : Decoder (List (String × α))
  | .table entries => entries.mapM fun (key, value) => (decode value).map (key, ·)
  | _ => none

def variant {α : Type} (named? : String → Option α) : Decoder α
  | .text name => named? name
  | .table [(name, .null)] => named? name
  | _ => none

end Decoder

structure Fields where
  entries : List (String × Document)

/-- The fields of a structure whose field names, in order, are given. -/
def Document.fields? (names : List String) : Document → Option Fields
  | .table entries => some ⟨entries⟩
  | .list items => if items.length ≤ names.length then some ⟨names.zip items⟩ else none
  | _ => none

namespace Document

def ofOption {α : Type} (encode : α → Document) : Option α → Document
  | none => .null
  | some value => encode value

def ofTexts (texts : List String) : Document := .list (texts.map .text)

def ofNat (n : Nat) : Document := .number (.natural n)

/-- A number that is not finite has no form in a document; the null value stands for it. -/
def ofFloat (x : Float) : Document := if x.isFinite then .number (.real x) else .null

def ofFloat32 (x : Float32) : Document := ofFloat (toDouble x)

def ofWeights (weights : List (String × Float32)) : Document :=
  .table (weights.map fun (name, weight) => (name, ofFloat32 weight))

end Document

namespace Fields

variable {α : Type}

def required (fields : Fields) (name : String) (decode : Decoder α) : Option α :=
  (Document.find? name fields.entries).bind decode

/-- A field with a default. The null value is no way to leave it out. -/
def withDefault (fields : Fields) (name : String) (decode : Decoder α) (default : α) : Option α :=
  match Document.find? name fields.entries with
  | none => some default
  | some document => decode document

def optional (fields : Fields) (name : String) (decode : Decoder α) : Option (Option α) :=
  fields.withDefault name (Decoder.optional decode) none

end Fields

end FederatedSearch
