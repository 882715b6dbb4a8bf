import FederatedSearch.Decimal.Reading
import FederatedSearch.Document.Reading
import FederatedSearch.Settings.Codec
import FederatedSearch.Text.Casing

/-!
Settings put together from layers: built-in defaults, a default file, a file of choice
and environment variables, each layer over the ones before it. Tables are merged key by
key and all other values replaced; keys count in lower case. The merged document is read
liberally: truth values, numbers and their texts stand for each other.
-/

namespace FederatedSearch

open FederatedSearch.Text

namespace Document

mutual

/-- Lays a value over what may be there: a table over a table entry by entry, an empty table
over nothing but a missing value, and any other value over everything. -/
def overlay (below : Option Document) : Document → Document
  | .table entries =>
      match below with
      | some (.table old) => .table (overlayEntries old entries)
      | some other => if entries.isEmpty then other else .table (overlayEntries [] entries)
      | none => .table (overlayEntries [] entries)
  | value => value

def overlayEntries (old : List (String × Document)) :
    List (String × Document) → List (String × Document)
  | [] => old
  | (key, value) :: rest =>
      let name := lowered key
      overlayEntries (put name (overlay (find? name old) value) old) rest

end

def overlayAt (document : Document) : List String → Document → Document
  | [], value => overlay (some document) value
  | key :: path, value => overlay (some document) (.table [(key, nested path value)])
where
  /-- The table in which only the path leads to the value. -/
  nested : List String → Document → Document
    | [], value => value
    | key :: path, value => .table [(key, nested path value)]

end Document

def isPathChar (c : Char) : Bool := c.isAlphanum || c == '_' || c == '-'

/-- The keys of a path, which are separated by points. A text that is no path is a single key. -/
def keyPath (key : String) : List String :=
  let names := splitPoints key.toList
  if names.all fun name => !name.isEmpty && name.all isPathChar then names.map String.ofList
  else [key]
where
  splitPoints : List Char → List (List Char)
    | [] => [[]]
    | c :: rest =>
        if c = '.' then [] :: splitPoints rest
        else
          match splitPoints rest with
          | [] => [[c]]
          | first :: others => (c :: first) :: others

/-- Integers of a layer have 63 bits; larger ones are kept as doubles. -/
def narrowed : Document → Document
  | .number (.natural n) =>
      if n < Nat.pow 2 63 then .number (.natural n) else .number (.real (Float.ofNat n))
  | value => value

mutual

def narrowedThroughout : Document → Document
  | .list items => .list (narrowedItems items)
  | .table entries => .table (narrowedEntries entries)
  | value => narrowed value

def narrowedItems : List Document → List Document
  | [] => []
  | item :: rest => narrowedThroughout item :: narrowedItems rest

def narrowedEntries : List (String × Document) → List (String × Document)
  | [] => []
  | (key, value) :: rest => (key, narrowedThroughout value) :: narrowedEntries rest

end

def overlayLayer (document : Document) (entries : List (String × Document)) : Document :=
  entries.foldl (fun merged (key, value) => merged.overlayAt (keyPath key) value) document

def integer? (text : List Char) : Option Int :=
  let (negative, digits) := Decimal.takeSign text
  if digits.isEmpty || !digits.all Char.isDigit then none
  else
    let magnitude := Decimal.digitsValue digits
    if negative then (if magnitude ≤ Nat.pow 2 63 then some (-(magnitude : Int)) else none)
    else if magnitude < Nat.pow 2 63 then some magnitude
    else none

def Document.ofInt : Int → Document
  | .ofNat n => .number (.natural n)
  | .negSucc n => .number (.negative (n + 1))

/-- The value of an environment variable: a truth value, an integer, a number, or else a text. -/
def environmentValue (text : String) : Document :=
  match lowered text with
  | "true" => .bool true
  | "false" => .bool false
  | _ =>
      match integer? text.toList, Decimal.readNumber? text.toList with
      | some n, _ => .ofInt n
      | none, some x => .number (.real x)
      | none, none => .text text

def environmentStart : List Char := "memory_".toList

/-- Two underscores separate the keys of a path. -/
def pathOfName : List Char → List Char
  | '_' :: '_' :: rest => '.' :: pathOfName rest
  | c :: rest => c :: pathOfName rest
  | [] => []

/-- The layer of the environment. Variables of other names do not count. -/
def environmentLayer (entries : List (String × String)) : List (String × Document) :=
  entries.filterMap fun (name, value) =>
    let folded := lower name.toList
    if environmentStart.isPrefixOf folded then
      some (String.ofList (pathOfName (folded.drop environmentStart.length)),
        environmentValue value)
    else none

def affirmation? (text : String) : Option Bool :=
  match lowered text with
  | "true" | "on" | "yes" => some true
  | "false" | "off" | "no" => some false
  | _ => none

/-- The nearest whole number of 64 bits without a sign; halves go away from zero. -/
def roundToNatural (x : Float) : Nat := x.round.toUInt64.toNat

def liberalNatural : Decoder Nat
  | .number (.natural n) => some n
  | .number (.negative _) => none
  | .number (.real x) => some (roundToNatural x)
  | .bool value => some (if value then 1 else 0)
  | .text text =>
      match affirmation? text with
      | some value => some (if value then 1 else 0)
      | none =>
          let digits := match text.toList with
            | '+' :: rest => rest
            | all => all
          if digits.isEmpty || !digits.all Char.isDigit then none
          else
            let n := Decimal.digitsValue digits
            if n < Nat.pow 2 64 then some n else none
  | _ => none

def liberalFloat : Decoder Float
  | .number n => some n.toFloat
  | .bool value => some (if value then 1 else 0)
  | .text text =>
      match affirmation? text with
      | some value => some (if value then 1 else 0)
      | none => Decimal.readNumber? text.toList
  | _ => none

def liberalFlag : Decoder Bool
  | .bool value => some value
  | .number n => some (n.toFloat != 0)
  | .text text =>
      match lowered text with
      | "1" => some true
      | "0" => some false
      | _ => affirmation? text
  | _ => none

def liberalText : Decoder String
  | .text value => some value
  | .bool value => some (if value then "true" else "false")
  | .number (.natural n) => some (toString n)
  | .number (.negative n) => some ("-" ++ toString n)
  | .number (.real x) => some (Decimal.plain64 x)
  | _ => none

/-- Scalars stand for each other where their values allow it, and names count in any case. -/
def ScalarRules.liberal : ScalarRules :=
  { text := liberalText, flag := liberalFlag, natural := liberalNatural
    float32 := fun document => (liberalFloat document).map toSingle
    variant := fun names document => (Decoder.text document).bind fun given =>
      names.find? fun name => lowered name == lowered given }

structure SettingsSources where
  /-- The text of the default file, if there is one. -/
  defaultFile : Option String
  /-- The text of the file of choice, if one was chosen; none inside if it cannot be read. -/
  chosenFile : Option (Option String)
  environment : List (String × String)

def fileLayer? (text : String) : Option (List (String × Document)) :=
  match Document.parse? text with
  | some document =>
      match narrowedThroughout document with
      | .table entries => some entries
      | _ => none
  | none => none

inductive LoadFault where
  /-- A file cannot be read, or the layers do not make settings. -/
  | unusable
  | invalid (fault : SettingsFault)

def LoadFault.toSearchError : LoadFault → SearchError
  | unusable => .invalidConfiguration none "settings cannot be read"
  | invalid fault => fault.toSearchError

def SettingsSources.merged? (sources : SettingsSources) : Option Document := do
  let defaults : Document := .table [("log_level", .text Settings.standard.logLevel)]
  let defaultLayer ← match sources.defaultFile with
    | some text => fileLayer? text
    | none => some []
  let chosenLayer ← match sources.chosenFile with
    | some (some text) => fileLayer? text
    | some none => none
    | none => some []
  let layers := [defaultLayer, chosenLayer, environmentLayer sources.environment]
  return layers.foldl overlayLayer defaults

def SettingsSources.load (sources : SettingsSources) : Except LoadFault Settings :=
  match sources.merged?.bind (Settings.decode? .liberal) with
  | none => .error .unusable
  | some settings =>
      match settings.fault? with
      | some fault => .error (.invalid fault)
      | none => .ok settings

end FederatedSearch
