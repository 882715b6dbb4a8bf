import FederatedSearch.Decimal.Notation
import FederatedSearch.Document.Basic

/-!
Writing documents as text, without white space. Quotes, backslashes and control
characters are escaped, all other characters stand for themselves.
-/

namespace FederatedSearch.Document

open FederatedSearch.Decimal

def writeCode (c : Char) : List Char :=
  let digits := Nat.toDigits 16 c.toNat
  ['\\', 'u'] ++ List.replicate (4 - digits.length) '0' ++ digits

def writeChar (c : Char) : List Char :=
  if c = '"' then ['\\', '"']
  else if c = '\\' then ['\\', '\\']
  else if c = '\n' then ['\\', 'n']
  else if c = '\r' then ['\\', 'r']
  else if c = '\t' then ['\\', 't']
  else if c.toNat < 0x20 then writeCode c
  else [c]

def writeText (s : String) : String :=
  String.ofList ('"' :: s.toList.flatMap writeChar ++ ['"'])

/-- A double that is not finite has no written form and becomes the null value. -/
def writeNumeral : Numeral → String
  | .natural n => toString n
  | .negative n => "-" ++ toString n
  | .real x => if x.isFinite then marked64 x else "null"

mutual

def write : Document → String
  | .null => "null"
  | .bool value => if value then "true" else "false"
  | .number value => writeNumeral value
  | .text value => writeText value
  | .list items => "[" ++ ",".intercalate (writeItems items) ++ "]"
  | .table entries => "\x7b" ++ ",".intercalate (writeEntries entries) ++ "\x7d"

def writeItems : List Document → List String
  | [] => []
  | item :: rest => write item :: writeItems rest

def writeEntries : List (String × Document) → List String
  | [] => []
  | (key, value) :: rest => (writeText key ++ ":" ++ write value) :: writeEntries rest

end

end FederatedSearch.Document
