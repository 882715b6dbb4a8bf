import FederatedSearch.Text.CodeRange
import FederatedSearch.Text.HiddenCharacters

/-!
Quoted texts as they stand in error messages: between double quotes, with
backslash escapes for quotes, backslashes, line ends and tabs, and with the code
of every character that would not show.
-/

namespace FederatedSearch.Text

def isHidden : Char → Bool := inRanges hiddenRanges

/-- A character by its code: `\u`, then hexadecimal digits between braces. -/
def codeEscape (c : Char) : List Char :=
  ['\\', 'u', '\x7b'] ++ Nat.toDigits 16 c.toNat ++ ['\x7d']

def quoteChar (c : Char) : List Char :=
  if c = '"' then ['\\', '"']
  else if c = '\\' then ['\\', '\\']
  else if c = '\n' then ['\\', 'n']
  else if c = '\r' then ['\\', 'r']
  else if c = '\t' then ['\\', 't']
  else if c = '\x00' then ['\\', '0']
  else if isHidden c then codeEscape c
  else [c]

def quote (text : List Char) : List Char := '"' :: text.flatMap quoteChar ++ ['"']

def quoted (s : String) : String := String.ofList (quote s.toList)

end FederatedSearch.Text
