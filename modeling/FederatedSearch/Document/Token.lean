import FederatedSearch.Decimal.Reading
import FederatedSearch.Document.Basic

/-!
The tokens of a document's text: punctuation, the three named values, numbers and
strings, with white space of four characters between them.
-/

namespace FederatedSearch.Document

open FederatedSearch.Decimal

inductive Token where
  | openList | closeList | openTable | closeTable | comma | colon
  /-- A value without parts. -/
  | scalar (value : Document)

/-- Integers of 64 bits are exact; minus zero is no integer. An infinite double is refused. -/
def numeral? (negative : Bool) (whole fraction : List Char) (isInteger : Bool) (exponent : Int) :
    Option Numeral :=
  let magnitude := digitsValue whole
  if isInteger && !negative && magnitude < Nat.pow 2 64 then some (.natural magnitude)
  else if isInteger && negative && 0 < magnitude && magnitude ≤ Nat.pow 2 63 then
    some (.negative magnitude)
  else
    let x := nearest64 (whole ++ fraction) (exponent - fraction.length)
    if x.isFinite then some (.real (if negative then -x else x)) else none

/-- A number at the front of a text: no leading zeros, digits on both sides of a point. -/
def readNumeral? (input : List Char) : Option (Numeral × List Char) :=
  let (negative, unsigned) := match input with
    | '-' :: rest => (true, rest)
    | _ => (false, input)
  let (whole, afterWhole) := match unsigned with
    | '0' :: rest => (['0'], rest)
    | _ => takeDigits unsigned
  let (pointed, fraction, afterFraction) := match afterWhole with
    | '.' :: rest => (true, takeDigits rest)
    | rest => (false, [], rest)
  let (powered, sign, power, afterPower) := match afterFraction with
    | 'e' :: rest | 'E' :: rest =>
        let (sign, digits) := takeSign rest
        (true, sign, takeDigits digits)
    | rest => (false, false, [], rest)
  if whole.isEmpty || (pointed && fraction.isEmpty) || (powered && power.isEmpty) then none
  else
    let exponent : Int := if sign then -(digitsValue power : Int) else digitsValue power
    (numeral? negative whole fraction (!pointed && !powered) exponent).map (·, afterPower)

def readHex? (input : List Char) : Option (Nat × List Char) :=
  let digit? (c : Char) : Option Nat :=
    if c.isDigit then some (c.toNat - '0'.toNat)
    else if 'a' ≤ c ∧ c ≤ 'f' then some (c.toNat - 'a'.toNat + 10)
    else if 'A' ≤ c ∧ c ≤ 'F' then some (c.toNat - 'A'.toNat + 10)
    else none
  match input with
  | a :: b :: c :: d :: rest => do
      return ((((← digit? a) * 16 + (← digit? b)) * 16 + (← digit? c)) * 16 + (← digit? d), rest)
  | _ => none

def simpleEscape? : Char → Option Char
  | '"' => some '"'
  | '\\' => some '\\'
  | '/' => some '/'
  | 'b' => some '\x08'
  | 'f' => some '\x0c'
  | 'n' => some '\n'
  | 'r' => some '\r'
  | 't' => some '\t'
  | _ => none

/-- The character of an escape by code, read behind `\u`; one beyond the basic plane takes a
pair of codes, and half a pair alone is refused. -/
def readCode? (input : List Char) : Option (Char × List Char) := do
  let (high, rest) ← readHex? input
  if 0xD800 ≤ high ∧ high < 0xDC00 then
    match rest with
    | '\\' :: 'u' :: more =>
        let (low, after) ← readHex? more
        if 0xDC00 ≤ low ∧ low < 0xE000 then
          some (Char.ofNat (0x10000 + (high - 0xD800) * 0x400 + (low - 0xDC00)), after)
        else none
    | _ => none
  else if 0xDC00 ≤ high ∧ high < 0xE000 then none
  else some (Char.ofNat high, rest)

def readStringStep? : List Char → Option (Option Char × List Char)
  | [] => none
  | '"' :: rest => some (none, rest)
  | '\\' :: 'u' :: rest => (readCode? rest).map fun (c, after) => (some c, after)
  | '\\' :: c :: rest => (simpleEscape? c).map fun d => (some d, rest)
  | c :: rest => if c = '\\' ∨ c.toNat < 0x20 then none else some (some c, rest)

/-- A string behind its opening quote, of at most so many characters. -/
def readString? : Nat → List Char → Option (List Char × List Char)
  | 0, _ => none
  | bound + 1, input =>
      match readStringStep? input with
      | none => none
      | some (none, rest) => some ([], rest)
      | some (some c, rest) => (readString? bound rest).map fun (cs, after) => (c :: cs, after)

def isSpace (c : Char) : Bool := c == ' ' || c == '\n' || c == '\t' || c == '\r'

def readToken? (input : List Char) : Option (Token × List Char) :=
  match input with
  | '[' :: rest => some (.openList, rest)
  | ']' :: rest => some (.closeList, rest)
  | '\x7b' :: rest => some (.openTable, rest)
  | '\x7d' :: rest => some (.closeTable, rest)
  | ',' :: rest => some (.comma, rest)
  | ':' :: rest => some (.colon, rest)
  | 'n' :: 'u' :: 'l' :: 'l' :: rest => some (.scalar .null, rest)
  | 't' :: 'r' :: 'u' :: 'e' :: rest => some (.scalar (.bool true), rest)
  | 'f' :: 'a' :: 'l' :: 's' :: 'e' :: rest => some (.scalar (.bool false), rest)
  | '"' :: rest =>
      (readString? (rest.length + 1) rest).map fun (cs, after) =>
        (.scalar (.text (String.ofList cs)), after)
  | _ => (readNumeral? input).map fun (n, after) => (.scalar (.number n), after)

def readTokens? : Nat → List Char → Option (List Token)
  | 0, input => if (input.dropWhile isSpace).isEmpty then some [] else none
  | bound + 1, input =>
      let input := input.dropWhile isSpace
      if input.isEmpty then some []
      else
        match readToken? input with
        | none => none
        | some (token, rest) => (readTokens? bound rest).map (token :: ·)

def tokens? (input : List Char) : Option (List Token) := readTokens? input.length input

end FederatedSearch.Document
