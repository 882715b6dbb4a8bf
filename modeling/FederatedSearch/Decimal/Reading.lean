/-!
Reading decimal numbers. A scan takes the digits apart; the value is the
floating-point number nearest to the decimal, infinite or zero where the decimal
lies beyond the range.
-/

namespace FederatedSearch.Decimal

def digitValue (c : Char) : Nat := c.toNat - '0'.toNat

def digitsValue (digits : List Char) : Nat :=
  digits.foldl (fun value c => 10 * value + digitValue c) 0

def takeDigits (text : List Char) : List Char × List Char :=
  (text.takeWhile Char.isDigit, text.dropWhile Char.isDigit)

/-- The double nearest to `digits · 10 ^ exponent`. Decimals of more than four hundred
places on either side of the point are beyond the range of the format. -/
def nearest64 (digits : List Char) (exponent : Int) : Float :=
  let significant := digits.dropWhile (· == '0')
  let power := exponent + significant.length
  if significant.isEmpty || power < -400 then 0
  else if 400 < power then 1 / 0
  else if exponent < 0 then Float.ofScientific (digitsValue significant) true exponent.natAbs
  else Float.ofScientific (digitsValue significant) false exponent.natAbs

/-- An optional sign at the front: whether it is a minus, and the rest. -/
def takeSign : List Char → Bool × List Char
  | '-' :: rest => (true, rest)
  | '+' :: rest => (false, rest)
  | text => (false, text)

def readExponent? : List Char → Option Int
  | [] => some 0
  | c :: rest =>
      if c = 'e' ∨ c = 'E' then
        let (negative, digits) := takeSign rest
        if digits.isEmpty || !digits.all Char.isDigit then none
        else some (if negative then -(digitsValue digits : Int) else digitsValue digits)
      else none

/-- An unsigned number: digits with an optional point among or beside them, at least one
digit in all, and an optional exponent. -/
def readMagnitude? (text : List Char) : Option Float :=
  let (whole, afterWhole) := takeDigits text
  let (fraction, afterFraction) := match afterWhole with
    | '.' :: rest => takeDigits rest
    | rest => ([], rest)
  if whole.isEmpty && fraction.isEmpty then none
  else
    (readExponent? afterFraction).map fun exponent =>
      nearest64 (whole ++ fraction) (exponent - fraction.length)

/-- A signed number, or one of the names `inf`, `infinity` and `nan` in any case. -/
def readNumber? (text : List Char) : Option Float :=
  let (negative, magnitude) := takeSign text
  let value := match String.ofList (magnitude.map Char.toLower) with
    | "inf" | "infinity" => some (1 / 0)
    | "nan" => some (0 / 0)
    | _ => readMagnitude? magnitude
  value.map fun x => if negative then -x else x

end FederatedSearch.Decimal
