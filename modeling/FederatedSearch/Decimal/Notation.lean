import FederatedSearch.Decimal.Shortest

/-!
Texts of numbers: a decimal laid out positionally or with an exponent, and the two
ways in which this library writes floating-point numbers. `plain` never uses an
exponent and writes whole numbers without a point; `marked` shows by a point or an
exponent that the number is not an integer.
-/

namespace FederatedSearch.Decimal

def zeros (count : Nat) : List Char := List.replicate count '0'

def DecimalNumber.positional (number : DecimalNumber) : List Char :=
  let digits := (Nat.toDigits 10 number.digits)
  if 0 ≤ number.exponent then digits ++ zeros number.exponent.toNat
  else
    let places := (-number.exponent).toNat
    if places < digits.length then
      digits.take (digits.length - places) ++ '.' :: digits.drop (digits.length - places)
    else '0' :: '.' :: zeros (places - digits.length) ++ digits

/-- The number as one digit before the point and a power of ten. -/
def DecimalNumber.scientific (number : DecimalNumber) : List Char :=
  let digits := Nat.toDigits 10 number.digits
  let power := number.exponent + digits.length - 1
  let fraction := digits.drop 1
  digits.take 1 ++ (if fraction.isEmpty then [] else '.' :: fraction) ++
    'e' :: (if power < 0 then '-' :: Nat.toDigits 10 power.natAbs
      else Nat.toDigits 10 power.natAbs)

structure NumberStyle where
  /-- Whole numbers end in `.0`. -/
  wholePoint : Bool
  /-- The leading powers of ten that are written positionally; without bounds, all. -/
  positionalPowers : Option (Int × Int)

def NumberStyle.plain : NumberStyle := ⟨false, none⟩

/-- Never mistaken for an integer; positional from `10 ^ -4` to below `10 ^ 16`. -/
def NumberStyle.marked : NumberStyle := ⟨true, some (-4, 15)⟩

def NumberStyle.writeDecimal (style : NumberStyle) (number : DecimalNumber) : List Char :=
  let power := number.exponent + digitCount number.digits - 1
  let positionally := match style.positionalPowers with
    | none => true
    | some (least, greatest) => least ≤ power && power ≤ greatest
  if positionally then
    number.positional ++ (if style.wholePoint && 0 ≤ number.exponent then ['.', '0'] else [])
  else number.scientific

def NumberStyle.writeMagnitude (style : NumberStyle) (format : BinaryFormat)
    (mantissa : Nat) (exponent : Int) : List Char :=
  if mantissa = 0 then (if style.wholePoint then ['0', '.', '0'] else ['0'])
  else style.writeDecimal (shortest format mantissa exponent)

/-- A number of a binary format, given by its bits. Zero keeps its sign. -/
def NumberStyle.write (style : NumberStyle) (format : BinaryFormat) (bits : Nat) : String :=
  let signed (negative : Bool) (text : List Char) := if negative then '-' :: text else text
  String.ofList <| match format.decode bits with
    | .notANumber => ['N', 'a', 'N']
    | .infinite negative => signed negative ['i', 'n', 'f']
    | .finite negative mantissa exponent =>
        signed negative (style.writeMagnitude format mantissa exponent)

def plain32 (x : Float32) : String := NumberStyle.plain.write .binary32 x.toBits.toNat

def plain64 (x : Float) : String := NumberStyle.plain.write .binary64 x.toBits.toNat

def marked64 (x : Float) : String := NumberStyle.marked.write .binary64 x.toBits.toNat

end FederatedSearch.Decimal
