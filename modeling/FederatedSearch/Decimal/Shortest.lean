import FederatedSearch.Decimal.Binary

/-!
The shortest decimal that reads back as a given binary number. All reals nearer to
the number than to its neighbours read back as it; the ends of that interval do so
if the mantissa is even. Among the decimals of the interval with the fewest digits
the nearest one is taken, and of two equally near ones the larger.
-/

namespace FederatedSearch.Decimal

/-- The number `digits · 10 ^ exponent`. -/
structure DecimalNumber where
  digits : Nat
  exponent : Int

def digitCount (n : Nat) : Nat :=
  if _positive : n = 0 then 0 else digitCount (n / 10) + 1
termination_by n

/-- The power of ten at which the positive fraction begins: `10 ^ (k - 1) ≤ num / den < 10 ^ k`. -/
def leadingPower (num den : Nat) : Int :=
  if den ≤ num then digitCount (num / den) else 1 - digitCount ((den + num - 1) / num - 1)

/-- The interval of the reals that read back as one number, over a common denominator. -/
structure ReadingInterval where
  low : Nat
  value : Nat
  high : Nat
  denominator : Nat
  endsIncluded : Bool

def ReadingInterval.of (format : BinaryFormat) (mantissa : Nat) (exponent : Int) :
    ReadingInterval :=
  let scale := Nat.pow 2 exponent.toNat
  let below := if format.isBinadeStart mantissa exponent then 1 else 2
  { low := (4 * mantissa - below) * scale
    value := 4 * mantissa * scale
    high := (4 * mantissa + 2) * scale
    denominator := 4 * Nat.pow 2 (-exponent).toNat
    endsIncluded := mantissa % 2 == 0 }

def ReadingInterval.contains (interval : ReadingInterval) (digits : Nat) (power : Int) : Bool :=
  let scaled := digits * Nat.pow 10 power.toNat * interval.denominator
  let shift := Nat.pow 10 (-power).toNat
  if interval.endsIncluded then
    interval.low * shift ≤ scaled && scaled ≤ interval.high * shift
  else interval.low * shift < scaled && scaled < interval.high * shift

/-- The decimal of the grid `10 ^ power` in the interval that is nearest to the value, if the
interval holds one: it is one of the value's two neighbours on the grid. -/
def ReadingInterval.onGrid? (interval : ReadingInterval) (power : Int) : Option Nat :=
  let num := interval.value * Nat.pow 10 (-power).toNat
  let den := interval.denominator * Nat.pow 10 power.toNat
  let floor := num / den
  let upperNearer := den ≤ 2 * (num % den)
  match interval.contains floor power, interval.contains (floor + 1) power with
  | true, true => some (if upperNearer then floor + 1 else floor)
  | true, false => some floor
  | false, true => some (floor + 1)
  | false, false => none

/-- The first grid with a decimal of the interval, from the coarsest of `count` grids on. -/
def ReadingInterval.search (interval : ReadingInterval) (power : Int) : Nat → DecimalNumber
  | 0 => ⟨(interval.onGrid? power).getD 0, power⟩
  | count + 1 =>
      match interval.onGrid? power with
      | some digits => ⟨digits, power⟩
      | none => interval.search (power - 1) count

def DecimalNumber.strip (number : DecimalNumber) : DecimalNumber :=
  if number.digits % 10 = 0 ∧ number.digits ≠ 0 then
    DecimalNumber.strip ⟨number.digits / 10, number.exponent + 1⟩
  else number
termination_by number.digits

/-- The shortest decimal of the positive number `mantissa · 2 ^ exponent`. Seventeen digits
are always enough. -/
def shortest (format : BinaryFormat) (mantissa : Nat) (exponent : Int) : DecimalNumber :=
  let interval := ReadingInterval.of format mantissa exponent
  let top := leadingPower interval.value interval.denominator
  (interval.search (top - 1) 17).strip

end FederatedSearch.Decimal
