import FederatedSearch.Decimal.Notation

/-!
Numbers with a fixed count of decimal places, rounded from the exact value; of two
equally near results the one with an even last digit is taken.
-/

namespace FederatedSearch.Decimal

def roundHalfEven (num den : Nat) : Nat :=
  let floor := num / den
  let double := 2 * (num % den)
  if double < den then floor
  else if den < double then floor + 1
  else if floor % 2 = 0 then floor else floor + 1

/-- A count of `10 ^ -places` written with that many places. -/
def writePlaces (places count : Nat) : List Char :=
  let fraction := Nat.toDigits 10 (count % Nat.pow 10 places)
  Nat.toDigits 10 (count / Nat.pow 10 places) ++ '.' :: zeros (places - fraction.length) ++ fraction

def fixed64 (places : Nat) (x : Float) : String :=
  String.ofList <| match BinaryFormat.binary64.decode x.toBits.toNat with
    | .notANumber => ['N', 'a', 'N']
    | .infinite _ => ['i', 'n', 'f']
    | .finite _ mantissa exponent =>
        writePlaces places
          (roundHalfEven (mantissa * Nat.pow 2 exponent.toNat * Nat.pow 10 places)
            (Nat.pow 2 (-exponent).toNat))

end FederatedSearch.Decimal
