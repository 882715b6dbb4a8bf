/-!
Binary floating-point numbers taken apart: the value of a bit pattern as a whole
number times a power of two, for the formats of 32 and of 64 bits.
-/

namespace FederatedSearch.Decimal

/-- The layout of a binary format: the sign above `exponentBits` above `fractionBits`. -/
structure BinaryFormat where
  exponentBits : Nat
  fractionBits : Nat

def BinaryFormat.binary32 : BinaryFormat := ⟨8, 23⟩

def BinaryFormat.binary64 : BinaryFormat := ⟨11, 52⟩

def BinaryFormat.minExponent (format : BinaryFormat) : Int :=
  2 - (Nat.pow 2 (format.exponentBits - 1) : Nat) - format.fractionBits

/-- What a bit pattern stands for. A finite number is `mantissa · 2 ^ exponent` with a sign. -/
inductive BinaryValue where
  | finite (negative : Bool) (mantissa : Nat) (exponent : Int)
  | infinite (negative : Bool)
  | notANumber

def BinaryFormat.decode (format : BinaryFormat) (bits : Nat) : BinaryValue :=
  let fraction := bits % Nat.pow 2 format.fractionBits
  let field := bits / Nat.pow 2 format.fractionBits % Nat.pow 2 format.exponentBits
  let negative := bits / Nat.pow 2 (format.fractionBits + format.exponentBits) % 2 == 1
  if field = Nat.pow 2 format.exponentBits - 1 then
    if fraction = 0 then .infinite negative else .notANumber
  else if field = 0 then .finite negative fraction format.minExponent
  else
    .finite negative (Nat.pow 2 format.fractionBits + fraction) (format.minExponent + (field - 1))

/-- The lower neighbour lies at half the distance of the upper one: the number is the
first with its exponent, and not of the smallest exponent. -/
def BinaryFormat.isBinadeStart (format : BinaryFormat) (mantissa : Nat) (exponent : Int) : Bool :=
  mantissa == Nat.pow 2 format.fractionBits && format.minExponent < exponent

end FederatedSearch.Decimal
