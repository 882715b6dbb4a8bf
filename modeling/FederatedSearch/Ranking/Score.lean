/-!
The arithmetic of scores. Ranking is written for any kind of numbers that are added,
multiplied, halved, capped and put in order; searches use numbers of single precision.
-/

namespace FederatedSearch

class ScoreArithmetic (Score : Type) extends Add Score, Mul Score where
  zero : Score
  emptySum : Score
  /-- A power of one half. -/
  halfPower : Int → Score
  /-- The score, but no more than one. A score that is no number counts as one. -/
  capped : Score → Score
  /-- The first score ranks no lower than the second. -/
  atLeast : Score → Score → Bool

/-- The place of a number among all scores. Minus zero stands below zero. The total order of
single precision tells undefined results apart by sign and payload; here there is one, which
stands below all numbers, where the order has the undefined result of an operation on numbers. -/
def Float32.rank (x : Float32) : Int :=
  if x.isNaN then -(Nat.pow 2 32 : Nat)
  else
    let bits := x.toBits.toNat
    if bits < Nat.pow 2 31 then bits else (Nat.pow 2 31 : Nat) - 1 - bits

/-- One half to a power, down to zero below the smallest number of single precision. A
negative power is the inverse of the positive one. -/
def Float32.halfPower (power : Int) : Float32 :=
  let halved := Nat.repeat (· * (0.5 : Float32)) (min power.natAbs 150) 1
  if 0 ≤ power then halved else 1 / halved

/-- Sums begin with minus zero, which leaves every number as it is. An undefined sum counts
as one. -/
instance : ScoreArithmetic Float32 where
  zero := 0
  emptySum := -0.0
  halfPower := Float32.halfPower
  capped x := if x.isNaN then 1 else if x < 1 then x else 1
  atLeast a b := Float32.rank b ≤ Float32.rank a

end FederatedSearch
