import FederatedSearch.Proofs.ScoreArithmetic

/-!
Scores as patterns of 32 bits. A number has one pattern. The undefined results have all the
others, with a sign and a payload, and each of them has its own place in the total order: those
of positive sign stand above infinity, those of negative sign below minus infinity. Operations
pass on the first undefined score they are given. What they make of numbers has negative sign if
it is undefined.
-/

namespace FederatedSearch

open Float.Model FederatedSearch.SinglePrecision ScoreArithmetic

structure Pattern where
  bits : BitVec 32
deriving DecidableEq

namespace Pattern

def ofScore (x : Float32) : Pattern := ⟨Float32.bits x⟩

/-- The number with the pattern. All undefined results are one number. -/
def score (p : Pattern) : Float32 := Float32.ofBits (.ofBitVec p.bits)

def isUndefined (p : Pattern) : Bool := 255 * 2 ^ 23 < magnitude p.bits

/-- The undefined result of an operation on numbers. -/
def invalid : Pattern := ⟨0xffc00000⟩

/-- An undefined score as operations pass it on, with its sign and its payload. -/
def quieted (p : Pattern) : Pattern := ⟨p.bits ||| 0x00400000⟩

def combine (operation : Float32 → Float32 → Float32) (a b : Pattern) : Pattern :=
  if a.isUndefined then a.quieted
  else if b.isUndefined then b.quieted
  else
    let result := operation a.score b.score
    if result.isNaN then invalid else ofScore result

def rank (p : Pattern) : Int :=
  if p.bits.toNat < 2 ^ 31 then p.bits.toNat else 2 ^ 31 - 1 - p.bits.toNat

instance : ScoreArithmetic Pattern where
  add := combine (· + ·)
  mul := combine (· * ·)
  zero := ofScore 0
  emptySum := ofScore (-0.0)
  halfPower power := ofScore (Float32.halfPower power)
  capped p := if p.isUndefined then ofScore 1 else if p.score < 1 then p else ofScore 1
  atLeast a b := b.rank ≤ a.rank

variable {a b p : Pattern}

theorem at_least_iff_rank : atLeast a b = true ↔ b.rank ≤ a.rank := decide_eq_true_iff

theorem eq_of_rank (same : a.rank = b.rank) : a = b := by
  have bound : a.bits.toNat < 2 ^ 32 := a.bits.isLt
  have bound' : b.bits.toNat < 2 ^ 32 := b.bits.isLt
  have bits : a.bits = b.bits := by
    apply BitVec.eq_of_toNat_eq
    grind [rank]
  cases a
  cases b
  exact congrArg Pattern.mk bits

instance : DistinctScores Pattern where
  trans := by
    intro a b c first second
    rw [at_least_iff_rank] at first second ⊢
    exact Int.le_trans second first
  total := by
    intro a b
    rw [Bool.or_eq_true, at_least_iff_rank, at_least_iff_rank]
    exact Int.le_total b.rank a.rank
  antisymm := by
    intro a b first second
    rw [at_least_iff_rank] at first second
    exact eq_of_rank (Int.le_antisymm second first)

theorem undefined_iff_unpacked :
    p.isUndefined = true ↔ (UnpackedFloat.unpack .binary32 p.bits).isNaN = true := by
  have stands := unpack_stands_for p.bits
  rw [isUndefined, decide_eq_true_iff]
  cases kind : UnpackedFloat.unpack .binary32 p.bits with
  | notANumber =>
      rw [kind] at stands
      exact iff_of_true stands rfl
  | zero sign | infinity sign =>
      rw [kind, StandsFor] at stands
      apply iff_of_false _ Bool.false_ne_true
      omega
  | finite sign m e positive =>
      rw [kind] at stands
      have bounds := magnitude_bounds stands
      apply iff_of_false _ Bool.false_ne_true
      omega

theorem bits_of_score (defined : p.isUndefined = false) : Float32.bits p.score = p.bits := by
  have valid : Format.binary32.Valid p.bits := by
    constructor
    intro top payload
    have undefined : (UnpackedFloat.unpack .binary32 p.bits).isNaN = true := by
      rw [UnpackedFloat.unpack, if_pos top, if_neg payload]
      rfl
    rw [← undefined_iff_unpacked, defined] at undefined
    cases undefined
  -- Only a valid pattern is one that a number is made of.
  have stored := Float32.ofBits_toBits ⟨⟨.ofBitVec p.bits, valid⟩⟩
  exact congrArg Float32.bits stored

theorem is_nan_of_score : p.score.isNaN = p.isUndefined := by
  cases undefined : p.isUndefined with
  | false =>
      have same : p.score.isNaN = (UnpackedFloat.unpack .binary32 (Float32.bits p.score)).isNaN :=
        rfl
      rw [same, bits_of_score undefined, ← Bool.not_eq_true, ← undefined_iff_unpacked, undefined]
      exact Bool.false_ne_true
  | true =>
      have stored : Float32.number p.score =
          Rounding.stored .binary32 (UnpackedFloat.unpack .binary32 p.bits) := rfl
      rw [undefined_iff_unpacked] at undefined
      rw [Float32.undefined_iff, stored]
      generalize UnpackedFloat.unpack .binary32 p.bits = unpacked at undefined
      cases unpacked with
      | notANumber => exact Rounding.stored_not_a_number
      | zero sign | infinity sign | finite sign m e positive => cases undefined

theorem score_of_score (x : Float32) : (ofScore x).score = x := x.ofBits_toBits

theorem score_half_power (power : Int) :
    (halfPower power : Pattern).score = (halfPower power : Float32) := score_of_score _

theorem is_undefined_of_score (x : Float32) : (ofScore x).isUndefined = x.isNaN := by
  rw [← is_nan_of_score, score_of_score]

theorem score_of_undefined (undefined : p.isUndefined = true) : p.score = invalid.score := by
  apply Float32.eq_of_bits
  rw [← is_nan_of_score] at undefined
  rw [Float32.bits_of_undefined undefined, Float32.bits_of_undefined is_nan_of_score]

theorem quieted_undefined (undefined : p.isUndefined = true) : p.quieted.isUndefined = true := by
  rw [isUndefined, decide_eq_true_iff, magnitude] at undefined ⊢
  apply Nat.lt_of_lt_of_le undefined
  rw [quieted, BitVec.toNat_or, Nat.or_mod_two_pow]
  exact Nat.left_le_or

/-- What is combined stands for the number that the operation makes of numbers. -/
theorem score_of_combine {operation : Float32 → Float32 → Float32}
    (left : ∀ {x y : Float32}, x.isNaN = true → (operation x y).isNaN = true)
    (right : ∀ {x y : Float32}, y.isNaN = true → (operation x y).isNaN = true) :
    (combine operation a b).score = operation a.score b.score := by
  have undefined {p : Pattern} {x : Float32} (first : p.isUndefined = true)
      (second : x.isNaN = true) : p.score = x := by
    rw [score_of_undefined first, ← score_of_score x]
    exact (score_of_undefined ((is_undefined_of_score x).trans second)).symm
  unfold combine
  split
  next first => exact undefined (quieted_undefined first) (left (is_nan_of_score.trans first))
  next =>
    split
    next second => exact undefined (quieted_undefined second) (right (is_nan_of_score.trans second))
    next =>
      dsimp only
      split
      next none => exact undefined rfl none
      next some => exact score_of_score _

theorem score_mul : (a * b).score = a.score * b.score := by
  apply score_of_combine
  · exact Float32.undefined_mul
  · exact Float32.mul_undefined

theorem score_add : (a + b).score = a.score + b.score := by
  apply score_of_combine
  · exact Float32.undefined_add
  · exact Float32.add_undefined

theorem capped_eq : capped p =
    if p.isUndefined then ofScore 1 else if p.score < 1 then p else ofScore 1 := rfl

theorem score_capped : (capped p).score = capped p.score := by
  have single : capped p.score =
      if p.isUndefined then 1 else if p.score < 1 then p.score else 1 := by
    rw [← is_nan_of_score]
    rfl
  rw [single, capped_eq, apply_ite score, apply_ite score, score_of_score]

theorem capped_defined : (capped p).isUndefined = false := by
  have one : (ofScore 1).isUndefined = false := rfl
  rw [capped_eq]
  cases undefined : p.isUndefined with
  | true => exact one
  | false =>
      rw [if_neg Bool.false_ne_true, apply_ite isUndefined, undefined, one, ite_self]

/-- The pattern is that of a number or the one of an undefined result. -/
def Ordinary (p : Pattern) : Prop := p.isUndefined = true → p = invalid

theorem ordinary_combine (operation : Float32 → Float32 → Float32) (first : a.Ordinary)
    (second : b.Ordinary) : (combine operation a b).Ordinary := by
  cases undefined : a.isUndefined with
  | true =>
      rw [combine, if_pos undefined, first undefined]
      exact fun _ => rfl
  | false =>
      cases undefined' : b.isUndefined with
      | true =>
          rw [combine, undefined, if_neg Bool.false_ne_true, if_pos undefined', second undefined']
          exact fun _ => rfl
      | false =>
          simp only [combine, undefined, undefined', Bool.false_eq_true, if_false]
          split
          next => exact fun _ => rfl
          next some =>
            rw [← is_undefined_of_score] at some
            exact fun none => absurd none some

theorem rank_of_score (defined : p.isUndefined = false) : Float32.rank p.score = p.rank := by
  rw [Float32.rank_of_defined (is_nan_of_score.trans defined), bits_of_score defined]
  rfl

theorem invalid_below (defined : p.isUndefined = false) :
    invalid.rank < p.rank ∧ Float32.rank invalid.score < Float32.rank p.score := by
  have bound : p.bits.toNat < 2 ^ 32 := p.bits.isLt
  have place : invalid.rank = -1 - (255 * 2 ^ 23 + 2 ^ 22) := rfl
  have lowest : Float32.rank invalid.score = -2 ^ 32 :=
    Float32.undefined_iff_rank.mp is_nan_of_score
  have above : invalid.rank < p.rank := by
    rw [isUndefined, decide_eq_false_iff_not, magnitude] at defined
    rw [place, rank]
    grind
  apply And.intro above
  rw [lowest, rank_of_score defined]
  omega

/-- Ordinary patterns are ranked as the numbers they stand for. -/
theorem at_least_of_ordinary (first : a.Ordinary) (second : b.Ordinary) :
    atLeast a b = atLeast a.score b.score := by
  rw [Bool.eq_iff_iff, at_least_iff_rank, at_least_iff]
  cases undefined : a.isUndefined <;> cases undefined' : b.isUndefined
  · rw [rank_of_score undefined, rank_of_score undefined']
  · have below := invalid_below undefined
    rw [second undefined']
    exact iff_of_true below.1.le below.2.le
  · have below := invalid_below undefined'
    rw [first undefined]
    exact iff_of_false below.1.not_ge below.2.not_ge
  · rw [first undefined, second undefined']
    exact iff_of_true le_rfl le_rfl

end Pattern

/-- Scores of single precision. What is computed with scores stands for what is computed with
numbers, and numbers are ranked by their patterns. Undefined scores can have any places. -/
class SingleScores (Score : Type) [ScoreArithmetic Score] extends OrderedScores Score where
  single : Score → Float32
  single_mul : ∀ a b, single (a * b) = single a * single b
  single_add : ∀ a b, single (a + b) = single a + single b
  single_empty_sum : single emptySum = -0.0
  single_capped : ∀ a, single (capped a) =
    if (single a).isNaN then 1 else if single a < 1 then single a else 1
  ranked : ∀ a b, (single a).isNaN = false → (single b).isNaN = false →
    (atLeast a b = true ↔ Float32.rank (single b) ≤ Float32.rank (single a))

instance : SingleScores Float32 where
  single x := x
  single_mul _ _ := rfl
  single_add _ _ := rfl
  single_empty_sum := rfl
  single_capped _ := rfl
  ranked _ _ _ _ := at_least_iff

instance : SingleScores Pattern where
  single := Pattern.score
  single_mul _ _ := Pattern.score_mul
  single_add _ _ := Pattern.score_add
  single_empty_sum := Pattern.score_of_score _
  single_capped _ := Pattern.score_capped
  ranked a b first second := by
    rw [Pattern.is_nan_of_score] at first second
    rw [Pattern.at_least_iff_rank, Pattern.rank_of_score first, Pattern.rank_of_score second]

end FederatedSearch
