import FederatedSearch.Proofs.Rounding
import FederatedSearch.Ranking.Score

/-!
The two orders of numbers of single precision. Numbers are compared by what they stand for,
and ranked by their bit patterns. The two differ only for zeros, which are equal and still
ranked, and for an undefined result, which is ranked and not comparable. Rankings ask of scores
of any kind that all of them can be ranked.
-/

namespace FederatedSearch

open Float.Model

namespace SinglePrecision

def signOf (bits : BitVec 32) : UnpackedFloat.Sign :=
  if bits.toNat < 2 ^ 31 then .positive else .negative

/-- The pattern without its sign. -/
def magnitude (bits : BitVec 32) : Nat := bits.toNat % 2 ^ 31

/-- The place of a pattern among those of numbers, counted from both zeros. -/
def place (bits : BitVec 32) : Int := (signOf bits).apply (magnitude bits)

/-- How many positive numbers there are up to the one with this mantissa and exponent. -/
def steps (mantissa : Nat) (exponent : Int) : Int := (exponent + 149) * 2 ^ 23 + mantissa

/-- What a pattern stands for. -/
def StandsFor (bits : BitVec 32) : UnpackedFloat → Prop
  | .zero sign => sign = signOf bits ∧ magnitude bits = 0
  | .infinity sign => sign = signOf bits ∧ magnitude bits = 255 * 2 ^ 23
  | .notANumber => 255 * 2 ^ 23 < magnitude bits
  | .finite sign mantissa exponent _ =>
      sign = signOf bits ∧ magnitude bits = steps mantissa exponent ∧
        -149 ≤ exponent ∧ exponent ≤ 104 ∧ mantissa < 2 ^ 24 ∧
        (exponent = -149 ∨ 2 ^ 23 ≤ mantissa)

section

variable (bits : BitVec 32)

theorem mantissa_of_bits :
    (@UnpackedFloat.unpackMantissa .binary32 bits).toNat = bits.toNat % 2 ^ 23 := by
  simp [UnpackedFloat.unpackMantissa]

theorem exponent_of_bits :
    (@UnpackedFloat.unpackExponent .binary32 bits).toNat = bits.toNat / 2 ^ 23 % 2 ^ 8 := by
  simp [UnpackedFloat.unpackExponent, Nat.shiftRight_eq_div_pow]

theorem sign_of_bits :
    UnpackedFloat.Sign.ofBitVec (@UnpackedFloat.unpackSign .binary32 bits) = signOf bits := by
  have sign : (@UnpackedFloat.unpackSign .binary32 bits).toNat = bits.toNat / 2 ^ 31 % 2 := by
    simp [UnpackedFloat.unpackSign, Nat.shiftRight_eq_div_pow]
  have bound : bits.toNat < 2 ^ 32 := bits.isLt
  simp only [UnpackedFloat.Sign.ofBitVec, signOf, ← BitVec.toNat_inj, sign]
  simp
  grind

theorem magnitude_eq : magnitude bits =
    (@UnpackedFloat.unpackExponent .binary32 bits).toNat * 2 ^ 23 +
      (@UnpackedFloat.unpackMantissa .binary32 bits).toNat := by
  rw [mantissa_of_bits, exponent_of_bits, magnitude]
  omega

theorem unpack_stands_for : StandsFor bits (.unpack .binary32 bits) := by
  have size := magnitude_eq bits
  have mantissaBound : (@UnpackedFloat.unpackMantissa .binary32 bits).toNat < 2 ^ 23 :=
    BitVec.isLt _
  have exponentBound : (@UnpackedFloat.unpackExponent .binary32 bits).toNat < 2 ^ 8 :=
    BitVec.isLt _
  have leading : (1#1 ++ @UnpackedFloat.unpackMantissa .binary32 bits).toNat =
      2 ^ 23 + (@UnpackedFloat.unpackMantissa .binary32 bits).toNat := Rounding.leading_bit _
  have ones : (-1#8).toNat = 255 := rfl
  have zeros (width : Nat) : (BitVec.ofNat width 0).toNat = 0 := rfl
  have bias : (Format.binary32.exponentBias : Int) = 127 := rfl
  simp only [UnpackedFloat.unpack, sign_of_bits, ← BitVec.toNat_inj, ones, zeros, leading, bias]
  split
  next top =>
    split
    next exact => simp only [StandsFor, true_and]; omega
    next more => simp only [StandsFor]; omega
  next below =>
    split
    next bottom =>
      split
      next none => simp only [StandsFor, true_and]; omega
      next some => simp only [StandsFor, true_and, steps]; omega
    next normal => simp only [StandsFor, true_and, steps]; omega

end

section

variable {p q : BitVec 32} {sign other : UnpackedFloat.Sign} {m n : Nat} {e f : Int}
variable {hm : 0 < m} {hn : 0 < n}

theorem magnitude_bounds (first : StandsFor p (.finite sign m e hm)) :
    0 < magnitude p ∧ magnitude p < 255 * 2 ^ 23 := by
  simp only [StandsFor, steps] at first
  omega

theorem magnitude_lt (first : StandsFor p (.finite sign m e hm))
    (second : StandsFor q (.finite other n f hn)) (less : e < f) : magnitude p < magnitude q := by
  simp only [StandsFor, steps] at first second
  omega

theorem compare_magnitudes (first : StandsFor p (.finite sign m e hm))
    (second : StandsFor q (.finite other n f hn)) :
    (compare e f).then (compare m n) = compare (magnitude p) (magnitude q) := by
  rcases Int.lt_trichotomy e f with less | rfl | greater
  · have below := magnitude_lt first second less
    rw [Int.compare_eq_lt.mpr less, Nat.compare_eq_lt.mpr below]
    rfl
  · simp only [StandsFor, steps] at first second
    grind [Nat.compare_eq_ite_lt, Int.compare_eq_ite_lt]
  · have above := magnitude_lt second first greater
    rw [Int.compare_eq_gt.mpr greater, Nat.compare_eq_gt.mpr above]
    rfl

end

theorem compare_unpacked {p q : BitVec 32} {x y : UnpackedFloat} (first : StandsFor p x)
    (second : StandsFor q y) (defined : x.isNaN = false) (defined' : y.isNaN = false) :
    x.compare y = some (compare (place p) (place q)) := by
  simp only [place]
  -- The kinds and the signs settle all but two finite numbers, which need their bounds.
  cases x with
  | notANumber => cases defined
  | zero sign | infinity sign =>
      obtain ⟨rfl, size⟩ := first
      cases y with
      | notANumber => cases defined'
      | zero other | infinity other =>
          obtain ⟨rfl, size'⟩ := second
          rw [size, size']
          cases signOf p <;> cases signOf q <;> rfl
      | finite other n f hn =>
          have bounds := magnitude_bounds second
          obtain ⟨rfl, -⟩ := second
          cases signOf p <;> cases signOf q <;>
            grind [UnpackedFloat.compare, UnpackedFloat.Sign.apply, Int.compare_eq_ite_lt]
  | finite sign m e hm =>
      have bounds := magnitude_bounds first
      cases y with
      | notANumber => cases defined'
      | zero other | infinity other =>
          obtain ⟨rfl, -⟩ := first
          obtain ⟨rfl, size'⟩ := second
          cases signOf p <;> cases signOf q <;>
            grind [UnpackedFloat.compare, UnpackedFloat.Sign.apply, Int.compare_eq_ite_lt]
      | finite other n f hn =>
          have bounds' := magnitude_bounds second
          have lexicographic := compare_magnitudes first second
          obtain ⟨rfl, -⟩ := first
          obtain ⟨rfl, -⟩ := second
          cases signOf p <;> cases signOf q <;>
            grind [UnpackedFloat.compare, UnpackedFloat.Sign.apply, Int.compare_eq_ite_lt,
              Nat.compare_eq_ite_lt, Ordering.swap]

end SinglePrecision

namespace Float32

open SinglePrecision

def bits (x : Float32) : BitVec 32 := x.toBits.toBitVec

theorem eq_of_bits {a b : Float32} (same : bits a = bits b) : a = b := by
  obtain ⟨⟨first, _⟩⟩ := a
  obtain ⟨⟨second, _⟩⟩ := b
  cases UInt32.toBitVec_inj.mp same
  rfl

section

variable {x : Float32}

/-- All undefined results are one. -/
theorem bits_of_undefined (undefined : x.isNaN = true) :
    bits x = UnpackedFloat.packedNaN .binary32 := by
  change (UnpackedFloat.unpack .binary32 (bits x)).isNaN = true at undefined
  simp only [UnpackedFloat.unpack] at undefined
  split at undefined
  next top =>
    split at undefined
    next clear => cases undefined
    next payload => exact x.toModel.valid.eq_packedNaN top payload
  next below =>
    split at undefined
    next bottom => split at undefined <;> cases undefined
    next normal => cases undefined

theorem rank_of_defined (defined : x.isNaN = false) :
    rank x =
      if (bits x).toNat < 2 ^ 31 then ((bits x).toNat : Int) else 2 ^ 31 - 1 - (bits x).toNat := by
  rw [rank, defined]
  rfl

theorem undefined_iff_rank : x.isNaN = true ↔ rank x = -2 ^ 32 := by
  have bound : (bits x).toNat < 2 ^ 32 := BitVec.isLt _
  cases undefined : x.isNaN with
  | true =>
      have lowest : rank x = -2 ^ 32 := by
        rw [rank, undefined]
        rfl
      exact iff_of_true rfl lowest
  | false =>
      rw [rank_of_defined undefined]
      grind

theorem place_eq_ite :
    place (bits x) =
      if (bits x).toNat < 2 ^ 31 then ((bits x).toNat : Int) else 2 ^ 31 - (bits x).toNat := by
  have bound : (bits x).toNat < 2 ^ 32 := BitVec.isLt _
  grind [place, signOf, magnitude, UnpackedFloat.Sign.apply]

end

section

variable {a b c : Float32}

/-- No two numbers share a rank. -/
theorem rank_injective (same : rank a = rank b) : a = b := by
  have both : a.isNaN = b.isNaN := by
    rw [Bool.eq_iff_iff, undefined_iff_rank, undefined_iff_rank, same]
  apply eq_of_bits
  cases undefined : a.isNaN with
  | true => rw [bits_of_undefined undefined, bits_of_undefined (both ▸ undefined)]
  | false =>
      rw [rank_of_defined undefined, rank_of_defined (both ▸ undefined)] at same
      apply BitVec.eq_of_toNat_eq
      grind

theorem compare_eq :
    a.toModel.unpack.compare b.toModel.unpack =
      if a.isNaN || b.isNaN then none else some (compare (place (bits a)) (place (bits b))) := by
  change _ = if a.toModel.unpack.isNaN || b.toModel.unpack.isNaN then none else _
  split
  next undefined =>
    cases first : a.toModel.unpack <;> cases second : b.toModel.unpack <;>
      simp_all [UnpackedFloat.isNaN, UnpackedFloat.compare]
  next defined =>
    rw [Bool.not_eq_true, Bool.or_eq_false_iff] at defined
    exact compare_unpacked (unpack_stands_for _) (unpack_stands_for _) defined.1 defined.2

theorem le_iff :
    a ≤ b ↔ a.isNaN = false ∧ b.isNaN = false ∧ place (bits a) ≤ place (bits b) := by
  have compared : a ≤ b ↔ (a.toModel.unpack.compare b.toModel.unpack).any (·.isLE) = true :=
    decide_eq_true_iff
  rw [compared, compare_eq]
  cases a.isNaN <;> cases b.isNaN <;> simp [Int.isLE_compare]

theorem lt_iff :
    a < b ↔ a.isNaN = false ∧ b.isNaN = false ∧ place (bits a) < place (bits b) := by
  have compared : a < b ↔ (a.toModel.unpack.compare b.toModel.unpack == some .lt) = true :=
    decide_eq_true_iff
  rw [compared, compare_eq]
  cases a.isNaN <;> cases b.isNaN <;> simp [Int.compare_eq_lt]

theorem le_trans (first : a ≤ b) (second : b ≤ c) : a ≤ c := by
  rw [le_iff] at first second ⊢
  exact ⟨first.1, second.2.1, Int.le_trans first.2.2 second.2.2⟩

theorem le_of_lt (less : a < b) : a ≤ b := by
  rw [lt_iff] at less
  exact le_iff.mpr ⟨less.1, less.2.1, Int.le_of_lt less.2.2⟩

/-- Among defined numbers the ranks agree with the comparison. -/
theorem le_of_rank_le (first : a.isNaN = false) (second : b.isNaN = false)
    (ranks : rank a ≤ rank b) : a ≤ b := by
  refine le_iff.mpr ⟨first, second, ?_⟩
  rw [rank_of_defined first, rank_of_defined second] at ranks
  rw [place_eq_ite, place_eq_ite]
  grind

end

end Float32

open ScoreArithmetic

class OrderedScores (Score : Type) [ScoreArithmetic Score] : Prop where
  trans : ∀ a b c : Score, atLeast a b = true → atLeast b c = true → atLeast a c = true
  total : ∀ a b : Score, (atLeast a b || atLeast b a) = true

class DistinctScores (Score : Type) [ScoreArithmetic Score] : Prop extends
    OrderedScores Score where
  antisymm : ∀ a b : Score, atLeast a b = true → atLeast b a = true → a = b

theorem at_least_iff {a b : Float32} :
    atLeast a b = true ↔ Float32.rank b ≤ Float32.rank a :=
  decide_eq_true_iff

instance : DistinctScores Float32 where
  trans := by
    intro a b c first second
    rw [at_least_iff] at first second ⊢
    exact Int.le_trans second first
  total := by
    intro a b
    rw [Bool.or_eq_true, at_least_iff, at_least_iff]
    exact Int.le_total (Float32.rank b) (Float32.rank a)
  antisymm := by
    intro a b first second
    rw [at_least_iff] at first second
    exact Float32.rank_injective (Int.le_antisymm second first)

end FederatedSearch
