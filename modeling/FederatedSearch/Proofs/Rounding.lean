import Mathlib

/-!
Rounding to a format of floating-point numbers. Whatever a number is rounded to, rounding keeps
its order to every number of the format: what is at most a number of the format stays so, and
what is at least such a number stays so.
-/

namespace FederatedSearch.Rounding

open Float.Model (Format UnpackedFloat totalExponent)
open Float.Model.UnpackedFloat

noncomputable def scaled (mantissa : ℕ) (exponent : ℤ) : ℝ := mantissa * (2 : ℝ) ^ exponent

section

variable {m n k : ℕ} {e f : ℤ}

theorem scaled_le_iff : scaled m e ≤ scaled n e ↔ m ≤ n := by
  have positive : (0 : ℝ) < 2 ^ e := by positivity
  rw [scaled, scaled, mul_le_mul_iff_left₀ positive, Nat.cast_le]

theorem scaled_lt_iff : scaled m e < scaled n e ↔ m < n := by
  rw [← not_le, scaled_le_iff, not_le]

theorem scaled_eq_iff : scaled m e = scaled n e ↔ m = n := by
  rw [le_antisymm_iff, scaled_le_iff, scaled_le_iff, ← le_antisymm_iff]

theorem scaled_shift (m k : ℕ) (e : ℤ) : scaled (m * 2 ^ k) e = scaled m (e + k) := by
  rw [scaled, scaled, zpow_add₀ two_ne_zero, zpow_natCast]
  push_cast
  ring

theorem scaled_power (k : ℕ) (e : ℤ) : scaled (2 ^ k) e = 2 ^ (k + e) := by
  rw [scaled, zpow_add₀ two_ne_zero, zpow_natCast]
  push_cast
  ring

theorem scaled_nonneg (m : ℕ) (e : ℤ) : 0 ≤ scaled m e := by
  unfold scaled
  positivity

end

/-- How far the mantissa and the two bits behind it determine a number: it lies less than one
unit above the mantissa, and at the mantissa itself exactly if both bits are clear. -/
structure Locates (em : ExtendedMantissa) (exponent : ℤ) (x : ℝ) : Prop where
  below : scaled em.mantissa exponent ≤ x
  above : x < scaled (em.mantissa + 1) exponent
  exact_iff : (em.roundBit || em.stickyBit) = false ↔ x = scaled em.mantissa exponent

namespace Locates

variable {em : ExtendedMantissa} {e : ℤ} {x : ℝ}

theorem shift_one (located : Locates em e x) : Locates em.shiftRightOne (e + 1) x := by
  have half (n : ℕ) : scaled n (e + 1) = scaled (n * 2) e := by
    rw [← pow_one 2, scaled_shift, Nat.cast_one]
  have kept : scaled (em.mantissa / 2 * 2) e ≤ scaled em.mantissa e := by
    rw [scaled_le_iff]
    omega
  constructor
  · rw [ExtendedMantissa.shiftRightOne, half]
    exact kept.trans located.below
  · simp only [ExtendedMantissa.shiftRightOne, half]
    apply located.above.trans_le
    rw [scaled_le_iff]
    omega
  · simp only [ExtendedMantissa.shiftRightOne, half, Bool.or_eq_false_iff (x := _ != _),
      located.exact_iff, bne_eq_false_iff_eq]
    constructor
    · rintro ⟨even, exact⟩
      rw [exact, scaled_eq_iff]
      omega
    · intro exact
      have same : scaled (em.mantissa / 2 * 2) e = scaled em.mantissa e :=
        le_antisymm kept (exact ▸ located.below)
      rw [exact, same]
      rw [scaled_eq_iff] at same
      exact ⟨by omega, rfl⟩

theorem shift (located : Locates em e x) (k : ℕ) : Locates (em >>> k) (e + k) x := by
  induction k with
  | zero =>
      rw [Nat.cast_zero, add_zero]
      exact located
  | succ k induction =>
      have step := induction.shift_one
      rw [add_assoc] at step
      exact step

theorem rounded_bounds (em : ExtendedMantissa) :
    em.mantissa ≤ em.roundedMantissa ∧ em.roundedMantissa ≤ em.mantissa + 1 ∧
      ((em.roundBit || em.stickyBit) = false → em.roundedMantissa = em.mantissa) := by
  obtain ⟨mantissa, roundBit, stickyBit⟩ := em
  cases roundBit <;> cases stickyBit <;>
    simp [ExtendedMantissa.roundedMantissa, ExtendedMantissa.accuracy,
      Accuracy.roundToNearestEven]
  omega

theorem rounded_le (located : Locates em e x) {c : ℕ} (atMost : x ≤ scaled c e) :
    em.roundedMantissa ≤ c := by
  obtain ⟨-, upper, exact⟩ := rounded_bounds em
  by_cases clear : (em.roundBit || em.stickyBit) = false
  · rw [exact clear, ← scaled_le_iff (e := e)]
    exact located.below.trans atMost
  · have strict : scaled em.mantissa e < x :=
      lt_of_le_of_ne located.below fun same => clear (located.exact_iff.mpr same.symm)
    have below := scaled_lt_iff.mp (strict.trans_le atMost)
    omega

theorem le_rounded (located : Locates em e x) {c : ℕ} (atLeast : scaled c e ≤ x) :
    c ≤ em.roundedMantissa := by
  have above := scaled_lt_iff.mp (atLeast.trans_lt located.above)
  have lower := (rounded_bounds em).1
  omega

end Locates

/-- What an accuracy says about a number near a mantissa. -/
def Approximates (x : ℝ) (mantissa : ℕ) (exponent : ℤ) : Accuracy → Prop
  | .exact => x = scaled mantissa exponent
  | .inexact _ => scaled mantissa exponent < x ∧ x < scaled (mantissa + 1) exponent

theorem mantissa_of_accuracy (m : ℕ) (accuracy : Accuracy) :
    (ExtendedMantissa.ofMantissaAndAccuracy m accuracy).mantissa = m := by
  rcases accuracy with _ | order
  · rfl
  · cases order <;> rfl

theorem Approximates.locates {x : ℝ} {m : ℕ} {e : ℤ} {accuracy : Accuracy}
    (approximates : Approximates x m e accuracy) :
    Locates (.ofMantissaAndAccuracy m accuracy) e x := by
  have next : scaled m e < scaled (m + 1) e := by
    rw [scaled_lt_iff]
    omega
  cases accuracy with
  | exact =>
      rw [Approximates] at approximates
      subst approximates
      exact ⟨le_refl _, next, by simp [ExtendedMantissa.ofMantissaAndAccuracy]⟩
  | inexact order =>
      obtain ⟨below, above⟩ := approximates
      cases order <;>
        exact ⟨below.le, above, by simp [ExtendedMantissa.ofMantissaAndAccuracy, below.ne']⟩

variable (spec : Format)

structure InForm (mantissa : ℕ) (exponent : ℤ) : Prop where
  narrow : mantissa < 2 ^ spec.mantissaBits
  lowest : spec.minExponent ≤ exponent
  full : exponent = spec.minExponent ∨ 2 ^ spec.mantissaBitsWithoutImplicit ≤ mantissa

def Canonical : UnpackedFloat → Prop
  | .zero _ => True
  | .finite _ mantissa exponent _ => InForm spec mantissa exponent
  | _ => False

noncomputable def size : UnpackedFloat → ℝ
  | .finite _ mantissa exponent _ => scaled mantissa exponent
  | _ => 0

def HasSign (sign : Sign) : UnpackedFloat → Prop
  | .zero own | .finite own _ _ _ | .infinity own => own = sign
  | .notANumber => False

/-- The number that a positive real number is rounded to, with a sign. -/
structure RoundsTo (sign : Sign) (x : ℝ) (rounded : UnpackedFloat) : Prop where
  sign : HasSign sign rounded
  canonical : Canonical spec rounded
  le : ∀ y, Canonical spec y → x ≤ size y → size rounded ≤ size y
  ge : ∀ y, Canonical spec y → size y ≤ x → size y ≤ size rounded

variable {spec}

theorem mantissa_bits_eq : spec.mantissaBits = spec.mantissaBitsWithoutImplicit + 1 := by
  rw [Format.mantissaBits, Nat.add_comm]

theorem Canonical.in_form {y : UnpackedFloat} (canonical : Canonical spec y) :
    ∃ m e, InForm spec m e ∧ size y = scaled m e := by
  cases y with
  | zero sign =>
      have none : size (.zero sign) = 0 := rfl
      refine ⟨0, spec.minExponent, ⟨by positivity, le_refl _, .inl rfl⟩, ?_⟩
      rw [none, scaled, Nat.cast_zero, zero_mul]
  | finite sign m e positive => exact ⟨m, e, canonical, rfl⟩
  | infinity | notANumber => cases canonical

theorem scaled_lt_top {m n : ℕ} {e f : ℤ} (narrow : m < 2 ^ spec.mantissaBits)
    (full : 2 ^ spec.mantissaBitsWithoutImplicit ≤ n) (less : e < f) : scaled m e < scaled n f := by
  calc scaled m e < scaled (2 ^ spec.mantissaBits) e := scaled_lt_iff.mpr narrow
    _ = 2 ^ (spec.mantissaBits + e) := scaled_power _ _
    _ ≤ 2 ^ (spec.mantissaBitsWithoutImplicit + f) := by
        apply zpow_le_zpow_right₀ one_le_two
        rw [mantissa_bits_eq]
        omega
    _ = scaled (2 ^ spec.mantissaBitsWithoutImplicit) f := (scaled_power _ _).symm
    _ ≤ scaled n f := scaled_le_iff.mpr full

theorem InForm.exponent_le {m n : ℕ} {e f : ℤ} (first : InForm spec m e)
    (second : InForm spec n f) (atMost : scaled m e ≤ scaled n f) : e ≤ f := by
  by_contra greater
  rw [not_le] at greater
  have full := first.full.resolve_left fun lowest => by have := second.lowest; omega
  exact absurd atMost (not_le.mpr (scaled_lt_top second.narrow full greater))

/-- A number that lies at a mantissa, at an exponent that is either the lowest or small enough
for the mantissa to fill its bits. -/
structure Fitting (spec : Format) (em : ExtendedMantissa) (exponent : ℤ) (x : ℝ) : Prop where
  located : Locates em exponent x
  lowest : spec.minExponent ≤ exponent
  bounded : x ≤ scaled (2 ^ spec.mantissaBits) exponent
  full : exponent = spec.minExponent ∨
    scaled (2 ^ spec.mantissaBitsWithoutImplicit) exponent ≤ x

theorem first_shift {x : ℝ} {m : ℕ} {e : ℤ} {accuracy : Accuracy}
    (approximates : Approximates x m e accuracy)
    (wide : e ≤ spec.targetExponent (totalExponent m e)) :
    Fitting spec (shiftToTargetExponent spec m e accuracy).1
      (shiftToTargetExponent spec m e accuracy).2 x := by
  have located := approximates.locates
  have target : (shiftToTargetExponent spec m e accuracy).2 =
      spec.targetExponent (totalExponent m e) := by
    simp only [shiftToTargetExponent, shiftToExponent]
    omega
  have shifted := located.shift (spec.targetExponent (totalExponent m e) - e).toNat
  rw [Int.toNat_of_nonneg (by omega), add_sub_cancel] at shifted
  rw [target]
  have bits := @mantissa_bits_eq spec
  have positive := spec.hm
  have above := located.above
  have below := located.below
  rw [mantissa_of_accuracy] at above below
  constructor
  · exact shifted
  · exact le_max_right _ _
  · calc x ≤ scaled (m + 1) e := above.le
      _ ≤ scaled (2 ^ (m.log2 + 1)) e := scaled_le_iff.mpr Nat.lt_log2_self
      _ = 2 ^ ((m.log2 + 1 : ℕ) + e) := scaled_power _ _
      _ ≤ 2 ^ (spec.mantissaBits + spec.targetExponent (totalExponent m e)) := by
          apply zpow_le_zpow_right₀ one_le_two
          rw [Format.targetExponent, totalExponent]
          omega
      _ = scaled (2 ^ spec.mantissaBits) (spec.targetExponent (totalExponent m e)) :=
          (scaled_power _ _).symm
  · by_cases lowest : spec.targetExponent (totalExponent m e) = spec.minExponent
    · exact .inl lowest
    · right
      rw [Format.targetExponent, totalExponent] at lowest wide ⊢
      have filled : m ≠ 0 := by
        rintro rfl
        rw [Nat.log2_zero] at lowest wide
        omega
      calc scaled (2 ^ spec.mantissaBitsWithoutImplicit) _ = 2 ^ (m.log2 + e) := by
            rw [scaled_power]
            apply congrArg
            omega
        _ = scaled (2 ^ m.log2) e := (scaled_power _ _).symm
        _ ≤ scaled m e := scaled_le_iff.mpr (Nat.log2_self_le filled)
        _ ≤ x := below

/-- The second shift only takes the carry of a mantissa that was rounded up to a power of two. -/
theorem carry_shift {r : ℕ} {e : ℤ} (lowest : spec.minExponent ≤ e)
    (bounded : r ≤ 2 ^ spec.mantissaBits) :
    shiftToTargetExponent spec r e .exact =
      if r = 2 ^ spec.mantissaBits then
        (⟨2 ^ spec.mantissaBitsWithoutImplicit, false, false⟩, e + 1)
      else (⟨r, false, false⟩, e) := by
  have bits := @mantissa_bits_eq spec
  split
  next carry =>
    have target : spec.targetExponent (totalExponent r e) = e + 1 := by
      rw [carry, Format.targetExponent, totalExponent, Nat.log2_two_pow]
      omega
    have half : 2 ^ spec.mantissaBits / 2 = 2 ^ spec.mantissaBitsWithoutImplicit := by
      rw [bits, pow_succ, Nat.mul_div_cancel _ two_pos]
    have even : 2 ^ spec.mantissaBits % 2 = 0 := by
      rw [bits, pow_succ, Nat.mul_mod_left]
    simp only [shiftToTargetExponent, shiftToExponent, target, add_sub_cancel_left]
    change (ExtendedMantissa.shiftRightOne ⟨r, false, false⟩, e + 1) = _
    rw [ExtendedMantissa.shiftRightOne, carry, half, even]
    rfl
  next kept =>
    have narrow : r < 2 ^ spec.mantissaBits := lt_of_le_of_ne bounded kept
    have target : spec.targetExponent (totalExponent r e) ≤ e := by
      have width : r.log2 < spec.mantissaBits := by
        by_cases zero : r = 0
        · rw [zero, Nat.log2_zero]
          omega
        · exact (Nat.log2_lt zero).mpr narrow
      rw [Format.targetExponent, totalExponent]
      omega
    have none : (spec.targetExponent (totalExponent r e) - e).toNat = 0 := by omega
    simp only [shiftToTargetExponent, shiftToExponent, none, Nat.cast_zero, add_zero]
    rfl

namespace Fitting

variable {em : ExtendedMantissa} {t : ℤ} {x : ℝ} {n : ℕ} {f : ℤ}

theorem filled (fitting : Fitting spec em t x) (higher : t ≠ spec.minExponent) :
    2 ^ spec.mantissaBitsWithoutImplicit ≤ em.roundedMantissa :=
  fitting.located.le_rounded (fitting.full.resolve_left higher)

theorem rounded_le (fitting : Fitting spec em t x) (inForm : InForm spec n f)
    (atMost : x ≤ scaled n f) : scaled em.roundedMantissa t ≤ scaled n f := by
  by_cases finer : t ≤ f
  · have shifted := scaled_shift n (f - t).toNat t
    rw [Int.toNat_of_nonneg (by omega), add_sub_cancel] at shifted
    rw [← shifted] at atMost ⊢
    exact scaled_le_iff.mpr (fitting.located.rounded_le atMost)
  · have higher : t ≠ spec.minExponent := by
      have := inForm.lowest
      omega
    have above := fitting.full.resolve_left higher
    have below := scaled_lt_top inForm.narrow (le_refl _) (not_le.mp finer)
    exact absurd (above.trans atMost) (not_le.mpr below)

theorem le_rounded (fitting : Fitting spec em t x) (inForm : InForm spec n f)
    (atLeast : scaled n f ≤ x) : scaled n f ≤ scaled em.roundedMantissa t := by
  by_cases finer : t ≤ f
  · have shifted := scaled_shift n (f - t).toNat t
    rw [Int.toNat_of_nonneg (by omega), add_sub_cancel] at shifted
    rw [← shifted] at atLeast ⊢
    exact scaled_le_iff.mpr (fitting.located.le_rounded atLeast)
  · have higher : t ≠ spec.minExponent := by
      have := inForm.lowest
      omega
    exact (scaled_lt_top inForm.narrow (fitting.filled higher) (not_le.mp finer)).le

/-- The carry changes neither the number nor the form. -/
theorem carried (fitting : Fitting spec em t x) :
    ∃ m e, shiftToTargetExponent spec em.roundedMantissa t .exact = (⟨m, false, false⟩, e) ∧
      InForm spec m e ∧ scaled m e = scaled em.roundedMantissa t := by
  have bits := @mantissa_bits_eq spec
  have bounded := fitting.located.rounded_le fitting.bounded
  have lowest := fitting.lowest
  rw [carry_shift lowest bounded]
  by_cases carry : em.roundedMantissa = 2 ^ spec.mantissaBits
  · rw [if_pos carry]
    refine ⟨_, _, rfl, ⟨?_, by omega, .inr (le_refl _)⟩, ?_⟩
    · apply Nat.pow_lt_pow_right one_lt_two
      omega
    · rw [carry, scaled_power, scaled_power, bits]
      push_cast
      ring_nf
  · rw [if_neg carry]
    refine ⟨_, _, rfl, ⟨lt_of_le_of_ne bounded carry, lowest, ?_⟩, rfl⟩
    by_cases least : t = spec.minExponent
    · exact .inl least
    · exact .inr (fitting.filled least)

end Fitting

/-- Rounding keeps the order to the numbers of the format. -/
theorem rounds_to {x : ℝ} {m : ℕ} {e : ℤ} {accuracy : Accuracy}
    (approximates : Approximates x m e accuracy)
    (wide : e ≤ spec.targetExponent (totalExponent m e)) (sign : Sign) :
    RoundsTo spec sign x (roundWithAccuracy spec sign m e accuracy) := by
  have fitting := first_shift approximates wide
  simp only [roundWithAccuracy]
  generalize shiftToTargetExponent spec m e accuracy = first at fitting
  obtain ⟨em, t⟩ := first
  obtain ⟨m', e', carried, inForm, same⟩ := fitting.carried
  simp only at carried ⊢
  rw [carried]
  have sized : ∀ y, Canonical spec y → (x ≤ size y → scaled m' e' ≤ size y) ∧
      (size y ≤ x → size y ≤ scaled m' e') := by
    intro y canonical
    obtain ⟨n, f, other, extent⟩ := canonical.in_form
    rw [same, extent]
    exact ⟨fitting.rounded_le other, fitting.le_rounded other⟩
  split
  next zero =>
    simp only at zero
    have none : size (.zero sign) = scaled m' e' := by
      rw [zero, scaled, Nat.cast_zero, zero_mul]
      rfl
    exact ⟨rfl, trivial, fun y canonical => none ▸ (sized y canonical).1,
      fun y canonical => none ▸ (sized y canonical).2⟩
  next positive =>
    exact ⟨rfl, inForm, fun y canonical => (sized y canonical).1,
      fun y canonical => (sized y canonical).2⟩

theorem total_exponent_shift {m : ℕ} (positive : 0 < m) (k : ℕ) (e : ℤ) :
    totalExponent (m * 2 ^ k) (e - k) = totalExponent m e := by
  have width : (m * 2 ^ k).log2 = m.log2 + k := by
    rw [Nat.log2_eq_iff (by positivity), pow_add, add_right_comm, pow_add _ _ k]
    have below := Nat.log2_self_le positive.ne'
    have above := @Nat.lt_log2_self m
    exact ⟨Nat.mul_le_mul_right _ below, Nat.mul_lt_mul_of_pos_right above (by positivity)⟩
  rw [totalExponent, totalExponent, width]
  omega

theorem round_rounds_to {m : ℕ} (positive : 0 < m) (e : ℤ) (sign : Sign) :
    RoundsTo spec sign (scaled m e) (round spec sign m e) := by
  simp only [UnpackedFloat.round, decreaseExponent, Nat.shiftLeft_eq]
  generalize least : (e - spec.targetExponent (totalExponent m e)).toNat = k
  have exact : Approximates (scaled m e) (m * 2 ^ k) (e - k) .exact := by
    rw [Approximates, scaled_shift, sub_add_cancel]
  apply rounds_to exact
  rw [total_exponent_shift positive]
  omega

def Fits (spec : Format) : UnpackedFloat → Prop
  | .finite _ mantissa exponent _ => InForm spec mantissa exponent ∧
      exponent + spec.exponentBias + spec.mantissaBitsWithoutImplicit + 1 < 2 ^ spec.exponentBits
  | y => Canonical spec y

theorem Fits.canonical {y : UnpackedFloat} (fits : Fits spec y) : Canonical spec y := by
  cases y with
  | finite sign m e positive => exact fits.1
  | zero | infinity | notANumber => exact fits

theorem Canonical.fits {y z : UnpackedFloat} (canonical : Canonical spec y) (other : Fits spec z)
    (atMost : size y ≤ size z) : Fits spec y := by
  cases y with
  | zero | infinity | notANumber => exact canonical
  | finite sign m e positive =>
      cases z with
      | infinity | notANumber => cases other
      | zero sign' =>
          have above : 0 < scaled m e := by
            unfold scaled
            positivity
          exact absurd atMost (not_le.mpr above)
      | finite sign' n f positive' =>
          have less := InForm.exponent_le canonical other.1 atMost
          have room := other.2
          exact ⟨canonical, by omega⟩

theorem min_exponent_eq :
    spec.minExponent = 1 - (spec.exponentBias : ℤ) - spec.mantissaBitsWithoutImplicit := by
  have one : 1 ≤ 2 ^ (spec.exponentBits - 1) := Nat.one_le_two_pow
  rw [Format.minExponent, Format.exponentBias, mantissa_bits_eq, Nat.cast_sub one]
  push_cast
  ring

section

variable (sign : Sign) (exponent : BitVec spec.exponentBits)
  (mantissa : BitVec spec.mantissaBitsWithoutImplicit)

theorem sign_of_components :
    Sign.ofBitVec (unpackSign (packComponents spec sign exponent mantissa)) = sign := by
  have bit : unpackSign (packComponents spec sign exponent mantissa) = sign.toBitVec := by
    ext i bound
    obtain rfl : i = 0 := by omega
    simp [unpackSign, packComponents, BitVec.getLsbD_append, BitVec.getElem_append]
  rw [bit]
  cases sign <;> rfl

end

theorem leading_bit (mantissa : BitVec spec.mantissaBitsWithoutImplicit) :
    (1#1 ++ mantissa).toNat = 2 ^ spec.mantissaBitsWithoutImplicit + mantissa.toNat := by
  rw [BitVec.toNat_append, ← Nat.shiftLeft_add_eq_or_of_lt mantissa.isLt, Nat.shiftLeft_eq]
  simp

theorem ones_to_nat (width : ℕ) : (-BitVec.ofNat width 1).toNat = 2 ^ width - 1 := by
  rw [BitVec.neg_one_eq_allOnes, BitVec.toNat_allOnes]

theorem zero_ne_ones : BitVec.ofNat spec.exponentBits 0 ≠ -BitVec.ofNat spec.exponentBits 1 := by
  intro same
  have values := congrArg BitVec.toNat same
  rw [ones_to_nat, BitVec.toNat_zero] at values
  have more : 2 ^ 1 ≤ 2 ^ spec.exponentBits := Nat.pow_le_pow_right two_pos spec.he
  omega

/-- What is read back after a number has been stored in a format. -/
def stored (spec : Format) (y : UnpackedFloat) : UnpackedFloat := .unpack spec (y.pack spec)

theorem stored_zero (sign : Sign) : stored spec (.zero sign) = .zero sign := by
  have fields : stored spec (.zero sign) = .zero (.ofBitVec (unpackSign
      (packComponents spec sign 0 0))) := by
    simp [stored, UnpackedFloat.pack, packedZero, UnpackedFloat.unpack, spec.he.ne']
  rw [fields, sign_of_components]

theorem stored_infinity (sign : Sign) : stored spec (.infinity sign) = .infinity sign := by
  have fields : stored spec (.infinity sign) = .infinity (.ofBitVec (unpackSign
      (packComponents spec sign (-1#_) 0))) := by
    simp [stored, UnpackedFloat.pack, packedInfinity, UnpackedFloat.unpack]
  rw [fields, sign_of_components]

theorem stored_finite {sign : Sign} {m : ℕ} {e : ℤ} {positive : 0 < m}
    (fits : Fits spec (.finite sign m e positive)) :
    stored spec (.finite sign m e positive) = .finite sign m e positive := by
  obtain ⟨inForm, room⟩ := fits
  have narrow := inForm.narrow
  have lowest := inForm.lowest
  have full := inForm.full
  rw [min_exponent_eq] at lowest full
  rw [mantissa_bits_eq] at narrow
  obtain ⟨biased, isBiased⟩ : ∃ biased : ℕ,
      e + spec.exponentBias + spec.mantissaBitsWithoutImplicit = biased :=
    ⟨_, (Int.toNat_of_nonneg (by omega)).symm⟩
  have small : biased + 1 < 2 ^ spec.exponentBits := by
    rw [isBiased] at room
    exact_mod_cast room
  simp only [stored, UnpackedFloat.pack, isBiased, Int.toNat_natCast, if_neg (not_le.mpr small)]
  by_cases normal : 2 ^ spec.mantissaBitsWithoutImplicit ≤ m
  · have width : m.log2 + 1 = spec.mantissaBits := by
      rw [mantissa_bits_eq, (Nat.log2_eq_iff positive.ne').mpr ⟨normal, narrow⟩]
    have exponentValue : (BitVec.ofNat spec.exponentBits biased).toNat = biased := by
      rw [BitVec.toNat_ofNat, Nat.mod_eq_of_lt (by omega)]
    have mantissaValue : 2 ^ spec.mantissaBitsWithoutImplicit +
        (BitVec.ofNat spec.mantissaBitsWithoutImplicit m).toNat = m := by
      rw [BitVec.toNat_ofNat, ← Nat.sub_add_cancel normal, Nat.add_mod_right,
        Nat.mod_eq_of_lt (by rw [pow_succ] at narrow; omega)]
      omega
    have top : BitVec.ofNat spec.exponentBits biased ≠ -1#_ := by
      intro same
      have values := congrArg BitVec.toNat same
      rw [exponentValue, ones_to_nat] at values
      omega
    have bottom : BitVec.ofNat spec.exponentBits biased ≠ 0#_ := by
      intro same
      have values := congrArg BitVec.toNat same
      rw [exponentValue, BitVec.toNat_zero] at values
      omega
    rw [if_pos width]
    simp only [UnpackedFloat.unpack, unpackMantissa_packComponents, unpackExponent_packComponents,
      sign_of_components, if_neg top, if_neg bottom, leading_bit, mantissaValue, exponentValue]
    congr 1
    omega
  · have width : ¬ m.log2 + 1 = spec.mantissaBits := by
      rw [mantissa_bits_eq]
      intro width
      have below := Nat.log2_self_le positive.ne'
      rw [show m.log2 = spec.mantissaBitsWithoutImplicit by omega] at below
      exact normal below
    have mantissaValue : (BitVec.ofNat spec.mantissaBitsWithoutImplicit m).toNat = m := by
      rw [BitVec.toNat_ofNat, Nat.mod_eq_of_lt (not_le.mp normal)]
    have filled : BitVec.ofNat spec.mantissaBitsWithoutImplicit m ≠ 0#_ := by
      intro same
      have values := congrArg BitVec.toNat same
      rw [mantissaValue, BitVec.toNat_zero] at values
      omega
    rw [if_neg width]
    simp only [UnpackedFloat.unpack, unpackMantissa_packComponents, unpackExponent_packComponents,
      sign_of_components, if_neg zero_ne_ones, if_true, dif_neg filled, mantissaValue,
      BitVec.toNat_zero]
    congr 1
    omega

theorem stored_not_a_number : stored spec .notANumber = .notANumber := by
  have payload : BitVec.ofNat spec.mantissaBitsWithoutImplicit 1 <<<
      (spec.mantissaBitsWithoutImplicit - 1) ≠ 0#_ := by
    intro same
    have bit := congrArg (fun bits : BitVec _ =>
      bits.getLsbD (spec.mantissaBitsWithoutImplicit - 1)) same
    have width := spec.hm
    simp [width] at bit
  simp only [stored, UnpackedFloat.pack, packedNaN, UnpackedFloat.unpack,
    unpackMantissa_packComponents, unpackExponent_packComponents, if_true, if_neg payload]

theorem stored_fitting {y : UnpackedFloat} (fits : Fits spec y) : stored spec y = y := by
  cases y with
  | zero sign => exact stored_zero sign
  | finite sign m e positive => exact stored_finite fits
  | infinity | notANumber => cases fits

/-- What is too great is read back as infinite. -/
theorem stored_canonical {y : UnpackedFloat} (canonical : Canonical spec y) :
    Fits spec y ∨ ∃ sign, HasSign sign y ∧ stored spec y = .infinity sign := by
  cases y with
  | zero sign => exact .inl trivial
  | infinity | notANumber => cases canonical
  | finite sign m e positive =>
      by_cases room :
          e + spec.exponentBias + spec.mantissaBitsWithoutImplicit + 1 < 2 ^ spec.exponentBits
      · exact .inl ⟨canonical, room⟩
      · right
        refine ⟨sign, rfl, ?_⟩
        have overflow : 2 ^ spec.exponentBits ≤
            (e + spec.exponentBias + spec.mantissaBitsWithoutImplicit).toNat + 1 := by
          zify
          omega
        have infinite : UnpackedFloat.pack spec (.finite sign m e positive) =
            UnpackedFloat.pack spec (.infinity sign) := by
          simp only [UnpackedFloat.pack, if_pos overflow]
        rw [stored, infinite]
        exact stored_infinity sign

/-- What is read from a pattern of bits fits, unless it is infinite or undefined. -/
theorem unpack_fits (wide : 1 < spec.exponentBits) (bits : BitVec spec.numBits) :
    (∃ sign, UnpackedFloat.unpack spec bits = .infinity sign) ∨
      UnpackedFloat.unpack spec bits = .notANumber ∨ Fits spec (.unpack spec bits) := by
  have mantissaBound := (unpackMantissa bits).isLt
  have exponentBound := (unpackExponent bits).isLt
  have more : 2 ^ 2 ≤ 2 ^ spec.exponentBits := Nat.pow_le_pow_right two_pos wide
  have double := pow_succ 2 spec.mantissaBitsWithoutImplicit
  have ones := ones_to_nat spec.exponentBits
  have lowest := @min_exponent_eq spec
  have bits' := @mantissa_bits_eq spec
  simp only [UnpackedFloat.unpack, ← BitVec.toNat_inj, ones, BitVec.toNat_zero, leading_bit]
  split
  next top =>
    split
    next => exact .inl ⟨_, rfl⟩
    next => exact .inr (.inl rfl)
  next below =>
    right
    right
    split
    next bottom =>
      split
      next => exact trivial
      next =>
        refine ⟨⟨?_, ?_, .inl ?_⟩, ?_⟩
        · rw [bits']
          omega
        · omega
        · omega
        · zify at more
          omega
    next normal =>
      refine ⟨⟨?_, ?_, .inr (Nat.le_add_right _ _)⟩, ?_⟩
      · rw [bits']
        omega
      · omega
      · have room : (unpackExponent bits).toNat + 1 < 2 ^ spec.exponentBits := by omega
        zify at room
        omega

end FederatedSearch.Rounding
