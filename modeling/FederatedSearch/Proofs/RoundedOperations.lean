import FederatedSearch.Proofs.Rounding

/-!
The operations on floating-point numbers round the exact result. For products, quotients, roots
and sums of numbers with a positive sign it is said here what the exact result is; bounds on
results follow from the order that rounding keeps.
-/

namespace FederatedSearch.Rounding

open Float.Model (Format UnpackedFloat totalExponent)
open Float.Model.UnpackedFloat

variable {spec : Format} {m n shift : ℕ} {e f : ℤ} {sign other : Sign} {a b : UnpackedFloat}

theorem scaled_mul (m n : ℕ) (e f : ℤ) : scaled (m * n) (e + f) = scaled m e * scaled n f := by
  rw [scaled, scaled, scaled, zpow_add₀ two_ne_zero]
  push_cast
  ring

theorem scaled_pos (positive : 0 < m) (e : ℤ) : 0 < scaled m e := by
  unfold scaled
  positivity

theorem size_nonneg (y : UnpackedFloat) : 0 ≤ size y := by
  cases y with
  | finite sign m e positive => exact scaled_nonneg m e
  | zero | infinity | notANumber => exact le_refl _

theorem size_zero (sign : Sign) : size (.zero sign) = 0 := rfl

theorem Canonical.signed (canonical : Canonical spec a) : ∃ sign, HasSign sign a := by
  cases a with
  | zero sign | finite sign m e positive => exact ⟨sign, rfl⟩
  | infinity | notANumber => cases canonical

/-- What is read from a pattern of bits is finite exactly if it fits. -/
theorem finite_iff_fits (wide : 1 < spec.exponentBits) (bits : BitVec spec.numBits) :
    (UnpackedFloat.unpack spec bits).isFinite = true ↔ Fits spec (.unpack spec bits) := by
  constructor
  · intro finite
    rcases unpack_fits wide bits with ⟨sign, infinite⟩ | undefined | fits
    · rw [infinite] at finite
      cases finite
    · rw [undefined] at finite
      cases finite
    · exact fits
  · intro fits
    generalize UnpackedFloat.unpack spec bits = number at fits
    cases number with
    | zero | finite => rfl
    | infinity | notANumber => cases fits

theorem zero_rounds_to (sign : Sign) : RoundsTo spec sign 0 (.zero sign) where
  sign := rfl
  canonical := trivial
  le := fun y _ _ => size_nonneg y
  ge := fun _ _ atMost => atMost

theorem Canonical.rounds_to (canonical : Canonical spec a) (signed : HasSign sign a) :
    RoundsTo spec sign (size a) a where
  sign := signed
  canonical := canonical
  le := fun _ _ atMost => atMost
  ge := fun _ _ atLeast => atLeast

theorem product_wide (first : InForm spec m e) (second : InForm spec n f) (positive : 0 < m)
    (positive' : 0 < n) : e + f ≤ spec.targetExponent (totalExponent (m * n) (e + f)) := by
  have bits := @mantissa_bits_eq spec
  have lowest := @min_exponent_eq spec
  have filled : m * n ≠ 0 := (Nat.mul_pos positive positive').ne'
  rw [Format.targetExponent, totalExponent]
  by_cases full : 2 ^ spec.mantissaBitsWithoutImplicit ≤ m * n
  · have width := (Nat.le_log2 filled).mpr full
    omega
  · have left : ¬ 2 ^ spec.mantissaBitsWithoutImplicit ≤ m := by
      intro full'
      exact full (full'.trans (Nat.le_mul_of_pos_right m positive'))
    have right : ¬ 2 ^ spec.mantissaBitsWithoutImplicit ≤ n := by
      intro full'
      exact full (full'.trans (Nat.le_mul_of_pos_left n positive))
    have := first.full.resolve_right left
    have := second.full.resolve_right right
    omega

/-- A product of finite numbers is the rounded product of their magnitudes. -/
theorem mul_rounds_to (first : Canonical spec a) (second : Canonical spec b)
    (signed : HasSign sign a) (signed' : HasSign other b) :
    RoundsTo spec (sign * other) (size a * size b) (UnpackedFloat.mul spec a b) := by
  cases a with
  | infinity | notANumber => cases first
  | zero sign₁ =>
      cases signed
      rw [size_zero, zero_mul]
      cases b with
      | infinity | notANumber => cases second
      | zero sign₂ | finite sign₂ n f positive =>
          cases signed'
          exact zero_rounds_to _
  | finite sign₁ m e positive =>
      cases signed
      cases b with
      | infinity | notANumber => cases second
      | zero sign₂ =>
          cases signed'
          rw [size_zero, mul_zero]
          exact zero_rounds_to _
      | finite sign₂ n f positive' =>
          cases signed'
          have exact : Approximates (scaled m e * scaled n f) (m * n) (e + f) .exact :=
            (scaled_mul m n e f).symm
          exact rounds_to exact (product_wide first second positive positive') _

/-- A quotient of mantissas has so many bits that it is only shortened. -/
theorem quotient_wide (positive : 0 < m) (positive' : 0 < n) {t : ℤ} (start : e - f = t + shift)
    (least : t ≤ spec.targetExponent (totalExponent m e - totalExponent n f)) :
    t ≤ spec.targetExponent (totalExponent (m * 2 ^ shift / n) t) := by
  have bits := @mantissa_bits_eq spec
  rw [Format.targetExponent, totalExponent, totalExponent] at least
  rw [Format.targetExponent, totalExponent]
  by_cases short : m.log2 + shift ≤ n.log2
  · omega
  · have above : 2 ^ (m.log2 + shift - n.log2 - 1) ≤ m * 2 ^ shift / n := by
      rw [Nat.le_div_iff_mul_le positive']
      calc 2 ^ (m.log2 + shift - n.log2 - 1) * n
          ≤ 2 ^ (m.log2 + shift - n.log2 - 1) * 2 ^ (n.log2 + 1) :=
            Nat.mul_le_mul_left _ Nat.lt_log2_self.le
        _ = 2 ^ (m.log2 + shift) := by
            rw [← pow_add]
            congr 1
            omega
        _ = 2 ^ m.log2 * 2 ^ shift := pow_add _ _ _
        _ ≤ m * 2 ^ shift := Nat.mul_le_mul_right _ (Nat.log2_self_le positive.ne')
    have filled : 0 < m * 2 ^ shift / n := (Nat.two_pow_pos _).trans_le above
    have width := (Nat.le_log2 filled.ne').mpr above
    omega

theorem quotient_scaled (m : ℕ) (positive' : 0 < n) {t : ℤ} (start : e - f = t + shift) :
    scaled m e / scaled n f = scaled (m * 2 ^ shift) t / n := by
  have denominator : (0 : ℝ) < n := by exact_mod_cast positive'
  have parted : e = t + shift + f := by omega
  rw [scaled_shift, parted, scaled, scaled, scaled, zpow_add₀ two_ne_zero _ f]
  field_simp

theorem quotient_approximated (m : ℕ) (positive' : 0 < n) {t : ℤ} (start : e - f = t + shift) :
    Approximates (scaled m e / scaled n f) (m * 2 ^ shift / n) t
      (accuracyOfFraction (m * 2 ^ shift % n) n) := by
  have denominator : (0 : ℝ) < n := by exact_mod_cast positive'
  have times (k : ℕ) : scaled k t * n = scaled (k * n) t := by
    rw [scaled, scaled]
    push_cast
    ring
  have quotient := quotient_scaled m positive' start
  have whole := Nat.div_add_mod (m * 2 ^ shift) n
  have rest := Nat.mod_lt (m * 2 ^ shift) positive'
  rw [Nat.mul_comm] at whole
  rw [quotient, accuracyOfFraction]
  split
  next exact =>
    rw [Approximates, div_eq_iff denominator.ne', times, scaled_eq_iff]
    omega
  next inexact =>
    rw [Approximates, lt_div_iff₀ denominator, div_lt_iff₀ denominator, times, times,
      scaled_lt_iff, scaled_lt_iff, Nat.add_mul]
    omega

theorem div_rounds_to (first : Canonical spec a) (second : Canonical spec b) (filled : 0 < size b)
    (signed : HasSign sign a) (signed' : HasSign other b) :
    RoundsTo spec (sign / other) (size a / size b) (UnpackedFloat.div spec a b) := by
  cases b with
  | infinity | notANumber => cases second
  | zero sign₂ => exact absurd filled (lt_irrefl _)
  | finite sign₂ n f positive' =>
      cases signed'
      cases a with
      | infinity | notANumber => cases first
      | zero sign₁ =>
          cases signed
          rw [size_zero, zero_div]
          exact zero_rounds_to _
      | finite sign₁ m e positive =>
          cases signed
          simp only [UnpackedFloat.div, divCore, Nat.shiftLeft_eq]
          generalize reached : min (e - f)
            (spec.targetExponent (totalExponent m e - totalExponent n f)) = t
          have start : e - f = t + (e - f - t).toNat := by omega
          have least : t ≤ spec.targetExponent (totalExponent m e - totalExponent n f) := by omega
          exact rounds_to (quotient_approximated m positive' start)
            (quotient_wide positive positive' start least) _

theorem div_infinity (canonical : Canonical spec a) (other : Sign) :
    ∃ sign, UnpackedFloat.div spec a (.infinity other) = .zero sign := by
  cases a with
  | infinity | notANumber => cases canonical
  | zero sign | finite sign m e positive => exact ⟨sign / other, rfl⟩

theorem scaled_add (m n : ℕ) (e : ℤ) : scaled (m + n) e = scaled m e + scaled n e := by
  rw [scaled, scaled, scaled]
  push_cast
  ring

theorem normalize_positive {k : ℕ} (positive : 0 < k) (e : ℤ) (sign : Sign) :
    UnpackedFloat.normalize spec k e sign = UnpackedFloat.round spec .positive k e := by
  have greater : compare (k : ℤ) 0 = .gt := Int.compare_eq_gt.mpr (by exact_mod_cast positive)
  rw [UnpackedFloat.normalize, greater, Int.toNat_natCast]

theorem add_rounds_to (first : Canonical spec a) (second : Canonical spec b)
    (signed : HasSign .positive a) (signed' : HasSign .positive b) :
    RoundsTo spec .positive (size a + size b) (UnpackedFloat.add spec a b) := by
  cases a with
  | infinity | notANumber => cases first
  | zero sign₁ =>
      cases signed
      rw [size_zero, zero_add]
      cases b with
      | infinity | notANumber => cases second
      | zero sign₂ =>
          cases signed'
          exact zero_rounds_to _
      | finite sign₂ n f positive' => exact second.rounds_to signed'
  | finite sign₁ m e positive =>
      cases b with
      | infinity | notANumber => cases second
      | zero sign₂ =>
          rw [size_zero, add_zero]
          exact first.rounds_to signed
      | finite sign₂ n f positive' =>
          cases signed
          cases signed'
          have total : scaled m e + scaled n f =
              scaled (m * 2 ^ (e - min e f).toNat + n * 2 ^ (f - min e f).toNat) (min e f) := by
            rw [scaled_add, scaled_shift, scaled_shift, Int.toNat_of_nonneg (by omega),
              Int.toNat_of_nonneg (by omega), add_sub_cancel, add_sub_cancel]
          have sum : UnpackedFloat.add spec (.finite .positive m e positive)
              (.finite .positive n f positive') = UnpackedFloat.round spec .positive
                (m * 2 ^ (e - min e f).toNat + n * 2 ^ (f - min e f).toNat) (min e f) := by
            simp only [UnpackedFloat.add, decreaseExponent, Nat.shiftLeft_eq, Sign.apply]
            exact normalize_positive (by positivity) _ _
          rw [sum, size, size, total]
          exact round_rounds_to (by positivity) _ _

theorem root_wide (positive : 0 < m) {t : ℤ} (start : e = 2 * t + shift)
    (least : t ≤ spec.targetExponent ((totalExponent m e + 1).ediv 2)) :
    t ≤ spec.targetExponent (totalExponent (Nat.sqrt (m * 2 ^ shift)) t) := by
  have above : 2 ^ ((m.log2 + shift) / 2) ≤ Nat.sqrt (m * 2 ^ shift) := by
    rw [Nat.le_sqrt']
    calc (2 ^ ((m.log2 + shift) / 2)) ^ 2 = 2 ^ ((m.log2 + shift) / 2 * 2) := (pow_mul _ _ _).symm
      _ ≤ 2 ^ (m.log2 + shift) := Nat.pow_le_pow_right two_pos (Nat.div_mul_le_self _ _)
      _ = 2 ^ m.log2 * 2 ^ shift := pow_add _ _ _
      _ ≤ m * 2 ^ shift := Nat.mul_le_mul_right _ (Nat.log2_self_le positive.ne')
  have filled : 0 < Nat.sqrt (m * 2 ^ shift) := (Nat.two_pow_pos _).trans_le above
  have width := (Nat.le_log2 filled.ne').mpr above
  have half : ∀ k : ℤ, k.ediv 2 = k / 2 := fun _ => rfl
  rw [Format.targetExponent, totalExponent, half] at least
  rw [Format.targetExponent, totalExponent]
  omega

theorem root_approximated (m : ℕ) (t : ℤ) (order : Ordering) :
    Approximates (√(scaled m (2 * t))) (Nat.sqrt m) t
      (if m - Nat.sqrt m * Nat.sqrt m = 0 then .exact else .inexact order) := by
  have unit : (0 : ℝ) < 2 ^ t := by positivity
  have root : √(scaled m (2 * t)) = √m * 2 ^ t := by
    rw [scaled, two_mul, zpow_add₀ two_ne_zero, ← pow_two, Real.sqrt_mul (Nat.cast_nonneg m),
      Real.sqrt_sq unit.le]
  have below := Nat.sqrt_le' m
  have above := Nat.lt_succ_sqrt' m
  rw [pow_two] at below
  rw [root]
  split
  next exact =>
    have square : m = Nat.sqrt m * Nat.sqrt m := by omega
    have whole : √(m : ℝ) = Nat.sqrt m := by
      rw [Real.sqrt_eq_iff_mul_self_eq (Nat.cast_nonneg _) (Nat.cast_nonneg _)]
      exact_mod_cast square
    rw [Approximates, whole, scaled]
  next inexact =>
    rw [Approximates, scaled, scaled, mul_lt_mul_iff_left₀ unit, mul_lt_mul_iff_left₀ unit,
      Real.lt_sqrt (Nat.cast_nonneg _), Real.sqrt_lt' (by positivity)]
    constructor
    · rw [pow_two]
      exact_mod_cast (by omega : Nat.sqrt m * Nat.sqrt m < m)
    · exact_mod_cast above

theorem sqrt_rounds_to (canonical : Canonical spec a) (signed : HasSign .positive a) :
    RoundsTo spec .positive (√(size a)) (UnpackedFloat.sqrt spec a) := by
  cases a with
  | infinity | notANumber => cases canonical
  | zero sign =>
      cases signed
      rw [size_zero, Real.sqrt_zero]
      exact zero_rounds_to _
  | finite sign m e positive =>
      cases signed
      simp only [UnpackedFloat.sqrt, sqrtCore, Nat.shiftLeft_eq]
      generalize reached : min (e.ediv 2)
        (spec.targetExponent ((totalExponent m e + 1).ediv 2)) = t
      have half : e.ediv 2 = e / 2 := rfl
      have start : e = 2 * t + (e - 2 * t).toNat := by omega
      have least : t ≤ spec.targetExponent ((totalExponent m e + 1).ediv 2) := by omega
      have shifted : scaled m e = scaled (m * 2 ^ (e - 2 * t).toNat) (2 * t) := by
        rw [scaled_shift, ← start]
      rw [size, shifted]
      exact rounds_to (root_approximated _ t _) (root_wide positive start least) _

section

variable {sign : Sign} {x : ℝ} {y z : UnpackedFloat}

theorem RoundsTo.stored_le (rounds : RoundsTo spec sign x y) (fits : Fits spec z)
    (atMost : x ≤ size z) :
    Fits spec (stored spec y) ∧ HasSign sign (stored spec y) ∧ size (stored spec y) ≤ size z := by
  have bounded := rounds.le z fits.canonical atMost
  have fitting := rounds.canonical.fits fits bounded
  rw [stored_fitting fitting]
  exact ⟨fitting, rounds.sign, bounded⟩

theorem RoundsTo.stored_ge (rounds : RoundsTo spec sign x y) (fits : Fits spec z)
    (atMost : x ≤ size z) (canonical : Canonical spec a) (atLeast : size a ≤ x) :
    size a ≤ size (stored spec y) := by
  have fitting := rounds.canonical.fits fits (rounds.le z fits.canonical atMost)
  rw [stored_fitting fitting]
  exact rounds.ge a canonical atLeast

/-- A result that is too great is stored as infinite, and every other one as it was rounded. -/
theorem RoundsTo.stored_cases (rounds : RoundsTo spec sign x y) :
    stored spec y = .infinity sign ∨ Fits spec (stored spec y) ∧ HasSign sign (stored spec y) ∧
      ∀ z, Canonical spec z → size z ≤ x → size z ≤ size (stored spec y) := by
  rcases stored_canonical rounds.canonical with fits | ⟨own, signed, overflow⟩
  · rw [stored_fitting fits]
    exact .inr ⟨fits, rounds.sign, rounds.ge⟩
  · left
    have same : own = sign := by
      have given := rounds.sign
      cases y with
      | notANumber => cases given
      | zero | infinity | finite => exact signed.symm.trans given
    rw [overflow, same]

theorem compare_scaled (first : InForm spec m e) (second : InForm spec n f) :
    (compare e f).then (compare m n) = compare (scaled m e) (scaled n f) := by
  rcases lt_trichotomy e f with less | rfl | greater
  · have below : scaled m e < scaled n f := by
      rw [← not_le]
      intro atMost
      have := second.exponent_le first atMost
      omega
    rw [compare_lt_iff_lt.mpr less, compare_lt_iff_lt.mpr below]
    rfl
  · rw [compare_eq_iff_eq.mpr rfl]
    rcases lt_trichotomy m n with less | rfl | greater
    · rw [compare_lt_iff_lt.mpr less, compare_lt_iff_lt.mpr (scaled_lt_iff.mpr less)]
      rfl
    · rw [compare_eq_iff_eq.mpr rfl, compare_eq_iff_eq.mpr rfl]
      rfl
    · rw [compare_gt_iff_gt.mpr greater, compare_gt_iff_gt.mpr (scaled_lt_iff.mpr greater)]
      rfl
  · have above : scaled n f < scaled m e := by
      rw [← not_le]
      intro atMost
      have := first.exponent_le second atMost
      omega
    rw [compare_gt_iff_gt.mpr greater, compare_gt_iff_gt.mpr above]
    rfl

/-- Numbers with a positive sign are compared by their magnitudes. -/
theorem compare_positive (first : Canonical spec a) (second : Canonical spec b)
    (signed : HasSign .positive a) (signed' : HasSign .positive b) :
    a.compare b = some (compare (size a) (size b)) := by
  cases a with
  | infinity | notANumber => cases first
  | zero sign₁ =>
      cases b with
      | infinity | notANumber => cases second
      | zero sign₂ => rw [size_zero, size_zero, compare_eq_iff_eq.mpr rfl]; rfl
      | finite sign₂ n f positive' =>
          cases signed'
          rw [size_zero, size, compare_lt_iff_lt.mpr (scaled_pos positive' f)]
          rfl
  | finite sign₁ m e positive =>
      cases signed
      cases b with
      | infinity | notANumber => cases second
      | zero sign₂ =>
          rw [size_zero, size, compare_gt_iff_gt.mpr (scaled_pos positive e)]
          rfl
      | finite sign₂ n f positive' =>
          cases signed'
          exact congrArg some (compare_scaled first second)

end

end FederatedSearch.Rounding
