import FederatedSearch.Proofs.RoundedOperations

/-!
Rounding to the nearest number. The reals that are nearer to a number of a format than to any
other one are those of an interval around it; the ends of the interval lie half-way to its
neighbours and belong to it if its mantissa is even. Whatever lies in the interval is rounded
to the number.
-/

namespace FederatedSearch.Rounding

open Float.Model (Format UnpackedFloat totalExponent)
open Float.Model.UnpackedFloat

/-- Where a number lies that is `x` units: the first bit behind the mantissa tells the halves of
the unit apart, and the second one whether the number lies within its half or at the start. -/
def Halves (em : ExtendedMantissa) (x : ℝ) : Prop :=
  match em.roundBit, em.stickyBit with
  | false, false => x = em.mantissa
  | false, true => em.mantissa < x ∧ x + x < em.mantissa + em.mantissa + 1
  | true, false => x + x = em.mantissa + em.mantissa + 1
  | true, true => em.mantissa + em.mantissa + 1 < x + x ∧ x < em.mantissa + 1

namespace Halves

variable {em : ExtendedMantissa} {x : ℝ}

theorem shift_one (halves : Halves em x) : Halves em.shiftRightOne (x / 2) := by
  obtain ⟨mantissa, roundBit, stickyBit⟩ := em
  have parts : ((mantissa % 2 : ℕ) : ℝ) + 2 * ((mantissa / 2 : ℕ) : ℝ) = mantissa := by
    exact_mod_cast Nat.mod_add_div mantissa 2
  rcases Nat.mod_two_eq_zero_or_one mantissa with even | odd
  · rw [even, Nat.cast_zero] at parts
    cases roundBit <;> cases stickyBit <;>
      simp only [Halves, ExtendedMantissa.shiftRightOne, even, bne_self_eq_false, Bool.or_false,
        Bool.or_true] at halves ⊢
    · linarith
    · constructor <;> linarith
    · constructor <;> linarith
    · constructor <;> linarith
  · have one : (1 != 0) = true := rfl
    rw [odd, Nat.cast_one] at parts
    cases roundBit <;> cases stickyBit <;>
      simp only [Halves, ExtendedMantissa.shiftRightOne, odd, one, Bool.or_false,
        Bool.or_true] at halves ⊢
    · linarith
    · constructor <;> linarith
    · constructor <;> linarith
    · constructor <;> linarith

theorem shift (halves : Halves em x) (k : ℕ) : Halves (em >>> k) (x / 2 ^ k) := by
  induction k with
  | zero =>
      rw [pow_zero, div_one]
      exact halves
  | succ k induction =>
      have step := induction.shift_one
      rw [div_div, ← pow_succ] at step
      exact step

/-- The rounded mantissa is the nearest whole number, and of two equally near ones the even
one. -/
theorem rounded_eq (halves : Halves em x) {n : ℕ} (low : n - 1 / 2 ≤ x) (high : x ≤ n + 1 / 2)
    (ends : n % 2 = 1 → n - 1 / 2 < x ∧ x < n + 1 / 2) : em.roundedMantissa = n := by
  obtain ⟨mantissa, roundBit, stickyBit⟩ := em
  cases roundBit <;> cases stickyBit <;>
    simp only [Halves, ExtendedMantissa.roundedMantissa, ExtendedMantissa.accuracy,
      Accuracy.roundToNearestEven] at halves ⊢
  case false.false =>
    have above : (n : ℝ) < mantissa + 1 := by linarith
    have below : (mantissa : ℝ) < n + 1 := by linarith
    norm_cast at above below
    omega
  case false.true =>
    have above : (n : ℝ) < mantissa + 1 := by linarith
    have below : (mantissa : ℝ) < n + 1 := by linarith
    norm_cast at above below
    omega
  case true.false =>
    have above : (n : ℝ) ≤ mantissa + 1 := by linarith
    have below : (mantissa : ℝ) ≤ n := by linarith
    norm_cast at above below
    -- Half-way between two whole numbers only the even one admits the end.
    have even : n % 2 = 0 := by
      by_contra odd
      obtain ⟨lower, upper⟩ := ends (by omega)
      have above : (n : ℝ) < mantissa + 1 := by linarith
      have below : (mantissa : ℝ) < n := by linarith
      norm_cast at above below
      omega
    omega
  case true.true =>
    have above : (n : ℝ) < mantissa + 2 := by linarith
    have below : (mantissa : ℝ) < n := by linarith
    norm_cast at above below
    omega

end Halves

def Measures (x : ℝ) (mantissa : ℕ) (exponent : ℤ) : Accuracy → Prop
  | .exact => x = scaled mantissa exponent
  | .inexact order => scaled mantissa exponent < x ∧ x < scaled (mantissa + 1) exponent ∧
      compare (x + x) (scaled (2 * mantissa + 1) exponent) = order

theorem Measures.approximates {x : ℝ} {m : ℕ} {e : ℤ} {accuracy : Accuracy}
    (measures : Measures x m e accuracy) : Approximates x m e accuracy := by
  cases accuracy with
  | exact => exact measures
  | inexact order => exact ⟨measures.1, measures.2.1⟩

theorem Measures.halves {x : ℝ} {m : ℕ} {e : ℤ} {accuracy : Accuracy}
    (measures : Measures x m e accuracy) :
    Halves (.ofMantissaAndAccuracy m accuracy) (x / 2 ^ e) := by
  have unit : (0 : ℝ) < 2 ^ e := by positivity
  cases accuracy with
  | exact =>
      rw [Measures, scaled] at measures
      rw [measures, mul_div_cancel_right₀ _ unit.ne']
      rfl
  | inexact order =>
      obtain ⟨below, above, half⟩ := measures
      rw [scaled, ← lt_div_iff₀ unit] at below
      rw [scaled, ← div_lt_iff₀ unit, Nat.cast_add, Nat.cast_one] at above
      have half : compare (2 * (x / 2 ^ e)) (2 * m + 1) = order := by
        rw [← half, scaled, ← mul_div_assoc, ← two_mul]
        push_cast
        rcases lt_trichotomy (2 * x) ((2 * m + 1) * 2 ^ e) with less | same | greater
        · rw [compare_lt_iff_lt.mpr less, compare_lt_iff_lt, div_lt_iff₀ unit]
          exact less
        · rw [compare_eq_iff_eq.mpr same, compare_eq_iff_eq, div_eq_iff unit.ne']
          exact same
        · rw [compare_gt_iff_gt.mpr greater, compare_gt_iff_gt, lt_div_iff₀ unit]
          exact greater
      cases order with
      | lt =>
          rw [compare_lt_iff_lt] at half
          exact ⟨below, show _ < (m : ℝ) + m + 1 by linarith⟩
      | eq =>
          rw [compare_eq_iff_eq] at half
          exact (show _ = (m : ℝ) + m + 1 by linarith)
      | gt =>
          rw [compare_gt_iff_gt] at half
          exact ⟨show (m : ℝ) + m + 1 < _ by linarith, above⟩

variable {spec : Format} {n : ℕ} {f : ℤ} {x : ℝ}

/-- The way to the end of the interval below a number, in quarters of a unit. The numbers below
a power of two lie twice as close, unless their exponent is the smallest one already. -/
def quartersBelow (spec : Format) (n : ℕ) (f : ℤ) : ℕ :=
  if n = 2 ^ spec.mantissaBitsWithoutImplicit ∧ spec.minExponent < f then 1 else 2

/-- The number is nearest to `n` units of the exponent among the numbers of the format. -/
structure ReadsAs (spec : Format) (x : ℝ) (n : ℕ) (f : ℤ) : Prop where
  low : (4 * n - quartersBelow spec n f) * 2 ^ f ≤ 4 * x
  high : 4 * x ≤ (4 * n + 2) * 2 ^ f
  ends : n % 2 = 1 → (4 * n - quartersBelow spec n f) * 2 ^ f < 4 * x ∧
    4 * x < (4 * n + 2) * 2 ^ f

theorem quarters_below_le (n : ℕ) (f : ℤ) : (quartersBelow spec n f : ℝ) ≤ 2 := by
  unfold quartersBelow
  split <;> norm_num

theorem quarters_below_pos (n : ℕ) (f : ℤ) : (0 : ℝ) < quartersBelow spec n f := by
  unfold quartersBelow
  split <;> norm_num

theorem reads_as_self (n : ℕ) (f : ℤ) : ReadsAs spec (scaled n f) n f := by
  have unit : (0 : ℝ) < 2 ^ f := by positivity
  have below := mul_pos (@quarters_below_pos spec n f) unit
  unfold scaled
  constructor
  · linarith
  · linarith
  · intro _
    constructor <;> linarith

theorem InForm.unique {m : ℕ} {e : ℤ} (first : InForm spec m e) (second : InForm spec n f)
    (same : scaled m e = scaled n f) : m = n ∧ e = f := by
  have exponents : e = f :=
    le_antisymm (first.exponent_le second same.le) (second.exponent_le first same.ge)
  subst exponents
  exact ⟨scaled_eq_iff.mp same, rfl⟩

namespace Fitting

variable {em : ExtendedMantissa} {t : ℤ}

/-- The exponent of a number is not smaller than that of what is nearest to it. -/
theorem exponent_le (fitting : Fitting spec em t x) (inForm : InForm spec n f)
    (reads : ReadsAs spec x n f) : t ≤ f := by
  by_contra finer
  have higher : t ≠ spec.minExponent := by
    have := inForm.lowest
    omega
  have unit : (0 : ℝ) < 2 ^ f := by positivity
  have narrow : (n : ℝ) + 1 ≤ 2 ^ spec.mantissaBits := by exact_mod_cast inForm.narrow
  have apart : (4 * n + 2 : ℝ) * 2 ^ f < 4 * 2 ^ spec.mantissaBits * 2 ^ f :=
    mul_lt_mul_of_pos_right (by linarith) unit
  have top : scaled (2 ^ spec.mantissaBits) f = 2 ^ spec.mantissaBits * 2 ^ f := by
    rw [scaled]
    push_cast
    ring
  have next : scaled (2 ^ spec.mantissaBits) f ≤
      scaled (2 ^ spec.mantissaBitsWithoutImplicit) t := by
    rw [scaled_power, scaled_power]
    apply zpow_le_zpow_right₀ one_le_two
    rw [mantissa_bits_eq]
    omega
  have above := fitting.full.resolve_left higher
  linarith [reads.high]

/-- If a number and what is nearest to it have different exponents, then the latter is the least
number with its exponent. -/
theorem binade_start (fitting : Fitting spec em t x) (inForm : InForm spec n f)
    (reads : ReadsAs spec x n f) (coarser : t < f) :
    n = 2 ^ spec.mantissaBitsWithoutImplicit ∧ f = t + 1 := by
  have unit : (0 : ℝ) < 2 ^ t := by positivity
  have full : 2 ^ spec.mantissaBitsWithoutImplicit ≤ n :=
    inForm.full.resolve_left (by have := fitting.lowest; omega)
  have filled : (2 : ℝ) ^ spec.mantissaBitsWithoutImplicit ≤ n := by exact_mod_cast full
  have two : (2 : ℝ) ^ 1 ≤ 2 ^ spec.mantissaBitsWithoutImplicit :=
    pow_le_pow_right₀ one_le_two spec.hm
  have few := @quarters_below_le spec n f
  have bounded := fitting.bounded
  rw [scaled, mantissa_bits_eq, pow_succ] at bounded
  push_cast at bounded
  have low := reads.low
  obtain ⟨k, rfl⟩ : ∃ k : ℕ, f = t + k := ⟨(f - t).toNat, by omega⟩
  rw [zpow_add₀ two_ne_zero, zpow_natCast] at low
  have units : (4 * n - quartersBelow spec n (t + k)) * 2 ^ k ≤
      8 * (2 : ℝ) ^ spec.mantissaBitsWithoutImplicit := by
    rw [← mul_le_mul_iff_left₀ unit]
    linarith
  have once : k = 1 := by
    by_contra more
    have power : (2 : ℝ) ^ 2 ≤ 2 ^ k := pow_le_pow_right₀ one_le_two (by omega)
    have apart := mul_le_mul_of_nonneg_left power
      (show (0 : ℝ) ≤ 4 * n - quartersBelow spec n (t + k) by linarith)
    linarith
  subst once
  refine ⟨le_antisymm ?_ full, rfl⟩
  have below : (n : ℝ) < 2 ^ spec.mantissaBitsWithoutImplicit + 1 := by linarith
  exact Nat.lt_succ_iff.mp (by exact_mod_cast below)

theorem rounded_eq (fitting : Fitting spec em t x) (halves : Halves em (x / 2 ^ t))
    (inForm : InForm spec n f) (reads : ReadsAs spec x n f) :
    scaled em.roundedMantissa t = scaled n f := by
  have unit : (0 : ℝ) < 2 ^ t := by positivity
  have few := @quarters_below_le spec n f
  rcases (fitting.exponent_le inForm reads).eq_or_lt with rfl | coarser
  · have below : (4 * n - 2 : ℝ) * 2 ^ t ≤ (4 * n - quartersBelow spec n t) * 2 ^ t :=
      mul_le_mul_of_nonneg_right (by linarith) unit.le
    rw [halves.rounded_eq]
    · rw [le_div_iff₀ unit]
      linarith [reads.low]
    · rw [div_le_iff₀ unit]
      linarith [reads.high]
    · intro odd
      obtain ⟨low, high⟩ := reads.ends odd
      rw [lt_div_iff₀ unit, div_lt_iff₀ unit]
      constructor <;> linarith
  · obtain ⟨least, rfl⟩ := fitting.binade_start inForm reads coarser
    have low := reads.low
    have bounded := fitting.bounded
    have one : quartersBelow spec n (t + 1) = 1 := by
      rw [quartersBelow, if_pos ⟨least, by have := fitting.lowest; omega⟩]
    have even : 2 ^ spec.mantissaBits % 2 = 0 := by
      rw [mantissa_bits_eq, pow_succ, Nat.mul_mod_left]
    have twice : (2 : ℝ) ^ spec.mantissaBits = n * 2 := by
      rw [least, mantissa_bits_eq, pow_succ]
      push_cast
      rfl
    rw [one, zpow_add_one₀ two_ne_zero, Nat.cast_one] at low
    rw [scaled] at bounded
    push_cast at bounded
    rw [halves.rounded_eq (n := 2 ^ spec.mantissaBits), scaled_power, least, scaled_power]
    · rw [mantissa_bits_eq]
      push_cast
      ring_nf
    · rw [le_div_iff₀ unit]
      push_cast
      rw [twice]
      linarith
    · rw [div_le_iff₀ unit]
      push_cast
      linarith
    · intro odd
      omega

end Fitting

/-- What is nearest to a number of the format is rounded to it. -/
theorem rounded_to {m : ℕ} {e : ℤ} {accuracy : Accuracy} (measures : Measures x m e accuracy)
    (wide : e ≤ spec.targetExponent (totalExponent m e)) (inForm : InForm spec n f)
    (positive : 0 < n) (reads : ReadsAs spec x n f) (sign : Sign) :
    roundWithAccuracy spec sign m e accuracy = .finite sign n f positive := by
  have fitting := first_shift measures.approximates wide
  have halves : Halves (shiftToTargetExponent spec m e accuracy).1
      (x / 2 ^ (shiftToTargetExponent spec m e accuracy).2) := by
    have shifted := measures.halves.shift (spec.targetExponent (totalExponent m e) - e).toNat
    rw [div_div, ← zpow_natCast, ← zpow_add₀ two_ne_zero] at shifted
    exact shifted
  simp only [roundWithAccuracy]
  generalize shiftToTargetExponent spec m e accuracy = first at fitting halves
  obtain ⟨em, t⟩ := first
  obtain ⟨m', e', carried, inForm', same⟩ := fitting.carried
  rw [fitting.rounded_eq halves inForm reads] at same
  obtain ⟨rfl, rfl⟩ := inForm'.unique inForm same
  simp only at carried ⊢
  rw [carried, dif_neg positive.ne']

theorem round_reads {m : ℕ} {e : ℤ} (filled : 0 < m) (inForm : InForm spec n f)
    (positive : 0 < n) (reads : ReadsAs spec (scaled m e) n f) (sign : Sign) :
    round spec sign m e = .finite sign n f positive := by
  simp only [UnpackedFloat.round, decreaseExponent, Nat.shiftLeft_eq]
  generalize least : (e - spec.targetExponent (totalExponent m e)).toNat = k
  have exact : Measures (scaled m e) (m * 2 ^ k) (e - k) .exact := by
    rw [Measures, scaled_shift, sub_add_cancel]
  refine rounded_to exact ?_ inForm positive reads sign
  rw [total_exponent_shift filled]
  omega

/-- The rest of a division tells on which side of the half the quotient lies. -/
theorem quotient_measured (m : ℕ) {k shift : ℕ} {e g t : ℤ} (denominator : 0 < k)
    (start : e - g = t + shift) :
    Measures (scaled m e / scaled k g) (m * 2 ^ shift / k) t
      (accuracyOfFraction (m * 2 ^ shift % k) k) := by
  have approximated := quotient_approximated m denominator start
  have quotient := quotient_scaled m denominator start
  rw [accuracyOfFraction] at approximated ⊢
  split
  next exact =>
    rw [if_pos exact] at approximated
    exact approximated
  next inexact =>
    rw [if_neg inexact] at approximated
    refine ⟨approximated.1, approximated.2, ?_⟩
    have positive : (0 : ℝ) < k := by exact_mod_cast denominator
    have unit : (0 : ℝ) < 2 ^ t := by positivity
    have parts := Nat.div_add_mod (m * 2 ^ shift) k
    generalize m * 2 ^ shift / k = whole at parts
    generalize m * 2 ^ shift % k = rest at parts
    have apart : 2 * (scaled (k * whole + rest) t / k) - scaled (2 * whole + 1) t =
        (2 * rest - k) * (2 ^ t / k) := by
      rw [scaled, scaled]
      push_cast
      field_simp
      ring
    have share : (0 : ℝ) < 2 ^ t / k := by positivity
    rw [quotient, ← parts, ← two_mul]
    rcases lt_trichotomy (2 * rest) k with less | same | greater
    · have gap : (2 * rest - k : ℝ) < 0 := by
        rw [sub_neg]
        exact_mod_cast less
      rw [compare_lt_iff_lt.mpr less, compare_lt_iff_lt, ← sub_neg, apart]
      exact mul_neg_of_neg_of_pos gap share
    · have gap : (2 * rest - k : ℝ) = 0 := by
        rw [sub_eq_zero]
        exact_mod_cast same
      rw [compare_eq_iff_eq.mpr same, compare_eq_iff_eq, ← sub_eq_zero, apart, gap, zero_mul]
    · have gap : (0 : ℝ) < 2 * rest - k := by
        rw [sub_pos]
        exact_mod_cast greater
      rw [compare_gt_iff_gt.mpr greater, compare_gt_iff_gt, ← sub_pos, apart]
      exact mul_pos gap share

section

variable {m k : ℕ} {e g : ℤ} (filled : 0 < m) (filled' : 0 < k) (inForm : InForm spec n f)
  (positive : 0 < n)

include inForm

theorem mul_reads (wide : e + g ≤ spec.targetExponent (totalExponent (m * k) (e + g)))
    (reads : ReadsAs spec (scaled m e * scaled k g) n f) :
    UnpackedFloat.mul spec (.finite .positive m e filled) (.finite .positive k g filled') =
      .finite .positive n f positive := by
  rw [← scaled_mul] at reads
  have exact : Measures (scaled (m * k) (e + g)) (m * k) (e + g) .exact := rfl
  exact rounded_to exact wide inForm positive reads _

theorem div_reads (reads : ReadsAs spec (scaled m e / scaled k g) n f) :
    UnpackedFloat.div spec (.finite .positive m e filled) (.finite .positive k g filled') =
      .finite .positive n f positive := by
  simp only [UnpackedFloat.div, divCore, Nat.shiftLeft_eq]
  generalize reached : min (e - g)
    (spec.targetExponent (totalExponent m e - totalExponent k g)) = t
  have start : e - g = t + (e - g - t).toNat := by omega
  have least : t ≤ spec.targetExponent (totalExponent m e - totalExponent k g) := by omega
  exact rounded_to (quotient_measured m filled' start)
    (quotient_wide filled filled' start least) inForm positive reads _

include filled in
theorem of_scientific_reads {decimal : ℤ} (large : decimal ≤ 2 ^ spec.exponentBits)
    (small : -2 ^ spec.exponentBits ≤ decimal) (reads : ReadsAs spec (m * 10 ^ decimal) n f) :
    UnpackedFloat.ofScientific spec m decimal = .finite .positive n f positive := by
  have least : ¬ decimal < -((2 ^ spec.exponentBits : ℤ) + m.log2) := by omega
  rw [UnpackedFloat.ofScientific, dif_neg filled.ne', if_neg (not_lt.mpr large), if_neg least]
  split
  next whole =>
    have power : (10 : ℝ) ^ decimal = (10 ^ decimal.toNat : ℕ) := by
      rw [Nat.cast_pow, ← zpow_natCast, Int.toNat_of_nonneg whole]
      rfl
    apply mul_reads _ _ inForm positive
    · have width : spec.mantissaBits ≤ (m <<< spec.mantissaBits * 10 ^ decimal.toNat).log2 := by
        rw [Nat.shiftLeft_eq, Nat.le_log2 (by positivity)]
        calc 2 ^ spec.mantissaBits = 1 * 2 ^ spec.mantissaBits * 1 := by ring
          _ ≤ m * 2 ^ spec.mantissaBits * 10 ^ decimal.toNat :=
              Nat.mul_le_mul (Nat.mul_le_mul_right _ filled) (Nat.one_le_pow _ _ (by decide))
      rw [Format.targetExponent, totalExponent]
      omega
    · rw [power] at reads
      rw [Nat.shiftLeft_eq, scaled_shift, neg_add_cancel, scaled, scaled, zpow_zero, mul_one,
        mul_one]
      exact reads
  next part =>
    have power : (10 : ℝ) ^ decimal = ((10 ^ (-decimal).toNat : ℕ) : ℝ)⁻¹ := by
      rw [Nat.cast_pow, ← zpow_natCast, Int.toNat_of_nonneg (by omega), zpow_neg, inv_inv]
      rfl
    apply div_reads _ _ inForm positive
    rw [power, ← div_eq_mul_inv] at reads
    rw [scaled, scaled, zpow_zero, mul_one, mul_one]
    exact reads

end

section

theorem zpow_parts {base : ℝ} (nonzero : base ≠ 0) (e : ℤ) :
    base ^ e * base ^ (-e).toNat = base ^ e.toNat := by
  rw [← zpow_natCast, ← zpow_natCast, ← zpow_add₀ nonzero]
  congr 1
  omega

def isPowerOfTen (power : ℕ) : UnpackedFloat → Bool
  | .finite .positive m e _ => m * 2 ^ e.toNat = 10 ^ power * 2 ^ (-e).toNat
  | _ => false

theorem table_of_powers : ∀ power : Fin Float.exactlyRepresentablePowersOfTen.size,
    isPowerOfTen power Float.exactlyRepresentablePowersOfTen[power].toModel.unpack = true := by
  decide +kernel

theorem double_cases (x : Float) : (∃ sign, x.toModel.unpack = .infinity sign) ∨
    x.toModel.unpack = .notANumber ∨ Fits .binary64 x.toModel.unpack :=
  unpack_fits (by decide) _

theorem power_of_ten {power : ℕ} (listed : power < Float.exactlyRepresentablePowersOfTen.size) :
    ∃ m e filled, Float.exactlyRepresentablePowersOfTen[power].toModel.unpack =
      .finite .positive m e filled ∧ InForm .binary64 m e ∧ scaled m e = 10 ^ power := by
  have checked := table_of_powers ⟨power, listed⟩
  have cases := double_cases Float.exactlyRepresentablePowersOfTen[power]
  simp only [Fin.getElem_fin] at checked
  generalize Float.exactlyRepresentablePowersOfTen[power].toModel.unpack = number at checked cases
  rcases cases with ⟨sign, rfl⟩ | rfl | fits
  · cases checked
  · cases checked
  · cases number with
    | zero | infinity | notANumber => cases checked
    | finite sign m e filled =>
        cases sign with
        | negative => cases checked
        | positive =>
            refine ⟨m, e, filled, rfl, fits.1, ?_⟩
            rw [isPowerOfTen, decide_eq_true_eq] at checked
            have unit := zpow_parts two_ne_zero e
            have share : (2 : ℝ) ^ (-e).toNat ≠ 0 := by positivity
            rw [scaled, ← mul_left_inj' share, mul_assoc, unit]
            exact_mod_cast checked

theorem whole_number {m : ℕ} (filled : 0 < m) (narrow : m < 2 ^ 53) :
    ∃ m' e filled', m.toUInt64.toFloat.toModel.unpack = .finite .positive m' e filled' ∧
      InForm .binary64 m' e ∧ scaled m' e = m := by
  have width : m.log2 < 53 := (Nat.log2_lt filled.ne').mpr narrow
  have least : Format.minExponent .binary64 = -1074 := rfl
  have same : scaled (m * 2 ^ (52 - m.log2)) (m.log2 - 52) = scaled m 0 := by
    rw [scaled_shift]
    congr 1
    omega
  have inForm : InForm .binary64 (m * 2 ^ (52 - m.log2)) (m.log2 - 52) := by
    refine ⟨?_, by omega, .inr ?_⟩
    · calc m * 2 ^ (52 - m.log2) < 2 ^ (m.log2 + 1) * 2 ^ (52 - m.log2) :=
            Nat.mul_lt_mul_of_pos_right Nat.lt_log2_self (by positivity)
        _ = 2 ^ 53 := by
            rw [← pow_add]
            congr 1
            omega
    · calc 2 ^ 52 = 2 ^ m.log2 * 2 ^ (52 - m.log2) := by
            rw [← pow_add]
            congr 1
            omega
        _ ≤ m * 2 ^ (52 - m.log2) :=
            Nat.mul_le_mul_right _ (Nat.log2_self_le filled.ne')
  have filled' : 0 < m * 2 ^ (52 - m.log2) := by positivity
  have fits : Fits .binary64 (.finite .positive _ (m.log2 - 52) filled') := by
    refine ⟨inForm, ?_⟩
    have bias : Format.exponentBias .binary64 = 1023 := rfl
    rw [bias]
    norm_num
    omega
  have reads : ReadsAs .binary64 (scaled m 0) _ _ := same ▸ reads_as_self _ _
  refine ⟨_, _, filled', ?_, inForm, ?_⟩
  · have unpacked : m.toUInt64.toFloat.toModel.unpack =
        stored .binary64 (UnpackedFloat.normalize .binary64 m.toUInt64.toNat 0 .positive) := rfl
    have kept : m.toUInt64.toNat = m := Nat.mod_eq_of_lt (by omega)
    rw [unpacked, kept, normalize_positive filled, round_reads filled inForm filled' reads,
      stored_fitting fits]
  · rw [same, scaled, zpow_zero, mul_one]

/-- A decimal is read as the double that is nearest to it. -/
theorem read_decimal {m n power : ℕ} {f : ℤ} (filled : 0 < m) (negative : Bool)
    (near : power ≤ 2048) {positive : 0 < n}
    (fits : Fits .binary64 (.finite .positive n f positive))
    (reads : ReadsAs .binary64 (m * 10 ^ (if negative then -power else power : ℤ)) n f) :
    (Float.ofScientific m negative power).toModel.unpack = .finite .positive n f positive := by
  rw [Float.ofScientific]
  split
  next small =>
    obtain ⟨m', e, filled', unpacked, inForm, whole⟩ := whole_number filled small.1
    obtain ⟨k, g, filled'', unpacked', inForm', tens⟩ :=
      power_of_ten (show power < Float.exactlyRepresentablePowersOfTen.size from
        Nat.lt_succ_of_le small.2)
    cases negative with
    | true =>
        have quotient := div_reads filled' filled'' fits.1 positive (by
          rw [whole, tens, div_eq_mul_inv, ← zpow_natCast, ← zpow_neg]
          exact reads)
        rw [← unpacked, ← unpacked'] at quotient
        exact (congrArg (stored .binary64) quotient).trans (stored_fitting fits)
    | false =>
        have product := mul_reads filled' filled'' fits.1 positive
          (product_wide inForm inForm' filled' filled'') (by
            rw [whole, tens, ← zpow_natCast]
            exact reads)
        rw [← unpacked, ← unpacked'] at product
        exact (congrArg (stored .binary64) product).trans (stored_fitting fits)
  next large =>
    have decimal : (if negative then Int.negOfNat power else Int.ofNat power) =
        (if negative then -power else power : ℤ) := by
      cases negative with
      | true => exact Int.negOfNat_eq
      | false => rfl
    simp only [decimal]
    have read := of_scientific_reads filled fits.1 positive
      (show _ ≤ (2 ^ 11 : ℤ) by split <;> omega) (show -(2 ^ 11 : ℤ) ≤ _ by split <;> omega) reads
    exact (congrArg (stored .binary64) read).trans (stored_fitting fits)

end

end FederatedSearch.Rounding
