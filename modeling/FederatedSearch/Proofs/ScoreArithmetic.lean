import FederatedSearch.Proofs.RoundedOperations
import FederatedSearch.Proofs.ScoreOrder

/-!
The arithmetic of scores at its ends. A finite score times a score of at most one is finite, and
zero times a finite score is zero. Zero times any other score is undefined, and what is undefined
stays so in products and sums.
-/

namespace FederatedSearch.Float32

open Float.Model FederatedSearch.Rounding

def number (x : Float32) : UnpackedFloat := x.toModel.unpack

/-- The score is zero with one sign or the other. -/
def IsZero (x : Float32) : Prop := ∃ sign, number x = .zero sign

variable {a b x : Float32}

theorem number_mul (a b : Float32) :
    number (a * b) = stored .binary32 (.mul .binary32 (number a) (number b)) := rfl

theorem number_add (a b : Float32) :
    number (a + b) = stored .binary32 (.add .binary32 (number a) (number b)) := rfl

theorem less_iff_compare : a < b ↔ (number a).compare (number b) = some .lt := by
  have compared : a < b ↔ ((number a).compare (number b) == some .lt) = true := decide_eq_true_iff
  rw [compared, beq_iff_eq]

theorem le_iff_compare :
    a ≤ b ↔ ∃ order, (number a).compare (number b) = some order ∧ order.isLE = true := by
  have compared : a ≤ b ↔ ((number a).compare (number b)).any (·.isLE) = true :=
    decide_eq_true_iff
  rw [compared, Option.any_eq_true]

theorem finite_iff : x.isFinite = true ↔ Fits .binary32 (number x) :=
  finite_iff_fits (by decide) _

theorem undefined_iff : x.isNaN = true ↔ number x = .notANumber := by
  have kind : x.isNaN = (number x).isNaN := rfl
  rw [kind]
  cases number x <;> simp [UnpackedFloat.isNaN]

section products

theorem mul_rounds (finite : a.isFinite = true) (finite' : b.isFinite = true) :
    ∃ sign, RoundsTo .binary32 sign (size (number a) * size (number b))
      (.mul .binary32 (number a) (number b)) := by
  have first := (finite_iff.mp finite).canonical
  have second := (finite_iff.mp finite').canonical
  obtain ⟨sign, signed⟩ := first.signed
  obtain ⟨other, signed'⟩ := second.signed
  exact ⟨sign * other, mul_rounds_to first second signed signed'⟩

theorem mul_finite_of_le {z : UnpackedFloat} (finite : a.isFinite = true)
    (finite' : b.isFinite = true) (fits : Fits .binary32 z)
    (atMost : size (number a) * size (number b) ≤ size z) :
    (a * b).isFinite = true ∧ size (number (a * b)) ≤ size z := by
  obtain ⟨sign, rounds⟩ := mul_rounds finite finite'
  obtain ⟨fits, -, bounded⟩ := rounds.stored_le fits atMost
  exact ⟨finite_iff.mpr fits, bounded⟩

theorem small_mul_finite (finite : a.isFinite = true) (small : size (number a) ≤ 1)
    (finite' : b.isFinite = true) : (a * b).isFinite = true := by
  refine (mul_finite_of_le finite finite' (finite_iff.mp finite') ?_).1
  exact mul_le_of_le_one_left (size_nonneg _) small

theorem mul_small_finite (finite : a.isFinite = true) (finite' : b.isFinite = true)
    (small : size (number b) ≤ 1) : (a * b).isFinite = true := by
  refine (mul_finite_of_le finite finite' (finite_iff.mp finite) ?_).1
  exact mul_le_of_le_one_right (size_nonneg _) small

/-- A product of finite scores can be infinite, but not undefined. -/
theorem mul_defined (finite : a.isFinite = true) (finite' : b.isFinite = true) :
    (a * b).isNaN = false := by
  obtain ⟨sign, rounds⟩ := mul_rounds finite finite'
  rw [← Bool.not_eq_true, undefined_iff, number_mul]
  rcases rounds.stored_cases with infinite | ⟨fits, -⟩
  · rw [infinite]
    exact UnpackedFloat.noConfusion
  · intro undefined
    rw [undefined] at fits
    cases fits

theorem zero_mul (zero : IsZero a) (finite : b.isFinite = true) : IsZero (a * b) := by
  obtain ⟨sign, same⟩ := zero
  change (number b).isFinite = true at finite
  rw [IsZero, number_mul, same]
  generalize number b = factor at finite
  cases factor with
  | infinity | notANumber => cases finite
  | zero other | finite other m e positive => exact ⟨sign * other, stored_zero _⟩

theorem zero_mul_undefined (zero : IsZero a) (infinite : b.isFinite = false) :
    (a * b).isNaN = true := by
  obtain ⟨sign, same⟩ := zero
  change (number b).isFinite = false at infinite
  rw [undefined_iff, number_mul, same]
  generalize number b = factor at infinite
  cases factor with
  | zero | finite => cases infinite
  | infinity | notANumber => exact stored_not_a_number

theorem undefined_mul (undefined : a.isNaN = true) : (a * b).isNaN = true := by
  rw [undefined_iff] at undefined ⊢
  rw [number_mul, undefined]
  exact stored_not_a_number

theorem mul_undefined (undefined : b.isNaN = true) : (a * b).isNaN = true := by
  rw [undefined_iff] at undefined ⊢
  rw [number_mul, undefined]
  cases number a <;> exact stored_not_a_number

/-- A product with a factor that is not finite is not finite either. -/
theorem mul_infinite (infinite : b.isFinite = false) : (a * b).isFinite = false := by
  have kind (x : Float32) : x.isFinite = (number x).isFinite := rfl
  rw [kind] at infinite ⊢
  cases factor : number b with
  | zero | finite =>
      rw [factor] at infinite
      cases infinite
  | notANumber =>
      have undefined := mul_undefined (undefined_iff.mpr factor) (a := a)
      rw [undefined_iff.mp undefined]
      rfl
  | infinity sign =>
      rw [number_mul, factor]
      cases number a with
      | zero | notANumber => exact congrArg UnpackedFloat.isFinite stored_not_a_number
      | infinity other | finite other => exact congrArg UnpackedFloat.isFinite (stored_infinity _)

end products

section sums

theorem zero_add (zero : IsZero a) (zero' : IsZero b) : IsZero (a + b) := by
  obtain ⟨sign, same⟩ := zero
  obtain ⟨other, same'⟩ := zero'
  rw [IsZero, number_add, same, same']
  cases sign <;> cases other <;> exact ⟨_, stored_zero _⟩

theorem undefined_add (undefined : a.isNaN = true) : (a + b).isNaN = true := by
  rw [undefined_iff] at undefined ⊢
  rw [number_add, undefined]
  exact stored_not_a_number

theorem add_undefined (undefined : b.isNaN = true) : (a + b).isNaN = true := by
  rw [undefined_iff] at undefined ⊢
  rw [number_add, undefined]
  cases number a <;> exact stored_not_a_number

end sums

theorem number_one : number 1 = .finite .positive (2 ^ 23) (-23) (by decide) := rfl

theorem size_one : size (number 1) = 1 := by
  rw [number_one, size, scaled_power]
  norm_num

theorem size_half : size (number 0.5) ≤ 1 := by
  have half : number 0.5 = .finite .positive (2 ^ 23) (-24) (by decide) := rfl
  rw [half, size, scaled_power]
  norm_num

/-- Halving one any number of times gives a finite score of at most one. -/
theorem halved_small (count : ℕ) :
    (Nat.repeat (· * (0.5 : Float32)) count 1).isFinite = true ∧
      size (number (Nat.repeat (· * (0.5 : Float32)) count 1)) ≤ 1 := by
  induction count with
  | zero => exact ⟨rfl, size_one.le⟩
  | succ count induction =>
      obtain ⟨finite, small⟩ := induction
      have fits : Fits .binary32 (number 1) := finite_iff.mp rfl
      rw [← size_one]
      apply mul_finite_of_le finite rfl fits
      rw [size_one]
      exact mul_le_one₀ small (size_nonneg _) size_half

theorem half_power_small {power : ℤ} (nonneg : 0 ≤ power) :
    (halfPower power).isFinite = true ∧ size (number (halfPower power)) ≤ 1 := by
  simp only [halfPower, if_pos nonneg]
  exact halved_small _

/-- The least power that 32 bits can count has an infinite inverse. -/
theorem half_power_infinite : (halfPower (-2 ^ 31)).isFinite = false := by decide +kernel

theorem small_of_unit (nonneg : 0 ≤ x) (atMost : x ≤ 1) :
    x.isFinite = true ∧ size (number x) ≤ 1 := by
  obtain ⟨low, above, notLower⟩ := le_iff_compare.mp nonneg
  obtain ⟨high, below, notHigher⟩ := le_iff_compare.mp atMost
  have zero : number 0 = .zero .positive := rfl
  rw [zero] at above
  have kind : x.isFinite = (number x).isFinite := rfl
  have fits := @finite_iff x
  rw [kind] at fits ⊢
  cases same : number x with
  | notANumber =>
      rw [same] at above
      cases above
  | infinity sign =>
      rw [same] at above below
      cases sign
      · cases above
        cases notLower
      · cases below
        cases notHigher
  | zero sign => exact ⟨rfl, zero_le_one⟩
  | finite sign m e positive =>
      rw [same] at above below fits
      cases sign with
      | negative =>
          cases above
          cases notLower
      | positive =>
          have one : Canonical .binary32 (number 1) := (finite_iff.mp rfl).canonical
          rw [compare_positive (fits.mp rfl).canonical one rfl rfl, Option.some_inj] at below
          rw [← below, ← Ordering.ne_gt_iff_isLE] at notHigher
          rw [← size_one]
          exact ⟨rfl, compare_le_iff_le.mp notHigher⟩

theorem nonneg_of_not_negative (defined : x.isNaN = false) (notBelow : ¬x < 0) : 0 ≤ x := by
  have zero : (0 : Float32).isNaN = false := rfl
  rw [lt_iff] at notBelow
  rw [le_iff]
  refine ⟨zero, defined, ?_⟩
  by_contra below
  exact notBelow ⟨defined, zero, not_le.mp below⟩

theorem zero_iff_equal : (x == 0) = true ↔ IsZero x := by
  have compared : (x == 0) = ((number x).compare (.zero .positive) == some .eq) := rfl
  rw [compared, IsZero, beq_iff_eq]
  cases number x with
  | zero sign => exact ⟨fun _ => ⟨sign, rfl⟩, fun _ => rfl⟩
  | infinity sign | finite sign m e positive =>
      cases sign <;> simp [UnpackedFloat.compare]
  | notANumber => simp [UnpackedFloat.compare]

end FederatedSearch.Float32
