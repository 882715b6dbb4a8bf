import FederatedSearch.Decimal.Shortest
import FederatedSearch.Proofs.NearestRounding

/-!
The shortest decimal of a double reads back as the double: the search stops at a decimal of the
reading interval, since the finest grid it looks at has one there.
-/

namespace FederatedSearch.Decimal

open FederatedSearch.Rounding
open Float.Model (Format)

theorem digit_count_bounds (n : ℕ) :
    n < 10 ^ digitCount n ∧ (0 < n → 10 ^ digitCount n ≤ 10 * n) := by
  induction n using digitCount.induct with
  | case1 =>
      rw [digitCount, dif_pos rfl]
      exact ⟨Nat.one_pos, fun positive => absurd positive (lt_irrefl 0)⟩
  | case2 n filled induction =>
      rw [digitCount, dif_neg filled, pow_succ]
      constructor
      · omega
      · intro _
        by_cases short : n / 10 = 0
        · rw [short, digitCount, dif_pos rfl, pow_zero]
          omega
        · have := induction.2 (Nat.pos_of_ne_zero short)
          omega

noncomputable def DecimalNumber.value (number : DecimalNumber) : ℝ :=
  number.digits * 10 ^ number.exponent

theorem leading_power_bounds {num den : ℕ} (positive : 0 < num) (positive' : 0 < den) :
    (10 : ℝ) ^ (leadingPower num den - 1) ≤ num / den ∧
      (num / den : ℝ) < 10 ^ leadingPower num den := by
  have numerator : (0 : ℝ) < num := by exact_mod_cast positive
  have denominator : (0 : ℝ) < den := by exact_mod_cast positive'
  rw [leadingPower]
  split
  next above =>
    have filled : 0 < num / den := Nat.div_pos above positive'
    obtain ⟨upper, lower⟩ := digit_count_bounds (num / den)
    have lower := lower filled
    constructor
    · rw [zpow_sub₀ (by norm_num), zpow_natCast, zpow_one, le_div_iff₀ denominator,
        div_mul_eq_mul_div, div_le_iff₀ (by norm_num)]
      have whole : 10 ^ digitCount (num / den) * den ≤ num * 10 := by
        calc 10 ^ digitCount (num / den) * den ≤ 10 * (num / den) * den :=
              Nat.mul_le_mul_right _ lower
          _ = (num / den) * den * 10 := by ring
          _ ≤ num * 10 := Nat.mul_le_mul_right _ (Nat.div_mul_le_self _ _)
      exact_mod_cast whole
    · rw [zpow_natCast, div_lt_iff₀ denominator]
      have whole : num < 10 ^ digitCount (num / den) * den :=
        (Nat.div_lt_iff_lt_mul positive').mp upper
      exact_mod_cast whole
  next below =>
    have parts := Nat.div_add_mod (den + num - 1) num
    have rest := Nat.mod_lt (den + num - 1) positive
    generalize quotient : (den + num - 1) / num = ceiling at parts
    have more : 1 < ceiling := by
      by_contra few
      have : num * ceiling ≤ num * 1 := Nat.mul_le_mul_left _ (by omega)
      omega
    obtain ⟨upper, lower⟩ := digit_count_bounds (ceiling - 1)
    have lower := lower (by omega)
    have whole : num * ceiling = num * (ceiling - 1) + num := by
      rw [← Nat.mul_succ]
      congr 1
      omega
    constructor
    · rw [sub_right_comm, sub_self, zero_sub, zpow_neg, zpow_natCast, inv_le_comm₀ (by positivity)
        (by positivity), inv_div, div_le_iff₀ numerator]
      have enough : den ≤ 10 ^ digitCount (ceiling - 1) * num := by
        calc den ≤ num * (ceiling - 1 + 1) := by
              rw [Nat.sub_add_cancel more.le]
              omega
          _ ≤ num * 10 ^ digitCount (ceiling - 1) := Nat.mul_le_mul_left _ upper
          _ = 10 ^ digitCount (ceiling - 1) * num := Nat.mul_comm _ _
      exact_mod_cast enough
    · rw [zpow_sub₀ (by norm_num), zpow_natCast, zpow_one,
        div_lt_div_iff₀ denominator (by positivity)]
      have small : num * 10 ^ digitCount (ceiling - 1) < 10 * den := by
        calc num * 10 ^ digitCount (ceiling - 1) ≤ num * (10 * (ceiling - 1)) :=
              Nat.mul_le_mul_left _ lower
          _ = 10 * (num * (ceiling - 1)) := by ring
          _ < 10 * den := by omega
      exact_mod_cast small

section

variable {n digits : ℕ} {f power : ℤ}

/-- Both sides are multiplied by the powers below the bar. -/
theorem crossed (a b : ℕ) (e p : ℤ) :
    ((a * 2 ^ e.toNat * 10 ^ (-p).toNat : ℕ) : ℝ) =
        a * 2 ^ e * (2 ^ (-e).toNat * 10 ^ (-p).toNat) ∧
      ((b * 10 ^ p.toNat * 2 ^ (-e).toNat : ℕ) : ℝ) =
        b * 10 ^ p * (2 ^ (-e).toNat * 10 ^ (-p).toNat) := by
  have twos := zpow_parts two_ne_zero e
  have tens := zpow_parts (show (10 : ℝ) ≠ 0 by norm_num) p
  push_cast
  rw [← twos, ← tens]
  constructor <;> ring

theorem crossed_le_iff (a b : ℕ) (e p : ℤ) :
    a * 2 ^ e.toNat * 10 ^ (-p).toNat ≤ b * 10 ^ p.toNat * 2 ^ (-e).toNat ↔
      (a * 2 ^ e : ℝ) ≤ b * 10 ^ p := by
  obtain ⟨left, right⟩ := crossed a b e p
  rw [← Nat.cast_le (α := ℝ), left, right, mul_le_mul_iff_left₀ (by positivity)]

theorem crossed_ge_iff (a b : ℕ) (e p : ℤ) :
    b * 10 ^ p.toNat * 2 ^ (-e).toNat ≤ a * 2 ^ e.toNat * 10 ^ (-p).toNat ↔
      (b * 10 ^ p : ℝ) ≤ a * 2 ^ e := by
  obtain ⟨left, right⟩ := crossed a b e p
  rw [← Nat.cast_le (α := ℝ), left, right, mul_le_mul_iff_left₀ (by positivity)]

theorem binade_start_eq (n : ℕ) (f : ℤ) :
    (if BinaryFormat.binary64.isBinadeStart n f then 1 else 2) = quartersBelow .binary64 n f := by
  have least : BinaryFormat.binary64.minExponent = Format.minExponent .binary64 := rfl
  simp only [BinaryFormat.isBinadeStart, quartersBelow, least, Bool.and_eq_true, beq_iff_eq,
    decide_eq_true_eq]
  rfl

/-- A decimal lies in the interval exactly if it is nearest to the number. -/
theorem contains_iff (positive : 0 < n) :
    (ReadingInterval.of .binary64 n f).contains digits power = true ↔
      ReadsAs .binary64 (digits * 10 ^ power) n f := by
  have few : quartersBelow .binary64 n f ≤ 4 * n := by
    unfold quartersBelow
    split <;> omega
  have below : ((4 * n - quartersBelow .binary64 n f : ℕ) : ℝ) =
      4 * n - quartersBelow .binary64 n f := by
    push_cast [Nat.cast_sub few]
    rfl
  have low := crossed_le_iff (4 * n - quartersBelow .binary64 n f) (4 * digits) f power
  have low' := crossed_ge_iff (4 * n - quartersBelow .binary64 n f) (4 * digits) f power
  have high := crossed_ge_iff (4 * n + 2) (4 * digits) f power
  have high' := crossed_le_iff (4 * n + 2) (4 * digits) f power
  have grouped : digits * 10 ^ power.toNat * (4 * 2 ^ (-f).toNat) =
      4 * digits * 10 ^ power.toNat * 2 ^ (-f).toNat := by ring
  have decimal : ((4 * digits : ℕ) : ℝ) * 10 ^ power = 4 * (digits * 10 ^ power) := by
    push_cast
    ring
  rw [below, decimal] at low low'
  rw [decimal] at high high'
  push_cast at high high'
  simp only [ReadingInterval.contains, ReadingInterval.of, binade_start_eq, Nat.pow_eq, grouped]
  rcases Nat.mod_two_eq_zero_or_one n with even | odd
  · simp only [even, beq_self_eq_true, if_true, Bool.and_eq_true, decide_eq_true_eq]
    rw [low, high]
    exact ⟨fun bounds => ⟨bounds.1, bounds.2, fun odd => by omega⟩,
      fun reads => ⟨reads.low, reads.high⟩⟩
  · have notEven : (1 == 0) = false := rfl
    simp only [odd, notEven, Bool.false_eq_true, if_false, Bool.and_eq_true, decide_eq_true_eq]
    rw [← not_le, ← not_le, low', high', not_le, not_le]
    exact ⟨fun ends => ⟨ends.1.le, ends.2.le, fun _ => ends⟩, fun reads => reads.ends odd⟩

/-- What lies between a number and what is nearest to it is nearest to it too. -/
theorem reads_between {x y : ℝ} (reads : ReadsAs .binary64 x n f)
    (between : x ≤ y ∧ y ≤ scaled n f ∨ scaled n f ≤ y ∧ y ≤ x) : ReadsAs .binary64 y n f := by
  have own : ReadsAs .binary64 (scaled n f) n f := reads_as_self n f
  rcases between with ⟨above, below⟩ | ⟨above, below⟩
  · exact ⟨by linarith [reads.low], by linarith [own.high], fun odd =>
      ⟨by linarith [reads.ends odd], by linarith [own.ends odd]⟩⟩
  · exact ⟨by linarith [own.low], by linarith [reads.high], fun odd =>
      ⟨by linarith [own.ends odd], by linarith [reads.ends odd]⟩⟩

/-- The decimal of a grid just below the number. -/
def gridFloor (n : ℕ) (f power : ℤ) : ℕ :=
  4 * n * 2 ^ f.toNat * 10 ^ (-power).toNat / (4 * 2 ^ (-f).toNat * 10 ^ power.toNat)

theorem grid_floor_bounds (n : ℕ) (f power : ℤ) :
    gridFloor n f power * 10 ^ power ≤ scaled n f ∧
      scaled n f < (gridFloor n f power + 1) * 10 ^ power := by
  have lower := Nat.div_mul_le_self (4 * n * 2 ^ f.toNat * 10 ^ (-power).toNat)
    (4 * 2 ^ (-f).toNat * 10 ^ power.toNat)
  have upper := Nat.lt_div_mul_add (a := 4 * n * 2 ^ f.toNat * 10 ^ (-power).toNat)
    (show 0 < 4 * 2 ^ (-f).toNat * 10 ^ power.toNat by positivity)
  change gridFloor n f power * _ ≤ _ at lower
  change _ < gridFloor n f power * _ + _ at upper
  have regroup (k : ℕ) : k * (4 * 2 ^ (-f).toNat * 10 ^ power.toNat) =
      4 * k * 10 ^ power.toNat * 2 ^ (-f).toNat := by ring
  rw [← Nat.succ_mul, regroup, ← not_le, crossed_ge_iff, not_le] at upper
  rw [regroup, crossed_ge_iff] at lower
  push_cast at lower upper
  rw [scaled]
  constructor <;> linarith

theorem on_grid_cases (n : ℕ) (f power : ℤ) :
    (∃ digits, (ReadingInterval.of .binary64 n f).onGrid? power = some digits ∧
      (ReadingInterval.of .binary64 n f).contains digits power = true) ∨
    (ReadingInterval.of .binary64 n f).onGrid? power = none ∧
      (ReadingInterval.of .binary64 n f).contains (gridFloor n f power) power = false ∧
      (ReadingInterval.of .binary64 n f).contains (gridFloor n f power + 1) power = false := by
  generalize same : ReadingInterval.of .binary64 n f = interval
  have floor : interval.value * 10 ^ (-power).toNat / (interval.denominator * 10 ^ power.toNat) =
      gridFloor n f power := by
    rw [← same]
    rfl
  simp only [ReadingInterval.onGrid?, Nat.pow_eq, floor]
  cases atFloor : interval.contains (gridFloor n f power) power <;>
    cases above : interval.contains (gridFloor n f power + 1) power
  · exact .inr ⟨rfl, rfl, rfl⟩
  · exact .inl ⟨_, rfl, above⟩
  · exact .inl ⟨_, rfl, atFloor⟩
  · refine .inl ⟨_, rfl, ?_⟩
    split
    next nearer => exact above
    next farther => exact atFloor

theorem on_grid_of_contains (positive : 0 < n) {near : ℕ}
    (found : (ReadingInterval.of .binary64 n f).contains near power = true) :
    ∃ digits, (ReadingInterval.of .binary64 n f).onGrid? power = some digits ∧
      (ReadingInterval.of .binary64 n f).contains digits power = true := by
  rcases on_grid_cases n f power with some | ⟨-, notBelow, notAbove⟩
  · exact some
  · rw [contains_iff positive] at found
    rw [← Bool.not_eq_true, contains_iff positive] at notBelow notAbove
    obtain ⟨lower, upper⟩ := grid_floor_bounds n f power
    have unit : (0 : ℝ) < 10 ^ power := by positivity
    rcases Nat.lt_or_ge (gridFloor n f power) near with above | below
    · refine absurd (reads_between found (.inr ⟨?_, ?_⟩)) notAbove
      · push_cast
        exact upper.le
      · exact mul_le_mul_of_nonneg_right (by exact_mod_cast above) unit.le
    · refine absurd (reads_between found (.inl ⟨?_, lower⟩)) notBelow
      exact mul_le_mul_of_nonneg_right (by exact_mod_cast below) unit.le

/-- The search stops at a decimal of the interval if the last grid has one. -/
theorem search_contains (positive : 0 < n) (count : ℕ) {near : ℕ}
    (found : (ReadingInterval.of .binary64 n f).contains near (power - count) = true) :
    (ReadingInterval.of .binary64 n f).contains
        ((ReadingInterval.of .binary64 n f).search power count).digits
        ((ReadingInterval.of .binary64 n f).search power count).exponent = true ∧
      power - count ≤ ((ReadingInterval.of .binary64 n f).search power count).exponent := by
  induction count generalizing power with
  | zero =>
      rw [Nat.cast_zero, sub_zero] at found ⊢
      obtain ⟨digits, onGrid, contained⟩ := on_grid_of_contains positive found
      simp only [ReadingInterval.search, onGrid, Option.getD_some]
      exact ⟨contained, le_refl _⟩
  | succ count induction =>
      rw [Nat.cast_succ, ← sub_sub, sub_right_comm] at found
      rw [ReadingInterval.search]
      rcases on_grid_cases n f power with ⟨digits, onGrid, contained⟩ | ⟨none, -, -⟩
      · rw [onGrid]
        exact ⟨contained, by push_cast; omega⟩
      · rw [none]
        obtain ⟨contained, above⟩ := induction found
        exact ⟨contained, by push_cast; omega⟩

/-- Eighteen digits are enough for a decimal of the interval. -/
theorem finest_grid_contains (inForm : InForm .binary64 n f) (positive : 0 < n)
    (leading : (10 : ℝ) ^ (power + 17) ≤ scaled n f) :
    (ReadingInterval.of .binary64 n f).contains (gridFloor n f power) power = true := by
  have unit : (0 : ℝ) < 2 ^ f := by positivity
  have narrow : (n : ℝ) < 2 ^ 53 := by exact_mod_cast inForm.narrow
  obtain ⟨lower, upper⟩ := grid_floor_bounds n f power
  rw [contains_iff positive]
  have coarse : scaled n f < 2 ^ 53 * 2 ^ f := by
    rw [scaled]
    exact mul_lt_mul_of_pos_right narrow unit
  rw [zpow_add₀ (by norm_num)] at leading
  norm_num at leading coarse
  have few : (1 : ℝ) ≤ quartersBelow .binary64 n f := by
    unfold quartersBelow
    split <;> norm_num
  have apart : (1 : ℝ) * 2 ^ f ≤ quartersBelow .binary64 n f * 2 ^ f :=
    mul_le_mul_of_nonneg_right few unit.le
  rw [scaled] at lower upper leading coarse
  exact ⟨by linarith, by linarith, fun _ => ⟨by linarith, by linarith⟩⟩

theorem strip_keeps (number : DecimalNumber) :
    number.strip.value = number.value ∧ (0 < number.digits → 0 < number.strip.digits) ∧
      number.exponent ≤ number.strip.exponent := by
  induction number using DecimalNumber.strip.induct with
  | case1 number round induction =>
      rw [DecimalNumber.strip, if_pos round]
      obtain ⟨value, filled, above⟩ := induction
      refine ⟨?_, fun _ => filled ?_, ?_⟩
      · have parts : (number.digits : ℝ) = (number.digits / 10 : ℕ) * 10 := by
          exact_mod_cast (Nat.div_mul_cancel (Nat.dvd_of_mod_eq_zero round.1)).symm
        rw [value, DecimalNumber.value, DecimalNumber.value, parts, zpow_add_one₀ (by norm_num)]
        ring
      · change 0 < number.digits / 10
        omega
      · exact (Int.le_add_one (le_refl _)).trans above
  | case2 number rugged =>
      rw [DecimalNumber.strip, if_neg rugged]
      exact ⟨rfl, id, le_refl _⟩

theorem least_double_above : (10 : ℝ) ^ (-324 : ℤ) ≤ 2 ^ (-1074 : ℤ) / 2 := by
  have powers : 2 ^ 1074 * 2 ≤ 10 ^ 324 := by decide +kernel
  rw [zpow_neg, zpow_neg, inv_eq_one_div, inv_eq_one_div, div_div,
    one_div_le_one_div (by positivity) (by positivity)]
  exact_mod_cast powers

theorem greatest_double_below : (2 : ℝ) ^ 53 * 2 ^ (971 : ℤ) < 10 ^ (309 : ℤ) := by
  have powers : 2 ^ 53 * 2 ^ 971 < 10 ^ 309 := by decide +kernel
  exact_mod_cast powers

theorem reads_in_range {x : ℝ} {sign : Float.Model.UnpackedFloat.Sign} {positive : 0 < n}
    (fits : Fits .binary64 (.finite sign n f positive)) (reads : ReadsAs .binary64 x n f) :
    (10 : ℝ) ^ (-324 : ℤ) ≤ x ∧ x < 10 ^ (309 : ℤ) := by
  obtain ⟨inForm, room⟩ := fits
  have lowest : -1074 ≤ f := inForm.lowest
  have highest : f ≤ 971 := by
    have bias : Format.exponentBias .binary64 = 1023 := rfl
    rw [bias] at room
    norm_num at room
    omega
  have unit : (0 : ℝ) < 2 ^ f := by positivity
  have low := reads.low
  have high := reads.high
  have few := @quarters_below_le .binary64 n f
  have one : (1 : ℝ) ≤ n := by exact_mod_cast positive
  have narrow : (n : ℝ) + 1 ≤ 2 ^ 53 := by exact_mod_cast inForm.narrow
  constructor
  · have above : (2 : ℝ) ^ (-1074 : ℤ) ≤ 2 ^ f := zpow_le_zpow_right₀ one_le_two lowest
    have apart : (2 : ℝ) * 2 ^ f ≤ (4 * n - quartersBelow .binary64 n f) * 2 ^ f :=
      mul_le_mul_of_nonneg_right (by linarith) unit.le
    exact least_double_above.trans (by linarith)
  · have below : (2 : ℝ) ^ f ≤ 2 ^ (971 : ℤ) := zpow_le_zpow_right₀ one_le_two highest
    have apart : (4 * n + 2 : ℝ) * 2 ^ f ≤ (4 * 2 ^ 53) * 2 ^ (971 : ℤ) :=
      mul_le_mul (by linarith) below unit.le (by positivity)
    exact lt_of_le_of_lt (by linarith) greatest_double_below

theorem interval_value (n : ℕ) (f : ℤ) :
    ((ReadingInterval.of .binary64 n f).value : ℝ) /
      (ReadingInterval.of .binary64 n f).denominator = scaled n f := by
  have value : (ReadingInterval.of .binary64 n f).value = 4 * n * 2 ^ f.toNat := rfl
  have denominator : (ReadingInterval.of .binary64 n f).denominator = 4 * 2 ^ (-f).toNat := rfl
  rw [value, denominator, scaled, div_eq_iff (by positivity)]
  push_cast
  rw [← zpow_parts two_ne_zero f]
  ring

/-- The shortest decimal is nearest to the number, and has few places. -/
theorem shortest_reads {sign : Float.Model.UnpackedFloat.Sign} {positive : 0 < n}
    (fits : Fits .binary64 (.finite sign n f positive)) :
    0 < (shortest .binary64 n f).digits ∧
      ReadsAs .binary64 (shortest .binary64 n f).value n f ∧
      -400 ≤ (shortest .binary64 n f).exponent := by
  have inForm := fits.1
  have values : 0 < (ReadingInterval.of .binary64 n f).value ∧
      0 < (ReadingInterval.of .binary64 n f).denominator :=
    ⟨Nat.mul_pos (by omega) (Nat.two_pow_pos _), Nat.mul_pos (by omega) (Nat.two_pow_pos _)⟩
  obtain ⟨leading, bounded⟩ := leading_power_bounds values.1 values.2
  rw [interval_value] at leading bounded
  rw [shortest]
  generalize leadingPower _ _ = top at leading bounded ⊢
  have wide : -324 < top := by
    by_contra small
    have above := (reads_in_range fits (reads_as_self n f)).1
    have below : (10 : ℝ) ^ top ≤ 10 ^ (-324 : ℤ) :=
      zpow_le_zpow_right₀ (by norm_num) (not_lt.mp small)
    exact absurd (bounded.trans_le below) (not_lt.mpr above)
  have finest : (ReadingInterval.of .binary64 n f).contains (gridFloor n f (top - 1 - (17 : ℕ)))
      (top - 1 - (17 : ℕ)) = true :=
    finest_grid_contains inForm positive (by rwa [Nat.cast_ofNat, sub_add_cancel])
  obtain ⟨contained, above⟩ := search_contains positive 17 finest
  generalize (ReadingInterval.of .binary64 n f).search (top - 1) 17 = found at contained above
  obtain ⟨stripped, filled, further⟩ := strip_keeps found
  rw [contains_iff positive] at contained
  have some : 0 < found.digits := by
    by_contra none
    have nonzero := (reads_in_range fits contained).1
    rw [Nat.eq_zero_of_not_pos none, Nat.cast_zero, zero_mul] at nonzero
    exact absurd nonzero (not_le.mpr (by positivity))
  refine ⟨filled some, ?_, by push_cast at above; omega⟩
  rw [stripped]
  exact contained

end

end FederatedSearch.Decimal
