import FederatedSearch.Proofs.Evidence

/-!
Halving. Behind the last configured multiplier every further appearance gets half of the one
before, as long as 32 bits with a sign count the appearances. Where the count runs over it becomes
negative: from there on the multipliers are greater than the last configured one and are halved
down to it, and so on with every period of the count.
-/

namespace FederatedSearch.RankingWeights

open ScoreArithmetic

/-- In whatever numbers scores are, the last multiplier is halved once for every position behind
the list up to this one. -/
def HalvesOut (length position : ℕ) : Prop :=
  ∀ {Score : Type} [ScoreArithmetic Score] (weights : RankingWeights Score)
    (filled : weights.multipliers ≠ []), weights.multipliers.length = length →
    weights.multiplier position =
      weights.multipliers.getLast filled * halfPower ((position - length + 1 : ℕ) : ℤ)

theorem multiplier_behind {Score : Type} [ScoreArithmetic Score] {weights : RankingWeights Score}
    (filled : weights.multipliers ≠ []) {position : ℕ}
    (behind : weights.multipliers.length ≤ position) :
    weights.multiplier position = weights.multipliers.getLast filled *
      halfPower (halvings weights.multipliers.length position) := by
  rw [multiplier, List.getElem?_eq_none behind, List.getLast?_eq_some_getLast filled]

/-- A number of times, as 32 bits with a sign count it. -/
def counted (times : ℕ) : ℤ := Int.bmod times (2 ^ 32)

theorem halvings_eq_counted (length position : ℕ) :
    halvings length position = counted (position - length + 1) := rfl

theorem counted_eq_iff {times : ℕ} : counted times = times ↔ times < 2 ^ 31 := by
  unfold counted
  rw [Int.bmod_def]
  omega

theorem counted_nonneg_iff {times : ℕ} : 0 ≤ counted times ↔ times % 2 ^ 32 < 2 ^ 31 := by
  unfold counted
  rw [Int.bmod_def]
  omega

/-- The count goes up by one but at the end of its range. -/
theorem counted_next_iff {times : ℕ} :
    counted (times + 1) = counted times + 1 ↔ (times + 1) % 2 ^ 32 ≠ 2 ^ 31 := by
  unfold counted
  rw [Int.bmod_def, Int.bmod_def]
  omega

theorem exact_half_power (power : ℤ) : (halfPower power : ℚ≥0) = (1 / 2) ^ power := by
  simp only [halfPower]
  norm_num

theorem half_powers_injective : Function.Injective fun power : ℤ => (1 / 2 : ℚ≥0) ^ power := by
  apply zpow_right_injective₀
  · norm_num
  · norm_num

theorem scaled_powers_eq_iff {last : ℚ≥0} {power other : ℤ} :
    last * (1 / 2) ^ power = last * (1 / 2) ^ other ↔ last = 0 ∨ power = other := by
  rw [mul_eq_mul_left_iff, half_powers_injective.eq_iff, or_comm]

theorem scaled_power_le_iff {last : ℚ≥0} {power : ℤ} :
    last * (1 / 2) ^ power ≤ last ↔ last = 0 ∨ 0 ≤ power := by
  rcases eq_zero_or_pos last with zero | positive
  · simp [zero]
  · have half : (0 : ℚ≥0) < 1 / 2 := by norm_num
    have below : (1 / 2 : ℚ≥0) < 1 := by norm_num
    rw [mul_le_iff_le_one_right positive, zpow_le_one_iff_right_of_lt_one₀ half below,
      or_iff_right positive.ne']

theorem multiplier_exact {weights : RankingWeights ℚ≥0} (filled : weights.multipliers ≠ [])
    (times : ℕ) : weights.multiplier (weights.multipliers.length - 1 + times) =
      weights.multipliers.getLast filled * (1 / 2) ^ counted times := by
  have several : 0 < weights.multipliers.length := List.length_pos_iff.mpr filled
  cases times with
  | zero =>
      have none : counted 0 = 0 := rfl
      rw [Nat.add_zero, none, zpow_zero, mul_one, List.getLast_eq_getElem, multiplier,
        List.getElem?_eq_getElem]
  | succ times =>
      have same : weights.multipliers.length - 1 + (times + 1) - weights.multipliers.length + 1 =
        times + 1 := by omega
      rw [multiplier_behind filled (by omega), exact_half_power, halvings_eq_counted, same]

theorem halves_out_iff {length position : ℕ} (several : 0 < length) (behind : length ≤ position) :
    HalvesOut length position ↔ position - length + 1 < 2 ^ 31 := by
  rw [← counted_eq_iff]
  constructor
  · intro halves
    -- Exact multipliers that are all one show the power itself.
    let ones : RankingWeights ℚ≥0 := ⟨[], [], List.replicate length 1, 1, 1⟩
    have filled : ones.multipliers ≠ [] := by
      apply List.length_pos_iff.mp
      rwa [List.length_replicate]
    have whole : ones.multipliers.length = length := List.length_replicate
    have last : ones.multipliers.getLast filled = 1 := List.getLast_replicate filled
    have powers := halves ones filled whole
    rw [multiplier_behind filled (whole ▸ behind), exact_half_power, exact_half_power, last,
      scaled_powers_eq_iff, whole] at powers
    exact powers.resolve_left one_ne_zero
  · intro counts Score _ weights filled whole
    rw [multiplier_behind filled (whole ▸ behind), whole, halvings_eq_counted, counts]

/-- Behind the list, the last multiplier is halved as often as it should be just if 32 bits with a
sign count that far. A multiplier is half of the one before but where the count runs over, and no
more than the last configured one as long as the count has no minus. -/
theorem multipliers_keep_halving_iff {weights : RankingWeights ℚ≥0}
    (filled : weights.multipliers ≠ []) {position : ℕ}
    (behind : weights.multipliers.length ≤ position) :
    let last := weights.multipliers.getLast filled
    let times := position - weights.multipliers.length + 1
    (HalvesOut weights.multipliers.length position ↔ times < 2 ^ 31) ∧
    (weights.multiplier position = last * (1 / 2) ^ times ↔ last = 0 ∨ times < 2 ^ 31) ∧
    (weights.multiplier position = weights.multiplier (position - 1) / 2 ↔
      last = 0 ∨ times % 2 ^ 32 ≠ 2 ^ 31) ∧
    (weights.multiplier position ≤ last ↔ last = 0 ∨ times % 2 ^ 32 < 2 ^ 31) := by
  have several : 0 < weights.multipliers.length := List.length_pos_iff.mpr filled
  obtain ⟨before, rfl⟩ := Nat.exists_eq_add_of_le behind
  have here : weights.multipliers.length + before =
    weights.multipliers.length - 1 + (before + 1) := by omega
  have previous : weights.multipliers.length + before - 1 =
    weights.multipliers.length - 1 + before := by omega
  have behindLast : weights.multipliers.length + before - weights.multipliers.length + 1 =
    before + 1 := by omega
  intro last times
  have count : times = before + 1 := behindLast
  have shown : weights.multiplier (weights.multipliers.length + before) =
      last * (1 / 2) ^ counted times := by
    rw [count, here, multiplier_exact filled]
  have halved : weights.multiplier (weights.multipliers.length + before - 1) / 2 =
      last * (1 / 2) ^ (counted before + 1) := by
    rw [previous, multiplier_exact filled, zpow_add_one₀ (by norm_num)]
    ring
  have power : (1 / 2 : ℚ≥0) ^ times = (1 / 2) ^ (times : ℤ) := (zpow_natCast _ _).symm
  refine ⟨halves_out_iff several behind, ?_, ?_, ?_⟩
  · rw [shown, power, scaled_powers_eq_iff, counted_eq_iff]
  · rw [shown, halved, scaled_powers_eq_iff, count, counted_next_iff]
  · rw [shown, scaled_power_le_iff, counted_nonneg_iff]

def soleMultiplier {Score : Type} (last one : Score) : RankingWeights Score :=
  ⟨[], [], [last], one, one⟩

theorem sixth_appearance_halves :
    (soleMultiplier (1 / 2) 1 : RankingWeights ℚ≥0).multipliers ≠ [] ∧
    (soleMultiplier (1 / 2) 1 : RankingWeights ℚ≥0).multipliers.length ≤ 5 ∧
    (soleMultiplier (1 / 2) 1 : RankingWeights ℚ≥0).multiplier 5 = 1 / 2 * (1 / 2) ^ 5 ∧
    (soleMultiplier (1 / 2) 1 : RankingWeights ℚ≥0).multiplier 5 =
      (soleMultiplier (1 / 2) 1 : RankingWeights ℚ≥0).multiplier 4 / 2 ∧
    (soleMultiplier (1 / 2) 1 : RankingWeights ℚ≥0).multiplier 5 ≤ 1 / 2 := by
  have filled : (soleMultiplier (1 / 2) 1 : RankingWeights ℚ≥0).multipliers ≠ [] :=
    List.cons_ne_nil _ _
  have behind : (soleMultiplier (1 / 2) 1 : RankingWeights ℚ≥0).multipliers.length ≤ 5 := by decide
  obtain ⟨-, powered, halved, bounded⟩ := multipliers_keep_halving_iff filled behind
  refine ⟨filled, behind, ?_, ?_, ?_⟩
  · exact powered.mpr (Or.inr (by decide))
  · exact halved.mpr (Or.inr (by decide))
  · exact bounded.mpr (Or.inr (by decide))

/-- Of one multiplier of one half, an appearance far behind gets the double, in single precision as
without rounding. Halved that often it is zero. -/
theorem far_appearance_doubles :
    (soleMultiplier 0.5 1 : RankingWeights Float32).multiplier 4294967295 = 1 ∧
    (0.5 : Float32) * Float32.halfPower 4294967295 = 0 ∧
    (soleMultiplier (1 / 2) 1 : RankingWeights ℚ≥0).multiplier 4294967295 = 1 ∧
    ¬(soleMultiplier (1 / 2) 1 : RankingWeights ℚ≥0).multiplier 4294967295 ≤ 1 / 2 := by
  have unrounded : (soleMultiplier (1 / 2) 1 : RankingWeights ℚ≥0).multiplier 4294967295 = 1 := by
    have doubled : counted 4294967295 = -1 := by decide +kernel
    apply (multiplier_exact (List.cons_ne_nil _ _) 4294967295).trans
    rw [doubled]
    change (1 / 2 : ℚ≥0) * (1 / 2) ^ (-1 : ℤ) = 1
    norm_num
  refine ⟨by decide +kernel, by decide +kernel, unrounded, ?_⟩
  rw [unrounded]
  norm_num

end FederatedSearch.RankingWeights
