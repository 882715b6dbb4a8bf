import Mathlib
import FederatedSearch.Vector.Arithmetic

/-!
Directions. Without rounding, a vector other than zero is scaled to the vector of length one in
its direction: the two divisions come to one by its length, and neither is by zero. The product
of two such vectors is the cosine of the angle between them, which lies between minus one and one.
-/

namespace FederatedSearch.Vector

section sums

variable {K : Type} [Field K] {a b vector : List K}

def scale (factor : K) (vector : List K) : List K := vector.map (factor * ·)

def squares (vector : List K) : K := (vector.map fun x => x * x).sum

def products (a b : List K) : K := ((a.zip b).map fun (x, y) => x * y).sum

def HasDirection (vector : List K) : Prop := ∃ x ∈ vector, x ≠ 0

theorem fold_sum {Item : Type} (value : Item → K) (items : List Item) (start : K) :
    items.foldl (fun sum item => sum + value item) start = start + (items.map value).sum := by
  induction items generalizing start with
  | nil => simp
  | cons item items induction =>
      rw [List.foldl_cons, induction, List.map_cons, List.sum_cons, add_assoc]

theorem scale_scale (factor other : K) (vector : List K) :
    scale factor (scale other vector) = scale (factor * other) vector := by
  simp [scale, mul_assoc]

theorem scale_one (vector : List K) : scale 1 vector = vector := by
  simp [scale]

theorem scale_length (factor : K) (vector : List K) :
    (scale factor vector).length = vector.length :=
  List.length_map _

theorem scale_directed {factor : K} (nonzero : factor ≠ 0) (directed : HasDirection vector) :
    HasDirection (scale factor vector) := by
  obtain ⟨x, member, directs⟩ := directed
  exact ⟨factor * x, List.mem_map_of_mem member, mul_ne_zero nonzero directs⟩

theorem products_self (vector : List K) : products vector vector = squares vector := by
  rw [products, squares, List.zip_eq_zipWith, List.zipWith_self, List.map_map]
  rfl

theorem products_comm (a b : List K) : products a b = products b a := by
  rw [products, products, ← List.zip_swap, List.map_map]
  apply congrArg List.sum
  apply List.map_congr_left
  intro pair _
  exact mul_comm pair.2 pair.1

theorem products_scale (factor other : K) (a b : List K) :
    products (scale factor a) (scale other b) = factor * other * products a b := by
  rw [products, products, scale, scale, List.zip_map, List.map_map, ← List.sum_map_mul_left]
  apply congrArg List.sum
  apply List.map_congr_left
  intro pair _
  exact mul_mul_mul_comm factor pair.1 other pair.2

theorem squares_scale (factor : K) (vector : List K) :
    squares (scale factor vector) = factor * factor * squares vector := by
  rw [← products_self, products_scale, products_self]

theorem squares_of_sum (factor : K) (same : a.length = b.length) :
    squares (List.zipWith (fun x y => x + factor * y) a b) =
      squares a + 2 * factor * products a b + factor * factor * squares b := by
  induction a generalizing b with
  | nil =>
      rw [List.length_eq_zero_iff.mp same.symm]
      simp [squares, products]
  | cons x a induction =>
      cases b with
      | nil => simp at same
      | cons y b =>
          have rest := induction (Nat.succ.inj same)
          simp only [squares, products, List.zipWith_cons_cons, List.zip_cons_cons, List.map_cons,
            List.sum_cons] at rest ⊢
          rw [rest]
          ring

end sums

section order

variable {K : Type} [Field K] [LinearOrder K] [IsStrictOrderedRing K] {a b vector : List K}

theorem squares_member_nonneg {square : K} (member : square ∈ vector.map fun x => x * x) :
    0 ≤ square := by
  obtain ⟨x, -, rfl⟩ := List.mem_map.mp member
  exact mul_self_nonneg x

theorem squares_nonneg (vector : List K) : 0 ≤ squares vector :=
  List.sum_nonneg fun _ => squares_member_nonneg

theorem square_le_squares {x : K} (member : x ∈ vector) : x * x ≤ squares vector := by
  apply List.single_le_sum fun _ => squares_member_nonneg
  exact List.mem_map_of_mem (f := fun x => x * x) member

theorem squares_pos (directed : HasDirection vector) : 0 < squares vector := by
  obtain ⟨x, member, nonzero⟩ := directed
  exact (mul_self_pos.mpr nonzero).trans_le (square_le_squares member)

/-- The product of two vectors of length one lies between minus one and one. -/
theorem products_bounded (same : a.length = b.length) (unit : squares a = 1)
    (unit' : squares b = 1) : -1 ≤ products a b ∧ products a b ≤ 1 := by
  have sum := squares_nonneg (List.zipWith (fun x y => x + 1 * y) a b)
  have difference := squares_nonneg (List.zipWith (fun x y => x + -1 * y) a b)
  rw [squares_of_sum _ same, unit, unit'] at sum difference
  constructor <;> linarith

end order

section greatest

variable {K : Type} [Field K] [LinearOrder K]

/-- The greatest magnitude of the components and a bound from which it is sought. -/
def greatestFrom (start : K) (vector : List K) : K :=
  vector.foldl (fun greatest x => max greatest |x|) start

theorem le_greatest_from (start : K) (vector : List K) :
    start ≤ greatestFrom start vector ∧ ∀ x ∈ vector, |x| ≤ greatestFrom start vector := by
  induction vector generalizing start with
  | nil => simp [greatestFrom]
  | cons y vector induction =>
      obtain ⟨above, others⟩ := induction (max start |y|)
      constructor
      · exact (le_max_left _ _).trans above
      · intro x member
        rcases List.mem_cons.mp member with rfl | member
        · exact (le_max_right _ _).trans above
        · exact others x member

theorem greatest_from_cases (start : K) (vector : List K) :
    greatestFrom start vector = start ∨ ∃ x ∈ vector, greatestFrom start vector = |x| := by
  induction vector generalizing start with
  | nil => exact .inl rfl
  | cons y vector induction =>
      rcases induction (max start |y|) with first | ⟨x, member, reached⟩
      · rcases max_choice start |y| with same | same
        · exact .inl (first.trans same)
        · exact .inr ⟨y, List.mem_cons_self, first.trans same⟩
      · exact .inr ⟨x, List.mem_cons_of_mem y member, reached⟩

end greatest

/-- Numbers that are not rounded: an ordered field with square roots. -/
class ExactNumbers (K : Type) extends Field K, LinearOrder K, IsStrictOrderedRing K where
  root : K → K
  root_nonneg : ∀ {x : K}, 0 ≤ x → 0 ≤ root x
  root_mul_self : ∀ {x : K}, 0 ≤ x → root x * root x = x

section exact

variable {K : Type} [ExactNumbers K] {a b vector : List K}

instance : WideArithmetic K where
  zero := 0
  isZero x := decide (x = 0)
  magnitude x := |x|
  larger := max
  squareRoot := ExactNumbers.root

instance : ComponentArithmetic K K where
  isFinite _ := true
  widen x := x
  narrow x := x
  emptySum := 0

theorem norm_eq (vector : List K) : norm vector = ExactNumbers.root (squares vector) := by
  apply congrArg ExactNumbers.root
  exact (fold_sum (fun x => x * x) vector 0).trans (zero_add _)

theorem dot_eq (a b : List K) : dot a b = products a b :=
  (fold_sum (fun (pair : K × K) => pair.1 * pair.2) (a.zip b) 0).trans (zero_add _)

theorem greatest_eq (vector : List K) : greatestMagnitude vector = greatestFrom 0 vector := rfl

theorem proportions_eq (vector : List K) :
    proportions vector = scale (greatestMagnitude vector)⁻¹ vector := by
  apply List.map_congr_left
  intro x _
  exact div_eq_inv_mul x _

theorem norm_nonneg (vector : List K) : 0 ≤ norm vector := by
  rw [norm_eq]
  exact ExactNumbers.root_nonneg (squares_nonneg vector)

theorem norm_mul_self (vector : List K) : norm vector * norm vector = squares vector := by
  rw [norm_eq]
  exact ExactNumbers.root_mul_self (squares_nonneg vector)

theorem norm_pos (directed : HasDirection vector) : 0 < norm vector := by
  apply lt_of_le_of_ne (norm_nonneg vector)
  intro zero
  have squared := norm_mul_self vector
  rw [← zero, zero_mul] at squared
  exact (squares_pos directed).ne squared

theorem norm_of_squares {length : K} (nonneg : 0 ≤ length)
    (squared : squares vector = length * length) : norm vector = length := by
  apply (mul_self_inj (norm_nonneg vector) nonneg).mp
  rw [norm_mul_self, squared]

theorem norm_scale {factor : K} (nonneg : 0 ≤ factor) (vector : List K) :
    norm (scale factor vector) = factor * norm vector := by
  apply norm_of_squares (mul_nonneg nonneg (norm_nonneg vector))
  rw [squares_scale, mul_mul_mul_comm, norm_mul_self]

theorem greatest_zero_iff : greatestMagnitude vector = 0 ↔ ∀ x ∈ vector, x = 0 := by
  rw [greatest_eq]
  constructor
  · intro zero x member
    have bounded := (le_greatest_from 0 vector).2 x member
    rw [zero] at bounded
    exact abs_eq_zero.mp (le_antisymm bounded (abs_nonneg x))
  · intro zeros
    rcases greatest_from_cases 0 vector with first | ⟨x, member, reached⟩
    · exact first
    · rw [reached, zeros x member, abs_zero]

theorem has_direction_iff : HasDirection vector ↔ ¬∀ x ∈ vector, x = 0 := by
  simp [HasDirection]

theorem greatest_pos (directed : HasDirection vector) : 0 < greatestMagnitude vector := by
  apply lt_of_le_of_ne
  · exact (le_greatest_from 0 vector).1
  · intro zero
    exact has_direction_iff.mp directed (greatest_zero_iff.mp zero.symm)

/-- One of the proportions is one or minus one, so that they are at least one long. -/
theorem norm_of_proportions (directed : HasDirection vector) : 1 ≤ norm (proportions vector) := by
  have positive := greatest_pos directed
  have unit : 1 ≤ squares (proportions vector) := by
    rcases greatest_from_cases 0 vector with first | ⟨x, member, reached⟩
    · exact (positive.ne first.symm).elim
    · have among : (greatestMagnitude vector)⁻¹ * x ∈ proportions vector := by
        rw [proportions_eq]
        exact List.mem_map_of_mem member
      have one : (greatestMagnitude vector)⁻¹ * x * ((greatestMagnitude vector)⁻¹ * x) = 1 := by
        rw [mul_mul_mul_comm, ← abs_mul_abs_self x, ← reached, ← greatest_eq, mul_mul_mul_comm,
          inv_mul_cancel₀ positive.ne', one_mul]
      exact one.symm.trans_le (square_le_squares among)
  apply (mul_self_le_mul_self_iff zero_le_one (norm_nonneg _)).mpr
  rwa [one_mul, norm_mul_self]

theorem all_finite (vector : List K) :
    vector.all (@ComponentArithmetic.isFinite K K _) = true := by
  apply List.all_eq_true.mpr
  intro x _
  rfl

theorem directed_ne_nil (directed : HasDirection vector) : vector ≠ [] := by
  obtain ⟨x, member, -⟩ := directed
  exact List.ne_nil_of_mem member

def direction (vector : List K) : List K := scale (norm vector)⁻¹ vector

/-- The two divisions come to one by the length of the vector. -/
theorem proportions_divided (directed : HasDirection vector) :
    (proportions vector).map (· / norm (proportions vector)) = direction vector := by
  have greatest := greatest_pos directed
  have long := norm_pos directed
  rw [proportions_eq, norm_scale (inv_nonneg.mpr greatest.le), direction, scale, List.map_map]
  apply List.map_congr_left
  intro x _
  have reached := greatest.ne'
  have nonzero := long.ne'
  simp only [Function.comp_apply]
  field_simp

theorem normalize_directed (directed : HasDirection vector) :
    normalize vector = .ok (direction vector) := by
  have filled : vector.isEmpty = false := List.isEmpty_eq_false_iff.mpr (directed_ne_nil directed)
  have nonzero : WideArithmetic.isZero (greatestMagnitude vector) = false :=
    decide_eq_false (greatest_pos directed).ne'
  rw [normalize, filled, all_finite, nonzero, ← proportions_divided directed]
  rfl

theorem normalize_zeros (filled : vector ≠ []) (zeros : ∀ x ∈ vector, x = 0) :
    normalize vector = .error .zero := by
  have zero : WideArithmetic.isZero (greatestMagnitude vector) = true :=
    decide_eq_true (greatest_zero_iff.mpr zeros)
  rw [normalize, List.isEmpty_eq_false_iff.mpr filled, all_finite, zero]
  rfl

theorem normalize_cases (vector : List K) :
    (vector = [] ∧ normalize vector = .error .empty) ∨
    ((vector ≠ [] ∧ ∀ x ∈ vector, x = 0) ∧ normalize vector = .error .zero) ∨
    (HasDirection vector ∧ normalize vector = .ok (direction vector)) := by
  by_cases empty : vector = []
  · rw [empty]
    exact .inl ⟨rfl, rfl⟩
  · by_cases zeros : ∀ x ∈ vector, x = 0
    · exact .inr (.inl ⟨⟨empty, zeros⟩, normalize_zeros empty zeros⟩)
    · have directed := has_direction_iff.mpr zeros
      exact .inr (.inr ⟨directed, normalize_directed directed⟩)

theorem normalize_empty_iff : normalize vector = .error .empty ↔ vector = [] := by
  rcases normalize_cases vector with ⟨empty, result⟩ | ⟨zeros, result⟩ | ⟨directed, result⟩
  · exact iff_of_true result empty
  · exact iff_of_false (by simp [result]) zeros.1
  · exact iff_of_false (by simp [result]) (directed_ne_nil directed)

theorem normalize_zero_iff :
    normalize vector = .error .zero ↔ vector ≠ [] ∧ ∀ x ∈ vector, x = 0 := by
  rcases normalize_cases vector with ⟨empty, result⟩ | ⟨zeros, result⟩ | ⟨directed, result⟩
  · apply iff_of_false (by simp [result])
    intro zeros
    exact zeros.1 empty
  · exact iff_of_true result zeros
  · apply iff_of_false (by simp [result])
    intro zeros
    exact has_direction_iff.mp directed zeros.2

theorem directed_of_normalize {scaled : List K} (result : normalize vector = .ok scaled) :
    HasDirection vector := by
  rcases normalize_cases vector with ⟨-, failed⟩ | ⟨-, failed⟩ | ⟨directed, -⟩
  · cases failed.symm.trans result
  · cases failed.symm.trans result
  · exact directed

theorem direction_length (vector : List K) : (direction vector).length = vector.length :=
  scale_length _ vector

theorem directions_of_same_length (same : a.length = b.length) :
    (direction a).length = (direction b).length := by
  rw [direction_length, direction_length, same]

theorem direction_unit (directed : HasDirection vector) : squares (direction vector) = 1 := by
  have long := (norm_pos directed).ne'
  rw [direction, squares_scale, ← norm_mul_self]
  field_simp

theorem direction_restored (directed : HasDirection vector) :
    scale (norm vector) (direction vector) = vector := by
  rw [direction, scale_scale, mul_inv_cancel₀ (norm_pos directed).ne', scale_one]

theorem direction_of_multiple {factor : K} (positive : 0 < factor) (vector : List K) :
    direction (scale factor vector) = direction vector := by
  rw [direction, norm_scale positive.le, scale_scale, mul_inv_rev, mul_assoc,
    inv_mul_cancel₀ positive.ne', mul_one, direction]

theorem normalize_multiple (directed : HasDirection vector) {factor : K} (positive : 0 < factor) :
    normalize (scale factor vector) = .ok (direction vector) := by
  rw [normalize_directed (scale_directed positive.ne' directed), direction_of_multiple positive]

/-- What scaling makes of a vector: a vector of length one in its direction, without a division
by zero, and the same of all its positive multiples. -/
structure ScalesTo (vector scaled : List K) : Prop where
  result : normalize vector = .ok scaled
  greatest_nonzero : greatestMagnitude vector ≠ 0
  proportions_long : 1 ≤ norm (proportions vector)
  same_length : scaled.length = vector.length
  unit : dotProduct scaled scaled = .ok 1
  restored : scale (norm vector) scaled = vector
  of_multiples : ∀ factor, 0 < factor → normalize (scale factor vector) = .ok scaled

theorem scales_to_direction (directed : HasDirection vector) :
    ScalesTo vector (direction vector) where
  result := normalize_directed directed
  greatest_nonzero := (greatest_pos directed).ne'
  proportions_long := norm_of_proportions directed
  same_length := direction_length vector
  unit := by rw [dotProduct, if_pos rfl, dot_eq, products_self, direction_unit directed]
  restored := direction_restored directed
  of_multiples _ positive := normalize_multiple directed positive

/-- The number is the cosine of the angle between the vectors, and is computed as such from either
side. -/
structure IsCosine (a b : List K) (cosine : K) : Prop where
  computed : cosineSimilarity a b = .ok cosine
  symmetric : cosineSimilarity b a = .ok cosine
  at_least : -1 ≤ cosine
  at_most : cosine ≤ 1
  of_lengths : norm a * norm b * cosine = dot a b

theorem cosine_of_directions (directed : HasDirection a) (directed' : HasDirection b)
    (same : a.length = b.length) :
    cosineSimilarity a b = .ok (products (direction a) (direction b)) := by
  rw [cosineSimilarity, normalize_directed directed, normalize_directed directed']
  change dotProduct _ _ = _
  rw [dotProduct, if_pos (directions_of_same_length same), dot_eq]

/-- The products of two vectors are those of their directions times both lengths. -/
theorem products_of_directions (directed : HasDirection a) (directed' : HasDirection b) :
    norm a * norm b * products (direction a) (direction b) = products a b := by
  rw [← products_scale, direction_restored directed, direction_restored directed']

theorem similarity_is_cosine (directed : HasDirection a) (directed' : HasDirection b)
    (same : a.length = b.length) : IsCosine a b (products (direction a) (direction b)) := by
  have bounded := products_bounded (directions_of_same_length same) (direction_unit directed)
    (direction_unit directed')
  constructor
  · exact cosine_of_directions directed directed' same
  · rw [products_comm]
    exact cosine_of_directions directed' directed same.symm
  · exact bounded.1
  · exact bounded.2
  · rw [products_of_directions directed directed', dot_eq]

theorem similarity_of_multiples (directed : HasDirection vector) {factor other : K}
    (positive : 0 < factor) (positive' : 0 < other) :
    cosineSimilarity (scale factor vector) (scale other vector) = .ok 1 := by
  rw [cosineSimilarity, normalize_multiple directed positive, normalize_multiple directed positive']
  exact (scales_to_direction directed).unit

/-- Scaling fails for the empty vector and for zeros only, and otherwise gives the direction of the
vector. The similarity of two vectors of one dimension is the cosine of their angle. -/
theorem normalization_yields_directions (a b : List K) :
    (normalize a = .error .empty ↔ a = []) ∧
    (normalize a = .error .zero ↔ a ≠ [] ∧ ∀ x ∈ a, x = 0) ∧
    ((∃ x ∈ a, x ≠ 0) ↔ ∃ scaled, ScalesTo a scaled) ∧
    (HasDirection a → HasDirection b → a.length = b.length → ∃ cosine, IsCosine a b cosine) ∧
    (HasDirection a → ∀ factor other, 0 < factor → 0 < other →
      cosineSimilarity (scale factor a) (scale other a) = .ok 1) := by
  refine ⟨normalize_empty_iff, normalize_zero_iff, ⟨?_, ?_⟩, ?_, ?_⟩
  · intro directed
    exact ⟨_, scales_to_direction directed⟩
  · rintro ⟨scaled, scales⟩
    exact directed_of_normalize scales.result
  · intro directed directed' same
    exact ⟨_, similarity_is_cosine directed directed' same⟩
  · intro directed factor other positive positive'
    exact similarity_of_multiples directed positive positive'

end exact

section reals

noncomputable local instance realNumbers : ExactNumbers ℝ where
  root := Real.sqrt
  root_nonneg _ := Real.sqrt_nonneg _
  root_mul_self nonneg := Real.mul_self_sqrt nonneg

theorem three_four_similar_to_four_three :
    (∃ scaled, ScalesTo ([3, 4] : List ℝ) scaled) ∧
    HasDirection ([3, 4] : List ℝ) ∧ HasDirection ([4, 3] : List ℝ) ∧
    cosineSimilarity ([3, 4] : List ℝ) [4, 3] = .ok (24 / 25) ∧
    cosineSimilarity (scale 2 ([3, 4] : List ℝ)) (scale 5 [3, 4]) = .ok 1 := by
  have directed : HasDirection ([3, 4] : List ℝ) := ⟨3, List.mem_cons_self, by norm_num⟩
  have directed' : HasDirection ([4, 3] : List ℝ) := ⟨4, List.mem_cons_self, by norm_num⟩
  obtain ⟨-, -, scales, similar, multiples⟩ :=
    normalization_yields_directions ([3, 4] : List ℝ) [4, 3]
  obtain ⟨cosine, similar⟩ := similar directed directed' rfl
  have five : norm ([3, 4] : List ℝ) = 5 := norm_of_squares (by norm_num) (by norm_num [squares])
  have five' : norm ([4, 3] : List ℝ) = 5 := norm_of_squares (by norm_num) (by norm_num [squares])
  have value : cosine = 24 / 25 := by
    have product := similar.of_lengths
    rw [five, five', dot_eq, products] at product
    norm_num at product
    linarith
  rw [value] at similar
  exact ⟨scales.mp directed, directed, directed', similar.computed,
    multiples directed 2 5 (by norm_num) (by norm_num)⟩

end reals

end FederatedSearch.Vector
