import FederatedSearch.Error
import FederatedSearch.Proofs.ScoreArithmetic
import FederatedSearch.Vector.Embedding

/-!
Vectors of length one. Scaling a vector makes its components proportions of the greatest one, of
which none is above one and one is equal to it. Their length is at least one, or infinite, so that
what they are divided by leaves finite components.
-/

namespace FederatedSearch.Vector

open Float.Model FederatedSearch.Rounding FederatedSearch.Float32
open WideArithmetic ComponentArithmetic

def wideNumber (x : Float) : UnpackedFloat := x.toModel.unpack

def IsSmall (x : Float) : Prop := Fits .binary64 (wideNumber x) ∧ size (wideNumber x) ≤ 1

/-- The number is finite and has no sign. -/
def IsAmount (x : Float) : Prop :=
  Fits .binary64 (wideNumber x) ∧ HasSign .positive (wideNumber x)

/-- The number is infinite, or an amount that is no less than the bound. -/
def AtLeast (bound : ℝ) (x : Float) : Prop :=
  wideNumber x = .infinity .positive ∨ IsAmount x ∧ bound ≤ size (wideNumber x)

variable {a b x : Float} {bound : ℝ}

theorem wide_number_one : wideNumber 1 = .finite .positive (2 ^ 52) (-52) (by decide) := rfl

theorem size_wide_one : size (wideNumber 1) = 1 := by
  rw [wide_number_one, size, scaled_power]
  norm_num

theorem wide_finite_iff : x.isFinite = true ↔ Fits .binary64 (wideNumber x) :=
  finite_iff_fits (by decide) _

theorem one_fits : Fits .binary64 (wideNumber 1) := wide_finite_iff.mp rfl

section conversions

variable {source target : Format} {y z : UnpackedFloat}

theorem nearest_zero (sign : UnpackedFloat.Sign) :
    stored target (nearest target (.zero sign)) = .zero sign := stored_zero sign

theorem nearest_le (canonical : Canonical source y) (fits : Fits target z)
    (atMost : size y ≤ size z) : Fits target (stored target (nearest target y)) ∧
      size (stored target (nearest target y)) ≤ size z := by
  cases y with
  | infinity | notANumber => cases canonical
  | zero sign =>
      rw [nearest_zero]
      exact ⟨trivial, size_nonneg z⟩
  | finite sign m e positive =>
      obtain ⟨fits', -, bounded⟩ := (round_rounds_to positive e sign).stored_le fits atMost
      exact ⟨fits', bounded⟩

/-- The least power of two above all numbers of single precision is one of double precision. -/
theorem single_bound (fits : Fits .binary32 y) : ∃ z, Fits .binary64 z ∧ size y ≤ size z := by
  refine ⟨.finite .positive (2 ^ 52) 76 (by decide), ⟨⟨?_, ?_, ?_⟩, ?_⟩, ?_⟩
  · decide
  · decide
  · decide
  · decide
  · cases y with
    | infinity | notANumber => cases fits
    | zero sign => exact size_nonneg _
    | finite sign m e positive =>
        have bits : Format.binary32.mantissaBits = 24 := rfl
        have narrow := fits.1.narrow
        have room := fits.2
        have bias : (Format.binary32.exponentBias : ℤ) = 127 := rfl
        have stored : (Format.binary32.mantissaBitsWithoutImplicit : ℤ) = 23 := rfl
        have exponents : (2 : ℤ) ^ Format.binary32.exponentBits = 256 := rfl
        calc scaled m e ≤ scaled (2 ^ 24) e := scaled_le_iff.mpr (bits ▸ narrow.le)
          _ = 2 ^ ((24 : ℕ) + e) := scaled_power 24 e
          _ ≤ 2 ^ ((52 : ℕ) + 76 : ℤ) := by
              apply zpow_le_zpow_right₀ one_le_two
              omega
          _ = scaled (2 ^ 52) 76 := (scaled_power 52 76).symm

theorem to_double_fits {x : Float32} (finite : x.isFinite = true) :
    Fits .binary64 (wideNumber (toDouble x)) := by
  have fits := finite_iff.mp finite
  obtain ⟨z, wide, atMost⟩ := single_bound fits
  exact (nearest_le fits.canonical wide atMost).1

/-- Components other than zero do not vanish in double precision. -/
theorem to_double_zero_iff {x : Float32} (finite : x.isFinite = true) :
    size (wideNumber (toDouble x)) = 0 ↔ IsZero x := by
  have converted : wideNumber (toDouble x) = stored .binary64 (nearest .binary64 (number x)) := rfl
  have fits := finite_iff.mp finite
  rw [converted, IsZero]
  generalize number x = y at fits
  cases y with
  | infinity | notANumber => cases fits
  | zero sign =>
      rw [nearest_zero]
      exact iff_of_true rfl ⟨sign, rfl⟩
  | finite sign m e positive =>
      -- No positive number is less than the least one of double precision.
      obtain ⟨z, wide, atMost⟩ := single_bound fits
      have least : Canonical .binary64 (.finite .positive 1 (-1074) one_pos) :=
        ⟨by decide, by decide, by decide⟩
      have lowest : -149 ≤ e := fits.1.lowest
      have below : scaled 1 (-1074) ≤ scaled m e := by
        calc scaled 1 (-1074) = 2 ^ ((0 : ℕ) + -1074 : ℤ) := scaled_power 0 (-1074)
          _ ≤ 2 ^ ((0 : ℕ) + e) := by
              apply zpow_le_zpow_right₀ one_le_two
              omega
          _ = scaled 1 e := (scaled_power 0 e).symm
          _ ≤ scaled m e := scaled_le_iff.mpr positive
      have kept := (round_rounds_to positive e sign).stored_ge wide atMost least below
      have filled := (scaled_pos one_pos (-1074)).trans_le kept
      apply iff_of_false filled.ne'
      rintro ⟨_, zero⟩
      cases zero

theorem to_single_small (small : IsSmall x) :
    (toSingle x).isFinite = true ∧ size (number (toSingle x)) ≤ 1 := by
  have one : Fits .binary32 (number 1) := finite_iff.mp rfl
  rw [finite_iff, ← size_one]
  apply nearest_le small.1.canonical one
  rw [size_one]
  exact small.2

end conversions

section operations

theorem wide_number_abs (fits : Fits .binary64 (wideNumber x)) :
    IsAmount x.abs ∧ size (wideNumber x.abs) = size (wideNumber x) := by
  have stored_abs : wideNumber x.abs = stored .binary64 (wideNumber x).abs := rfl
  rw [IsAmount, stored_abs]
  generalize wideNumber x = y at fits
  cases y with
  | infinity | notANumber => cases fits
  | zero sign | finite sign m e positive =>
      rw [stored_fitting]
      · exact ⟨⟨fits, rfl⟩, rfl⟩
      · exact fits

theorem wide_less_iff (first : IsAmount a) (second : IsAmount b) :
    a < b ↔ size (wideNumber a) < size (wideNumber b) := by
  have compared : a < b ↔ ((wideNumber a).compare (wideNumber b) == some .lt) = true :=
    decide_eq_true_iff
  rw [compared, beq_iff_eq, compare_positive first.1.canonical second.1.canonical first.2 second.2,
    Option.some_inj]
  exact compare_lt_iff_lt

theorem div_small (first : Fits .binary64 (wideNumber a)) (second : Fits .binary64 (wideNumber b))
    (filled : 0 < size (wideNumber b)) (atMost : size (wideNumber a) ≤ size (wideNumber b)) :
    IsSmall (a / b) ∧
      (size (wideNumber a) = size (wideNumber b) → size (wideNumber (a / b)) = 1) := by
  obtain ⟨sign, signed⟩ := first.canonical.signed
  obtain ⟨other, signed'⟩ := second.canonical.signed
  have rounds := div_rounds_to first.canonical second.canonical filled signed signed'
  have below : size (wideNumber a) / size (wideNumber b) ≤ size (wideNumber 1) := by
    rw [size_wide_one, div_le_one filled]
    exact atMost
  obtain ⟨fits, -, small⟩ := rounds.stored_le one_fits below
  rw [size_wide_one] at small
  refine ⟨⟨fits, small⟩, fun same => small.antisymm ?_⟩
  have above := rounds.stored_ge one_fits below one_fits.canonical
  rw [size_wide_one, same, div_self filled.ne'] at above
  exact above (le_refl 1)

theorem square_small (small : IsSmall x) :
    IsAmount (x * x) ∧ (size (wideNumber x) = 1 → 1 ≤ size (wideNumber (x * x))) := by
  obtain ⟨fits, atMost⟩ := small
  obtain ⟨sign, signed⟩ := fits.canonical.signed
  have rounds := mul_rounds_to fits.canonical fits.canonical signed signed
  have unsigned : sign * sign = .positive := by cases sign <;> rfl
  rw [unsigned] at rounds
  have below : size (wideNumber x) * size (wideNumber x) ≤ size (wideNumber 1) := by
    rw [size_wide_one]
    exact mul_le_one₀ atMost (size_nonneg _) atMost
  obtain ⟨fits', positive, -⟩ := rounds.stored_le one_fits below
  refine ⟨⟨fits', positive⟩, fun same => ?_⟩
  have above := rounds.stored_ge one_fits below one_fits.canonical
  rw [size_wide_one, same, mul_one] at above
  exact above (le_refl 1)

theorem at_least_of_rounds {y : UnpackedFloat} {exact : ℝ} {rounded : Float}
    (rounds : RoundsTo .binary64 .positive exact y)
    (same : wideNumber rounded = stored .binary64 y) {z : UnpackedFloat}
    (canonical : Canonical .binary64 z) (below : size z ≤ exact) :
    AtLeast (size z) rounded := by
  rw [AtLeast, IsAmount, same]
  rcases rounds.stored_cases with infinite | ⟨fits, signed, above⟩
  · exact .inl infinite
  · exact .inr ⟨⟨fits, signed⟩, above z canonical below⟩

theorem add_at_least (sum : AtLeast bound a) (amount : IsAmount b) :
    AtLeast bound (a + b) ∧ AtLeast (size (wideNumber b)) (a + b) := by
  have stored_add : wideNumber (a + b) =
      stored .binary64 (.add .binary64 (wideNumber a) (wideNumber b)) := rfl
  rcases sum with infinite | ⟨amount', above⟩
  · have stays : wideNumber (a + b) = .infinity .positive := by
      rw [stored_add, infinite]
      obtain ⟨fits, signed⟩ := amount
      generalize wideNumber b = y at fits
      cases y with
      | infinity | notANumber => cases fits
      | zero | finite => exact stored_infinity _
    exact ⟨.inl stays, .inl stays⟩
  · have rounds := add_rounds_to amount'.1.canonical amount.1.canonical amount'.2 amount.2
    have first := at_least_of_rounds rounds stored_add amount'.1.canonical
      (le_add_of_nonneg_right (size_nonneg _))
    have second := at_least_of_rounds rounds stored_add amount.1.canonical
      (le_add_of_nonneg_left (size_nonneg _))
    exact ⟨first.imp_right fun ⟨kept, more⟩ => ⟨kept, above.trans more⟩, second⟩

theorem sqrt_at_least_one (above : AtLeast 1 x) : AtLeast 1 x.sqrt := by
  have stored_sqrt : wideNumber x.sqrt = stored .binary64 (.sqrt .binary64 (wideNumber x)) := rfl
  rcases above with infinite | ⟨amount, atLeast⟩
  · left
    rw [stored_sqrt, infinite]
    exact stored_infinity _
  · have rounds := sqrt_rounds_to amount.1.canonical amount.2
    rw [← size_wide_one]
    apply at_least_of_rounds rounds stored_sqrt one_fits.canonical
    rw [size_wide_one]
    exact Real.one_le_sqrt.mpr atLeast

theorem div_at_least_one (small : IsSmall a) (above : AtLeast 1 b) : IsSmall (a / b) := by
  rcases above with infinite | ⟨amount, atLeast⟩
  · have stored_div : wideNumber (a / b) =
        stored .binary64 (.div .binary64 (wideNumber a) (wideNumber b)) := rfl
    obtain ⟨sign, vanishes⟩ := div_infinity small.1.canonical .positive
    rw [IsSmall, stored_div, infinite, vanishes, stored_zero]
    exact ⟨trivial, zero_le_one⟩
  · exact (div_small small.1 amount.1 (zero_lt_one.trans_le atLeast)
      (small.2.trans atLeast)).1

end operations

section vectors

variable {vector : List Float32}

theorem larger_cases (first : IsAmount a) (second : IsAmount b) :
    larger a b = b ∧ size (wideNumber a) ≤ size (wideNumber b) ∨
      larger a b = a ∧ size (wideNumber b) ≤ size (wideNumber a) := by
  have chosen : larger a b = if a < b then b else a := rfl
  rw [chosen]
  split
  next less => exact .inl ⟨rfl, ((wide_less_iff first second).mp less).le⟩
  next notLess =>
    rw [wide_less_iff first second, not_lt] at notLess
    exact .inr ⟨rfl, notLess⟩

structure IsGreatest (vector : List Float32) (greatest : Float) : Prop where
  amount : IsAmount greatest
  above : ∀ x ∈ vector, size (wideNumber (toDouble x)) ≤ size (wideNumber greatest)
  reached : size (wideNumber greatest) = 0 ∨
    ∃ x ∈ vector, size (wideNumber (toDouble x)) = size (wideNumber greatest)

theorem greatest_magnitude (finite : ∀ x ∈ vector, x.isFinite = true) :
    IsGreatest vector (greatestMagnitude vector) := by
  induction vector using List.reverseRecOn with
  | nil =>
      have none : wideNumber (greatestMagnitude ([] : List Float32)) = .zero .positive := rfl
      constructor
      · rw [IsAmount, none]
        exact ⟨trivial, rfl⟩
      · exact fun _ among => absurd among List.not_mem_nil
      · rw [none]
        exact .inl rfl
  | append_singleton seen x induction =>
      rw [List.forall_mem_append] at finite
      obtain ⟨others, last⟩ := finite
      obtain ⟨amount, above, reached⟩ := induction others
      obtain ⟨amount', same⟩ := wide_number_abs (to_double_fits (last x List.mem_cons_self))
      have step : greatestMagnitude (seen ++ [x]) =
          larger (greatestMagnitude seen) (toDouble x).abs := by
        rw [greatestMagnitude, List.foldl_append]
        rfl
      rw [step]
      rcases larger_cases amount amount' with ⟨chosen, lower⟩ | ⟨chosen, lower⟩
      · rw [chosen]
        rw [same] at lower
        refine ⟨amount', ?_, .inr ⟨x, List.mem_append_right _ List.mem_cons_self, same.symm⟩⟩
        rw [same, List.forall_mem_append, List.forall_mem_singleton]
        exact ⟨fun y among => (above y among).trans lower, le_refl _⟩
      · rw [chosen]
        rw [same] at lower
        refine ⟨amount, ?_, reached.imp_right fun ⟨y, among, equal⟩ => ?_⟩
        · rw [List.forall_mem_append, List.forall_mem_singleton]
          exact ⟨above, lower⟩
        · exact ⟨y, List.mem_append_left _ among, equal⟩

theorem AtLeast.mono {c d : ℝ} (above : AtLeast d x) (lower : c ≤ d) : AtLeast c x :=
  above.imp_right fun ⟨amount, atLeast⟩ => ⟨amount, lower.trans atLeast⟩

def sumOfSquares (numbers : List Float) : Float := numbers.foldl (fun sum x => sum + x * x) 0

theorem sum_of_squares {numbers : List Float} (small : ∀ x ∈ numbers, IsSmall x) :
    AtLeast 0 (sumOfSquares numbers) ∧
      ((∃ x ∈ numbers, size (wideNumber x) = 1) → AtLeast 1 (sumOfSquares numbers)) := by
  induction numbers using List.reverseRecOn with
  | nil =>
      have none : wideNumber (sumOfSquares []) = .zero .positive := rfl
      refine ⟨.inr ⟨?_, size_nonneg _⟩, ?_⟩
      · rw [IsAmount, none]
        exact ⟨trivial, rfl⟩
      · exact fun ⟨_, among, _⟩ => absurd among List.not_mem_nil
  | append_singleton seen x induction =>
      rw [List.forall_mem_append, List.forall_mem_singleton] at small
      obtain ⟨others, last⟩ := small
      obtain ⟨above, one⟩ := induction others
      obtain ⟨amount, square⟩ := square_small last
      have step : sumOfSquares (seen ++ [x]) = sumOfSquares seen + x * x := by
        rw [sumOfSquares, List.foldl_append]
        rfl
      rw [step]
      refine ⟨(add_at_least above amount).1, ?_⟩
      rintro ⟨reached, among, same⟩
      rcases List.mem_append.mp among with old | new
      · exact (add_at_least (one ⟨reached, old, same⟩) amount).1
      · rw [List.mem_singleton.mp new] at same
        exact (add_at_least above amount).2.mono (square same)

theorem norm_at_least_one {numbers : List Float} (small : ∀ x ∈ numbers, IsSmall x)
    (reached : ∃ x ∈ numbers, size (wideNumber x) = 1) : AtLeast 1 (norm numbers) :=
  sqrt_at_least_one ((sum_of_squares small).2 reached)

theorem is_zero_iff (amount : IsAmount x) : isZero x = true ↔ size (wideNumber x) = 0 := by
  have compared : isZero x = ((wideNumber x).compare (.zero .positive) == some .eq) := rfl
  rw [compared]
  obtain ⟨fits, signed⟩ := amount
  generalize wideNumber x = y at fits signed
  cases y with
  | infinity | notANumber => cases fits
  | zero sign => exact iff_of_true rfl rfl
  | finite sign m e positive =>
      cases signed
      exact iff_of_false Bool.noConfusion (scaled_pos positive e).ne'

/-- Proportions are no greater than one, and one of them is one. -/
theorem proportions_small (finite : ∀ x ∈ vector, x.isFinite = true)
    (filled : isZero (greatestMagnitude vector) = false) :
    (∀ p ∈ proportions vector, IsSmall p) ∧ ∃ p ∈ proportions vector, size (wideNumber p) = 1 := by
  obtain ⟨amount, above, reached⟩ := greatest_magnitude finite
  have positive : 0 < size (wideNumber (greatestMagnitude vector)) := by
    apply lt_of_le_of_ne (size_nonneg _)
    intro none
    rw [(is_zero_iff amount).mpr none.symm] at filled
    cases filled
  have quotient (x : Float32) (among : x ∈ vector) := div_small (to_double_fits (finite x among))
    amount.1 positive (above x among)
  constructor
  · intro p member
    obtain ⟨x, among, rfl⟩ := List.mem_map.mp member
    exact (quotient x among).1
  · obtain ⟨x, among, same⟩ := reached.resolve_left positive.ne'
    exact ⟨_, List.mem_map_of_mem among, (quotient x among).2 same⟩

theorem normalize_eq_ok {values : List Float32} :
    normalize vector = .ok values ↔ vector ≠ [] ∧ (∀ x ∈ vector, x.isFinite = true) ∧
      isZero (greatestMagnitude vector) = false ∧
      (proportions vector).map (fun x => toSingle (x / norm (proportions vector))) = values := by
  have finite_iff_all : (∀ x ∈ vector, x.isFinite = true) ↔ vector.all isFinite = true :=
    List.all_eq_true.symm
  rw [finite_iff_all, ← List.isEmpty_eq_false_iff, normalize]
  cases vector.isEmpty <;> cases vector.all isFinite <;>
    cases isZero (greatestMagnitude vector) <;> simp
  rfl

/-- A vector that can be scaled has components, which become finite ones no greater than one. -/
theorem scaled_components {values : List Float32} (scaled : normalize vector = .ok values) :
    values ≠ [] ∧ ∀ x ∈ values, x.isFinite = true ∧ size (number x) ≤ 1 := by
  obtain ⟨filled, finite, nonzero, rfl⟩ := normalize_eq_ok.mp scaled
  obtain ⟨small, reached⟩ := proportions_small finite nonzero
  have length := norm_at_least_one small reached
  constructor
  · simpa [proportions] using filled
  · intro x among
    obtain ⟨p, member, rfl⟩ := List.mem_map.mp among
    exact to_single_small (div_at_least_one (small p member) length)

theorem normalize_succeeds_iff : (∃ values, normalize vector = .ok values) ↔
    vector ≠ [] ∧ (∀ x ∈ vector, x.isFinite = true) ∧ ∃ x ∈ vector, ¬IsZero x := by
  simp only [normalize_eq_ok, exists_and_left, exists_eq', and_true]
  apply and_congr_right
  intro _
  apply and_congr_right
  intro finite
  obtain ⟨amount, above, reached⟩ := greatest_magnitude finite
  rw [← Bool.not_eq_true, is_zero_iff amount]
  constructor
  · intro positive
    obtain ⟨x, among, same⟩ := reached.resolve_left positive
    rw [← same, to_double_zero_iff (finite x among)] at positive
    exact ⟨x, among, positive⟩
  · intro ⟨x, among, nonzero⟩ none
    have least := above x among
    rw [none] at least
    exact nonzero ((to_double_zero_iff (finite x among)).mp (least.antisymm (size_nonneg _)))

end vectors

namespace Embedding

/-- The embedding can be relied on: it has components, all of them are finite, and it is what
scaling makes of some vector. -/
structure IsUsable (embedding : Embedding) : Prop where
  filled : embedding.values ≠ []
  finite : ∀ x ∈ embedding.values, x.isFinite = true
  scaled : ∃ vector, normalize vector = .ok embedding.values

theorem of_vector_eq_ok {vector : List Float32} {embedding : Embedding} :
    ofVector vector = .ok embedding ↔ normalize vector = .ok embedding.values := by
  obtain ⟨values⟩ := embedding
  rw [ofVector]
  cases normalize vector <;> simp [Except.map]

theorem usable_iff_made {embedding : Embedding} :
    embedding.IsUsable ↔ ∃ vector, ofVector vector = .ok embedding := by
  simp only [of_vector_eq_ok]
  constructor
  · exact IsUsable.scaled
  · intro ⟨vector, scaled⟩
    obtain ⟨filled, finite⟩ := scaled_components scaled
    exact ⟨filled, fun x among => (finite x among).1, vector, scaled⟩

/-- An embedding is made of exactly the vectors that have a direction. -/
theorem of_vector_succeeds_iff {vector : List Float32} :
    (∃ embedding, ofVector vector = .ok embedding) ↔
      vector ≠ [] ∧ (∀ x ∈ vector, x.isFinite = true) ∧ ∃ x ∈ vector, ¬IsZero x := by
  rw [← normalize_succeeds_iff]
  simp only [of_vector_eq_ok]
  constructor
  · exact fun ⟨embedding, scaled⟩ => ⟨embedding.values, scaled⟩
  · exact fun ⟨values, scaled⟩ => ⟨⟨values⟩, scaled⟩

theorem of_bytes_eq_ok {bytes : List UInt8} {embedding : Embedding} :
    ofBytes bytes = .ok embedding ↔
      ∃ vector, Vector.ofBytes bytes = .ok vector ∧ ofVector vector = .ok embedding :=
  bind_eq_ok

def document (numbers : List Numeral) : Document :=
  .table [("values", .list (numbers.map .number))]

theorem decode_numbers (numbers : List Numeral) :
    decode? (document numbers) = some ⟨numbers.map Numeral.toFloat32⟩ := by
  have read : (numbers.map Document.number).mapM Decoder.float32 =
      some (numbers.map Numeral.toFloat32) := by
    rw [List.mapM_map]
    exact List.mapM_pure
  have given : Decoder.list Decoder.float32 (.list (numbers.map .number)) =
      some (numbers.map Numeral.toFloat32) := read
  simp [decode?, document, Document.fields?, Fields.required, Document.find?, given]

inductive Source where
  | vector (given : List Float32)
  | bytes (given : List UInt8)
  | document (given : Document)

def Source.embedding? : Source → Option Embedding
  | .vector given => (ofVector given).toOption
  | .bytes given => (ofBytes given).toOption
  | .document given => decode? given

theorem to_option_eq_some {ε α : Type} {result : Except ε α} {value : α} :
    result.toOption = some value ↔ result = .ok value := by
  cases result <;> simp [Except.toOption]

/-- Embeddings made from vectors and from bytes are usable. A document can hold any numbers, and
its embedding is usable exactly if the same one is made from some vector. -/
theorem embedding_usable_iff {source : Source} {embedding : Embedding}
    (made : source.embedding? = some embedding) :
    (embedding.IsUsable ↔ ∀ document, source = .document document →
      ∃ vector, ofVector vector = .ok embedding) ∧
    ∀ numbers, source = .document (document numbers) →
      embedding.values = numbers.map Numeral.toFloat32 := by
  rw [usable_iff_made]
  cases source with
  | vector given =>
      have own := to_option_eq_some.mp made
      exact ⟨iff_of_true ⟨given, own⟩ nofun, nofun⟩
  | bytes given =>
      obtain ⟨vector, -, own⟩ := of_bytes_eq_ok.mp (to_option_eq_some.mp made)
      exact ⟨iff_of_true ⟨vector, own⟩ nofun, nofun⟩
  | document given =>
      refine ⟨⟨fun usable _ _ => usable, fun usable => usable given rfl⟩, ?_⟩
      intro numbers same
      cases same
      cases made.symm.trans (decode_numbers numbers)
      rfl

theorem three_four_usable :
    ∃ embedding, (Source.vector [3, 4]).embedding? = some embedding ∧
      embedding.values = [0.6, 0.8] ∧ embedding.IsUsable := by
  have values : (Source.vector [3, 4]).embedding?.map (·.values) = some [0.6, 0.8] := by
    decide +kernel
  obtain ⟨embedding, made, same⟩ := Option.map_eq_some_iff.mp values
  exact ⟨embedding, made, same, (embedding_usable_iff made).1.mpr nofun⟩

/-- Decoded embeddings need have neither components nor finite ones nor length one. The product of
one with itself need not be one. -/
theorem decoded_embedding_not_usable :
    decode? (document []) = some ⟨[]⟩ ∧ ¬(⟨[]⟩ : Embedding).IsUsable ∧
    decode? (document [.real 1e39]) = some ⟨[1 / 0]⟩ ∧ ¬(⟨[1 / 0]⟩ : Embedding).IsUsable ∧
    decode? (document [.natural 3, .natural 4]) = some ⟨[3, 4]⟩ ∧
    ¬(⟨[3, 4]⟩ : Embedding).IsUsable ∧ similarity ⟨[3, 4]⟩ ⟨[3, 4]⟩ = .ok 25 := by
  have infinite : toSingle 1e39 = 1 / 0 := by decide +kernel
  refine ⟨decode_numbers [], ?_, ?_, ?_, ?_, ?_, rfl⟩
  · exact fun usable => usable.filled rfl
  · rw [decode_numbers, ← infinite]
    rfl
  · intro usable
    have finite := usable.finite (1 / 0) List.mem_cons_self
    exact absurd finite (by decide +kernel)
  · exact decode_numbers [.natural 3, .natural 4]
  · intro usable
    obtain ⟨vector, made⟩ := usable.scaled
    have small := ((scaled_components made).2 3 List.mem_cons_self).2
    have three : number 3 = .finite .positive (3 * 2 ^ 22) (-22) (by decide) := rfl
    rw [three, size, scaled_shift, scaled] at small
    norm_num at small

end Embedding

end FederatedSearch.Vector
