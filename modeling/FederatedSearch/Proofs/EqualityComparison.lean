import FederatedSearch.Proofs.Compilation

/-!
The comparisons that go by equality. On every field a list is met by what equals one of its
items, and an operator and its negation give opposite answers, also about a record that has no
value in the field.
-/

namespace FederatedSearch

open FederatedSearch.Text FederatedSearch.Time

section

variable {Item Value Key Error : Type}

theorem to_option_bind (attempt : Except Error Value) (make : Value → Key) :
    (do return make (← attempt) : Except Error Key).toOption = attempt.toOption.map make := by
  cases attempt <;> rfl

theorem to_option_map_m (read : Item → Except Error Value) (items : List Item) :
    (items.mapM read).toOption = items.mapM fun item => (read item).toOption := by
  induction items with
  | nil => rfl
  | cons item rest induction =>
      rw [List.mapM_cons, List.mapM_cons, ← induction]
      cases read item <;> cases rest.mapM read <;> rfl

theorem map_m_map (read : Item → Option Value) (make : Value → Key) (items : List Item) :
    items.mapM (fun item => (read item).map make) = (items.mapM read).map (List.map make) := by
  induction items with
  | nil => rfl
  | cons item rest induction =>
      rw [List.mapM_cons, List.mapM_cons, induction]
      cases read item <;> cases rest.mapM read <;> rfl

theorem map_m_eq_some_iff {read : Item → Option Value} {items : List Item} {values : List Value} :
    items.mapM read = some values ↔ items.map read = values.map some := by
  induction items generalizing values with
  | nil => cases values <;> simp
  | cons item rest induction =>
      cases values with
      | nil =>
          rw [List.mapM_cons]
          cases read item <;> cases rest.mapM read <;> simp
      | cons value values =>
          rw [List.map_cons, List.map_cons, List.cons_eq_cons, ← induction, List.mapM_cons]
          cases read item <;> cases rest.mapM read <;> simp

theorem map_m_is_some_iff {read : Item → Option Value} {items : List Item} :
    (∃ values, items.mapM read = some values) ↔
      ∀ item ∈ items, ∃ value, read item = some value := by
  induction items with
  | nil => exact ⟨fun _ _ among => (List.not_mem_nil among).elim, fun _ => ⟨[], rfl⟩⟩
  | cons item rest induction =>
      rw [List.forall_mem_cons, ← induction, List.mapM_cons]
      cases read item <;> cases rest.mapM read <;> simp

theorem mem_of_map_m {read : Item → Option Value} {items : List Item} {values : List Value}
    (found : items.mapM read = some values) (value : Value) :
    value ∈ values ↔ ∃ item ∈ items, read item = some value := by
  have same := map_m_eq_some_iff.mp found
  rw [← List.mem_map, same]
  simp only [List.mem_map, Option.some.injEq, exists_eq_right]

end

namespace FieldRef

def test? (reference : FieldRef) (operator : ComparisonOperator) (value : Literal) :
    Option Predicate :=
  (Query.comparison reference operator value).compile.toOption

section

variable {reference : FieldRef} {field : RecordField} {operator : ComparisonOperator}

theorem test_eq (reference : FieldRef) (operator : ComparisonOperator) (value : Literal) :
    reference.test? operator value = (compileComparison reference operator value).toOption := by
  rw [test?, Query.compile, Query.compile_leaf false false _ rfl]
  rfl

theorem test_exists (reference : FieldRef) (value : Literal) :
    reference.test? .exists value = (RecordField.resolve reference).toOption.map fun field =>
      field.isPresent.expecting (value.asBool?.getD true) := by
  rw [test_eq, compileComparison, if_pos rfl, compileExists, to_option_bind]

theorem test_unresolved {error : CompileError}
    (unknown : RecordField.resolve reference = .error error)
    (operator : ComparisonOperator) (value : Literal) : reference.test? operator value = none := by
  rw [test_eq, compileComparison, compileExists, unknown]
  by_cases presence : operator = .exists
  · rw [if_pos presence]
    rfl
  · rw [if_neg presence]
    rfl

theorem test_created_at (resolved : RecordField.resolve reference = .ok .createdAt)
    (compared : operator ≠ .exists) (value : Literal) :
    reference.test? operator value =
      (compileCreatedAt reference.path operator value).toOption := by
  rw [test_eq, compileComparison, if_neg compared, resolved]
  rfl

theorem test_texts (resolved : RecordField.resolve reference = .ok field)
    (textual : field ≠ .createdAt) (compared : operator ≠ .exists) (value : Literal) :
    reference.test? operator value =
      (compileTexts reference.path field operator value).toOption := by
  rw [test_eq, compileComparison, if_neg compared, resolved]
  cases field with
  | createdAt => exact absurd rfl textual
  | id | title | description | content | tags | mimeType | metadata => rfl

end

end FieldRef

/-- A test of a list of keys is met by what one of them alone is met by. -/
theorem one_of_read {Key : Type} {read : Literal → Except CompileError Key}
    {oneOf : List Key → Predicate}
    (each : ∀ keys, oneOf keys = Predicate.any (keys.map fun key => oneOf [key]))
    (items : List Literal) :
    (items.mapM read).toOption.map oneOf =
      (items.mapM fun item => (read item).toOption.map fun key => oneOf [key]).map
        Predicate.any := by
  rw [to_option_map_m, map_m_map, Option.map_map]
  exact congrArg (Option.map · _) (funext each)

theorem any_equal_each (field : RecordField) (expected : List String) :
    field.anyEqual expected = Predicate.any (expected.map fun key => field.anyEqual [key]) := by
  funext record
  rw [Bool.eq_iff_iff]
  simp only [RecordField.anyEqual, Predicate.any, List.any_map, List.any_eq_true,
    List.contains_iff_mem, List.mem_singleton, Function.comp_apply]
  constructor
  · rintro ⟨actual, present, among⟩
    exact ⟨_, among, actual, present, rfl⟩
  · rintro ⟨key, among, actual, present, rfl⟩
    exact ⟨actual, present, among⟩

theorem created_at_each (expected : List Instant) :
    createdAtOneOf expected = Predicate.any (expected.map fun key => createdAtOneOf [key]) := by
  funext record
  rw [Bool.eq_iff_iff]
  simp only [createdAtOneOf, Predicate.any, List.any_map, List.any_eq_true,
    List.contains_iff_mem, List.mem_singleton, Function.comp_apply, exists_eq_right']

def ComparisonOperator.isEquality : ComparisonOperator → Bool
  | .equal | .notEqual | .isIn | .notIn => true
  | _ => false

def ComparisonOperator.opposite? : ComparisonOperator → Option ComparisonOperator
  | .equal => some .notEqual
  | .isIn => some .notIn
  | _ => none

theorem supports_equality (field : RecordField) {operator : ComparisonOperator}
    (equality : operator.isEquality = true) :
    field.supports operator = field.supports .equal := by
  cases operator with
  | equal | notEqual | isIn | notIn =>
      cases field with
      | metadata key => cases key <;> rfl
      | id | title | description | content | tags | mimeType | createdAt => rfl
  | greaterThan | greaterThanOrEqual | lessThan | lessThanOrEqual | contains | «exists» =>
      cases equality

section

variable {path : String} {field : RecordField}

theorem compile_texts_unsupported {operator : ComparisonOperator}
    (unsupported : field.supports operator = false) (value : Literal) :
    (compileTexts path field operator value).toOption = none := by
  unfold compileTexts
  rw [unsupported, Bool.not_false, if_pos rfl]
  rfl

theorem compile_texts_equal (supported : field.supports .equal = true) (value : Literal) :
    (compileTexts path field .equal value).toOption =
      (value.lowerText path).toOption.map fun key => field.anyEqual [key] := by
  rw [compileTexts, supported, Bool.not_true, if_neg Bool.false_ne_true]
  exact to_option_bind _ _

theorem compile_texts_is_in (supported : field.supports .equal = true) (value : Literal) :
    (compileTexts path field .isIn value).toOption =
      (value.items.mapM (Literal.lowerText path)).toOption.map field.anyEqual := by
  have same : field.supports .isIn = field.supports .equal := supports_equality field rfl
  rw [compileTexts, same, supported, Bool.not_true, if_neg Bool.false_ne_true]
  exact to_option_bind _ _

/-- Of a comparison and its opposite neither makes sense, or they disagree about each record. -/
theorem compile_texts_opposite {positive negative : ComparisonOperator}
    (opposite : positive.opposite? = some negative) (value : Literal) :
    (compileTexts path field negative value).toOption =
      (compileTexts path field positive value).toOption.map Predicate.negate := by
  unfold compileTexts
  cases positive with
  | equal =>
      cases opposite
      have same : field.supports .notEqual = field.supports .equal := supports_equality field rfl
      rw [same]
      cases field.supports .equal with
      | false => rfl
      | true => cases value.lowerText path <;> rfl
  | isIn =>
      cases opposite
      have same : field.supports .notIn = field.supports .isIn :=
        (supports_equality field rfl).trans (supports_equality field rfl).symm
      rw [same]
      cases field.supports .isIn with
      | false => rfl
      | true => cases value.items.mapM (Literal.lowerText path) <;> rfl
  | notEqual | notIn | greaterThan | greaterThanOrEqual | lessThan | lessThanOrEqual | contains
  | «exists» => cases opposite

theorem compile_created_at_equal (value : Literal) :
    (compileCreatedAt path .equal value).toOption =
      (value.toInstant path).toOption.map fun key => createdAtOneOf [key] :=
  to_option_bind _ _

theorem compile_created_at_is_in (value : Literal) :
    (compileCreatedAt path .isIn value).toOption =
      (value.items.mapM (Literal.toInstant path)).toOption.map createdAtOneOf :=
  to_option_bind _ _

theorem compile_created_at_opposite {positive negative : ComparisonOperator}
    (opposite : positive.opposite? = some negative) (value : Literal) :
    (compileCreatedAt path negative value).toOption =
      (compileCreatedAt path positive value).toOption.map Predicate.negate := by
  cases positive with
  | equal =>
      cases opposite
      unfold compileCreatedAt
      cases value.toInstant path <;> rfl
  | isIn =>
      cases opposite
      unfold compileCreatedAt
      cases value.items.mapM (Literal.toInstant path) <;> rfl
  | notEqual | notIn | greaterThan | greaterThanOrEqual | lessThan | lessThanOrEqual | contains
  | «exists» => cases opposite

end

namespace FieldRef

variable {reference : FieldRef}

theorem test_opposite (reference : FieldRef) {positive negative : ComparisonOperator}
    (opposite : positive.opposite? = some negative) (value : Literal) :
    reference.test? negative value = (reference.test? positive value).map Predicate.negate := by
  have compared : positive ≠ .exists ∧ negative ≠ .exists := by
    cases positive <;> cases opposite <;> decide
  cases resolved : RecordField.resolve reference with
  | error error => rw [test_unresolved resolved, test_unresolved resolved, Option.map_none]
  | ok field =>
      by_cases timed : field = .createdAt
      · subst timed
        rw [test_created_at resolved compared.1, test_created_at resolved compared.2]
        exact compile_created_at_opposite opposite value
      · rw [test_texts resolved timed compared.1, test_texts resolved timed compared.2]
        exact compile_texts_opposite opposite value

/-- A field can be compared with no literal at all, or the literals have keys and a record is
tested against any number of these. -/
theorem equality_by_keys (reference : FieldRef) :
    (∀ value, reference.test? .equal value = none ∧ reference.test? .isIn value = none) ∨
      ∃ (Key : Type) (read : Literal → Except CompileError Key) (oneOf : List Key → Predicate),
        (∀ keys, oneOf keys = Predicate.any (keys.map fun key => oneOf [key])) ∧
        ∀ value,
          reference.test? .equal value = (read value).toOption.map (fun key => oneOf [key]) ∧
          reference.test? .isIn value = (value.items.mapM read).toOption.map oneOf := by
  cases resolved : RecordField.resolve reference with
  | error error =>
      left
      intro value
      exact ⟨test_unresolved resolved _ value, test_unresolved resolved _ value⟩
  | ok field =>
      by_cases timed : field = .createdAt
      · subst timed
        refine .inr ⟨Instant, Literal.toInstant reference.path, createdAtOneOf, created_at_each, ?_⟩
        intro value
        rw [test_created_at resolved (by decide), test_created_at resolved (by decide)]
        exact ⟨compile_created_at_equal value, compile_created_at_is_in value⟩
      · simp only [test_texts resolved timed (show ComparisonOperator.equal ≠ .exists by decide),
          test_texts resolved timed (show ComparisonOperator.isIn ≠ .exists by decide)]
        cases supported : field.supports .equal with
        | true =>
            refine .inr ⟨String, Literal.lowerText reference.path, field.anyEqual,
              any_equal_each field, ?_⟩
            intro value
            exact ⟨compile_texts_equal supported value, compile_texts_is_in supported value⟩
        | false =>
            left
            intro value
            have same : field.supports .isIn = field.supports .equal := supports_equality field rfl
            exact ⟨compile_texts_unsupported supported value,
              compile_texts_unsupported (same.trans supported) value⟩

theorem is_in_eq_any (reference : FieldRef) {value : Literal} (filled : value.items ≠ []) :
    reference.test? .isIn value =
      (value.items.mapM fun item => reference.test? .equal item).map Predicate.any := by
  rcases reference.equality_by_keys with untested | ⟨Key, read, oneOf, each, keyed⟩
  · obtain ⟨item, rest, parts⟩ := List.exists_cons_of_ne_nil filled
    rw [(untested value).2, parts, List.mapM_cons, (untested item).1]
    rfl
  · simp only [(keyed _).1]
    rw [(keyed value).2, one_of_read each]

theorem is_in_list (reference : FieldRef) {items : List Literal} (filled : items ≠ []) :
    reference.test? .isIn (.list items) =
      (items.mapM fun item => reference.test? .equal item).map Predicate.any :=
  reference.is_in_eq_any filled

/-- The operators of a field that go by equality fit together. A comparison that makes no sense
has no test, and then neither have the others. -/
structure ComparesConsistently (reference : FieldRef) : Prop where
  notEqual : ∀ value,
    reference.test? .notEqual value = (reference.test? .equal value).map Predicate.negate
  notIn : ∀ value,
    reference.test? .notIn value = (reference.test? .isIn value).map Predicate.negate
  absent : reference.test? .exists (.bool false) =
    (reference.test? .exists (.bool true)).map Predicate.negate
  listed : ∀ items, items ≠ [] →
    ((∃ test, reference.test? .isIn (.list items) = some test) ↔
      ∀ item ∈ items, ∃ equals, reference.test? .equal item = some equals)
  member : ∀ items, items ≠ [] → ∀ test, reference.test? .isIn (.list items) = some test →
    ∀ record, test record = true ↔
      ∃ item ∈ items, ∃ equals, reference.test? .equal item = some equals ∧ equals record = true
  scalar : ∀ value, (∀ items, value ≠ .list items) →
    reference.test? .isIn value = reference.test? .equal value

/-- On every field the comparisons by equality fit together. -/
theorem equality_is_consistent (reference : FieldRef) : reference.ComparesConsistently where
  notEqual := reference.test_opposite rfl
  notIn := reference.test_opposite rfl
  absent := by
    rw [test_exists, test_exists, Option.map_map]
    rfl
  listed := by
    intro items filled
    rw [is_in_list reference filled, ← map_m_is_some_iff]
    cases items.mapM fun item => reference.test? .equal item <;> simp
  member := by
    intro items filled test compiled record
    rw [is_in_list reference filled, Option.map_eq_some_iff] at compiled
    obtain ⟨tests, read, rfl⟩ := compiled
    simp only [Predicate.any, List.any_eq_true, mem_of_map_m read]
    constructor
    · rintro ⟨equals, ⟨item, among, compiled⟩, accepts⟩
      exact ⟨item, among, equals, compiled, accepts⟩
    · rintro ⟨item, among, equals, compiled, accepts⟩
      exact ⟨equals, ⟨item, among, compiled⟩, accepts⟩
  scalar := by
    intro value isScalar
    have items : value.items = [value] := by
      cases value with
      | list items => exact absurd rfl (isScalar items)
      | null | bool | number | instant | text => rfl
    rw [reference.is_in_eq_any (by rw [items]; exact List.cons_ne_nil _ _), items,
      List.mapM_cons, List.mapM_nil]
    cases reference.test? .equal value with
    | none => rfl
    | some equals =>
        refine congrArg some (funext fun record => ?_)
        rw [Predicate.any, List.any_cons, List.any_nil, Bool.or_false]

end FieldRef

end FederatedSearch
