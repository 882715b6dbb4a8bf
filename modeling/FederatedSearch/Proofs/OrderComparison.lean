import FederatedSearch.Proofs.EqualityComparison
import FederatedSearch.Proofs.InstantTexts
import FederatedSearch.Proofs.MetadataOrder
import FederatedSearch.Proofs.NumberTexts

/-!
The comparisons by order, beside equality. Every field but one is ordered by what it is compared
with by equality, so a record that is admitted at least or at most is admitted beyond the bound or
equals it. An entry of the metadata is ordered by the number, or by the point in time, that it is
read as, whereas equality looks at its text: there a record may stand level with a bound that it
does not equal, but it equals no bound that it does not stand level with, as long as the bound can
be read back from its text.
-/

namespace FederatedSearch

open FederatedSearch.Text FederatedSearch.Time

theorem Time.Instant.compare_eq_iff {a b : Instant} : a.compare b = .eq ↔ a = b := by
  rw [Instant.compare, Ordering.then_eq_eq, compare_eq_iff_eq, compare_eq_iff_eq]
  constructor
  · rintro ⟨second, nanosecond⟩
    cases a
    cases b
    exact congrArg₂ Instant.mk second nanosecond
  · rintro rfl
    exact ⟨rfl, rfl⟩

namespace Literal

/-- Metadata is ordered against the literal by what its text stands for. -/
def isMeasure : Literal → Bool
  | .number _ | .instant _ => true
  | _ => false

/-- The text is read as the literal. -/
def ReadFrom (text : String) : Literal → Prop
  | .number bound =>
      ∃ x, Decimal.readNumber? (trim text.toList) = some x ∧ compareFloats? x bound = some .eq
  | .instant bound => instantOfText? text = some bound
  | _ => False

/-- The literal can be read back from its own text. -/
def isReadBack : Literal → Bool
  | .number x => !x.isNaN
  | .instant t => t.IsCommon
  | _ => true

end Literal

def ComparisonOperator.loose? : ComparisonOperator → Option ComparisonOperator
  | .greaterThan => some .greaterThanOrEqual
  | .lessThan => some .lessThanOrEqual
  | _ => none

namespace FieldRef

/-- How the field of a record stands to a literal, if the two have an order. -/
def order? (reference : FieldRef) (value : Literal) : Option (Record → Option Ordering) :=
  match RecordField.resolve reference with
  | .ok .createdAt =>
      (value.toInstant reference.path).toOption.map fun bound record =>
        some (record.createdAt.compare bound)
  | .ok field =>
      if field.supports .lessThan then
        (orderAgainst reference.path field value).toOption.map fun order record =>
          (field.texts record).head?.bind order
      else none
  | .error _ => none

end FieldRef

theorem supports_ordering (field : RecordField) {operator : ComparisonOperator}
    (isOrdering : operator.isOrdering = true) :
    field.supports operator = field.supports .lessThan := by
  cases operator with
  | greaterThan | greaterThanOrEqual | lessThan | lessThanOrEqual =>
      cases field with
      | metadata key => cases key <;> rfl
      | id | title | description | content | tags | mimeType | createdAt => rfl
  | equal | notEqual | isIn | notIn | contains | «exists» => cases isOrdering

theorem supports_equal_of_ordered {field : RecordField}
    (supported : field.supports .lessThan = true) : field.supports .equal = true := by
  cases field with
  | metadata key =>
      cases key with
      | none => cases supported
      | some key => rfl
  | id | title | description | content | tags | mimeType | createdAt => rfl

/-- A field that has an order has no more than one text. -/
theorem any_single_text {field : RecordField} (supported : field.supports .lessThan = true)
    (record : Record) (seen : String → Bool) :
    (field.texts record).any seen = (field.texts record).head?.any seen := by
  have optional (held : Option String) : held.toList.any seen = held.toList.head?.any seen := by
    cases held <;> simp
  cases field with
  | metadata key =>
      cases key with
      | none => cases supported
      | some key => exact optional _
  | tags => cases supported
  | title | description => exact optional _
  | id | content | mimeType | createdAt => simp [RecordField.texts]

theorem compile_texts_ordered {path : String} {field : RecordField} {operator : ComparisonOperator}
    (isOrdering : operator.isOrdering = true) (value : Literal) :
    (compileTexts path field operator value).toOption =
      if field.supports .lessThan then
        (orderAgainst path field value).toOption.map (field.anyOrdered operator)
      else none := by
  rw [← supports_ordering field isOrdering]
  cases supported : field.supports operator with
  | false => exact compile_texts_unsupported supported value
  | true =>
      unfold compileTexts
      rw [supported, Bool.not_true, if_neg Bool.false_ne_true]
      cases operator with
      | greaterThan | greaterThanOrEqual | lessThan | lessThanOrEqual => exact to_option_bind _ _
      | equal | notEqual | isIn | notIn | contains | «exists» => cases isOrdering

theorem compile_created_at_ordered {path : String} {operator : ComparisonOperator}
    (isOrdering : operator.isOrdering = true) (value : Literal) :
    (compileCreatedAt path operator value).toOption =
      (value.toInstant path).toOption.map fun bound record =>
        operator.admits (record.createdAt.compare bound) := by
  cases operator with
  | greaterThan | greaterThanOrEqual | lessThan | lessThanOrEqual => exact to_option_bind _ _
  | equal | notEqual | isIn | notIn | contains | «exists» => cases isOrdering

namespace FieldRef

variable {reference : FieldRef} {operator : ComparisonOperator} {value : Literal}

theorem order_unresolved {error : CompileError}
    (unknown : RecordField.resolve reference = .error error) (value : Literal) :
    reference.order? value = none := by
  rw [order?, unknown]

theorem order_created_at (resolved : RecordField.resolve reference = .ok .createdAt)
    (value : Literal) :
    reference.order? value = (value.toInstant reference.path).toOption.map fun bound record =>
      some (record.createdAt.compare bound) := by
  rw [order?, resolved]

theorem order_texts {field : RecordField} (resolved : RecordField.resolve reference = .ok field)
    (textual : field ≠ .createdAt) (value : Literal) :
    reference.order? value =
      if field.supports .lessThan then
        (orderAgainst reference.path field value).toOption.map fun order record =>
          (field.texts record).head?.bind order
      else none := by
  rw [order?, resolved]
  cases field with
  | createdAt => exact absurd rfl textual
  | id | title | description | content | tags | mimeType | metadata => rfl

/-- The comparisons by order admit a record by how its field stands to the literal. -/
theorem test_ordering (isOrdering : operator.isOrdering = true) (reference : FieldRef)
    (value : Literal) :
    reference.test? operator value =
      (reference.order? value).map fun order record => (order record).any operator.admits := by
  have compared : operator ≠ .exists := by
    rintro rfl
    cases isOrdering
  cases resolved : RecordField.resolve reference with
  | error error =>
      rw [test_unresolved resolved, order_unresolved resolved]
      rfl
  | ok field =>
      by_cases timed : field = .createdAt
      · subst timed
        rw [test_created_at resolved compared, compile_created_at_ordered isOrdering,
          order_created_at resolved, Option.map_map]
        rfl
      · rw [test_texts resolved timed compared, compile_texts_ordered isOrdering,
          order_texts resolved timed]
        split
        next supported =>
          rw [Option.map_map]
          apply congrArg (Option.map · _)
          funext order record
          rw [RecordField.anyOrdered, any_single_text supported, Function.comp_apply,
            Option.any_bind]
          rfl
        next => rfl

end FieldRef

theorem compare_texts_eq_iff {a b : String} : compareTexts a b = .eq ↔ a = b := by
  rw [compareTexts, compare_eq_iff_eq]

theorem order_against_text {path : String} {field : RecordField} {value : Literal}
    (plain : (∀ key, field ≠ .metadata key) ∨ value.isMeasure = false) :
    orderAgainst path field value = do
      let bound ← value.lowerText path
      return fun actual => some (compareTexts (lowered actual) bound) := by
  unfold orderAgainst
  split
  next key bound =>
    rcases plain with noEntry | other
    · exact absurd rfl (noEntry key)
    · cases other
  next key bound =>
    rcases plain with noEntry | other
    · exact absurd rfl (noEntry key)
    · cases other
  next => rfl

namespace FieldRef

variable {reference : FieldRef} {value : Literal} {order : Record → Option Ordering}
  {equals : Predicate}

theorem lower_text_of_order {path : String} {field : RecordField} {order : String → Option Ordering}
    (ordered : (orderAgainst path field value).toOption = some order) :
    ∃ bound, (value.lowerText path).toOption = some bound := by
  unfold orderAgainst at ordered
  split at ordered
  next => exact ⟨_, rfl⟩
  next => exact ⟨_, rfl⟩
  next =>
    rw [to_option_bind] at ordered
    obtain ⟨bound, read, -⟩ := Option.map_eq_some_iff.mp ordered
    exact ⟨bound, read⟩

theorem order_cases (ordered : reference.order? value = some order) :
    (∃ bound, RecordField.resolve reference = .ok .createdAt ∧
      (value.toInstant reference.path).toOption = some bound ∧
      order = fun record => some (record.createdAt.compare bound)) ∨
    ∃ field level, RecordField.resolve reference = .ok field ∧ field ≠ .createdAt ∧
      field.supports .lessThan = true ∧
      (orderAgainst reference.path field value).toOption = some level ∧
      order = fun record => (field.texts record).head?.bind level := by
  cases resolved : RecordField.resolve reference with
  | error error =>
      rw [order_unresolved resolved] at ordered
      cases ordered
  | ok field =>
      by_cases timed : field = .createdAt
      · subst timed
        rw [order_created_at resolved] at ordered
        obtain ⟨bound, read, rfl⟩ := Option.map_eq_some_iff.mp ordered
        exact .inl ⟨bound, rfl, read, rfl⟩
      · rw [order_texts resolved timed, Option.ite_none_right_eq_some] at ordered
        obtain ⟨supported, ordered⟩ := ordered
        obtain ⟨level, against, rfl⟩ := Option.map_eq_some_iff.mp ordered
        exact .inr ⟨field, level, rfl, timed, supported, against, rfl⟩

theorem test_equal_of_order (ordered : reference.order? value = some order) :
    ∃ equals, reference.test? .equal value = some equals := by
  rcases order_cases ordered with
    ⟨bound, resolved, read, -⟩ | ⟨field, level, resolved, textual, supported, against, -⟩
  · rw [test_created_at resolved (by decide), compile_created_at_equal, read]
    exact ⟨_, rfl⟩
  · obtain ⟨bound, read⟩ := lower_text_of_order against
    rw [test_texts resolved textual (by decide),
      compile_texts_equal (supports_equal_of_ordered supported), read]
    exact ⟨_, rfl⟩

theorem equals_iff_level_text {path : String} {field : RecordField}
    {order : String → Option Ordering}
    (plain : (∀ key, field ≠ .metadata key) ∨ value.isMeasure = false)
    (supported : field.supports .lessThan = true)
    (ordered : (orderAgainst path field value).toOption = some order)
    (compiled : (compileTexts path field .equal value).toOption = some equals) (record : Record) :
    equals record = true ↔ (field.texts record).head?.bind order = some .eq := by
  rw [order_against_text plain, to_option_bind] at ordered
  rw [compile_texts_equal (supports_equal_of_ordered supported)] at compiled
  obtain ⟨bound, read, rfl⟩ := Option.map_eq_some_iff.mp ordered
  obtain ⟨same, read', rfl⟩ := Option.map_eq_some_iff.mp compiled
  obtain rfl : bound = same := Option.some.inj (read.symm.trans read')
  rw [RecordField.anyEqual, any_single_text supported]
  cases (field.texts record).head? with
  | none => simp
  | some actual => simp [compare_texts_eq_iff]

theorem equals_iff_level (plain : reference.entryKey? = none ∨ value.isMeasure = false)
    (ordered : reference.order? value = some order)
    (compiled : reference.test? .equal value = some equals) (record : Record) :
    equals record = true ↔ order record = some .eq := by
  rcases order_cases ordered with
    ⟨bound, resolved, read, rfl⟩ | ⟨field, level, resolved, textual, supported, against, rfl⟩
  · rw [test_created_at resolved (by decide), compile_created_at_equal] at compiled
    obtain ⟨same, read', rfl⟩ := Option.map_eq_some_iff.mp compiled
    obtain rfl : bound = same := Option.some.inj (read.symm.trans read')
    rw [createdAtOneOf, List.contains_iff_mem, List.mem_singleton, Option.some.injEq,
      Instant.compare_eq_iff]
  · rw [test_texts resolved textual (by decide)] at compiled
    apply equals_iff_level_text ?_ supported against compiled
    rcases plain with noKey | other
    · left
      rintro (_ | key) rfl
      · cases supported
      · rw [entryKey?, resolved] at noKey
        cases noKey
    · exact .inr other

theorem resolve_of_entry {key : String} (named : reference.entryKey? = some key) :
    RecordField.resolve reference = .ok (.metadata (some key)) := by
  unfold entryKey? at named
  split at named
  next key' resolved => rw [resolved, named]
  next => cases named

theorem order_of_entry {key : String} (named : reference.entryKey? = some key)
    {level : String → Option Ordering}
    (against : orderAgainst reference.path (.metadata (some key)) value = .ok level)
    (ordered : reference.order? value = some order) (record : Record) :
    order record = (record.metadataValue key).bind level := by
  have supported : (RecordField.metadata (some key)).supports .lessThan = true := rfl
  rw [order_texts (resolve_of_entry named) nofun, against, if_pos supported] at ordered
  rw [← Option.some.inj ordered]
  simp only [RecordField.texts, Option.head?_toList]

theorem test_entry {key : String} (named : reference.entryKey? = some key) (value : Literal) :
    reference.test? .equal value = (value.lowerText reference.path).toOption.map fun bound record =>
      (record.metadataValue key).any fun actual => lowered actual == bound := by
  rw [test_texts (resolve_of_entry named) nofun (by decide), compile_texts_equal rfl]
  apply congrArg (Option.map · _)
  funext bound record
  rw [RecordField.anyEqual, any_single_text rfl, RecordField.texts, Option.head?_toList]
  simp [beq_eq_decide]

theorem entry_level_iff {key : String} (named : reference.entryKey? = some key)
    (measure : value.isMeasure = true) (ordered : reference.order? value = some order)
    (record : Record) :
    order record = some .eq ↔
      ∃ text, record.metadataValue key = some text ∧ value.ReadFrom text := by
  cases value with
  | number bound =>
      rw [order_of_entry named (by rw [orderAgainst]) ordered, Option.bind_eq_some_iff]
      simp only [Option.bind_eq_some_iff, Literal.ReadFrom]
  | instant bound =>
      rw [order_of_entry named (by rw [orderAgainst]) ordered, Option.bind_eq_some_iff]
      simp only [Option.map_eq_some_iff, Literal.ReadFrom, Instant.compare_eq_iff,
        exists_eq_right]
  | null | bool | text | list => cases measure

/-- An entry that equals the literal stands level with it, if the literal can be read back. -/
theorem level_of_equals_entry {key : String} (named : reference.entryKey? = some key)
    (measure : value.isMeasure = true) (real : ∀ t, value = .instant t → t.IsReal)
    (ordered : reference.order? value = some order)
    (compiled : reference.test? .equal value = some equals) {record : Record}
    (accepts : equals record = true) :
    order record = if value.isReadBack then some .eq else none := by
  rw [test_entry named] at compiled
  obtain ⟨bound, read, rfl⟩ := Option.map_eq_some_iff.mp compiled
  obtain ⟨text, found, same⟩ := (Option.any_eq_true _ _).mp accepts
  rw [beq_iff_eq] at same
  cases value with
  | number x =>
      rw [← Option.some.inj read] at same
      rw [order_of_entry named (by rw [orderAgainst]) ordered, found, Option.bind_some,
        Literal.isReadBack]
      cases undefined : x.isNaN with
      | true =>
          have none (y : Float) : compareFloats? y x = none :=
            Decimal.compare_undefined (Decimal.is_nan_iff.mp undefined)
          simp [none]
      | false =>
          have defined := Decimal.is_nan_iff.not.mp (Bool.eq_false_iff.mp undefined)
          apply Decimal.spelled_number_reads defined
          rw [← lowered_to_list, ← lowered_to_list, same]
  | instant t =>
      rw [← Option.some.inj read] at same
      rw [order_of_entry named (by rw [orderAgainst]) ordered, found, Option.bind_some,
        spelled_instant_reads (real t rfl) same, Literal.isReadBack]
      by_cases common : t.IsCommon
      · simp [common, Instant.compare_eq_iff]
      · simp [common]
  | null | bool | text | list => cases measure

end FieldRef

section

variable {outcome : Option Ordering}

theorem admits_loose_iff {strict loose : ComparisonOperator} (loosened : strict.loose? = some loose)
    (outcome : Option Ordering) :
    outcome.any loose.admits = true ↔ outcome.any strict.admits = true ∨ outcome = some .eq := by
  cases strict with
  | greaterThan | lessThan =>
      cases loosened
      rcases outcome with _ | _ | _ | _ <;> decide
  | equal | notEqual | greaterThanOrEqual | lessThanOrEqual | contains | isIn | notIn | «exists» =>
      cases loosened

/-- A record is not on two sides of a bound, and on none if it is level with the bound. -/
theorem admits_at_most_one {equals : Bool}
    (level : equals = true → outcome = some .eq ∨ outcome = none) :
    (outcome.any ComparisonOperator.lessThan.admits).toNat + equals.toNat +
      (outcome.any ComparisonOperator.greaterThan.admits).toNat ≤ 1 := by
  cases equals with
  | true => rcases level rfl with rfl | rfl <;> decide
  | false => rcases outcome with _ | _ | _ | _ <;> decide

theorem loose_is_ordering {strict loose : ComparisonOperator}
    (loosened : strict.loose? = some loose) :
    strict.isOrdering = true ∧ loose.isOrdering = true := by
  cases strict <;> cases loosened <;> decide

end

namespace FieldRef

variable {reference : FieldRef} {value : Literal}

/-- What equals a literal stands level with it, or else in no order to a literal that is not read
back from its text. -/
theorem outcome_of_equals {order : Record → Option Ordering} {equals : Predicate} {record : Record}
    (real : ∀ t, value = .instant t → t.IsReal) (ordered : reference.order? value = some order)
    (compiled : reference.test? .equal value = some equals) (accepts : equals record = true) :
    order record = some .eq ∨ order record = none ∧ value.isReadBack = false := by
  cases named : reference.entryKey? with
  | none => exact .inl ((equals_iff_level (.inl named) ordered compiled record).mp accepts)
  | some key =>
      cases measure : value.isMeasure with
      | false => exact .inl ((equals_iff_level (.inr measure) ordered compiled record).mp accepts)
      | true =>
          rw [level_of_equals_entry named measure real ordered compiled accepts]
          cases value.isReadBack with
          | true => exact .inl rfl
          | false => exact .inr ⟨rfl, rfl⟩

theorem order_of_test {operator : ComparisonOperator} (isOrdering : operator.isOrdering = true)
    {test : Predicate} (compiled : reference.test? operator value = some test) :
    ∃ order, reference.order? value = some order ∧
      ∀ record, test record = (order record).any operator.admits := by
  rw [test_ordering isOrdering] at compiled
  obtain ⟨order, ordered, rfl⟩ := Option.map_eq_some_iff.mp compiled
  exact ⟨order, ordered, fun _ => rfl⟩

theorem order_of_tests {first second : ComparisonOperator} (isOrdering : first.isOrdering = true)
    (isOrdering' : second.isOrdering = true) {test test' : Predicate}
    (compiled : reference.test? first value = some test)
    (compiled' : reference.test? second value = some test') :
    ∃ order, reference.order? value = some order ∧
      (∀ record, test record = (order record).any first.admits) ∧
      ∀ record, test' record = (order record).any second.admits := by
  obtain ⟨order, ordered, tests⟩ := order_of_test isOrdering compiled
  obtain ⟨same, ordered', tests'⟩ := order_of_test isOrdering' compiled'
  obtain rfl : order = same := Option.some.inj (ordered.symm.trans ordered')
  exact ⟨order, ordered, tests, tests'⟩

structure OrdersConsistently (reference : FieldRef) (value : Literal) : Prop where
  together : ∀ operator test, operator.isOrdering = true →
    reference.test? operator value = some test →
      (∃ equals, reference.test? .equal value = some equals) ∧
        ∀ other, other.isOrdering = true → ∃ test', reference.test? other value = some test'
  exclusive : ∀ below equals above, reference.test? .lessThan value = some below →
    reference.test? .equal value = some equals → reference.test? .greaterThan value = some above →
    ∀ record, (below record).toNat + (equals record).toNat + (above record).toNat ≤ 1
  level : reference.entryKey? = none ∨ value.isMeasure = false →
    ∀ (strict loose : ComparisonOperator), strict.loose? = some loose →
    ∀ beyond equals within, reference.test? strict value = some beyond →
      reference.test? .equal value = some equals → reference.test? loose value = some within →
      ∀ record, within record = true ↔ beyond record = true ∨ equals record = true
  measured : ∀ key, reference.entryKey? = some key → value.isMeasure = true →
    ∀ (strict loose : ComparisonOperator), strict.loose? = some loose →
    ∀ beyond within, reference.test? strict value = some beyond →
      reference.test? loose value = some within →
      ∀ record, within record = true ↔ beyond record = true ∨
        ∃ text, record.metadataValue key = some text ∧ value.ReadFrom text
  equal : value.isReadBack = true →
    ∀ (strict loose : ComparisonOperator), strict.loose? = some loose →
    ∀ equals within, reference.test? .equal value = some equals →
      reference.test? loose value = some within →
      ∀ record, equals record = true → within record = true

/-- The comparisons by order and by equality fit together. -/
theorem order_is_consistent (reference : FieldRef) (value : Literal)
    (real : ∀ t, value = .instant t → t.IsReal) : reference.OrdersConsistently value where
  together := by
    intro operator test isOrdering compiled
    obtain ⟨order, ordered, -⟩ := order_of_test isOrdering compiled
    refine ⟨test_equal_of_order ordered, ?_⟩
    intro other isOrdering'
    rw [test_ordering isOrdering', ordered]
    exact ⟨_, rfl⟩
  exclusive := by
    intro below equals above compiledBelow compiledEquals compiledAbove record
    obtain ⟨order, ordered, below, above⟩ := order_of_tests rfl rfl compiledBelow compiledAbove
    rw [below, above]
    apply admits_at_most_one
    intro accepts
    exact (outcome_of_equals real ordered compiledEquals accepts).imp_right And.left
  level := by
    intro plain strict loose loosened beyond equals within compiled compiledEquals compiledWithin
    obtain ⟨isOrdering, isOrdering'⟩ := loose_is_ordering loosened
    obtain ⟨order, ordered, beyond, within⟩ :=
      order_of_tests isOrdering isOrdering' compiled compiledWithin
    intro record
    rw [beyond, within, admits_loose_iff loosened, equals_iff_level plain ordered compiledEquals]
  measured := by
    intro key named measure strict loose loosened beyond within compiled compiledWithin record
    obtain ⟨isOrdering, isOrdering'⟩ := loose_is_ordering loosened
    obtain ⟨order, ordered, beyond, within⟩ :=
      order_of_tests isOrdering isOrdering' compiled compiledWithin
    rw [beyond, within, admits_loose_iff loosened, entry_level_iff named measure ordered]
  equal := by
    intro readBack strict loose loosened equals within compiledEquals compiledWithin record accepts
    obtain ⟨order, ordered, within⟩ := order_of_test (loose_is_ordering loosened).2 compiledWithin
    have level : order record = some .eq := by
      rcases outcome_of_equals real ordered compiledEquals accepts with level | ⟨-, lost⟩
      · exact level
      · rw [readBack] at lost
        cases lost
    rw [within, admits_loose_iff loosened]
    exact .inr level

def due : FieldRef := .ofMetadataKey "due"

def newYear : Instant := ⟨1704067200, 0⟩

def dueNote : Record :=
  { Record.plain "note" "milk" ⟨0, 0⟩ with metadata := [("due", "2024-01-01t00:00:00+00:00")] }

theorem due_note_is_due :
    (∀ t, Literal.instant newYear = .instant t → t.IsReal) ∧
      due.OrdersConsistently (.instant newYear) ∧
      ∃ equals within, due.test? .equal (.instant newYear) = some equals ∧
        due.test? .greaterThanOrEqual (.instant newYear) = some within ∧
        equals dueNote = true ∧ within dueNote = true := by
  have real : ∀ t, Literal.instant newYear = .instant t → t.IsReal := by
    rintro t ⟨⟩
    exact ⟨by decide, by decide, by decide⟩
  have consistent := order_is_consistent due (.instant newYear) real
  have equal : (due.test? .equal (.instant newYear)).any (· dueNote) = true := by decide +kernel
  obtain ⟨equals, compiled, accepts⟩ := (Option.any_eq_true _ _).mp equal
  refine ⟨real, consistent, equals, _, compiled, rfl, accepts, ?_⟩
  exact consistent.equal (by decide) .greaterThan .greaterThanOrEqual rfl equals _ compiled rfl
    dueNote accepts

def score : FieldRef := .ofMetadataKey "score"

def scoredNote : Record :=
  { Record.plain "note" "milk" ⟨0, 0⟩ with metadata := [("score", "42.0")] }

/-- An entry with a decimal place more than the number stands level with it, but does not equal
it. -/
theorem scored_note_is_level_but_unequal :
    ∃ within equals above, score.test? .greaterThanOrEqual (.number 42) = some within ∧
      score.test? .equal (.number 42) = some equals ∧
      score.test? .greaterThan (.number 42) = some above ∧
      within scoredNote = true ∧ ¬ (above scoredNote = true ∨ equals scoredNote = true) := by
  refine ⟨_, _, _, rfl, rfl, rfl, ?_, ?_⟩
  · decide +kernel
  · decide +kernel

end FieldRef

end FederatedSearch
