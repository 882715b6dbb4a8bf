import FederatedSearch.Error
import FederatedSearch.Proofs.Selection

/-!
The order in which a record lists its metadata. A key that no entry has is looked up without
regard to case, and then the first entry answers. So the order decides between entries whose
keys differ in case only, and it decides nothing else.
-/

namespace FederatedSearch

open FederatedSearch.Text

/-- No comparison tells the two texts apart where they stand in metadata: they are the same up
to case, and what they read as stands alike to every number and to every instant. -/
structure ComparesAlike (first second : String) : Prop where
  text : lowered first = lowered second
  number : ∀ bound,
    (Decimal.readNumber? (trim first.toList)).bind (compareFloats? · bound) =
      (Decimal.readNumber? (trim second.toList)).bind (compareFloats? · bound)
  instant : ∀ bound,
    (instantOfText? first).map (·.compare bound) = (instantOfText? second).map (·.compare bound)

namespace Record

/-- An entry has the key, or all entries that may answer in its place compare alike. -/
def Unambiguous (record : Record) (key : String) : Prop :=
  key ∈ record.metadata.map (·.1) ∨
    ∀ first ∈ record.metadata, ∀ second ∈ record.metadata,
      sameIgnoringAsciiCase first.1.toList key.toList = true →
      sameIgnoringAsciiCase second.1.toList key.toList = true →
        ComparesAlike first.2 second.2

/-- The record with its metadata listed in another way. -/
def relisted (record : Record) (metadata : List (String × String)) : Record :=
  { record with metadata }

end Record

def FieldRef.entryKey? (reference : FieldRef) : Option String :=
  match RecordField.resolve reference with
  | .ok (.metadata key) => key
  | _ => none

namespace Query

mutual

def lookedUpKeys : Query → List String
  | .logical _ children => lookedUpKeysOfAll children
  | .comparison reference _ _ | .textSearch (some reference) _ | .field reference =>
      reference.entryKey?.toList
  | _ => []

def lookedUpKeysOfAll : List Query → List String
  | [] => []
  | child :: rest => lookedUpKeys child ++ lookedUpKeysOfAll rest

end

/-- The tests of a tree, in full and behind an index, answer alike however the metadata of
the record is listed. -/
def IgnoresListing (record : Record) (query : Query) : Prop :=
  ∀ test, query.compile = .ok test → ∃ structured, query.compileStructured = .ok structured ∧
    ∀ metadata, metadata.Perm record.metadata →
      test (record.relisted metadata) = test record ∧
        structured.all (· (record.relisted metadata)) = structured.all (· record)

theorem looked_up_keys_of_all_eq (children : List Query) :
    lookedUpKeysOfAll children = children.flatMap lookedUpKeys := by
  induction children with
  | nil => rfl
  | cons child rest induction => rw [lookedUpKeysOfAll, induction, List.flatMap_cons]

end Query

namespace ComparesAlike

variable {first second : String}

theorem refl (text : String) : ComparesAlike text text :=
  ⟨rfl, fun _ => rfl, fun _ => rfl⟩

theorem symm (alike : ComparesAlike first second) : ComparesAlike second first where
  text := alike.text.symm
  number := fun bound => (alike.number bound).symm
  instant := fun bound => (alike.instant bound).symm

theorem order (alike : ComparesAlike first second) {path : String} {field : RecordField}
    {value : Literal} {order : String → Option Ordering}
    (ordered : orderAgainst path field value = .ok order) : order first = order second := by
  unfold orderAgainst at ordered
  split at ordered
  next key bound =>
    rw [← Except.ok.inj ordered]
    exact alike.number bound
  next key bound =>
    rw [← Except.ok.inj ordered]
    exact alike.instant bound
  next =>
    cases spelled : value.lowerText path with
    | error error => simp [spelled, bind, Except.bind] at ordered
    | ok bound =>
        rw [spelled] at ordered
        rw [← Except.ok.inj ordered]
        exact congrArg (fun text => some (compareTexts text bound)) alike.text

end ComparesAlike

theorem any_of_perm {Value : Type} {first second : List Value} (same : first.Perm second)
    (test : Value → Bool) : first.any test = second.any test := by
  apply Bool.eq_iff_iff.mpr
  simp only [List.any_eq_true, same.mem_iff]

theorem find_document_iff {Value : Type} {entries : List (String × Value)}
    (distinct : (entries.map (·.1)).Nodup) (key : String) (value : Value) :
    Document.find? key entries = some value ↔ (key, value) ∈ entries := by
  induction entries with
  | nil => simp [Document.find?]
  | cons entry rest induction =>
      obtain ⟨name, first⟩ := entry
      rw [List.map_cons, List.nodup_cons] at distinct
      rw [Document.find?, List.mem_cons, Prod.mk.injEq]
      by_cases same : name = key
      · have absent : (key, value) ∉ rest := by
          intro member
          exact distinct.1 (List.mem_map.mpr ⟨(key, value), member, same.symm⟩)
        simp [same, absent, eq_comm]
      · simp [same, Ne.symm same, induction distinct.2]

/-- The first value that passes a test is the same to whatever all such values are the same to. -/
theorem find_any_of_perm {Value : Type} {first second : List Value} (same : first.Perm second)
    {test seen : Value → Bool}
    (alike : ∀ a ∈ second, ∀ b ∈ second, test a = true → test b = true → seen a = seen b) :
    (first.find? test).any seen = (second.find? test).any seen := by
  cases found : first.find? test with
  | none =>
      have none : second.find? test = none := by
        rw [List.find?_eq_none] at found ⊢
        intro value member
        exact found value (same.mem_iff.mpr member)
      rw [none]
  | some a =>
      have member := same.mem_iff.mp (List.mem_of_find?_eq_some found)
      cases other : second.find? test with
      | none => exact absurd (List.find?_some found) (List.find?_eq_none.mp other a member)
      | some b =>
          exact alike a member b (List.mem_of_find?_eq_some other) (List.find?_some found)
            (List.find?_some other)

namespace Record

variable {record : Record} {metadata : List (String × String)}

theorem find_relisted (distinct : (record.metadata.map (·.1)).Nodup)
    (same : metadata.Perm record.metadata) (key : String) :
    Document.find? key metadata = Document.find? key record.metadata := by
  have distinct' : (metadata.map (·.1)).Nodup := (same.map _).nodup_iff.mpr distinct
  apply Option.ext
  intro value
  rw [find_document_iff distinct', find_document_iff distinct, same.mem_iff]

theorem metadata_value_relisted (distinct : (record.metadata.map (·.1)).Nodup)
    (same : metadata.Perm record.metadata) {key : String} (unambiguous : record.Unambiguous key)
    {seen : String → Bool} (respects : ∀ a b, ComparesAlike a b → seen a = seen b) :
    ((record.relisted metadata).metadataValue key).any seen =
      (record.metadataValue key).any seen := by
  unfold metadataValue relisted
  simp only [find_relisted distinct same]
  cases own : Document.find? key record.metadata with
  | some value => rfl
  | none =>
      simp only [Option.any_map]
      apply find_any_of_perm same
      intro a first b second
      rcases unambiguous with among | alike
      · obtain ⟨entry, member, named⟩ := List.mem_map.mp among
        have held := (find_document_iff distinct key entry.2).mpr (by rw [← named]; exact member)
        rw [own] at held
        cases held
      · intro sameA sameB
        exact respects a.2 b.2 (alike a first b second sameA sameB)

end Record

namespace RecordField

variable {record : Record} {metadata : List (String × String)}

theorem any_text_relisted (field : RecordField) (distinct : (record.metadata.map (·.1)).Nodup)
    (same : metadata.Perm record.metadata)
    (unambiguous : ∀ key, field = .metadata (some key) → record.Unambiguous key)
    {seen : String → Bool} (respects : ∀ a b, ComparesAlike a b → seen a = seen b) :
    (field.texts (record.relisted metadata)).any seen = (field.texts record).any seen := by
  cases field with
  | metadata key =>
      cases key with
      | none => exact any_of_perm (same.map _) seen
      | some key =>
          have found := Record.metadata_value_relisted distinct same (unambiguous key rfl) respects
          have single : ∀ held : Option String, held.toList.any seen = held.any seen := by
            intro held
            cases held <;> simp
          rw [texts, texts, single, single]
          exact found
  | id | title | description | content | tags | mimeType | createdAt => rfl

theorem present_relisted (field : RecordField) (distinct : (record.metadata.map (·.1)).Nodup)
    (same : metadata.Perm record.metadata)
    (unambiguous : ∀ key, field = .metadata (some key) → record.Unambiguous key) :
    field.isPresent (record.relisted metadata) = field.isPresent record := by
  have presence : ∀ texts : List String, (!texts.isEmpty) = texts.any fun _ => true := by
    intro texts
    cases texts <;> rfl
  unfold isPresent
  cases field <;> first
    | rfl
    | simp only [presence]; exact any_text_relisted _ distinct same unambiguous fun _ _ _ => rfl

end RecordField

/-- The test looks for a text of the field that passes, or that does not, and texts that compare
alike pass alike. -/
def ReadsTexts (field : RecordField) (test : Predicate) : Prop :=
  ∃ (seen : String → Bool) (wanted : Bool), (∀ a b, ComparesAlike a b → seen a = seen b) ∧
    test = Predicate.expecting (fun record => (field.texts record).any seen) wanted

theorem ReadsTexts.relisted {field : RecordField} {test : Predicate}
    (reads : ReadsTexts field test) {record : Record} {metadata : List (String × String)}
    (distinct : (record.metadata.map (·.1)).Nodup) (same : metadata.Perm record.metadata)
    (unambiguous : ∀ key, field = .metadata (some key) → record.Unambiguous key) :
    test (record.relisted metadata) = test record := by
  obtain ⟨seen, wanted, respects, rfl⟩ := reads
  have alike := field.any_text_relisted distinct same unambiguous respects
  cases wanted with
  | true => exact alike
  | false => exact congrArg (!·) alike

theorem any_equal_reads_texts (field : RecordField) (expected : List String) (wanted : Bool) :
    ReadsTexts field (Predicate.expecting (field.anyEqual expected) wanted) := by
  refine ⟨fun actual => expected.contains (lowered actual), wanted, ?_, rfl⟩
  intro a b alike
  simp only [alike.text]

theorem any_contains_reads_texts (field : RecordField) (needle : String) :
    ReadsTexts field (field.anyContains needle) := by
  refine ⟨occursIgnoringCase needle.toList, true, ?_, rfl⟩
  intro a b alike
  unfold occursIgnoringCase
  rw [← lowered_to_list, ← lowered_to_list, alike.text]

theorem any_ordered_reads_texts {path : String} (field : RecordField)
    (operator : ComparisonOperator) {value : Literal} {order : String → Option Ordering}
    (ordered : orderAgainst path field value = .ok order) :
    ReadsTexts field (field.anyOrdered operator order) := by
  refine ⟨fun actual => (order actual).any operator.admits, true, ?_, rfl⟩
  intro a b alike
  simp only [alike.order ordered]

theorem compile_texts_reads {path : String} {field : RecordField} {operator : ComparisonOperator}
    {value : Literal} {test : Predicate}
    (compiled : compileTexts path field operator value = .ok test) : ReadsTexts field test := by
  unfold compileTexts at compiled
  cases supported : field.supports operator with
  | false => simp [supported] at compiled
  | true =>
      simp only [supported, Bool.not_true, Bool.false_eq_true, if_false] at compiled
      cases operator with
      | «exists» => cases compiled
      | equal =>
          obtain ⟨text, _, made⟩ := bind_eq_ok.mp compiled
          cases made
          exact any_equal_reads_texts field [text] true
      | notEqual =>
          obtain ⟨text, _, made⟩ := bind_eq_ok.mp compiled
          cases made
          exact any_equal_reads_texts field [text] false
      | isIn =>
          obtain ⟨expected, _, made⟩ := bind_eq_ok.mp compiled
          cases made
          exact any_equal_reads_texts field expected true
      | notIn =>
          obtain ⟨expected, _, made⟩ := bind_eq_ok.mp compiled
          cases made
          exact any_equal_reads_texts field expected false
      | contains =>
          obtain ⟨needle, _, made⟩ := bind_eq_ok.mp compiled
          cases made
          exact any_contains_reads_texts field needle
      | greaterThan | greaterThanOrEqual | lessThan | lessThanOrEqual =>
          obtain ⟨order, ordered, made⟩ := bind_eq_ok.mp compiled
          cases made
          exact any_ordered_reads_texts field _ ordered

theorem compile_texts_ordering {path : String} {field : RecordField}
    {operator : ComparisonOperator} {value : Literal} {order : String → Option Ordering}
    (isOrdering : operator.isOrdering = true) (supported : field.supports operator = true)
    (ordered : orderAgainst path field value = .ok order) :
    compileTexts path field operator value = .ok (field.anyOrdered operator order) := by
  unfold compileTexts
  rw [supported, Bool.not_true, if_neg Bool.false_ne_true]
  cases operator with
  | greaterThan | greaterThanOrEqual | lessThan | lessThanOrEqual =>
      rw [ordered]
      rfl
  | equal | notEqual | contains | isIn | notIn | «exists» => cases isOrdering

def IgnoresMetadata (test : Predicate) : Prop :=
  ∀ (record : Record) metadata, test (record.relisted metadata) = test record

theorem compile_created_at_ignores {path : String} {operator : ComparisonOperator}
    {value : Literal} {test : Predicate}
    (compiled : compileCreatedAt path operator value = .ok test) : IgnoresMetadata test := by
  intro record metadata
  unfold compileCreatedAt at compiled
  cases operator with
  | contains | «exists» => cases compiled
  | equal | notEqual | isIn | notIn | greaterThan | greaterThanOrEqual | lessThan
  | lessThanOrEqual =>
      obtain ⟨instants, _, made⟩ := bind_eq_ok.mp compiled
      cases made
      rfl

namespace Query

/-- A leaf tests whether a field is there or looks at its texts, or else it does not look at
the metadata. -/
theorem compile_leaf_cases {leaf : Query} {test : Predicate}
    (compiled : leaf.compileLeaf = .ok test) :
    IgnoresMetadata test ∨ ∃ reference field, RecordField.resolve reference = .ok field ∧
      reference.entryKey?.toList ⊆ leaf.lookedUpKeys ∧
      (ReadsTexts field test ∨
        ∃ wanted, test = Predicate.expecting field.isPresent wanted) := by
  have present : ∀ (reference : FieldRef) (value : Literal),
      compileExists reference value = .ok test →
        ∃ field, RecordField.resolve reference = .ok field ∧
          ∃ wanted, test = Predicate.expecting field.isPresent wanted := by
    intro reference value compiled
    obtain ⟨field, resolved, made⟩ := bind_eq_ok.mp compiled
    exact ⟨field, resolved, _, (Except.ok.inj made).symm⟩
  cases leaf with
  | logical operator children => cases compiled
  | field reference =>
      obtain ⟨field, resolved, tests⟩ := present reference .null compiled
      exact .inr ⟨reference, field, resolved, List.Subset.refl _, .inr tests⟩
  | literal value =>
      left
      cases value with
      | bool | text | number =>
          cases compiled
          intro record metadata
          rfl
      | null | instant | list => cases compiled
  | textSearch reference sought =>
      cases reference with
      | none =>
          cases compiled
          left
          intro record metadata
          rfl
      | some reference =>
          obtain ⟨field, resolved, made⟩ := bind_eq_ok.mp compiled
          refine .inr ⟨reference, field, resolved, List.Subset.refl _, .inl ?_⟩
          cases field with
          | createdAt => cases made
          | id | title | description | content | tags | mimeType | metadata =>
              cases made
              exact any_contains_reads_texts _ _
  | comparison reference operator value =>
      rw [compileLeaf, compileComparison] at compiled
      by_cases presence : operator = .exists
      · rw [if_pos presence] at compiled
        obtain ⟨field, resolved, tests⟩ := present reference value compiled
        exact .inr ⟨reference, field, resolved, List.Subset.refl _, .inr tests⟩
      · rw [if_neg presence] at compiled
        obtain ⟨field, resolved, made⟩ := bind_eq_ok.mp compiled
        cases field with
        | createdAt => exact .inl (compile_created_at_ignores made)
        | id | title | description | content | tags | mimeType | metadata =>
            exact .inr ⟨reference, _, resolved, List.Subset.refl _, .inl (compile_texts_reads made)⟩

theorem leaf_relisted {record : Record} {metadata : List (String × String)}
    (distinct : (record.metadata.map (·.1)).Nodup) (same : metadata.Perm record.metadata)
    {leaf : Query} (unambiguous : ∀ key ∈ leaf.lookedUpKeys, record.Unambiguous key) :
    leaf.leafHolds (record.relisted metadata) = leaf.leafHolds record := by
  unfold leafHolds
  cases compiled : leaf.compileLeaf with
  | error error => rfl
  | ok test =>
      rcases compile_leaf_cases compiled with ignores | ⟨reference, field, resolved, below, tests⟩
      · exact ignores record metadata
      · have ofField : ∀ key, field = .metadata (some key) → record.Unambiguous key := by
          intro key isEntry
          apply unambiguous key
          apply below
          rw [FieldRef.entryKey?, resolved, isEntry]
          exact List.mem_singleton_self key
        rcases tests with reads | ⟨wanted, rfl⟩
        · exact reads.relisted distinct same ofField
        · have present := field.present_relisted distinct same ofField
          cases wanted with
          | true => exact present
          | false => exact congrArg (!·) present

theorem truth_relisted {record : Record} {metadata : List (String × String)}
    (distinct : (record.metadata.map (·.1)).Nodup) (same : metadata.Perm record.metadata)
    (relax negated : Bool) {query : Query}
    (unambiguous : ∀ key ∈ query.lookedUpKeys, record.Unambiguous key) :
    query.truth (reading relax negated (record.relisted metadata)) =
      query.truth (reading relax negated record) := by
  induction query using node_induction generalizing negated with
  | leaf node isLeaf =>
      rw [truth_leaf _ node isLeaf, truth_leaf _ node isLeaf, reading, reading,
        leaf_relisted distinct same unambiguous]
  | logical operator children induction =>
      rw [lookedUpKeys, looked_up_keys_of_all_eq] at unambiguous
      rw [reading_logical, reading_logical]
      apply congrArg
      apply List.map_congr_left
      intro child member
      have inTree := mem_of_considered member
      apply induction child inTree
      intro key lookedUp
      exact unambiguous key (List.mem_flatMap.mpr ⟨child, inTree, lookedUp⟩)

theorem ignores_listing {record : Record} (distinct : (record.metadata.map (·.1)).Nodup)
    {query : Query} (unambiguous : ∀ key ∈ query.lookedUpKeys, record.Unambiguous key) :
    query.IgnoresListing record := by
  intro test compiled
  obtain ⟨faultless, rfl⟩ := compile_ok_iff.mp compiled
  obtain ⟨structured, behind, reads⟩ := compile_structured_reads faultless
  refine ⟨structured, behind, ?_⟩
  intro metadata same
  rw [reads, reads]
  exact ⟨truth_relisted distinct same false false unambiguous,
    truth_relisted distinct same true false unambiguous⟩

def entryCompared (key : String) (operator : ComparisonOperator) (value : Literal) : Query :=
  .comparison (.ofMetadataKey key) operator value

theorem entry_compared_compiles {key : String} (named : key ≠ "") (operator : ComparisonOperator)
    (present : operator ≠ .exists) (value : Literal) :
    (entryCompared key operator value).compile =
      compileTexts (FieldRef.ofMetadataKey key).path (.metadata (some key)) operator value := by
  have resolved : RecordField.resolve (.ofMetadataKey key) = .ok (.metadata (some key)) := by
    simp [RecordField.resolve, FieldRef.ofMetadataKey, named]
  rw [compile, compile_leaf false false _ rfl]
  simp only [Bool.false_and, Bool.false_eq_true, if_false, entryCompared, compileLeaf,
    compileComparison, if_neg present, resolved]
  rfl

end Query

/-- The comparisons by order tell all outcomes of a comparison apart. -/
theorem order_of_admitted {first second : Option Ordering}
    (same : ∀ operator : ComparisonOperator, operator.isOrdering = true →
      first.any operator.admits = second.any operator.admits) : first = second := by
  have below := same .lessThan rfl
  have above := same .greaterThan rfl
  have within := same .lessThanOrEqual rfl
  revert below above within
  rcases first with _ | _ | _ | _ <;> rcases second with _ | _ | _ | _ <;> decide

namespace Record

/-- If no entry has the key itself, the one listed first answers for it among those whose keys
are the same up to case. -/
theorem first_entry_answers {record : Record} (distinct : (record.metadata.map (·.1)).Nodup)
    {key : String} (absent : key ∉ record.metadata.map (·.1)) {entry : String × String}
    (member : entry ∈ record.metadata)
    (similar : sameIgnoringAsciiCase entry.1.toList key.toList = true) :
    ∃ metadata, metadata.Perm record.metadata ∧
      (record.relisted metadata).metadataValue key = some entry.2 := by
  have same := (List.perm_cons_erase member).symm
  have own : Document.find? key record.metadata = none := by
    cases found : Document.find? key record.metadata with
    | none => rfl
    | some value =>
        have held := (find_document_iff distinct key value).mp found
        exact absurd (List.mem_map.mpr ⟨(key, value), held, rfl⟩) absent
  refine ⟨entry :: record.metadata.erase entry, same, ?_⟩
  unfold metadataValue relisted
  simp only [find_relisted distinct same, own, List.find?_cons, similar, Option.map_some]

end Record

namespace Query

variable {record : Record} {first second : List (String × String)} {key a b : String}

/-- Two listings for which a key has different values tell these apart by any comparison that
does so. -/
theorem compared_values_alike (ignores : ∀ query : Query, query.IgnoresListing record)
    (named : key ≠ "") (sameFirst : first.Perm record.metadata)
    (sameSecond : second.Perm record.metadata)
    (firstValue : (record.relisted first).metadataValue key = some a)
    (secondValue : (record.relisted second).metadataValue key = some b) :
    ComparesAlike a b := by
  have alike : ∀ (operator : ComparisonOperator) (value : Literal) (test : Predicate),
      operator ≠ .exists → compileTexts (FieldRef.ofMetadataKey key).path (.metadata (some key))
        operator value = .ok test →
      test (record.relisted first) = test (record.relisted second) := by
    intro operator value test present made
    have compiled := (entry_compared_compiles named operator present value).trans made
    obtain ⟨_, _, listed⟩ := ignores _ test compiled
    exact (listed first sameFirst).1.trans (listed second sameSecond).1.symm
  have ordered : ∀ (value : Literal) (order : String → Option Ordering),
      orderAgainst (FieldRef.ofMetadataKey key).path (.metadata (some key)) value = .ok order →
      order a = order b := by
    intro value order orders
    apply order_of_admitted
    intro operator isOrdering
    have present : operator ≠ .exists := by
      rintro rfl
      cases isOrdering
    have tests := alike operator value _ present (compile_texts_ordering isOrdering rfl orders)
    simpa [RecordField.anyOrdered, RecordField.texts, firstValue, secondValue] using tests
  constructor
  · have tests := alike .equal (.text a) _ (by decide) rfl
    have same : lowered b = lowered a := by
      simpa [RecordField.anyEqual, RecordField.texts, firstValue, secondValue] using tests
    exact same.symm
  · intro bound
    have orders : orderAgainst (FieldRef.ofMetadataKey key).path (.metadata (some key))
        (.number bound) = .ok fun actual =>
          (Decimal.readNumber? (trim actual.toList)).bind (compareFloats? · bound) := by
      rw [orderAgainst]
    have same := ordered _ _ orders
    exact same
  · intro bound
    have orders : orderAgainst (FieldRef.ofMetadataKey key).path (.metadata (some key))
        (.instant bound) = .ok fun actual =>
          (instantOfText? actual).map fun t => t.compare bound := by
      rw [orderAgainst]
    have same := ordered _ _ orders
    exact same

theorem same_as_empty {name : String}
    (similar : sameIgnoringAsciiCase name.toList "".toList = true) : name = "" := by
  have none : name.toList.map Char.toLower = [] := beq_iff_eq.mp similar
  apply String.toList_eq_nil_iff.mp
  exact List.map_eq_nil_iff.mp none

/-- How a record lists its metadata makes no difference to a tree whose keys are unambiguous in
the record, and to all trees it makes none exactly if all keys are. -/
theorem listing_ignored_iff (record : Record) (distinct : (record.metadata.map (·.1)).Nodup) :
    (∀ query : Query, (∀ key ∈ query.lookedUpKeys, record.Unambiguous key) →
      query.IgnoresListing record) ∧
    ((∀ query : Query, query.IgnoresListing record) ↔ ∀ key, record.Unambiguous key) := by
  refine ⟨fun query => ignores_listing distinct, ?_, ?_⟩
  · intro ignores key
    by_cases among : key ∈ record.metadata.map (·.1)
    · exact .inl among
    · right
      intro first memberFirst second memberSecond similarFirst similarSecond
      obtain ⟨listing, same, value⟩ :=
        Record.first_entry_answers distinct among memberFirst similarFirst
      obtain ⟨other, sameOther, otherValue⟩ :=
        Record.first_entry_answers distinct among memberSecond similarSecond
      have named : key ≠ "" := by
        intro empty
        rw [empty] at similarFirst among
        apply among
        exact List.mem_map.mpr ⟨first, memberFirst, same_as_empty similarFirst⟩
      exact compared_values_alike ignores named same sameOther value otherValue
  · intro unambiguous query
    exact ignores_listing distinct fun key _ => unambiguous key

def ownedByAna : Query := .compare "metadata.owner" .equal (.text "ana")

def ownedTwice : Record :=
  { Record.plain "note" "milk" ⟨0, 0⟩ with metadata := [("Owner", "Ana"), ("OWNER", "ana")] }

theorem owners_compare_alike : ComparesAlike "Ana" "ana" where
  text := by decide
  number := by
    intro bound
    have first : Decimal.readNumber? (trim "Ana".toList) = none := rfl
    have second : Decimal.readNumber? (trim "ana".toList) = none := rfl
    rw [first, second]
  instant := by
    intro bound
    have first : instantOfText? "Ana" = none := by decide
    have second : instantOfText? "ana" = none := by decide
    rw [first, second]

theorem owned_twice_unambiguous : ownedTwice.Unambiguous "owner" := by
  right
  intro first memberFirst second memberSecond _ _
  simp only [ownedTwice, List.mem_cons, List.not_mem_nil, or_false] at memberFirst memberSecond
  rcases memberFirst with rfl | rfl <;> rcases memberSecond with rfl | rfl
  · exact .refl _
  · exact owners_compare_alike
  · exact owners_compare_alike.symm
  · exact .refl _

theorem owned_twice_ignores_listing :
    (ownedTwice.metadata.map (·.1)).Nodup ∧ ownedByAna.lookedUpKeys = ["owner"] ∧
      ownedTwice.Unambiguous "owner" ∧ ownedByAna.IgnoresListing ownedTwice := by
  have distinct : (ownedTwice.metadata.map (·.1)).Nodup := by decide
  have keys : ownedByAna.lookedUpKeys = ["owner"] := by decide
  refine ⟨distinct, keys, owned_twice_unambiguous,
    (listing_ignored_iff ownedTwice distinct).1 ownedByAna ?_⟩
  intro key lookedUp
  rw [keys, List.mem_singleton] at lookedUp
  rw [lookedUp]
  exact owned_twice_unambiguous

def disputed : Record :=
  { Record.plain "note" "milk" ⟨0, 0⟩ with metadata := [("Owner", "ana"), ("OWNER", "bob")] }

theorem listing_decides_owner :
    (disputed.metadata.map (·.1)).Nodup ∧
      ∃ metadata test, metadata.Perm disputed.metadata ∧ ownedByAna.compile = .ok test ∧
        test disputed = true ∧ test (disputed.relisted metadata) = false := by
  refine ⟨by decide, disputed.metadata.reverse, _, List.reverse_perm _, rfl, ?_, ?_⟩
  · decide
  · decide

end Query

end FederatedSearch
