import FederatedSearch.Query.Codec
import FederatedSearch.Query.Compilation

/-!
Query trees that are written as documents and read again. All of a tree comes back but for
some of its literals, since the document of a literal does not say of which kind it is. A text
comes back as an instant if it reads as a timestamp, however loosely it is written, and
then the tree that was read may keep other records than the tree that was written.
-/

namespace FederatedSearch

open FederatedSearch.Time

namespace Literal

/-- What a text stands for in a document. -/
def ofText (text : String) : Literal :=
  match lenient? text with
  | some t => .instant t
  | none => .text text

mutual

/-- The literal that is read where the literal was written. -/
def reread : Literal → Literal
  | .null => .null
  | .bool value => .bool value
  | .number value => if value.isFinite then .number value else .null
  | .instant value => ofText value.zulu
  | .text value => ofText value
  | .list items => .list (rereadAll items)

def rereadAll : List Literal → List Literal
  | [] => []
  | item :: rest => reread item :: rereadAll rest

end

mutual

/-- The literals that are no lists, in a list at any depth. -/
def scalars : Literal → List Literal
  | .list items => scalarsOfAll items
  | value => [value]

def scalarsOfAll : List Literal → List Literal
  | [] => []
  | item :: rest => scalars item ++ scalarsOfAll rest

end

theorem decode_text (text : String) : decode? (.text text) = some (ofText text) := by
  cases read : lenient? text with
  | none => simp only [decode?, ofText, read]
  | some t => simp only [decode?, ofText, read]

mutual

theorem decode_encode : ∀ value : Literal, decode? value.encode = some value.reread
  | .null => rfl
  | .bool _ => rfl
  | .number value => by
      rw [encode, Document.ofFloat, reread]
      split <;> rfl
  | .instant value => by rw [encode, decode_text, reread]
  | .text value => by rw [encode, decode_text, reread]
  | .list items => by
      rw [encode, decode?, decode_all_encode_all items, reread]
      rfl

theorem decode_all_encode_all :
    ∀ items : List Literal, decodeAll? (encodeAll items) = some (rereadAll items)
  | [] => rfl
  | item :: rest => by
      rw [encodeAll, decodeAll?, decode_encode item, decode_all_encode_all rest]
      rfl

end

mutual

theorem no_list_among_scalars : ∀ {items : List Literal} (value : Literal),
    Literal.list items ∉ value.scalars
  | _, .null | _, .bool _ | _, .number _ | _, .instant _ | _, .text _ => by simp [scalars]
  | _, .list others => no_list_among_scalars_of_all others

theorem no_list_among_scalars_of_all : ∀ {items : List Literal} (values : List Literal),
    Literal.list items ∉ scalarsOfAll values
  | _, [] => by simp [scalarsOfAll]
  | _, value :: rest => by
      rw [scalarsOfAll, List.mem_append, not_or]
      exact ⟨no_list_among_scalars value, no_list_among_scalars_of_all rest⟩

end

mutual

/-- A literal comes back if and only if all scalars in it do. -/
theorem reread_eq_iff :
    ∀ value : Literal, value.reread = value ↔ ∀ scalar ∈ value.scalars, scalar.reread = scalar
  | .null | .bool _ | .number _ | .instant _ | .text _ => by simp [scalars]
  | .list items => by
      rw [reread, Literal.list.injEq, scalars]
      exact reread_all_eq_iff items

theorem reread_all_eq_iff : ∀ items : List Literal,
    rereadAll items = items ↔ ∀ scalar ∈ scalarsOfAll items, scalar.reread = scalar
  | [] => by simp [rereadAll, scalarsOfAll]
  | item :: rest => by
      rw [rereadAll, List.cons.injEq, reread_eq_iff item, reread_all_eq_iff rest, scalarsOfAll,
        List.forall_mem_append]

end

theorem of_text_eq_text_iff {text : String} : ofText text = .text text ↔ lenient? text = none := by
  rw [ofText]
  cases lenient? text <;> simp

end Literal

namespace FieldRef

theorem decode_encode (field : FieldRef) : decode? field.encode = some field := by
  obtain ⟨path, isMetadata, metadataKey⟩ := field
  cases metadataKey <;> rfl

end FieldRef

namespace Query

mutual

/-- The tree that is read where the tree was written. -/
def reread : Query → Query
  | .logical operator children => .logical operator (rereadAll children)
  | .comparison reference operator value => .comparison reference operator value.reread
  | .literal value => .literal value.reread
  | query => query

def rereadAll : List Query → List Query
  | [] => []
  | child :: rest => reread child :: rereadAll rest

end

mutual

/-- The scalars of all literals in the tree. -/
def scalars : Query → List Literal
  | .logical _ children => scalarsOfAll children
  | .comparison _ _ value => value.scalars
  | .literal value => value.scalars
  | _ => []

def scalarsOfAll : List Query → List Literal
  | [] => []
  | child :: rest => scalars child ++ scalarsOfAll rest

end

theorem boxed_literal_encode (value : Literal) :
    boxedLiteral? (.table [("value", value.encode)]) = some value.reread :=
  value.decode_encode

theorem optional_field_encode (reference : Option FieldRef) :
    Decoder.optional FieldRef.decode? (.ofOption FieldRef.encode reference) = some reference := by
  cases reference with
  | none => rfl
  | some field => exact congrArg (Option.map some) field.decode_encode

theorem decode_comparison (reference : FieldRef) (operator : ComparisonOperator)
    (value : Literal) : decode? (encode (.comparison reference operator value)) =
      some (.comparison reference operator value.reread) := by
  have field := reference.decode_encode
  have named := operator.named_of_name
  have boxed := boxed_literal_encode value
  simp [encode, decode?, ofEntries?, Fields.required, Document.find?, Decoder.text,
    Decoder.variant, field, named, boxed]

theorem decode_text_search (reference : Option FieldRef) (sought : String) :
    decode? (encode (.textSearch reference sought)) = some (.textSearch reference sought) := by
  have field := optional_field_encode reference
  simp [encode, decode?, ofEntries?, Fields.required, Fields.optional, Fields.withDefault,
    Document.find?, Decoder.text, field]

theorem decode_field (reference : FieldRef) :
    decode? (encode (.field reference)) = some (.field reference) := by
  obtain ⟨path, isMetadata, metadataKey⟩ := reference
  cases metadataKey <;> rfl

theorem decode_literal (value : Literal) :
    decode? (encode (.literal value)) = some (.literal value.reread) := by
  have read := value.decode_encode
  simp [encode, decode?, ofEntries?, Fields.required, Document.find?, Decoder.text, read]

theorem decode_logical (operator : LogicalOperator) {children others : List Query}
    (read : decodeAll? (encodeAll children) = some others) :
    decode? (encode (.logical operator children)) = some (.logical operator others) := by
  have named := operator.named_of_name
  simp [encode, decode?, childrenOf?, listed?, ofEntries?, Fields.required, Document.find?,
    Decoder.text, Decoder.variant, named, read]

mutual

theorem decode_encode : ∀ query : Query, decode? query.encode = some query.reread
  | .logical operator children => decode_logical operator (decode_all_encode_all children)
  | .comparison reference operator value => decode_comparison reference operator value
  | .textSearch reference sought => decode_text_search reference sought
  | .field reference => decode_field reference
  | .literal value => decode_literal value

theorem decode_all_encode_all :
    ∀ children : List Query, decodeAll? (encodeAll children) = some (rereadAll children)
  | [] => rfl
  | child :: rest => by
      rw [encodeAll, decodeAll?, decode_encode child, decode_all_encode_all rest]
      rfl

end

mutual

/-- A tree comes back if and only if all its scalars do. -/
theorem reread_eq_iff :
    ∀ query : Query, query.reread = query ↔ ∀ scalar ∈ query.scalars, scalar.reread = scalar
  | .textSearch _ _ | .field _ => by simp [reread, scalars]
  | .comparison _ _ value => by
      rw [reread, Query.comparison.injEq, scalars, ← value.reread_eq_iff]
      simp
  | .literal value => by
      rw [reread, Query.literal.injEq, scalars, value.reread_eq_iff]
  | .logical _ children => by
      rw [reread, Query.logical.injEq, scalars, ← reread_all_eq_iff children]
      simp

theorem reread_all_eq_iff : ∀ children : List Query,
    rereadAll children = children ↔ ∀ scalar ∈ scalarsOfAll children, scalar.reread = scalar
  | [] => by simp [rereadAll, scalarsOfAll]
  | child :: rest => by
      rw [rereadAll, List.cons.injEq, reread_eq_iff child, reread_all_eq_iff rest, scalarsOfAll,
        List.forall_mem_append]

end

mutual

theorem no_list_among_scalars : ∀ {items : List Literal} (query : Query),
    Literal.list items ∉ query.scalars
  | _, .textSearch _ _ | _, .field _ => by simp [scalars]
  | _, .comparison _ _ value | _, .literal value => value.no_list_among_scalars
  | _, .logical _ children => no_list_among_scalars_of_all children

theorem no_list_among_scalars_of_all : ∀ {items : List Literal} (children : List Query),
    Literal.list items ∉ scalarsOfAll children
  | _, [] => by simp [scalarsOfAll]
  | _, child :: rest => by
      rw [scalarsOfAll, List.mem_append, not_or]
      exact ⟨no_list_among_scalars child, no_list_among_scalars_of_all rest⟩

end

/-- Of finite numbers and instants that are read as they are written, none is lost. -/
theorem scalars_come_back_iff {query : Query}
    (finite : ∀ x, .number x ∈ query.scalars → x.isFinite = true)
    (readable : ∀ t, .instant t ∈ query.scalars → lenient? t.zulu = some t) :
    (∀ scalar ∈ query.scalars, scalar.reread = scalar) ↔
      ∀ text, .text text ∈ query.scalars → lenient? text = none := by
  constructor
  · intro same text member
    exact Literal.of_text_eq_text_iff.mp (same _ member)
  · intro plain scalar member
    -- Only a text can come back as something else here; the other cases are the assumptions.
    cases scalar with
    | null | bool value => rfl
    | number x => rw [Literal.reread, if_pos (finite x member)]
    | instant t => rw [Literal.reread, Literal.ofText, readable t member]
    | text text => exact Literal.of_text_eq_text_iff.mpr (plain text member)
    | list items => exact absurd member (no_list_among_scalars query)

/-- A tree with finite numbers, and with instants that are read as they are written, can always
be read back from its document. What is read is the same tree if and only if none of the texts
that it compares with or consists of reads as a timestamp. -/
theorem query_comes_back_iff (query : Query)
    (finite : ∀ x, .number x ∈ query.scalars → x.isFinite = true)
    (readable : ∀ t, .instant t ∈ query.scalars → lenient? t.zulu = some t) :
    decode? query.encode = some query.reread ∧
    (decode? query.encode = some query ↔
      ∀ text, .text text ∈ query.scalars → lenient? text = none) := by
  refine ⟨decode_encode query, ?_⟩
  rw [decode_encode query, Option.some.injEq, reread_eq_iff query]
  exact scalars_come_back_iff finite readable

def lateNotes : Query :=
  .and [.compare "createdAt" .greaterThan (.instant ⟨1704067200, 0⟩),
    .not (.compare "metadata.rank" .lessThan (.number 1.5)),
    .compare "tags" .isIn (.list [.text "work", .null, .list [.bool true, .text "2024"]])]

theorem late_notes_come_back :
    (∀ x, .number x ∈ lateNotes.scalars → x.isFinite = true) ∧
    (∀ t, .instant t ∈ lateNotes.scalars → lenient? t.zulu = some t) ∧
    decode? lateNotes.encode = some lateNotes := by
  have scalars : lateNotes.scalars = [.instant ⟨1704067200, 0⟩, .number 1.5, .text "work", .null,
      .bool true, .text "2024"] := rfl
  have finite : ∀ x, .number x ∈ lateNotes.scalars → x.isFinite = true := by
    have rank : (1.5 : Float).isFinite = true := by decide
    simpa [scalars] using rank
  have readable : ∀ t, .instant t ∈ lateNotes.scalars → lenient? t.zulu = some t := by
    have newYear : lenient? (Instant.zulu ⟨1704067200, 0⟩) = some ⟨1704067200, 0⟩ := by
      decide +kernel
    simpa [scalars] using newYear
  have plain : ∀ text, .text text ∈ lateNotes.scalars → lenient? text = none := by
    have work : lenient? "work" = none := by decide
    have year : lenient? "2024" = none := by decide
    simpa [scalars] using And.intro work year
  exact ⟨finite, readable, (query_comes_back_iff lateNotes finite readable).2.mpr plain⟩

def spelledDay : Query := .compare "tags" .equal (.text "2024-1-1 0:0:0 utc")

def dayNote : Record := (Record.plain "note" "milk" ⟨0, 0⟩).withTags ["2024-1-1 0:0:0 utc"]

/-- The text of a tag comes back as an instant, for which the tree looks in another spelling. -/
theorem spelled_day_comes_back_as_instant :
    decode? spelledDay.encode = some (.compare "tags" .equal (.instant ⟨1704067200, 0⟩)) ∧
    decode? spelledDay.encode ≠ some spelledDay ∧
    spelledDay.compile.map (· dayNote) = .ok true ∧
    (compile (.compare "tags" .equal (.instant ⟨1704067200, 0⟩))).map (· dayNote) = .ok false := by
  have read : decode? spelledDay.encode =
      some (.compare "tags" .equal (.instant ⟨1704067200, 0⟩)) := rfl
  refine ⟨read, ?_, rfl, rfl⟩
  rw [read, spelledDay]
  simp [compare]

end Query

end FederatedSearch
