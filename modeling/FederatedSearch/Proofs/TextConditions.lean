import FederatedSearch.Proofs.Replacement

/-!
Two ways to ask for a text. A search for a text in a field says the same as the comparison that
the field contains it, and a text that stands alone says the same as a search in all columns.
The two forms are classified for the index and compiled by rules of their own, so that each kind
of field is a case, also those in which no text can be sought: there both forms have one fault.
-/

namespace FederatedSearch

theorem RecordField.supports_contains (field : RecordField) : field.supports .contains = true := by
  cases field with
  | metadata key => cases key <;> rfl
  | id | title | description | content | tags | mimeType | createdAt => rfl

theorem compile_texts_contains (path : String) (field : RecordField) (sought : String) :
    compileTexts path field .contains (.text sought) =
      .ok (field.anyContains (Text.lowered sought)) := by
  have supported : ¬(!field.supports .contains) = true := by
    rw [field.supports_contains]
    exact Bool.false_ne_true
  rw [compileTexts, if_neg supported]
  rfl

theorem compile_text_search_eq (reference : FieldRef) (sought : String) :
    compileTextSearch (some reference) sought =
      compileComparison reference .contains (.text sought) := by
  have compared : ComparisonOperator.contains ≠ .exists := by decide
  rw [compileTextSearch, compileComparison, if_neg compared]
  cases RecordField.resolve reference with
  | error fault => rfl
  | ok field =>
      cases field with
      | createdAt => rfl
      | id | title | description | content | tags | mimeType | metadata =>
          exact (compile_texts_contains reference.path _ sought).symm

namespace Query

/-- All that a tree reads of a leaf is the text that an index seeks for it, and its test. -/
theorem leaves_interchangeable {first second : Query} (firstLeaf : first.isLeaf = true)
    (secondLeaf : second.isLeaf = true) (sameText : first.fullTextLeaf? = second.fullTextLeaf?)
    (sameTest : first.compileLeaf = second.compileLeaf) : Interchangeable first second := by
  have sameTerm : first.askedTerm? = second.askedTerm? := by rw [askedTerm?, askedTerm?, sameText]
  constructor
  case expression =>
    rw [expression_leaf first firstLeaf, expression_leaf second secondLeaf, sameTerm]
  case leafTerms =>
    rw [leaf_terms_of_leaf first firstLeaf, leaf_terms_of_leaf second secondLeaf, sameTerm]
  case negatedTerms =>
    rw [negated_terms_of_leaf first firstLeaf, negated_terms_of_leaf second secondLeaf]
  case fault =>
    rw [fault_leaf first firstLeaf, fault_leaf second secondLeaf, sameTest]
  case structured =>
    rw [structured_leaf_of_leaf first firstLeaf, structured_leaf_of_leaf second secondLeaf,
      isFullTextLeaf, isFullTextLeaf, sameText]
  case truth =>
    intro relax negated record
    rw [truth_leaf _ first firstLeaf, truth_leaf _ second secondLeaf, reading, reading,
      isFullTextLeaf, isFullTextLeaf, leafHolds, leafHolds, sameText, sameTest]

theorem search_in_field_interchangeable (reference : FieldRef) (sought : String) :
    Interchangeable (.textSearch (some reference) sought)
      (.comparison reference .contains (.text sought)) := by
  have sameText : (textSearch (some reference) sought).fullTextLeaf? =
      (comparison reference .contains (.text sought)).fullTextLeaf? := by
    rw [fullTextLeaf?, fullTextLeaf?, FullTextLeaf.ofComparison?]
    cases reference.column? <;> rfl
  exact leaves_interchangeable rfl rfl sameText (compile_text_search_eq reference sought)

theorem text_alone_interchangeable (sought : String) :
    Interchangeable (.literal (.text sought)) (.textSearch none sought) :=
  leaves_interchangeable rfl rfl rfl rfl

/-- At any place of a tree a search for a text in a field can be replaced by the comparison that
the field contains it, and a text that stands alone by the search for it in all columns. -/
theorem text_spellings_keep_query (context : TreeContext) (reference : FieldRef)
    (sought : String) :
    TreatedAlike (context.fill (.textSearch (some reference) sought))
      (context.fill (.comparison reference .contains (.text sought))) ∧
    TreatedAlike (context.fill (.literal (.text sought)))
      (context.fill (.textSearch none sought)) := by
  constructor
  · exact context.fill_treated_alike (search_in_field_interchangeable reference sought)
  · exact context.fill_treated_alike (text_alone_interchangeable sought)

end Query

end FederatedSearch
