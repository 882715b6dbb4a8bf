import FederatedSearch.Proofs.EngineAnswers

/-!
Exclusion of records against the negations of a tree. If nothing but searches is negated, a
term rules out a record exactly if its negation is false of it. The terms are applied to
records wherever their negations stand, so that a record may be dropped by a negation that is
only one of several alternatives.
-/

namespace FederatedSearch

open FederatedSearch.Text FederatedSearch.Index FederatedSearch.ExclusionFilter

namespace Text

theorem drop_while_all_blank (text : List Char)
    (blank : (text.dropWhile isBlank).all isBlank = true) : text.dropWhile isBlank = [] := by
  have head := List.head?_dropWhile_not isBlank text
  cases remaining : text.dropWhile isBlank with
  | nil => rfl
  | cons letter rest =>
      rw [remaining] at head blank
      have filled : isBlank letter = false := head
      rw [List.all_cons, filled] at blank
      cases blank

theorem trim_all_blank (text : List Char) (blank : (trim text).all isBlank = true) :
    trim text = [] := by
  unfold trim trimEnd trimStart at blank ⊢
  rw [List.all_reverse] at blank
  rw [drop_while_all_blank _ blank, List.reverse_nil]

theorem trimmed_not_blank (text : String) (filled : trimmed text ≠ "") :
    isBlankText (trimmed text) = false := by
  apply Bool.eq_false_iff.mpr
  intro blank
  unfold isBlankText at blank
  rw [trimmed_to_list] at blank
  apply filled
  rw [trimmed, trim_all_blank _ blank]

end Text

namespace Query

theorem asked_term_not_blank {leaf : Query} {term : Term} (asked : term ∈ leaf.askedTerm?) :
    isBlankText term.text = false := by
  obtain ⟨found, _, made⟩ := Option.bind_eq_some_iff.mp asked
  unfold FullTextLeaf.term? at made
  by_cases empty : trimmed found.text = ""
  · simp [empty] at made
  · simp only [empty, if_false, Option.some.injEq] at made
    rw [← made]
    exact trimmed_not_blank found.text empty

theorem leaf_terms_not_blank {query : Query} {term : Term} (sought : term ∈ query.leafTerms) :
    isBlankText term.text = false := by
  induction query using node_induction with
  | leaf node isLeaf =>
      rw [leaf_terms_of_leaf node isLeaf, Option.mem_toList] at sought
      exact asked_term_not_blank sought
  | logical operator children induction =>
      rw [leaf_terms_logical] at sought
      obtain ⟨child, member, soughtBelow⟩ := List.mem_flatMap.mp sought
      exact induction child member soughtBelow

mutual

/-- The outermost negations of a tree. -/
def negations : Query → List Query
  | .logical operator children =>
      if operator.isNegation then [.logical operator children] else negationsOfAll children
  | _ => []

def negationsOfAll : List Query → List Query
  | [] => []
  | child :: rest => negations child ++ negationsOfAll rest

end

mutual

def negationsBelowOr : Query → List Query
  | .logical .or children => negationsOfAll children
  | .logical .and children => negationsBelowOrOfAll children
  | _ => []

def negationsBelowOrOfAll : List Query → List Query
  | [] => []
  | child :: rest => negationsBelowOr child ++ negationsBelowOrOfAll rest

end

theorem negations_of_all_eq (children : List Query) :
    negationsOfAll children = children.flatMap negations := by
  induction children with
  | nil => rfl
  | cons child rest induction => rw [negationsOfAll, induction, List.flatMap_cons]

theorem negations_below_or_of_all_eq (children : List Query) :
    negationsBelowOrOfAll children = children.flatMap negationsBelowOr := by
  induction children with
  | nil => rfl
  | cons child rest induction => rw [negationsBelowOrOfAll, induction, List.flatMap_cons]

theorem negated_terms_of_all_eq (children : List Query) :
    negatedTermsOfAll children = children.flatMap negatedTerms := by
  induction children with
  | nil => rfl
  | cons child rest induction => rw [negatedTermsOfAll, induction, List.flatMap_cons]

theorem negations_logical {operator : LogicalOperator} (positive : operator.isNegation = false)
    (children : List Query) :
    (logical operator children).negations = children.flatMap negations := by
  rw [negations, positive, if_neg Bool.false_ne_true, negations_of_all_eq]

theorem negations_negation {operator : LogicalOperator} (negative : operator.isNegation = true)
    (children : List Query) :
    (logical operator children).negations = [logical operator children] := by
  rw [negations, negative, if_pos rfl]

theorem negations_leaf (leaf : Query) (isLeaf : leaf.isLeaf = true) : leaf.negations = [] := by
  cases leaf with
  | logical operator children => cases isLeaf
  | comparison | textSearch | field | literal => rfl

theorem negated_terms_eq (query : Query) :
    query.negatedTerms = query.negations.flatMap leafTerms := by
  induction query using Query.induction with
  | logical operator children induction =>
      cases negative : operator.isNegation with
      | true =>
          rw [negations_negation negative, negatedTerms, if_pos negative, List.flatMap_singleton,
            leafTerms]
      | false =>
          rw [negations_logical negative, negatedTerms, negative, if_neg Bool.false_ne_true,
            negated_terms_of_all_eq, List.flatMap_assoc, List.flatMap_def, List.flatMap_def,
            List.map_congr_left induction]
  | comparison | textSearch | field | literal => rfl

/-- The excluded terms of a tree rule out the records that one of the terms below a negation
rules out. -/
theorem excludes_iff (query : Query) (record : Record) :
    (ExclusionFilter.ofTerms query.fullTextPart.excludedTerms).excludes record = true ↔
      ∃ negation ∈ query.negations, ∃ term ∈ negation.leafTerms,
        termExcludes record (.ofTerm term) = true := by
  rw [excludes, List.any_eq_true]
  constructor
  · rintro ⟨excluded, listed, applies⟩
    have sought := List.mem_eraseDups.mp (List.mem_filter.mp listed).1
    obtain ⟨term, negated, rfl⟩ := List.mem_map.mp sought
    rw [negated_terms_eq] at negated
    obtain ⟨negation, member, below⟩ := List.mem_flatMap.mp negated
    exact ⟨negation, member, term, below, applies⟩
  · rintro ⟨negation, member, term, below, applies⟩
    have negated : term ∈ query.negatedTerms := by
      rw [negated_terms_eq]
      exact List.mem_flatMap.mpr ⟨negation, member, below⟩
    have filled : (!isBlankText (ExcludedTerm.ofTerm term).term) = true := by
      rw [Bool.not_eq_true']
      exact leaf_terms_not_blank below
    have sought : ExcludedTerm.ofTerm term ∈ query.fullTextPart.excludedTerms :=
      List.mem_eraseDups.mpr (List.mem_map.mpr ⟨term, negated, rfl⟩)
    exact ⟨.ofTerm term, List.mem_filter.mpr ⟨sought, filled⟩, applies⟩

def isSearch : Query → Bool
  | .textSearch _ _ => true
  | .comparison _ .contains _ => true
  | _ => false

/-- A search that an index decides, for a text without blanks at its ends. -/
def isExcludable (leaf : Query) : Bool :=
  leaf.isSearch && leaf.fullTextLeaf?.any fun found =>
    trimmed found.text == found.text && found.text != ""

mutual

/-- A negation in the tree stands above searches only. -/
def negatesOnlySearches : Query → Bool
  | .logical .not children => children.length == 1 && children.all isExcludable
  | .logical .nor children => children.all isExcludable
  | .logical .and children | .logical .or children => allNegateOnlySearches children
  | _ => true

def allNegateOnlySearches : List Query → Bool
  | [] => true
  | child :: rest => negatesOnlySearches child && allNegateOnlySearches rest

end

theorem all_negate_only_searches_eq (children : List Query) :
    allNegateOnlySearches children = children.all negatesOnlySearches := by
  induction children with
  | nil => rfl
  | cons child rest induction => rw [allNegateOnlySearches, induction, List.all_cons]

theorem any_contains_column {field : RecordField} {column : Column}
    (isColumn : field.column? = some column) (sought : String) (record : Record) :
    field.anyContains (lowered sought) record =
      termExcludes record (.ofTerm ⟨some column, sought⟩) := by
  have texts : field.texts record = (record.column column).toList := by
    rcases column_field isColumn with rfl | rfl | rfl <;> cases isColumn <;> rfl
  unfold RecordField.anyContains termExcludes ExcludedTerm.ofTerm searchedTexts
  simp only [Option.map_some, Record.columnNamed, Column.named_of_name, Option.bind_some,
    lowered_to_list, texts]

/-- A search accepts the records that its term rules out. -/
theorem search_compiles {leaf : Query} {found : FullTextLeaf} (search : leaf.isSearch = true)
    (same : leaf.fullTextLeaf? = some found) :
    ∃ predicate, leaf.compileLeaf = .ok predicate ∧ ∀ record,
      predicate record = termExcludes record (.ofTerm ⟨found.column, found.text⟩) := by
  cases leaf with
  | logical operator children => cases search
  | field reference => cases search
  | literal value => cases search
  | textSearch reference sought =>
      cases reference with
      | none =>
          cases same
          exact ⟨_, rfl, fun record => rfl⟩
      | some reference =>
          obtain ⟨column, named, rfl⟩ := Option.map_eq_some_iff.mp same
          obtain ⟨field, resolved, isColumn⟩ := resolve_of_column named
          have compiled : (textSearch (some reference) sought).compileLeaf =
              .ok (field.anyContains (lowered sought)) := by
            simp only [compileLeaf, compileTextSearch, resolved]
            rcases column_field isColumn with rfl | rfl | rfl <;> rfl
          exact ⟨_, compiled, any_contains_column isColumn sought⟩
  | comparison reference operator value =>
      cases operator with
      | contains =>
          obtain ⟨_, spelled, column, named, inColumn⟩ := comparison_full_text same
          obtain ⟨field, resolved, isColumn⟩ := resolve_of_column named
          have lowers : value.lowerText reference.path = .ok (lowered found.text) := by
            rw [Literal.lowerText, spelled]
          have compiled : (comparison reference .contains value).compileLeaf =
              .ok (field.anyContains (lowered found.text)) := by
            rcases column_field isColumn with rfl | rfl | rfl <;>
              simp [compileLeaf, compileComparison, resolved, compileTexts, RecordField.supports,
                lowers, bind, Except.bind, pure, Except.pure]
          rw [inColumn]
          exact ⟨_, compiled, any_contains_column isColumn found.text⟩
      | _ => cases search

theorem excludable_leaf {leaf : Query} (excludable : leaf.isExcludable = true) :
    leaf.isLeaf = true ∧ ∃ term, leaf.leafTerms = [term] ∧ ∀ record,
      leaf.leafHolds record = termExcludes record (.ofTerm term) := by
  obtain ⟨search, filled⟩ := Bool.and_eq_true_iff.mp excludable
  have isLeaf : leaf.isLeaf = true := by
    cases leaf <;> first | rfl | cases search
  obtain ⟨found, same, filled⟩ := (Option.any_eq_true _ _).mp filled
  obtain ⟨predicate, compiled, applies⟩ := search_compiles search same
  rw [Bool.and_eq_true, beq_iff_eq, bne_iff_ne] at filled
  have terms : leaf.leafTerms = [⟨found.column, found.text⟩] := by
    rw [leaf_terms_of_leaf leaf isLeaf, askedTerm?, same, Option.bind_some, FullTextLeaf.term?,
      filled.1]
    simp only [filled.2, if_false, Option.toList_some]
  refine ⟨isLeaf, _, terms, ?_⟩
  intro record
  rw [leafHolds, compiled]
  exact applies record

/-- A negation is false of the records that one of its terms rules out. -/
theorem negation_false_iff {operator : LogicalOperator} {children : List Query}
    (negative : operator.isNegation = true)
    (searches : (logical operator children).negatesOnlySearches = true) (record : Record) :
    (logical operator children).holdsBy (leafHolds record) = false ↔
      ∃ term ∈ (logical operator children).leafTerms,
        termExcludes record (.ofTerm term) = true := by
  have shape : considered operator children = children ∧
      ∀ child ∈ children, child.isExcludable = true := by
    cases operator with
    | and => cases negative
    | or => cases negative
    | nor => exact ⟨rfl, List.all_eq_true.mp searches⟩
    | not =>
        obtain ⟨single, excludable⟩ := Bool.and_eq_true_iff.mp searches
        have whole : considered .not children = children :=
          List.take_of_length_le (Nat.le_of_eq (beq_iff_eq.mp single))
        exact ⟨whole, List.all_eq_true.mp excludable⟩
  have negates : ∀ values : List Bool, combined operator values = !values.any id := by
    cases operator with
    | and => cases negative
    | or => cases negative
    | not => exact fun values => rfl
    | nor => exact fun values => rfl
  rw [holds_by_logical, shape.1, negates, Bool.not_eq_false', List.any_map, List.any_eq_true,
    leaf_terms_logical]
  constructor
  · rintro ⟨child, member, holds⟩
    obtain ⟨isLeaf, term, terms, applies⟩ := excludable_leaf (shape.2 child member)
    have sought : term ∈ child.leafTerms := by simp [terms]
    have rulesOut : termExcludes record (.ofTerm term) = true := by
      rw [← applies, ← holds_by_leaf (leafHolds record) child isLeaf]
      exact holds
    exact ⟨term, List.mem_flatMap.mpr ⟨child, member, sought⟩, rulesOut⟩
  · rintro ⟨term, sought, rulesOut⟩
    obtain ⟨child, member, ofChild⟩ := List.mem_flatMap.mp sought
    obtain ⟨isLeaf, own, terms, applies⟩ := excludable_leaf (shape.2 child member)
    rw [terms, List.mem_singleton] at ofChild
    refine ⟨child, member, ?_⟩
    rw [Function.comp_apply, id, holds_by_leaf (leafHolds record) child isLeaf, applies, ← ofChild]
    exact rulesOut

theorem mem_negations {query negation : Query} (member : negation ∈ query.negations) :
    ∃ operator children, operator.isNegation = true ∧ negation = logical operator children := by
  induction query using Query.induction with
  | logical operator children induction =>
      cases negative : operator.isNegation with
      | true =>
          rw [negations_negation negative, List.mem_singleton] at member
          exact ⟨operator, children, negative, member⟩
      | false =>
          rw [negations_logical negative] at member
          obtain ⟨child, inTree, below⟩ := List.mem_flatMap.mp member
          exact induction child inTree below
  | comparison | textSearch | field | literal => cases member

theorem negations_negate_only_searches {query negation : Query}
    (searches : query.negatesOnlySearches = true) (member : negation ∈ query.negations) :
    negation.negatesOnlySearches = true := by
  induction query using operator_induction with
  | leaf node isLeaf =>
      rw [negations_leaf node isLeaf] at member
      cases member
  | not children | nor children =>
      rw [negations_negation rfl, List.mem_singleton] at member
      rw [member, searches]
  | and children induction | or children induction =>
      rw [negations_logical rfl] at member
      rw [negatesOnlySearches, all_negate_only_searches_eq, List.all_eq_true] at searches
      obtain ⟨child, inTree, below⟩ := List.mem_flatMap.mp member
      exact induction child inTree (searches child inTree) below

theorem negations_faultless {query negation : Query} (faultless : query.fault? = none)
    (member : negation ∈ query.negations) : negation.fault? = none := by
  induction query using operator_induction with
  | leaf node isLeaf =>
      rw [negations_leaf node isLeaf] at member
      cases member
  | not children | nor children =>
      rw [negations_negation rfl, List.mem_singleton] at member
      rw [member, faultless]
  | and children induction | or children induction =>
      rw [negations_logical rfl] at member
      obtain ⟨child, inTree, below⟩ := List.mem_flatMap.mp member
      cases children with
      | nil => cases inTree
      | cons first rest =>
          rw [fault_logical, considered, first_fault_eq, List.findSome?_eq_none_iff] at faultless
          exact induction child inTree (faultless child inTree) below

theorem negations_below_or_subset {query negation : Query}
    (member : negation ∈ query.negationsBelowOr) : negation ∈ query.negations := by
  induction query using operator_induction with
  | leaf node isLeaf =>
      cases node with
      | logical operator children => cases isLeaf
      | comparison | textSearch | field | literal => cases member
  | not children | nor children => cases member
  | or children =>
      rw [negationsBelowOr] at member
      rw [negations_logical rfl, ← negations_of_all_eq]
      exact member
  | and children induction =>
      rw [negationsBelowOr, negations_below_or_of_all_eq] at member
      rw [negations_logical rfl]
      obtain ⟨child, inTree, below⟩ := List.mem_flatMap.mp member
      exact List.mem_flatMap.mpr ⟨child, inTree, induction child inTree below⟩

/-- If a tree is true, so are all of its negations that are no part of an alternative. -/
theorem negation_holds_or_below {values : Query → Bool} (query : Query)
    (holds : query.holdsBy values = true) :
    ∀ negation ∈ query.negations,
      negation ∈ query.negationsBelowOr ∨ negation.holdsBy values = true := by
  intro negation member
  induction query using operator_induction with
  | leaf node isLeaf =>
      rw [negations_leaf node isLeaf] at member
      cases member
  | not children | nor children =>
      rw [negations_negation rfl, List.mem_singleton] at member
      rw [member]
      exact Or.inr holds
  | or children =>
      rw [negations_logical rfl, ← negations_of_all_eq] at member
      exact Or.inl member
  | and children induction =>
      rw [holds_by_and, List.all_eq_true] at holds
      rw [negations_logical rfl] at member
      rw [negationsBelowOr, negations_below_or_of_all_eq, List.mem_flatMap]
      obtain ⟨child, inTree, below⟩ := List.mem_flatMap.mp member
      rcases induction child inTree (holds child inTree) below with belowOr | negationHolds
      · exact Or.inl ⟨child, inTree, belowOr⟩
      · exact Or.inr negationHolds

theorem full_reading (negated : Bool) (record : Record) :
    reading false negated record = fun _ leaf => leaf.leafHolds record := by
  funext place leaf
  simp [reading]

theorem compile_eq_holds_by {query : Query} (faultless : query.fault? = none) :
    query.compile = .ok fun record => query.holdsBy (leafHolds record) := by
  have test : (fun record => query.truth (reading false false record)) =
      fun record => query.holdsBy (leafHolds record) := by
    funext record
    rw [full_reading]
    rfl
  exact compile_ok_iff.mpr ⟨faultless, test⟩

/-- If only searches are negated, a record that the test of a tree accepts is dropped for an
excluded term exactly if a negation within an alternative rejects it. -/
theorem excluded_iff_rejected_below_or (query : Query)
    (searches : query.negatesOnlySearches = true) (test : Predicate)
    (compiled : query.compile = .ok test) (record : Record) (accepted : test record = true) :
    (ExclusionFilter.ofTerms query.fullTextPart.excludedTerms).excludes record = true ↔
      ∃ negation ∈ query.negationsBelowOr, ∃ rejecting, negation.compile = .ok rejecting ∧
        rejecting record = false := by
  obtain ⟨faultless, _⟩ := compile_ok_iff.mp compiled
  rw [compile_eq_holds_by faultless] at compiled
  cases compiled
  have rejects : ∀ negation ∈ query.negations,
      (negation.holdsBy (leafHolds record) = false ↔
        ∃ term ∈ negation.leafTerms, termExcludes record (.ofTerm term) = true) := by
    intro negation member
    have onlySearches := negations_negate_only_searches searches member
    obtain ⟨operator, children, negative, rfl⟩ := mem_negations member
    exact negation_false_iff negative onlySearches record
  rw [excludes_iff]
  constructor
  · rintro ⟨negation, member, rulesOut⟩
    have fails := (rejects negation member).mpr rulesOut
    have negationCompiled := compile_eq_holds_by (negations_faultless faultless member)
    rcases negation_holds_or_below query accepted negation member with below | holds
    · exact ⟨negation, below, _, negationCompiled, fails⟩
    · rw [fails] at holds
      cases holds
  · rintro ⟨negation, below, rejecting, negationCompiled, fails⟩
    have member := negations_below_or_subset below
    rw [compile_eq_holds_by (negations_faultless faultless member)] at negationCompiled
    cases negationCompiled
    exact ⟨negation, member, (rejects negation member).mp fails⟩

def hamOrNotSpam : Query := .or [.text "ham", .not (.text "spam")]

def hamAndSpam : Record := Record.plain "note" "ham spam" ⟨0, 0⟩

theorem ham_or_not_spam_excluded :
    ∃ test, hamOrNotSpam.negatesOnlySearches = true ∧ hamOrNotSpam.compile = .ok test ∧
      test hamAndSpam = true ∧ ∃ negation ∈ hamOrNotSpam.negationsBelowOr,
        ∃ rejecting, negation.compile = .ok rejecting ∧ rejecting hamAndSpam = false := by
  have searches : hamOrNotSpam.negatesOnlySearches = true := by decide
  have excluded : (ExclusionFilter.ofTerms hamOrNotSpam.fullTextPart.excludedTerms).excludes
      hamAndSpam = true := by decide
  obtain ⟨test, compiled, accepted⟩ :
      ∃ test, hamOrNotSpam.compile = .ok test ∧ test hamAndSpam = true := ⟨_, rfl, by decide⟩
  exact ⟨test, searches, compiled, accepted,
    (excluded_iff_rejected_below_or hamOrNotSpam searches test compiled hamAndSpam
      accepted).mp excluded⟩

/-- The record is accepted for one alternative and dropped for the other. -/
theorem accepted_record_is_dropped :
    ∃ test, hamOrNotSpam.negatesOnlySearches = true ∧ hamOrNotSpam.compile = .ok test ∧
      test hamAndSpam = true ∧
      (ExclusionFilter.ofTerms hamOrNotSpam.fullTextPart.excludedTerms).excludes
        hamAndSpam = true := by
  refine ⟨_, by decide, rfl, ?_, ?_⟩
  · decide
  · decide

end Query

end FederatedSearch
