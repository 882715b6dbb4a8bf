import FederatedSearch.Node.Execution
import FederatedSearch.Proofs.Exclusion
import FederatedSearch.Proofs.Relaxation

/-!
Which records a node selects for a tree. A record has to be found by the engine, to hold none
of the excluded terms, and to pass the test behind the engine. Each of the three is a statement
about the terms and the leaves of the tree itself, and later results speak of those only.
-/

namespace FederatedSearch

open FederatedSearch.Text FederatedSearch.Index FederatedSearch.ExclusionFilter

/-- The text of the term occurs in one of its columns, whatever the case of the letters. -/
def Record.mentions (record : Record) (term : Term) : Bool :=
  (term.columns.filterMap record.column).any (occursIgnoringCase (lower term.text.toList))

theorem term_excludes_eq_mentions (record : Record) (term : Term) :
    termExcludes record (.ofTerm term) = record.mentions term := by
  obtain ⟨column, text⟩ := term
  cases column with
  | none => rfl
  | some column =>
      unfold termExcludes Record.mentions ExcludedTerm.ofTerm searchedTexts Term.columns
      simp only [Option.map_some, Record.columnNamed, Column.named_of_name, Option.bind_some]
      cases found : record.column column <;> simp [found]

namespace Query

/-- Whether a node selects a record if the engine finds the given terms in it. -/
def selects (query : Query) (record : Record) (decides : Term → Bool) :
    Except CompileError Bool :=
  query.compileStructured.map fun structured =>
    query.fullTextPart.engineQuery.holds decides &&
      keepsRecord (.ofTerms query.fullTextPart.excludedTerms) structured record

theorem excludes_eq_mentions (query : Query) (record : Record) :
    (ExclusionFilter.ofTerms query.fullTextPart.excludedTerms).excludes record =
      query.negatedTerms.any record.mentions := by
  apply Bool.eq_iff_iff.mpr
  rw [excludes_iff, List.any_eq_true, negated_terms_eq]
  constructor
  · rintro ⟨negation, member, term, below, rulesOut⟩
    rw [term_excludes_eq_mentions] at rulesOut
    exact ⟨term, List.mem_flatMap.mpr ⟨negation, member, below⟩, rulesOut⟩
  · rintro ⟨term, negated, mentioned⟩
    obtain ⟨negation, member, below⟩ := List.mem_flatMap.mp negated
    rw [← term_excludes_eq_mentions] at mentioned
    exact ⟨negation, member, term, below, mentioned⟩

theorem negated_terms_of_leaf (leaf : Query) (isLeaf : leaf.isLeaf = true) :
    leaf.negatedTerms = [] := by
  cases leaf with
  | logical operator children => cases isLeaf
  | comparison | textSearch | field | literal => rfl

theorem negated_terms_negation {operator : LogicalOperator}
    (negative : operator.isNegation = true) (children : List Query) :
    (logical operator children).negatedTerms = children.flatMap leafTerms := by
  rw [negatedTerms, if_pos negative, leaf_terms_of_all_eq]

theorem negated_terms_group {operator : LogicalOperator}
    (positive : operator.isNegation = false) (children : List Query) :
    (logical operator children).negatedTerms = children.flatMap negatedTerms := by
  rw [negatedTerms, positive, if_neg Bool.false_ne_true, negated_terms_of_all_eq]

theorem negated_terms_subset (query : Query) : query.negatedTerms ⊆ query.leafTerms := by
  induction query using node_induction with
  | leaf node isLeaf =>
      rw [negated_terms_of_leaf node isLeaf]
      exact List.nil_subset _
  | logical operator children ih =>
      rw [leaf_terms_logical]
      cases negative : operator.isNegation with
      | true =>
          rw [negated_terms_negation negative]
          exact List.Subset.refl _
      | false =>
          rw [negated_terms_group negative]
          intro term negated
          obtain ⟨child, member, below⟩ := List.mem_flatMap.mp negated
          exact List.mem_flatMap.mpr ⟨child, member, ih child member below⟩

theorem found_negation (decides : Term → Bool) {operator : LogicalOperator}
    (negative : operator.isNegation = true) (children : List Query) :
    (logical operator children).isFound decides = true := by
  cases operator with
  | and | or => cases negative
  | not | nor => rfl

theorem reading_logical (relax negated : Bool) (record : Record) (operator : LogicalOperator)
    (children : List Query) :
    (logical operator children).truth (reading relax negated record) =
      combined operator ((considered operator children).map
        (truth (reading relax (negated ^^ operator.isNegation) record))) :=
  truth_logical (fun index => reading_below relax negated record ⟨operator, index⟩) children

/-- A tree without faults has a test behind the engine. If that is none at all, the tree says
nothing about records beyond its full-text leaves. -/
theorem compile_structured_reads {query : Query} (faultless : query.fault? = none) :
    ∃ structured, query.compileStructured = .ok structured ∧
      ∀ record, structured.all (· record) = query.truth (reading true false record) := by
  unfold compileStructured
  cases structured : query.hasStructuredLeaf with
  | false =>
      refine ⟨none, rfl, ?_⟩
      intro record
      exact (relaxed_without_structured_leaf query faultless structured false record).symm
  | true =>
      have relaxed : query.compileRelaxed = .ok _ := compile_ok_iff.mpr ⟨faultless, rfl⟩
      refine ⟨_, by rw [if_pos rfl, relaxed]; rfl, ?_⟩
      intro record
      rfl

/-- A record is selected if the engine's query holds of it, it mentions no negated term, and
the tree is true of it as far as the engine does not decide that. -/
theorem selects_eq {query : Query} (faultless : query.fault? = none) (record : Record)
    (decides : Term → Bool) :
    query.selects record decides =
      .ok (query.isFound decides && (!query.negatedTerms.any record.mentions &&
        query.truth (reading true false record))) := by
  obtain ⟨structured, compiled, reads⟩ := compile_structured_reads faultless
  rw [selects, compiled]
  apply congrArg Except.ok
  simp only [engine_query_holds, keepsRecord, excludes_eq_mentions, reads]

end Query

end FederatedSearch
