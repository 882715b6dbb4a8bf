import FederatedSearch.Proofs.Selection

/-!
Trees below two negations. The test behind the engine is the same as without them, but all
full-text leaves become excluded terms: what stands below a negation is excluded however many
negations there are. A node selects the same records only if the engine was not asked before
either, or if its filters drop the record in any case.
-/

namespace FederatedSearch

open FederatedSearch.Index

namespace Query

theorem unasked_terms_negated (query : Query) (unasked : query.isAsked = false) :
    query.leafTerms ⊆ query.negatedTerms := by
  induction query using operator_induction with
  | leaf node isLeaf =>
      rw [asked_leaf node isLeaf, Option.isSome_eq_false_iff, Option.isNone_iff_eq_none] at unasked
      rw [leaf_terms_of_leaf node isLeaf, unasked]
      exact List.nil_subset _
  | not children ih | nor children ih =>
      rw [negated_terms_negation rfl, leaf_terms_logical]
      exact List.Subset.refl _
  | and children ih | or children ih =>
      rw [asked_group rfl, List.any_eq_false] at unasked
      rw [negated_terms_group rfl, leaf_terms_logical]
      intro term sought
      obtain ⟨child, member, below⟩ := List.mem_flatMap.mp sought
      have childUnasked := Bool.eq_false_iff.mpr (unasked child member)
      exact List.mem_flatMap.mpr ⟨child, member, ih child member childUnasked below⟩

theorem match_all_iff_unasked (query : Query) :
    query.fullTextPart.engineQuery.isMatchAll = true ↔ query.isAsked = false := by
  unfold fullTextPart isAsked
  cases query.expression? <;> simp [EngineQuery.isMatchAll]

theorem reading_not (relax negated : Bool) (record : Record) (child : Query) :
    (Query.not child).truth (reading relax negated record) =
      !child.truth (reading relax (!negated) record) := by
  rw [Query.not, reading_logical]
  simp [considered, combined, LogicalOperator.isNegation]

theorem double_negation_reads (query : Query) (record : Record) :
    (Query.not (.not query)).truth (reading true false record) =
      query.truth (reading true false record) := by
  rw [reading_not, reading_not, Bool.not_not, Bool.not_false, Bool.not_true]

/-- The exclusion of a leaf does not go by parity: all terms of the tree are negated. -/
theorem double_negation_terms (query : Query) :
    (Query.not (.not query)).negatedTerms = query.leafTerms := by
  rw [Query.not, negated_terms_negation rfl, List.flatMap_singleton, Query.not,
    leaf_terms_logical, List.flatMap_singleton]

theorem double_negation_selects {query : Query} (faultless : query.fault? = none)
    (record : Record) (decides : Term → Bool) :
    (Query.not (.not query)).selects record decides =
      .ok (!query.leafTerms.any record.mentions &&
        query.truth (reading true false record)) := by
  have found : (Query.not (.not query)).isFound decides = true := found_negation decides rfl _
  have sound : (Query.not (.not query)).fault? = none := faultless
  rw [selects_eq sound, found, double_negation_terms, double_negation_reads, Bool.true_and]

/-- A record that the filters behind the engine drop is dropped below two negations too. -/
theorem dropped_below_double_negation {query : Query} {record : Record}
    (dropped : (!query.negatedTerms.any record.mentions &&
      query.truth (reading true false record)) = false) :
    (!query.leafTerms.any record.mentions && query.truth (reading true false record)) = false := by
  rw [Bool.and_eq_false_iff, Bool.not_eq_false'] at dropped ⊢
  rcases dropped with mentioned | fails
  · obtain ⟨term, negated, isMentioned⟩ := List.any_eq_true.mp mentioned
    have sought := negated_terms_subset query negated
    exact Or.inl (List.any_eq_true.mpr ⟨term, sought, isMentioned⟩)
  · exact Or.inr fails

theorem unasked_mentions {query : Query} (unasked : query.isAsked = false) (record : Record) :
    query.leafTerms.any record.mentions = query.negatedTerms.any record.mentions := by
  apply Bool.eq_iff_iff.mpr
  rw [List.any_eq_true, List.any_eq_true]
  constructor
  · rintro ⟨term, sought, mentioned⟩
    exact ⟨term, unasked_terms_negated query unasked sought, mentioned⟩
  · rintro ⟨term, negated, mentioned⟩
    exact ⟨term, negated_terms_subset query negated, mentioned⟩

/-- Below two negations a tree selects the records that pass its test and mention none of its
terms, whatever the engine finds. These are the records that the tree itself selects, with
every engine, exactly if the tree asks the engine for everything or its filters drop the record. -/
theorem double_negation_selects_alike_iff (query : Query) (test : Predicate)
    (accepted : query.compile = .ok test) (record : Record) :
    ∃ structured, query.compileStructured = .ok structured ∧
      (∀ decides, (Query.not (.not query)).selects record decides =
        .ok (!query.leafTerms.any record.mentions && structured.all (· record))) ∧
      ((∀ decides, (Query.not (.not query)).selects record decides =
          query.selects record decides) ↔
        query.fullTextPart.engineQuery.isMatchAll = true ∨
          keepsRecord (.ofTerms query.fullTextPart.excludedTerms) structured record = false) := by
  obtain ⟨faultless, _⟩ := compile_ok_iff.mp accepted
  obtain ⟨structured, compiled, reads⟩ := compile_structured_reads faultless
  have below := double_negation_selects faultless record
  have alone := selects_eq faultless record
  refine ⟨structured, compiled, ?_, ?_⟩
  · intro decides
    rw [below, reads]
  · rw [match_all_iff_unasked, keepsRecord, excludes_eq_mentions, reads]
    constructor
    · intro alike
      -- An engine that finds all terms and one that finds none differ on a tree that asks it.
      have granted := (alike fun _ => true).symm
      have denied := (alike fun _ => false).symm
      rw [alone, below, found_granted, Bool.true_and, Except.ok.injEq] at granted
      rw [alone, below, ← granted, Except.ok.injEq] at denied
      cases asked : query.isAsked with
      | false => exact Or.inl rfl
      | true =>
          rw [found_denied query asked, Bool.false_and] at denied
          exact Or.inr denied.symm
    · rintro (unasked | dropped) decides
      · rw [below, alone, found_of_not_asked decides unasked, unasked_mentions unasked,
          Bool.true_and]
      · rw [below, alone, dropped, dropped_below_double_negation dropped, Bool.and_false]

def rustTalk : Record := Record.plain "talk" "Rust at work" ⟨0, 0⟩

/-- A text that is sought differs from its double negation, and one that is negated does not. -/
theorem double_negation_of_text_and_negated_text :
    (∃ test structured, (Query.text "rust").compile = .ok test ∧
      (Query.text "rust").compileStructured = .ok structured ∧
      ¬∀ decides, (Query.not (.not (.text "rust"))).selects rustTalk decides =
        (Query.text "rust").selects rustTalk decides) ∧
    ∃ test, (Query.not (.text "rust")).compile = .ok test ∧
      ∀ decides, (Query.not (.not (.not (.text "rust")))).selects rustTalk decides =
        (Query.not (.text "rust")).selects rustTalk decides := by
  constructor
  · obtain ⟨structured, compiled, _, alike⟩ :=
      double_negation_selects_alike_iff (Query.text "rust") _ rfl rustTalk
    refine ⟨_, structured, rfl, compiled, ?_⟩
    cases compiled
    rw [alike]
    decide
  · obtain ⟨_, _, _, alike⟩ :=
      double_negation_selects_alike_iff (Query.not (.text "rust")) _ rfl rustTalk
    exact ⟨_, rfl, alike.mpr (Or.inl (by decide))⟩

theorem double_negation_drops_found_record :
    (∃ test, (Query.text "rust").compile = .ok test) ∧
    (Query.text "rust").selects rustTalk (fun _ => true) = .ok true ∧
    (Query.not (.not (.text "rust"))).selects rustTalk (fun _ => true) = .ok false := by
  refine ⟨⟨_, rfl⟩, ?_, ?_⟩
  · exact congrArg Except.ok (by decide)
  · exact congrArg Except.ok (by decide)

end Query

end FederatedSearch
