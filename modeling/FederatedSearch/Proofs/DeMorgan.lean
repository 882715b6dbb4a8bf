import FederatedSearch.Proofs.DoubleNegation
import FederatedSearch.Proofs.Replacement

/-!
De Morgan's laws. A negated group can stand for the dual group of the negated conditions in every
tree, and so can a negated group of alternatives for the group of which none may hold. The terms
to exclude stay the same because all texts below a negation are excluded, whatever groups stand
between, and because a negation asks nothing of the index.
-/

namespace FederatedSearch

namespace Query

theorem leaf_terms_not (child : Query) : (Query.not child).leafTerms = child.leafTerms := by
  rw [Query.not, leaf_terms_logical, List.flatMap_singleton]

theorem negated_terms_not (child : Query) : (Query.not child).negatedTerms = child.leafTerms := by
  rw [Query.not, negated_terms_negation rfl, List.flatMap_singleton]

theorem structured_logical (operator : LogicalOperator) (children : List Query) :
    (logical operator children).hasStructuredLeaf = children.any hasStructuredLeaf := by
  rw [hasStructuredLeaf, any_structured_leaf_eq]

theorem structured_not (child : Query) :
    (Query.not child).hasStructuredLeaf = child.hasStructuredLeaf := by
  rw [Query.not, structured_logical, List.any_cons, List.any_nil, Bool.or_false]

theorem fault_not (child : Query) : (Query.not child).fault? = child.fault? := by
  rw [Query.not, fault?]

theorem considered_group {operator : LogicalOperator} (group : operator.isNegation = false)
    (children : List Query) : considered operator children = children := by
  cases operator with
  | and | or => rfl
  | not | nor => cases group

/-- A negated group, and the group of the negated conditions that is true if the first is false. -/
theorem negated_group_interchangeable {operator dual : LogicalOperator}
    (group : operator.isNegation = false) (dualGroup : dual.isNegation = false)
    (opposite : ∀ values, combined dual (values.map (!·)) = !combined operator values)
    {children : List Query} (filled : children ≠ []) :
    Interchangeable (.not (.logical operator children)) (.logical dual (children.map .not)) where
  expression := by
    have unasked : (children.map Query.not).filterMap expression? = [] := by
      rw [List.filterMap_map, List.filterMap_eq_nil_iff]
      exact fun child _ => rfl
    rw [expression_logical dual, unasked]
    cases connective? dual <;> rfl
  leafTerms := by
    simp only [leaf_terms_not, leaf_terms_logical, List.flatMap_map]
  negatedTerms := by
    simp only [negated_terms_not, leaf_terms_logical, negated_terms_group dualGroup,
      List.flatMap_map]
  fault := by
    have sameFault : fault? ∘ Query.not = fault? := funext fault_not
    have negatedFilled : children.map Query.not ≠ [] := by simpa using filled
    rw [fault_not, fault_of_filled operator filled, fault_of_filled dual negatedFilled,
      considered_group group, considered_group dualGroup, List.findSome?_map, sameFault]
  structured := by
    have sameLeaf : hasStructuredLeaf ∘ Query.not = hasStructuredLeaf := funext structured_not
    rw [structured_not, structured_logical, structured_logical, List.any_map, sameLeaf]
  truth relax negated record := by
    have below : truth (reading relax negated record) ∘ Query.not =
        (!·) ∘ truth (reading relax (!negated) record) :=
      funext fun child => reading_not relax negated record child
    rw [reading_not, reading_logical, reading_logical, considered_group group,
      considered_group dualGroup, group, dualGroup, Bool.xor_false, Bool.xor_false, List.map_map,
      below, ← List.map_map, opposite]

theorem combined_or_of_negated (values : List Bool) :
    combined .or (values.map (!·)) = !combined .and values := by
  simp [combined, List.not_all_eq_any_not]

theorem combined_and_of_negated (values : List Bool) :
    combined .and (values.map (!·)) = !combined .or values := by
  simp [combined, List.not_any_eq_all_not]

theorem none_of_interchangeable {children : List Query} (filled : children ≠ []) :
    Interchangeable (.nor children) (.not (.or children)) where
  expression := rfl
  leafTerms := by simp only [leaf_terms_not, Query.nor, Query.or, leaf_terms_logical]
  negatedTerms := by
    rw [negated_terms_not, Query.nor, Query.or, negated_terms_negation rfl, leaf_terms_logical]
  fault := by
    rw [fault_not, Query.nor, Query.or, fault_of_filled .nor filled, fault_of_filled .or filled,
      considered, considered]
  structured := by
    rw [structured_not, Query.nor, Query.or, structured_logical, structured_logical]
  truth relax negated record := by
    rw [reading_not, Query.nor, Query.or, reading_logical, reading_logical]
    simp [considered, combined, LogicalOperator.isNegation]

/-- Rewriting by De Morgan's laws, at any place of a tree, changes neither what the tree asks of
the index and which terms it excludes nor its tests and faults. -/
theorem de_morgan_rewriting_keeps_query (context : TreeContext) (conditions : List Query)
    (filled : conditions ≠ []) :
    TreatedAlike (context.fill (.nor conditions)) (context.fill (.not (.or conditions))) ∧
    TreatedAlike (context.fill (.not (.or conditions)))
      (context.fill (.and (conditions.map .not))) ∧
    TreatedAlike (context.fill (.not (.and conditions)))
      (context.fill (.or (conditions.map .not))) := by
  refine ⟨?_, ?_, ?_⟩
  · exact context.fill_treated_alike (none_of_interchangeable filled)
  · exact context.fill_treated_alike
      (negated_group_interchangeable rfl rfl combined_and_of_negated filled)
  · exact context.fill_treated_alike
      (negated_group_interchangeable rfl rfl combined_or_of_negated filled)

def spamOrDraft : List Query := [.text "spam", .compare "tags" .equal (.text "draft")]

def unlessRust : TreeContext := .node .not [] (.node .and [.text "rust"] .gap []) []

theorem spam_or_draft_rewritten_below_negation :
    spamOrDraft ≠ [] ∧
    TreatedAlike (.not (.and [.text "rust", .nor spamOrDraft]))
      (.not (.and [.text "rust", .not (.or spamOrDraft)])) ∧
    TreatedAlike (.not (.and [.text "rust", .not (.or spamOrDraft)]))
      (.not (.and [.text "rust", .and (spamOrDraft.map .not)])) ∧
    TreatedAlike (.not (.and [.text "rust", .not (.and spamOrDraft)]))
      (.not (.and [.text "rust", .or (spamOrDraft.map .not)])) := by
  have filled : spamOrDraft ≠ [] := by simp [spamOrDraft]
  exact ⟨filled, de_morgan_rewriting_keeps_query unlessRust spamOrDraft filled⟩

end Query

end FederatedSearch
