import FederatedSearch.Proofs.Compilation

/-!
What an engine decides. Once it is known which terms an engine finds in a record, a tree
is true or false of the record, and the engine's query holds of it or not. Both depend on
the terms of the tree alone, so that answers to separate terms can be joined.
-/

namespace FederatedSearch

open FederatedSearch.Index

namespace Index.Expression

theorem all_hold_eq (decides : Term → Bool) (parts : List Expression) :
    allHold decides parts = parts.all (holds decides) := by
  induction parts with
  | nil => rfl
  | cons part rest induction => rw [allHold, induction, List.all_cons]

theorem any_holds_eq (decides : Term → Bool) (parts : List Expression) :
    anyHolds decides parts = parts.any (holds decides) := by
  induction parts with
  | nil => rfl
  | cons part rest induction => rw [anyHolds, induction, List.any_cons]

theorem combine_and (decides : Term → Bool) (parts : List Expression) :
    (combine .and parts).all (holds decides) = parts.all (holds decides) := by
  cases parts with
  | nil => rfl
  | cons part rest =>
      cases rest with
      | nil => simp [combine]
      | cons other rest =>
          change holds decides (.group .and (part :: other :: rest)) = _
          rw [holds, all_hold_eq]

theorem combine_or (decides : Term → Bool) (parts : List Expression) :
    (combine .or parts).all (holds decides) =
      (parts.isEmpty || parts.any (holds decides)) := by
  cases parts with
  | nil => rfl
  | cons part rest =>
      cases rest with
      | nil => simp [combine]
      | cons other rest =>
          change holds decides (.group .or (part :: other :: rest)) = _
          rw [holds, any_holds_eq]
          rfl

theorem combine_some (connective : Connective) (parts : List Expression) :
    (combine connective parts).isSome = !parts.isEmpty := by
  cases parts with
  | nil => rfl
  | cons part rest => cases rest <;> rfl

end Index.Expression

namespace Query

def isAsked (query : Query) : Bool := query.expression?.isSome

def isFound (decides : Term → Bool) (query : Query) : Bool :=
  query.expression?.all (·.holds decides)

theorem engine_query_holds (decides : Term → Bool) (query : Query) :
    query.fullTextPart.engineQuery.holds decides = query.isFound decides := by
  unfold fullTextPart isFound
  cases query.expression? <;> rfl

theorem expressions_eq (children : List Query) :
    expressions children = children.filterMap expression? := by
  induction children with
  | nil => rfl
  | cons child rest induction =>
      rw [expressions, induction, List.filterMap_cons]
      cases child.expression? <;> rfl

theorem found_and (decides : Term → Bool) (children : List Query) :
    (logical .and children).isFound decides = children.all (isFound decides) := by
  unfold isFound
  rw [expression?, connective?, expressions_eq]
  change (Expression.combine .and _).all _ = _
  rw [Expression.combine_and, List.all_filterMap]
  rfl

theorem expressions_empty (children : List Query) :
    (expressions children).isEmpty = !children.any isAsked := by
  induction children with
  | nil => rfl
  | cons child rest induction =>
      rw [expressions, List.any_cons, isAsked]
      cases child.expression? with
      | none => exact induction
      | some expression => rfl

/-- A group of alternatives of which none is asked about is found in every record. -/
theorem found_or (decides : Term → Bool) (children : List Query) :
    (logical .or children).isFound decides =
      (!children.any isAsked || (children.filter isAsked).any (isFound decides)) := by
  unfold isFound
  rw [expression?, connective?]
  change (Expression.combine .or _).all _ = _
  rw [Expression.combine_or, expressions_empty, expressions_eq, List.any_filterMap,
    List.any_filter]
  apply congrArg (_ || children.any ·)
  funext child
  unfold isAsked
  cases child.expression? <;> simp

theorem asked_group {operator : LogicalOperator} (positive : operator.isNegation = false)
    (children : List Query) :
    (logical operator children).isAsked = children.any isAsked := by
  cases operator with
  | not => cases positive
  | nor => cases positive
  | and | or =>
      unfold isAsked
      rw [expression?, connective?]
      change (Expression.combine _ _).isSome = _
      rw [Expression.combine_some, expressions_empty, Bool.not_not]
      rfl

def askedTerm? (leaf : Query) : Option Term := leaf.fullTextLeaf?.bind FullTextLeaf.term?

theorem expression_leaf (leaf : Query) (isLeaf : leaf.isLeaf = true) :
    leaf.expression? = leaf.askedTerm?.map .term := by
  cases leaf with
  | logical operator children => cases isLeaf
  | comparison | textSearch | field | literal => rfl

theorem asked_leaf (leaf : Query) (isLeaf : leaf.isLeaf = true) :
    leaf.isAsked = leaf.askedTerm?.isSome := by
  rw [isAsked, expression_leaf leaf isLeaf, Option.isSome_map]

theorem found_leaf (decides : Term → Bool) (leaf : Query) (isLeaf : leaf.isLeaf = true) :
    leaf.isFound decides = leaf.askedTerm?.all decides := by
  rw [isFound, expression_leaf leaf isLeaf]
  cases leaf.askedTerm? <;> rfl

/-- What a leaf says of a record if the engine decides the full-text leaves. Nothing is
sought by a blank text, so that it is in every record. -/
def answered (record : Record) (decides : Term → Bool) (leaf : Query) : Bool :=
  if leaf.isFullTextLeaf then leaf.askedTerm?.all decides else leaf.leafHolds record

theorem found_full_text (record : Record) (decides : Term → Bool) (leaf : Query)
    (fullText : leaf.isFullTextLeaf = true) (isLeaf : leaf.isLeaf = true) :
    leaf.isFound decides = answered record decides leaf := by
  rw [found_leaf _ leaf isLeaf, answered, if_pos fullText]

theorem found_structured (decides : Term → Bool) (leaf : Query)
    (structured : leaf.isFullTextLeaf = false) (isLeaf : leaf.isLeaf = true) :
    leaf.isFound decides = true := by
  have unasked : leaf.askedTerm? = none := by
    rw [askedTerm?, Option.not_isSome_iff_eq_none.mp (Bool.eq_false_iff.mp structured)]
    rfl
  rw [found_leaf _ leaf isLeaf, unasked]
  rfl

theorem found_of_answered {record : Record} {decides : Term → Bool} (leaf : Query)
    (isLeaf : leaf.isLeaf = true) (holds : answered record decides leaf = true) :
    leaf.isFound decides = true := by
  cases fullText : leaf.isFullTextLeaf with
  | true => rw [found_full_text record decides leaf fullText isLeaf, holds]
  | false => exact found_structured decides leaf fullText isLeaf

theorem leaf_terms_of_all_eq (children : List Query) :
    leafTermsOfAll children = children.flatMap leafTerms := by
  induction children with
  | nil => rfl
  | cons child rest induction => rw [leafTermsOfAll, induction, List.flatMap_cons]

theorem leaf_terms_logical (operator : LogicalOperator) (children : List Query) :
    (logical operator children).leafTerms = children.flatMap leafTerms := by
  rw [leafTerms, leaf_terms_of_all_eq]

theorem leaf_terms_of_leaf (leaf : Query) (isLeaf : leaf.isLeaf = true) :
    leaf.leafTerms = leaf.askedTerm?.toList := by
  cases leaf with
  | logical operator children => cases isLeaf
  | comparison | textSearch | field | literal => rfl

def SameAnswers (record : Record) (first second : Term → Bool) (query : Query) : Prop :=
  query.holdsBy (answered record first) = query.holdsBy (answered record second) ∧
    query.isFound first = query.isFound second

theorem asked_term_congr {first second : Term → Bool} {leaf : Query}
    (agree : ∀ term ∈ leaf.askedTerm?.toList, first term = second term) :
    leaf.askedTerm?.all first = leaf.askedTerm?.all second := by
  cases asked : leaf.askedTerm? with
  | none => rfl
  | some term => exact agree term (by simp [asked])

theorem holds_by_congr (record : Record) {first second : Term → Bool} (query : Query)
    (agree : ∀ term ∈ query.leafTerms, first term = second term) :
    query.holdsBy (answered record first) = query.holdsBy (answered record second) := by
  induction query using operator_induction with
  | leaf node isLeaf =>
      rw [leaf_terms_of_leaf node isLeaf] at agree
      rw [holds_by_leaf _ node isLeaf, holds_by_leaf _ node isLeaf, answered, answered,
        asked_term_congr agree]
  | and children induction | or children induction | not children induction
  | nor children induction =>
      rw [leaf_terms_logical] at agree
      rw [holds_by_logical, holds_by_logical]
      apply congrArg
      apply List.map_congr_left
      intro child member
      have inTree := mem_of_considered member
      apply induction child inTree
      intro term sought
      exact agree term (List.mem_flatMap.mpr ⟨child, inTree, sought⟩)

theorem all_congr {first second : Query → Bool} {children : List Query}
    (same : ∀ child ∈ children, first child = second child) :
    children.all first = children.all second := by
  calc
    children.all first = (children.map first).all id := by rw [List.all_map]; rfl
    _ = (children.map second).all id := by rw [List.map_congr_left same]
    _ = children.all second := by rw [List.all_map]; rfl

theorem any_congr {first second : Query → Bool} {children : List Query}
    (same : ∀ child ∈ children, first child = second child) :
    children.any first = children.any second := by
  calc
    children.any first = (children.map first).any id := by rw [List.any_map]; rfl
    _ = (children.map second).any id := by rw [List.map_congr_left same]
    _ = children.any second := by rw [List.any_map]; rfl

theorem found_congr {first second : Term → Bool} (query : Query)
    (agree : ∀ term ∈ query.leafTerms, first term = second term) :
    query.isFound first = query.isFound second := by
  induction query using operator_induction with
  | leaf node isLeaf =>
      rw [leaf_terms_of_leaf node isLeaf] at agree
      rw [found_leaf _ node isLeaf, found_leaf _ node isLeaf, asked_term_congr agree]
  | not children induction => rfl
  | nor children induction => rfl
  | and children induction =>
      rw [leaf_terms_logical] at agree
      have each : ∀ child ∈ children, child.isFound first = child.isFound second := by
        intro child member
        apply induction child member
        intro term sought
        exact agree term (List.mem_flatMap.mpr ⟨child, member, sought⟩)
      rw [found_and, found_and, all_congr each]
  | or children induction =>
      rw [leaf_terms_logical] at agree
      have each : ∀ child ∈ children.filter isAsked,
          child.isFound first = child.isFound second := by
        intro child asked
        have member := (List.mem_filter.mp asked).1
        apply induction child member
        intro term sought
        exact agree term (List.mem_flatMap.mpr ⟨child, member, sought⟩)
      rw [found_or, found_or, any_congr each]

theorem same_answers (record : Record) {first second : Term → Bool} {query : Query}
    (agree : ∀ term ∈ query.leafTerms, first term = second term) :
    SameAnswers record first second query :=
  ⟨holds_by_congr record query agree, found_congr query agree⟩

/-- One engine answers for the listed terms and another for all others. -/
def spliced (terms : List Term) (inside outside : Term → Bool) : Term → Bool :=
  fun term => if term ∈ terms then inside term else outside term

theorem separate_siblings {children : List Query} {child : Query} (member : child ∈ children)
    (distinct : (children.flatMap leafTerms).Nodup) :
    child.leafTerms.Nodup ∧ ∃ before after, children = before ++ child :: after ∧
      ∀ sibling ∈ before ++ after, ∀ term ∈ sibling.leafTerms, term ∉ child.leafTerms := by
  obtain ⟨before, after, rfl⟩ := List.append_of_mem member
  rw [List.flatMap_append, List.flatMap_cons, List.nodup_append, List.nodup_append] at distinct
  obtain ⟨_, ⟨own, _, apartAfter⟩, apartBefore⟩ := distinct
  refine ⟨own, before, after, rfl, ?_⟩
  intro sibling among term sought shared
  rcases List.mem_append.mp among with earlier | later
  · exact apartBefore term (List.mem_flatMap.mpr ⟨sibling, earlier, sought⟩) term
      (List.mem_append_left _ shared) rfl
  · exact apartAfter term shared term (List.mem_flatMap.mpr ⟨sibling, later, sought⟩) rfl

/-- If all terms are distinct, an engine may answer as one engine does in one child, and give
the same answer to all terms of the other children. -/
theorem splice_siblings (record : Record) {children : List Query} {child : Query}
    (member : child ∈ children) (distinct : (children.flatMap leafTerms).Nodup)
    (own : Term → Bool) (others : Bool) :
    ∃ decides, SameAnswers record decides own child ∧ ∀ sibling ∈ children,
      sibling = child ∨ SameAnswers record decides (fun _ => others) sibling := by
  obtain ⟨_, before, after, rfl, apart⟩ := separate_siblings member distinct
  refine ⟨spliced child.leafTerms own fun _ => others, ?_, ?_⟩
  · exact same_answers record fun term sought => if_pos sought
  · intro sibling among
    by_cases same : sibling = child
    · exact Or.inl same
    · have apartFrom : sibling ∈ before ++ after := by
        simpa [List.mem_append, same] using among
      right
      apply same_answers record
      intro term sought
      exact if_neg (apart sibling apartFrom term sought)

/-- The tree is true of the record if the engine finds all terms in it. -/
def couldHold (record : Record) : Query → Bool := holdsBy (answered record fun _ => true)

/-- The tree is true of the record even if the engine finds none of the terms in it. -/
def mustHold (record : Record) : Query → Bool := holdsBy (answered record fun _ => false)

theorem found_granted (query : Query) : query.isFound (fun _ => true) = true := by
  induction query using operator_induction with
  | leaf node isLeaf =>
      rw [found_leaf _ node isLeaf]
      cases node.askedTerm? <;> rfl
  | not children induction => rfl
  | nor children induction => rfl
  | and children induction =>
      rw [found_and, List.all_eq_true]
      exact induction
  | or children induction =>
      rw [found_or, Bool.or_eq_true, Bool.not_eq_true']
      by_cases asked : children.any isAsked = true
      · obtain ⟨child, member, isAsked⟩ := List.any_eq_true.mp asked
        have among := List.mem_filter.mpr ⟨member, isAsked⟩
        exact Or.inr (List.any_eq_true.mpr ⟨child, among, induction child member⟩)
      · exact Or.inl (Bool.eq_false_iff.mpr asked)

theorem found_denied (query : Query) (asked : query.isAsked = true) :
    query.isFound (fun _ => false) = false := by
  induction query using operator_induction with
  | leaf node isLeaf =>
      rw [asked_leaf node isLeaf] at asked
      obtain ⟨term, same⟩ := Option.isSome_iff_exists.mp asked
      rw [found_leaf _ node isLeaf, same]
      rfl
  | not children induction => cases asked
  | nor children induction => cases asked
  | and children induction =>
      rw [asked_group rfl] at asked
      obtain ⟨child, member, isAsked⟩ := List.any_eq_true.mp asked
      rw [found_and, List.all_eq_false]
      exact ⟨child, member, Bool.eq_false_iff.mp (induction child member isAsked)⟩
  | or children induction =>
      rw [asked_group rfl] at asked
      rw [found_or, asked, Bool.not_true, Bool.false_or, List.any_eq_false]
      intro child among
      obtain ⟨member, isAsked⟩ := List.mem_filter.mp among
      exact Bool.eq_false_iff.mp (induction child member isAsked)

theorem answered_mono (record : Record) {fewer more : Term → Bool}
    (grows : ∀ term, fewer term = true → more term = true) {leaf : Query}
    (holds : answered record fewer leaf = true) : answered record more leaf = true := by
  unfold answered at holds ⊢
  cases fullText : leaf.isFullTextLeaf with
  | false => simpa [fullText] using holds
  | true =>
      simp only [fullText, if_true] at holds ⊢
      rw [Option.all_eq_true] at holds ⊢
      intro term asked
      exact grows term (holds term asked)

theorem holds_by_mono {fewer more : Query → Bool}
    (grows : ∀ leaf, fewer leaf = true → more leaf = true) (query : Query)
    (positive : query.containsNegation = false) (holds : query.holdsBy fewer = true) :
    query.holdsBy more = true := by
  induction query, positive using positive_induction with
  | leaf node positive isLeaf =>
      rw [holds_by_leaf _ node isLeaf] at holds ⊢
      exact grows node holds
  | and children positive induction =>
      rw [holds_by_and, List.all_eq_true] at holds ⊢
      intro child member
      exact induction child member (holds child member)
  | or children positive induction =>
      rw [holds_by_or, List.any_eq_true] at holds ⊢
      obtain ⟨child, member, childHolds⟩ := holds
      exact ⟨child, member, induction child member childHolds⟩

theorem could_hold_of_holds {record : Record} {decides : Term → Bool} {query : Query}
    (positive : query.containsNegation = false)
    (holds : query.holdsBy (answered record decides) = true) : query.couldHold record = true :=
  holds_by_mono (fun _ => answered_mono record fun _ _ => rfl) query positive holds

theorem holds_of_must_hold {record : Record} (decides : Term → Bool) {query : Query}
    (positive : query.containsNegation = false) (holds : query.mustHold record = true) :
    query.holdsBy (answered record decides) = true :=
  holds_by_mono (fun _ => answered_mono record fun _ impossible => by cases impossible) query
    positive holds

theorem found_of_not_asked (decides : Term → Bool) {query : Query}
    (unasked : query.isAsked = false) : query.isFound decides = true := by
  unfold isAsked at unasked
  unfold isFound
  rw [Option.isSome_eq_false_iff, Option.isNone_iff_eq_none] at unasked
  rw [unasked]
  rfl

theorem asked_of_not_found {decides : Term → Bool} {query : Query}
    (notFound : query.isFound decides = false) : query.isAsked = true := by
  cases asked : query.isAsked with
  | true => rfl
  | false =>
      rw [found_of_not_asked decides asked] at notFound
      cases notFound

theorem unasked_leaf_terms (query : Query) (positive : query.containsNegation = false)
    (unasked : query.isAsked = false) : query.leafTerms = [] := by
  induction query, positive using positive_induction with
  | leaf node positive isLeaf =>
      rw [asked_leaf node isLeaf, Option.isSome_eq_false_iff, Option.isNone_iff_eq_none] at unasked
      rw [leaf_terms_of_leaf node isLeaf, unasked]
      rfl
  | and children positive induction | or children positive induction =>
      rw [asked_group rfl, List.any_eq_false] at unasked
      rw [leaf_terms_logical, List.flatMap_eq_nil_iff]
      intro child member
      exact induction child member (Bool.eq_false_iff.mpr (unasked child member))

/-- A tree that the engine is not asked about does not depend on what the engine finds. -/
theorem unasked_answers (record : Record) {query : Query}
    (positive : query.containsNegation = false) (unasked : query.isAsked = false)
    (first second : Term → Bool) : SameAnswers record first second query := by
  apply same_answers record
  intro term sought
  rw [unasked_leaf_terms query positive unasked] at sought
  cases sought

end Query

end FederatedSearch
