import FederatedSearch.Proofs.EngineAnswers

/-!
Which records the query to an engine loses. The engine is not asked about conditions on
other fields. That weakens a conjunction but strengthens a group of alternatives: of such a
group the engine has to find one that it is asked about, even if another one is true.
-/

namespace FederatedSearch

open FederatedSearch.Index

namespace Query

mutual

/-- Somewhere in the tree an alternative holds about which the engine is not asked. From there
up every group of alternatives is missed and every conjunction holds. -/
def losesIf (holds missed : Query → Bool) : Query → Bool
  | .logical .and children => holds (.logical .and children) && anyLosesIf holds missed children
  | .logical .or children =>
      missed (.logical .or children) &&
        (children.any (fun child => !child.isAsked && holds child) ||
          anyLosesIf holds missed children)
  | _ => false

def anyLosesIf (holds missed : Query → Bool) : List Query → Bool
  | [] => false
  | child :: rest => losesIf holds missed child || anyLosesIf holds missed rest

end

section

variable {holds missed : Query → Bool}

theorem any_loses_if_eq (children : List Query) :
    anyLosesIf holds missed children = children.any (losesIf holds missed) := by
  induction children with
  | nil => rfl
  | cons child rest induction => rw [anyLosesIf, induction, List.any_cons]

theorem loses_if_and (children : List Query) :
    (logical .and children).losesIf holds missed = true ↔
      holds (logical .and children) = true ∧
        ∃ child ∈ children, child.losesIf holds missed = true := by
  rw [losesIf, any_loses_if_eq, Bool.and_eq_true, List.any_eq_true]

theorem loses_if_or (children : List Query) :
    (logical .or children).losesIf holds missed = true ↔
      missed (logical .or children) = true ∧
        ((∃ child ∈ children, child.isAsked = false ∧ holds child = true) ∨
          ∃ child ∈ children, child.losesIf holds missed = true) := by
  rw [losesIf, any_loses_if_eq, Bool.and_eq_true, Bool.or_eq_true, List.any_eq_true,
    List.any_eq_true]
  simp only [Bool.and_eq_true, Bool.not_eq_true']

theorem loses_if_leaf (leaf : Query) (isLeaf : leaf.isLeaf = true) :
    leaf.losesIf holds missed = false := by
  cases leaf with
  | logical operator children => cases isLeaf
  | comparison | textSearch | field | literal => rfl

theorem loses_if_mono {couldHold couldMiss : Query → Bool}
    (holding : ∀ query, query.containsNegation = false → holds query = true →
      couldHold query = true)
    (missing : ∀ query, missed query = true → couldMiss query = true) (query : Query)
    (positive : query.containsNegation = false) (lost : query.losesIf holds missed = true) :
    query.losesIf couldHold couldMiss = true := by
  induction query, positive using positive_induction with
  | leaf node positive isLeaf =>
      rw [loses_if_leaf node isLeaf] at lost
      cases lost
  | and children positive induction =>
      obtain ⟨groupHolds, child, member, childLost⟩ := (loses_if_and children).mp lost
      rw [loses_if_and]
      exact ⟨holding _ positive groupHolds, child, member, induction child member childLost⟩
  | or children positive induction =>
      have below := (positive_children positive).2
      obtain ⟨groupMissed, inChildren⟩ := (loses_if_or children).mp lost
      rw [loses_if_or]
      apply And.intro (missing _ groupMissed)
      rcases inChildren with ⟨child, member, unasked, childHolds⟩ | ⟨child, member, childLost⟩
      · exact Or.inl ⟨child, member, unasked, holding child (below child member) childHolds⟩
      · exact Or.inr ⟨child, member, induction child member childLost⟩

end

/-- The record is lost: an alternative is true of it about which the engine is not asked, and
the engine finds none of the others. -/
def loses (record : Record) (decides : Term → Bool) : Query → Bool :=
  losesIf (holdsBy (answered record decides)) fun query => !query.isFound decides

/-- The record may be lost, depending on what the engine finds. -/
def overlooks (record : Record) : Query → Bool := losesIf (couldHold record) isAsked

theorem not_found_or {decides : Term → Bool} {children : List Query} :
    (logical .or children).isFound decides = false ↔ children.any isAsked = true ∧
      ∀ child ∈ children, child.isAsked = true → child.isFound decides = false := by
  rw [found_or, Bool.or_eq_false_iff, Bool.not_eq_false', List.any_eq_false]
  apply and_congr_right
  intro _
  constructor
  · intro missed child member asked
    exact Bool.eq_false_iff.mpr (missed child (List.mem_filter.mpr ⟨member, asked⟩))
  · intro missed child among
    obtain ⟨member, asked⟩ := List.mem_filter.mp among
    exact Bool.eq_false_iff.mp (missed child member asked)

theorem loses_iff {record : Record} {decides : Term → Bool} (query : Query)
    (positive : query.containsNegation = false) :
    query.loses record decides = true ↔
      query.holdsBy (answered record decides) = true ∧ query.isFound decides = false := by
  unfold loses
  induction query, positive using positive_induction with
  | leaf node positive isLeaf =>
      rw [loses_if_leaf node isLeaf, holds_by_leaf _ node isLeaf]
      constructor
      · intro impossible
        cases impossible
      · rintro ⟨holds, notFound⟩
        rw [found_of_answered node isLeaf holds] at notFound
        cases notFound
  | and children positive induction =>
      rw [loses_if_and]
      apply and_congr_right
      intro holds
      rw [holds_by_and, List.all_eq_true] at holds
      rw [found_and, List.all_eq_false]
      constructor
      · rintro ⟨child, member, lost⟩
        have notFound := ((induction child member).mp lost).2
        exact ⟨child, member, Bool.eq_false_iff.mp notFound⟩
      · rintro ⟨child, member, notFound⟩
        have lost := (induction child member).mpr
          ⟨holds child member, Bool.eq_false_iff.mpr notFound⟩
        exact ⟨child, member, lost⟩
  | or children positive induction =>
      rw [loses_if_or, Bool.not_eq_true', and_comm]
      apply and_congr_left
      intro notFound
      rw [holds_by_or, List.any_eq_true]
      constructor
      · rintro (⟨child, member, _, holds⟩ | ⟨child, member, lost⟩)
        · exact ⟨child, member, holds⟩
        · exact ⟨child, member, ((induction child member).mp lost).1⟩
      · rintro ⟨child, member, holds⟩
        cases asked : child.isAsked with
        | false => exact Or.inl ⟨child, member, asked, holds⟩
        | true =>
            have childNotFound := (not_found_or.mp notFound).2 child member asked
            have childLost := (induction child member).mpr ⟨holds, childNotFound⟩
            exact Or.inr ⟨child, member, childLost⟩

theorem overlooks_of_loses {record : Record} {decides : Term → Bool} (query : Query)
    (positive : query.containsNegation = false) (lost : query.loses record decides = true) :
    query.overlooks record = true := by
  have missing : ∀ query, (!isFound decides query) = true → query.isAsked = true := by
    intro query missed
    exact asked_of_not_found ((Bool.not_eq_true' _).mp missed)
  exact loses_if_mono (fun _ => could_hold_of_holds) missing query positive lost

/-- If all terms of a tree are distinct, some engine loses each record that may be lost. -/
theorem lost_of_overlooks {record : Record} (query : Query)
    (positive : query.containsNegation = false) (distinct : query.leafTerms.Nodup)
    (overlooked : query.overlooks record = true) :
    ∃ decides, query.holdsBy (answered record decides) = true ∧ query.isFound decides = false := by
  unfold overlooks at overlooked
  induction query, positive using positive_induction with
  | leaf node positive isLeaf =>
      rw [loses_if_leaf node isLeaf] at overlooked
      cases overlooked
  | and children positive induction =>
      rw [leaf_terms_logical] at distinct
      obtain ⟨couldHold, child, member, childOverlooked⟩ := (loses_if_and children).mp overlooked
      obtain ⟨own, holds, notFound⟩ := induction child member
        (separate_siblings member distinct).1 childOverlooked
      -- All other parts of the conjunction are granted, so that only this child fails.
      obtain ⟨decides, sameChild, others⟩ := splice_siblings record member distinct own true
      rw [Query.couldHold, holds_by_and, List.all_eq_true] at couldHold
      refine ⟨decides, ?_, ?_⟩
      · rw [holds_by_and, List.all_eq_true]
        intro sibling among
        rcases others sibling among with rfl | sameSibling
        · rw [sameChild.1, holds]
        · rw [sameSibling.1]
          exact couldHold sibling among
      · rw [found_and, List.all_eq_false]
        have childNotFound := sameChild.2.trans notFound
        exact ⟨child, member, Bool.eq_false_iff.mp childNotFound⟩
  | or children positive induction =>
      have below := (positive_children positive).2
      rw [leaf_terms_logical] at distinct
      obtain ⟨asked, ⟨child, member, unasked, couldHold⟩ | ⟨child, member, childOverlooked⟩⟩ :=
        (loses_if_or children).mp overlooked
      · -- An engine that finds nothing misses the alternative that it is not asked about.
        have same := unasked_answers record (below child member) unasked
          (fun _ => false) fun _ => true
        refine ⟨fun _ => false, ?_, found_denied _ asked⟩
        rw [holds_by_or, List.any_eq_true]
        exact ⟨child, member, same.1.trans couldHold⟩
      · obtain ⟨own, holds, notFound⟩ := induction child member
          (separate_siblings member distinct).1 childOverlooked
        obtain ⟨decides, sameChild, others⟩ := splice_siblings record member distinct own false
        have groupAsked : children.any isAsked = true :=
          List.any_eq_true.mpr ⟨child, member, asked_of_not_found notFound⟩
        refine ⟨decides, ?_, not_found_or.mpr ⟨groupAsked, ?_⟩⟩
        · rw [holds_by_or, List.any_eq_true]
          exact ⟨child, member, sameChild.1.trans holds⟩
        · intro sibling among siblingAsked
          rcases others sibling among with rfl | sameSibling
          · rw [sameChild.2, notFound]
          · rw [sameSibling.2, found_denied sibling siblingAsked]

/-- The query to the engine holds of a record of which the tree is true, unless the record is
lost. What a tree cannot overlook is never lost; what it overlooks is lost by some engine, as
long as no term stands in the tree twice. -/
theorem engine_query_keeps_iff (query : Query) (positive : query.containsNegation = false)
    (record : Record) :
    (∀ finds : Record → Term → Bool,
      (query.holdsBy (answered record (finds record)) = true →
        query.fullTextPart.engineQuery.holds (finds record) = true) ↔
      query.loses record (finds record) = false) ∧
    (query.overlooks record = false →
      ∀ finds : Record → Term → Bool, query.loses record (finds record) = false) ∧
    (query.leafTerms.Nodup → query.overlooks record = true →
      ∃ finds : Record → Term → Bool, query.loses record (finds record) = true) := by
  refine ⟨?_, ?_, ?_⟩
  · intro finds
    rw [engine_query_holds, ← Bool.not_eq_true, loses_iff query positive, not_and,
      Bool.not_eq_false]
  · intro kept finds
    apply Bool.eq_false_iff.mpr
    intro lost
    rw [overlooks_of_loses query positive lost] at kept
    cases kept
  · intro distinct overlooked
    obtain ⟨decides, holds, notFound⟩ := lost_of_overlooks query positive distinct overlooked
    exact ⟨fun _ => decides, (loses_iff query positive).mpr ⟨holds, notFound⟩⟩

def rustOrWork : Query := .or [.text "rust", .compare "tags" .equal (.text "work")]

def workNote : Record := (Record.plain "note" "meeting" ⟨0, 0⟩).withTags ["work"]

theorem rust_or_work_overlooks_tag :
    rustOrWork.containsNegation = false ∧ rustOrWork.leafTerms.Nodup ∧
    rustOrWork.overlooks workNote = true ∧
    (∃ finds : Record → Term → Bool, rustOrWork.loses workNote (finds workNote) = true) ∧
    rustOrWork.overlooks (workNote.withTags []) = false ∧
    ∀ finds : Record → Term → Bool,
      rustOrWork.loses (workNote.withTags []) (finds (workNote.withTags [])) = false := by
  have positive : rustOrWork.containsNegation = false := by decide
  have distinct : rustOrWork.leafTerms.Nodup := by decide
  have overlooked : rustOrWork.overlooks workNote = true := by decide
  have kept : rustOrWork.overlooks (workNote.withTags []) = false := by decide
  exact ⟨positive, distinct, overlooked,
    (engine_query_keeps_iff rustOrWork positive workNote).2.2 distinct overlooked, kept,
    (engine_query_keeps_iff rustOrWork positive (workNote.withTags [])).2.1 kept⟩

/-- The tree is true of the note by its tag, but the engine is asked for the text only. -/
theorem tagged_note_is_lost :
    rustOrWork.containsNegation = false ∧ rustOrWork.compile.isOk = true ∧
    rustOrWork.leafTerms = [⟨none, "rust"⟩] ∧
    ∃ finds : Record → Term → Bool,
      rustOrWork.holdsBy (answered workNote (finds workNote)) = true ∧
      rustOrWork.fullTextPart.engineQuery.holds (finds workNote) = false := by
  refine ⟨by decide, by decide, by decide, fun _ _ => false, ?_, ?_⟩
  · decide
  · decide

end Query

end FederatedSearch
