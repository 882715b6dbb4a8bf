import FederatedSearch.Proofs.DoubleNegation
import FederatedSearch.Proofs.Grouping
import FederatedSearch.Proofs.QueryReading

/-!
What becomes of the leaves of a tree that seek a text. Below a negation the text is an excluded
term, wherever the negation stands and however many there are; elsewhere the engine is asked
about it. So no leaf is lost, and the engine is asked for everything only if there is no leaf
of the second kind.
-/

namespace FederatedSearch

open FederatedSearch.Text FederatedSearch.Index

def Place.StandsBefore : Place → Place → Prop
  | first :: rest, second :: others =>
      first.index < second.index ∨ first.index = second.index ∧ StandsBefore rest others
  | _, _ => False

/-- A leaf, and the way to it from the root of a tree. -/
structure Occurrence where
  place : Place
  leaf : Query

namespace Occurrence

def below (step : Step) (occurrence : Occurrence) : Occurrence :=
  { occurrence with place := step :: occurrence.place }

def isNegated (occurrence : Occurrence) : Bool := occurrence.place.any (·.operator.isNegation)

/-- The text that the leaf seeks, without the blanks around it, and the column in which it is
sought. A blank text is not sought. -/
def sought? (occurrence : Occurrence) : Option ExcludedTerm :=
  match occurrence.leaf.fullTextLeaf? with
  | some ⟨column, text⟩ =>
      if isBlankText text then none else some ⟨trimmed text, column.map (·.name)⟩
  | none => none

@[simp] theorem sought_below (step : Step) (occurrence : Occurrence) :
    (occurrence.below step).sought? = occurrence.sought? := rfl

@[simp] theorem negated_below (step : Step) (occurrence : Occurrence) :
    (occurrence.below step).isNegated = (step.operator.isNegation || occurrence.isNegated) := rfl

end Occurrence

namespace Query

mutual

def occurrences : Query → List Occurrence
  | .logical operator children => occurrencesOfAll operator 0 children
  | leaf => [⟨[], leaf⟩]

/-- The leaves below the children of a node, which are counted from an index on. -/
def occurrencesOfAll (operator : LogicalOperator) (index : Nat) : List Query → List Occurrence
  | [] => []
  | child :: rest =>
      (occurrences child).map (·.below ⟨operator, index⟩) ++
        occurrencesOfAll operator (index + 1) rest

end

def nodeAt? : Place → Query → Option Query
  | [], node => some node
  | step :: rest, .logical operator children =>
      if step.operator = operator then children[step.index]?.bind (nodeAt? rest) else none
  | _ :: _, _ => none

structure IsLeafListing (query : Query) (leaves : List Occurrence) : Prop where
  complete : ∀ occurrence, occurrence ∈ leaves ↔
    query.nodeAt? occurrence.place = some occurrence.leaf ∧ occurrence.leaf.isLeaf = true
  ordered : leaves.Pairwise fun first second => first.place.StandsBefore second.place

theorem occurrences_of_leaf (leaf : Query) (isLeaf : leaf.isLeaf = true) :
    leaf.occurrences = [⟨[], leaf⟩] := by
  cases leaf with
  | logical operator children => cases isLeaf
  | comparison | textSearch | field | literal => rfl

theorem node_below_leaf {leaf node : Query} (isLeaf : leaf.isLeaf = true) {place : Place} :
    leaf.nodeAt? place = some node ↔ place = [] ∧ node = leaf := by
  cases place with
  | nil => simp [nodeAt?, eq_comm]
  | cons step rest =>
      cases leaf with
      | logical operator children => cases isLeaf
      | comparison | textSearch | field | literal => simp [nodeAt?]

theorem mem_occurrences_of_all {operator : LogicalOperator} {index : Nat} {children : List Query}
    {occurrence : Occurrence} :
    occurrence ∈ occurrencesOfAll operator index children ↔
      ∃ (position : Nat) (child : Query) (inner : Occurrence), children[position]? = some child ∧
        inner ∈ child.occurrences ∧
          inner.below ⟨operator, index + position⟩ = occurrence := by
  induction children generalizing index with
  | nil => simp [occurrencesOfAll]
  | cons child rest ih =>
      rw [occurrencesOfAll, List.mem_append, List.mem_map, ih]
      constructor
      · rintro (⟨inner, member, same⟩ | ⟨position, other, inner, found, member, same⟩)
        · exact ⟨0, child, inner, rfl, member, same⟩
        · refine ⟨position + 1, other, inner, found, member, ?_⟩
          rw [← same, Nat.add_assoc, Nat.add_comm 1]
      · rintro ⟨position, other, inner, found, member, same⟩
        cases position with
        | zero =>
            obtain rfl : child = other := Option.some.inj found
            exact Or.inl ⟨inner, member, same⟩
        | succ position =>
            refine Or.inr ⟨position, other, inner, found, member, ?_⟩
            rw [← same, Nat.add_assoc, Nat.add_comm 1]

theorem occurrences_complete (query : Query) (occurrence : Occurrence) :
    occurrence ∈ query.occurrences ↔
      query.nodeAt? occurrence.place = some occurrence.leaf ∧ occurrence.leaf.isLeaf = true := by
  induction query using node_induction generalizing occurrence with
  | leaf node isLeaf =>
      obtain ⟨place, leaf⟩ := occurrence
      rw [occurrences_of_leaf node isLeaf, node_below_leaf isLeaf, List.mem_singleton]
      constructor
      · intro same
        cases same
        exact ⟨⟨rfl, rfl⟩, isLeaf⟩
      · rintro ⟨⟨rfl, rfl⟩, _⟩
        rfl
  | logical operator children ih =>
      rw [occurrences, mem_occurrences_of_all]
      constructor
      · rintro ⟨position, child, inner, found, member, rfl⟩
        obtain ⟨there, isLeaf⟩ := (ih child (List.mem_of_getElem? found) inner).mp member
        simp [Occurrence.below, nodeAt?, found, there, isLeaf]
      · rintro ⟨there, isLeaf⟩
        obtain ⟨place, leaf⟩ := occurrence
        cases place with
        | nil =>
            cases there
            cases isLeaf
        | cons step rest =>
            obtain ⟨other, position⟩ := step
            simp only [nodeAt?] at there
            split at there
            · next same =>
                obtain ⟨child, found, below⟩ := Option.bind_eq_some_iff.mp there
                refine ⟨position, child, ⟨rest, leaf⟩, found, ?_, ?_⟩
                · exact (ih child (List.mem_of_getElem? found) _).mpr ⟨below, isLeaf⟩
                · simp [Occurrence.below, same]
            · cases there

theorem occurrences_of_all_ordered {operator : LogicalOperator} {children : List Query}
    (each : ∀ child ∈ children,
      child.occurrences.Pairwise fun first second => first.place.StandsBefore second.place)
    (index : Nat) :
    (occurrencesOfAll operator index children).Pairwise fun first second =>
      first.place.StandsBefore second.place := by
  induction children generalizing index with
  | nil => exact List.Pairwise.nil
  | cons child rest ih =>
      have behind := ih (fun other member => each other (List.mem_cons_of_mem child member))
        (index + 1)
      rw [occurrencesOfAll, List.pairwise_append]
      refine ⟨?_, behind, ?_⟩
      · rw [List.pairwise_map]
        apply (each child List.mem_cons_self).imp
        intro first second before
        exact Or.inr ⟨rfl, before⟩
      · intro first here second there
        obtain ⟨inner, _, rfl⟩ := List.mem_map.mp here
        obtain ⟨position, _, other, _, _, rfl⟩ := mem_occurrences_of_all.mp there
        apply Or.inl
        show index < index + 1 + position
        omega

theorem occurrences_listed (query : Query) : query.IsLeafListing query.occurrences where
  complete := query.occurrences_complete
  ordered := by
    induction query using node_induction with
    | leaf node isLeaf =>
        rw [occurrences_of_leaf node isLeaf]
        exact List.pairwise_singleton _ _
    | logical operator children ih => exact occurrences_of_all_ordered ih 0

theorem sought_of_leaf (leaf : Query) :
    Occurrence.sought? ⟨[], leaf⟩ = leaf.askedTerm?.map ExcludedTerm.ofTerm := by
  rw [Occurrence.sought?, askedTerm?]
  cases leaf.fullTextLeaf? with
  | none => rfl
  | some sought =>
      obtain ⟨column, text⟩ := sought
      simp only [Option.bind_some, FullTextLeaf.term?, trimmed_empty_iff]
      cases isBlankText text <;> rfl

theorem filter_map_occurrences {β : Type} {operator : LogicalOperator}
    {read : Occurrence → Option β}
    (unchanged : ∀ index occurrence, read (occurrence.below ⟨operator, index⟩) = read occurrence)
    (children : List Query) :
    (logical operator children).occurrences.filterMap read =
      children.flatMap fun child => child.occurrences.filterMap read := by
  have ofAll (index : Nat) : (occurrencesOfAll operator index children).filterMap read =
      children.flatMap fun child => child.occurrences.filterMap read := by
    induction children generalizing index with
    | nil => rfl
    | cons child rest ih =>
        have here : read ∘ (·.below ⟨operator, index⟩) = read := by
          funext occurrence
          exact unchanged index occurrence
        rw [occurrencesOfAll, List.filterMap_append, List.filterMap_map, here, ih,
          List.flatMap_cons]
  exact ofAll 0

theorem sought_terms (query : Query) :
    query.occurrences.filterMap Occurrence.sought? = query.leafTerms.map .ofTerm := by
  induction query using node_induction with
  | leaf node isLeaf =>
      rw [occurrences_of_leaf node isLeaf, leaf_terms_of_leaf node isLeaf, List.filterMap_cons,
        sought_of_leaf]
      cases node.askedTerm? <;> rfl
  | logical operator children ih =>
      rw [filter_map_occurrences fun _ _ => rfl, leaf_terms_logical, List.map_flatMap]
      exact List.flatMap_congr ih

theorem negated_of_negation {operator : LogicalOperator} (negative : operator.isNegation = true)
    {children : List Query} {occurrence : Occurrence}
    (member : occurrence ∈ (logical operator children).occurrences) :
    occurrence.isNegated = true := by
  obtain ⟨_, _, inner, _, _, rfl⟩ := mem_occurrences_of_all.mp member
  simp [negative]

theorem negated_sought_terms (query : Query) :
    (query.occurrences.filter Occurrence.isNegated).filterMap Occurrence.sought? =
      query.negatedTerms.map .ofTerm := by
  induction query using node_induction with
  | leaf node isLeaf =>
      rw [occurrences_of_leaf node isLeaf, negated_terms_of_leaf node isLeaf]
      rfl
  | logical operator children ih =>
      cases negative : operator.isNegation with
      | true =>
          have all : (logical operator children).occurrences.filter Occurrence.isNegated =
              (logical operator children).occurrences :=
            List.filter_eq_self.mpr fun occurrence => negated_of_negation negative
          rw [all, sought_terms, negated_terms_negation negative, leaf_terms_logical]
      | false =>
          simp only [List.filterMap_filter] at ih ⊢
          rw [filter_map_occurrences, negated_terms_group negative, List.map_flatMap]
          · exact List.flatMap_congr ih
          · intro index occurrence
            simp [negative]

/-- The engine is asked about a tree if a leaf outside of its negations seeks a text. -/
theorem asked_iff_sought (query : Query) :
    query.isAsked = true ↔ ∃ occurrence ∈ query.occurrences,
      occurrence.isNegated = false ∧ occurrence.sought?.isSome = true := by
  induction query using node_induction with
  | leaf node isLeaf =>
      simp [asked_leaf node isLeaf, occurrences_of_leaf node isLeaf, sought_of_leaf,
        Occurrence.isNegated]
  | logical operator children ih =>
      cases negative : operator.isNegation with
      | true =>
          have unasked : (logical operator children).isAsked = false := by
            cases operator with
            | and | or => cases negative
            | not | nor => rfl
          rw [unasked]
          constructor
          · exact fun asked => nomatch asked
          · rintro ⟨occurrence, member, positive, _⟩
            rw [negated_of_negation negative member] at positive
            cases positive
      | false =>
          rw [asked_group negative, List.any_eq_true]
          constructor
          · rintro ⟨child, member, asked⟩
            obtain ⟨inner, below, positive, seeks⟩ := (ih child member).mp asked
            obtain ⟨position, found⟩ := List.getElem?_of_mem member
            refine ⟨inner.below ⟨operator, 0 + position⟩, ?_, ?_, seeks⟩
            · exact mem_occurrences_of_all.mpr ⟨position, child, inner, found, below, rfl⟩
            · simp [negative, positive]
          · rintro ⟨occurrence, member, positive, seeks⟩
            obtain ⟨position, child, inner, found, below, rfl⟩ :=
              mem_occurrences_of_all.mp member
            rw [Occurrence.negated_below, Bool.or_eq_false_iff] at positive
            have among := List.mem_of_getElem? found
            exact ⟨child, among, (ih child among).mpr ⟨inner, below, positive.2, seeks⟩⟩

/-- Nothing that is sought is written as the star. -/
theorem star_iff_match_all (query : EngineQuery) :
    query.write = "*" ↔ query.isMatchAll = true := by
  cases query with
  | everything => simp [EngineQuery.write, EngineQuery.isMatchAll]
  | matching expression =>
      obtain ⟨c, starts, _, _, noStar⟩ := write_opening expression
      constructor
      · intro star
        have letters : expression.write = ['*'] := by
          have same := congrArg String.toList star
          rw [EngineQuery.write, String.toList_ofList] at same
          exact same
        rw [letters] at starts
        exact absurd (Option.some.inj starts).symm noStar
      · intro isMatchAll
        cases isMatchAll

theorem positive_negates_nothing (query : Query) (positive : query.containsNegation = false) :
    query.negatedTerms = [] := by
  induction query, positive using positive_induction with
  | and children positive ih | or children positive ih =>
      rw [negated_terms_group rfl, List.flatMap_eq_nil_iff]
      exact ih
  | leaf node positive isLeaf => exact negated_terms_of_leaf node isLeaf

/-- Every leaf is accounted for. The excluded terms are what the leaves below a negation seek,
in order, each once; and an index is asked for everything if and only if no other leaf seeks
anything, even a star. -/
theorem full_text_leaves_accounted_for (query : Query) :
    let leaves := query.occurrences
    let part := query.fullTextPart
    query.IsLeafListing leaves ∧
    part.excludedTerms =
      ((leaves.filter Occurrence.isNegated).filterMap Occurrence.sought?).eraseDups ∧
    part.excludedTerms.Nodup ∧
    (part.engineQuery.isMatchAll = true ↔
      ∀ occurrence ∈ leaves, occurrence.isNegated = false → occurrence.sought? = none) ∧
    (part.engineQuery.write = "*" ↔ part.engineQuery.isMatchAll = true) ∧
    (query.containsNegation = false → part.excludedTerms = []) ∧
    ((∀ occurrence ∈ leaves, occurrence.leaf.isFullTextLeaf = true →
      occurrence.isNegated = true) → part.engineQuery.write = "*") := by
  intro leaves part
  have terms : part.excludedTerms =
      ((leaves.filter Occurrence.isNegated).filterMap Occurrence.sought?).eraseDups := by
    rw [negated_sought_terms]
    rfl
  have matchAll : part.engineQuery.isMatchAll = true ↔
      ∀ occurrence ∈ leaves, occurrence.isNegated = false → occurrence.sought? = none := by
    rw [match_all_iff_unasked, ← Bool.not_eq_true, asked_iff_sought]
    simp [leaves]
  refine ⟨query.occurrences_listed, terms, ?_, matchAll, star_iff_match_all _, ?_, ?_⟩
  · rw [terms]
    exact erase_dups_nodup _
  · intro positive
    have none := query.positive_negates_nothing positive
    simp [part, fullTextPart, none]
  · intro allNegated
    rw [star_iff_match_all, matchAll]
    intro occurrence member positive
    have structured : occurrence.leaf.isFullTextLeaf = false := by
      apply Bool.eq_false_iff.mpr
      intro fullText
      rw [allNegated occurrence member fullText] at positive
      cases positive
    rw [isFullTextLeaf, Option.isSome_eq_false_iff, Option.isNone_iff_eq_none] at structured
    rw [Occurrence.sought?, structured]

example : (Query.text "*").fullTextPart.engineQuery.isMatchAll = false := by decide

end Query

end FederatedSearch
