import FederatedSearch.Federation.Basic
import FederatedSearch.Proofs.Gathering

/-!
Which indexes take part in a search. A request is checked against the indexes of all selected
nodes at once, and afterwards each node chooses among its own ones. The choice alone would have
a required index searched even if the request excludes it; the check does not let such a request
pass, so that a node searches no excluded index and all required ones.
-/

namespace FederatedSearch

open FederatedSearch.Index

def HasIndex (members : List Member) (id : String) : Prop :=
  ∃ member ∈ members, ∃ index ∈ member.indexes, index.id = id

def IndexDescriptor.IsRefused (index : IndexDescriptor) (request : SearchRequest) : Prop :=
  index.required = true ∧ index.id ∈ request.excludeIndexes

section

variable {members : List Member} {member : Member} {request : SearchRequest}

theorem is_known_iff {id : String} :
    members.any (·.indexes.any (·.id == id)) = true ↔ HasIndex members id := by
  simp only [List.any_eq_true, beq_iff_eq, HasIndex]

theorem unknown_index_none_iff :
    unknownIndex? members request = none ↔ ∀ id ∈ request.searchIndexes, HasIndex members id := by
  simp only [unknownIndex?, List.find?_eq_none, Bool.not_eq_true', Bool.not_eq_false, is_known_iff]

theorem first_unknown_index {front rest : List String} {id : String}
    (parts : request.searchIndexes = front ++ id :: rest)
    (known : ∀ other ∈ front, HasIndex members other) (unknown : ¬HasIndex members id) :
    unknownIndex? members request = some id := by
  rw [unknownIndex?, List.find?_eq_some_iff_append, parts]
  refine ⟨?_, front, rest, rfl, fun other among => ?_⟩
  · rwa [Bool.not_eq_true', ← Bool.not_eq_true, is_known_iff]
  · rw [Bool.not_not, is_known_iff]
    exact known other among

theorem is_refused_iff {index : IndexDescriptor} :
    (index.required && request.excludeIndexes.contains index.id) = true ↔
      index.IsRefused request := by
  rw [Bool.and_eq_true, List.contains_iff_mem, IndexDescriptor.IsRefused]

theorem excluded_required_none_iff :
    member.excludedRequired? request = none ↔
      ∀ index ∈ member.indexes, ¬index.IsRefused request := by
  simp only [Member.excludedRequired?, List.find?_eq_none, is_refused_iff]

theorem first_excluded_required {front rest : List IndexDescriptor} {index : IndexDescriptor}
    (parts : member.indexes = front ++ index :: rest)
    (before : ∀ other ∈ front, ¬other.IsRefused request) (refused : index.IsRefused request) :
    member.excludedRequired? request = some index := by
  rw [Member.excludedRequired?, List.find?_eq_some_iff_append, parts]
  refine ⟨is_refused_iff.mpr refused, front, rest, rfl, fun other among => ?_⟩
  rw [Bool.not_eq_true', ← Bool.not_eq_true, is_refused_iff]
  exact before other among

/-- The members with a required index that is excluded, each with its first one. -/
def refusals (members : List Member) (request : SearchRequest) : List (String × String) :=
  members.filterMap fun member =>
    (member.excludedRequired? request).map fun index => (member.id, index.id)

theorem refusals_nil_iff : refusals members request = [] ↔
    ∀ member ∈ members, ∀ index ∈ member.indexes, ¬index.IsRefused request := by
  simp only [refusals, List.filterMap_eq_nil_iff, Option.map_eq_none_iff,
    excluded_required_none_iff]

theorem check_indexes_known (known : ∀ id ∈ request.searchIndexes, HasIndex members id) :
    checkIndexes members request =
      match refusals members request with
      | (node, index) :: _ => .error (.indexRequired (some node) index)
      | [] => .ok () := by
  rw [checkIndexes, unknown_index_none_iff.mpr known]
  rfl

theorem check_indexes_ok_iff : checkIndexes members request = .ok () ↔
    (∀ id ∈ request.searchIndexes, HasIndex members id) ∧
      ∀ member ∈ members, ∀ index ∈ member.indexes, ¬index.IsRefused request := by
  rw [← unknown_index_none_iff, ← refusals_nil_iff, checkIndexes, ← refusals]
  cases unknownIndex? members request with
  | some id => simp
  | none => cases refusals members request <;> simp

end

structure ChecksIndexes (members : List Member) (request : SearchRequest) : Prop where
  accepts_iff : checkIndexes members request = .ok () ↔
    (∀ id ∈ request.searchIndexes, HasIndex members id) ∧
      ∀ member ∈ members, ∀ index ∈ member.indexes, ¬index.IsRefused request
  unknown : ∀ front id rest, request.searchIndexes = front ++ id :: rest →
    (∀ other ∈ front, HasIndex members other) → ¬HasIndex members id →
      checkIndexes members request = .error (.indexNotFound none id)
  refused : (∀ id ∈ request.searchIndexes, HasIndex members id) →
    ∀ front member rest, members = front ++ member :: rest →
      (∀ other ∈ front, ∀ index ∈ other.indexes, ¬index.IsRefused request) →
      ∀ before index behind, member.indexes = before ++ index :: behind →
        (∀ other ∈ before, ¬other.IsRefused request) → index.IsRefused request →
          checkIndexes members request = .error (.indexRequired (some member.id) index.id)

theorem checks_indexes (members : List Member) (request : SearchRequest) :
    ChecksIndexes members request := by
  constructor
  case accepts_iff => exact check_indexes_ok_iff
  case unknown =>
    intro front id rest parts known unknown
    rw [checkIndexes, first_unknown_index parts known unknown]
  case refused =>
    intro known front member rest parts spared before index behind inside others refused
    have first : refusals members request =
        (member.id, index.id) :: refusals rest request := by
      rw [refusals, parts, List.filterMap_append, ← refusals, refusals_nil_iff.mpr spared,
        List.nil_append, List.filterMap_cons, first_excluded_required inside others refused]
      rfl
    rw [check_indexes_known known, first]

structure SearchesIndexes (node : Node) (request : SearchRequest) : Prop where
  selected_iff : ∀ index, index ∈ node.selectedIndexes request ↔ index ∈ node.indexes ∧
    (index.descriptor.required = true ∨
      (request.searchIndexes = [] ∨ index.descriptor.id ∈ request.searchIndexes) ∧
        index.descriptor.id ∉ request.excludeIndexes)
  noneExcluded : ∀ index ∈ node.selectedIndexes request,
    index.descriptor.id ∉ request.excludeIndexes
  noneSkipped : ∀ index ∈ node.indexes, index.descriptor.required = true →
    index ∈ node.selectedIndexes request
  /-- Excluded indexes might as well not be there. -/
  excludedUnasked : ∀ query, node.execute query request =
    { node with indexes := node.indexes.filter fun index =>
        !request.excludeIndexes.contains index.descriptor.id }.execute query request
  /-- A search returns what all selected indexes lead to, and does not succeed without an answer
  of every required one. -/
  selectedAsked : ∀ query outcome, node.execute query request = .ok outcome →
    ∃ plan, NodePlan.of node.settings query request = .ok plan ∧
      outcome.hits = (node.selectedIndexes request).flatMap (node.indexHits plan request) ∧
      ∀ index ∈ node.indexes, index.descriptor.required = true →
        ∃ found, index.answer plan.engineText plan.limit plan.markers = .ok found

section

variable {node : Node} {request : SearchRequest}

theorem is_selected_iff {index : IndexDescriptor} : index.isSelected request = true ↔
    index.required = true ∨ (request.searchIndexes = [] ∨ index.id ∈ request.searchIndexes) ∧
      index.id ∉ request.excludeIndexes := by
  simp only [IndexDescriptor.isSelected, SearchRequest.wants, Bool.or_eq_true, Bool.and_eq_true,
    List.isEmpty_iff, List.contains_iff_mem, Bool.not_eq_true', ← Bool.not_eq_true]

theorem selected_not_excluded
    (accepted : ∀ index ∈ node.descriptors, ¬index.IsRefused request) :
    ∀ index ∈ node.selectedIndexes request,
      index.descriptor.id ∉ request.excludeIndexes := by
  intro index selected excluded
  obtain ⟨own, chosen⟩ := List.mem_filter.mp selected
  rcases is_selected_iff.mp chosen with required | ⟨_, notExcluded⟩
  · exact accepted index.descriptor (List.mem_map_of_mem own) ⟨required, excluded⟩
  · exact notExcluded excluded

theorem gather_matches_with (indexes : List NodeIndex) (plan : NodePlan) (index : String)
    (gathering : Gathering) (matched : List Match) :
    { node with indexes }.gatherMatches plan request index gathering matched =
      node.gatherMatches plan request index gathering matched := by
  induction matched generalizing gathering with
  | nil => rfl
  | cons found rest ih =>
      rw [Node.gatherMatches, Node.gatherMatches]
      cases lookUp node.records gathering.known found.id with
      | error failure => rfl
      | ok answer => exact ih _

theorem gather_index_with (indexes : List NodeIndex) (plan : NodePlan) :
    { node with indexes }.gatherIndex plan request = node.gatherIndex plan request := by
  funext gathering index
  rw [Node.gatherIndex, Node.gatherIndex]
  cases index.answer plan.engineText plan.limit plan.markers with
  | ok found => exact gather_matches_with indexes plan index.descriptor.id _ found
  | error reason => rfl

/-- A node does not notice if indexes are taken away that it does not select. -/
theorem execute_without_unselected (kept : NodeIndex → Bool)
    (keeps : ∀ index ∈ node.selectedIndexes request, kept index = true) (query : Query) :
    node.execute query request =
      { node with indexes := node.indexes.filter kept }.execute query request := by
  have same : ({ node with indexes := node.indexes.filter kept }).selectedIndexes request =
      node.selectedIndexes request := by
    rw [Node.selectedIndexes, List.filter_filter, Node.selectedIndexes]
    refine List.filter_congr fun index own => ?_
    cases chosen : index.descriptor.isSelected request with
    | true => rw [keeps index (List.mem_filter.mpr ⟨own, chosen⟩), Bool.and_true]
    | false => rw [Bool.false_and]
  rw [Node.execute, Node.execute]
  cases NodePlan.of node.settings query request with
  | error error => rfl
  | ok plan =>
      simp only [Node.carryOut, same, gather_index_with]
      rfl

theorem searches_indexes (accepted : ∀ index ∈ node.descriptors, ¬index.IsRefused request) :
    SearchesIndexes node request := by
  have selected (index : NodeIndex) : index ∈ node.selectedIndexes request ↔
      index ∈ node.indexes ∧ index.descriptor.isSelected request = true := List.mem_filter
  have notExcluded := selected_not_excluded accepted
  have complete : ∀ index ∈ node.indexes, index.descriptor.required = true →
      index ∈ node.selectedIndexes request := fun index own required =>
    (selected index).mpr ⟨own, is_selected_iff.mpr (.inl required)⟩
  constructor
  case selected_iff =>
    intro index
    rw [selected, is_selected_iff]
  case noneExcluded => exact notExcluded
  case noneSkipped => exact complete
  case excludedUnasked =>
    refine execute_without_unselected _ fun index chosen => ?_
    rw [Bool.not_eq_true', ← Bool.not_eq_true, List.contains_iff_mem]
    exact notExcluded index chosen
  case selectedAsked =>
    intro query outcome success
    obtain ⟨plan, planned, hits, needed⟩ := Node.hits_of_execute success
    refine ⟨plan, planned, hits, fun index own required => ?_⟩
    have answers := needed index (complete index own required) required
    cases answer : index.answer plan.engineText plan.limit plan.markers with
    | ok found => exact ⟨found, rfl⟩
    | error reason =>
        rw [Node.answersPlan, answer] at answers
        cases answers

end

/-- The check and the searches of the nodes agree about which indexes a request may leave out.
A request that passes the check for some members has each of their nodes search its required
indexes, and of the others those that are listed, or all if none is, unless they are excluded. -/
theorem index_selection_is_consistent (members : List Member) (request : SearchRequest) :
    ChecksIndexes members request ∧
      (checkIndexes members request = .ok () → ∀ member ∈ members, ∀ node : Node,
        node.descriptors = member.indexes → SearchesIndexes node request) := by
  refine ⟨checks_indexes members request, fun accepted member among node same => ?_⟩
  apply searches_indexes
  rw [same]
  exact (check_indexes_ok_iff.mp accepted).2 member among

def shelves : Node where
  id := "work"
  access := .full
  weight := none
  indexes := [⟨"titles", true, none⟩, .plain "archive", .plain "drafts"].map fun descriptor =>
    ⟨descriptor, fun _ _ _ => .ok []⟩
  records := (ContentStore.ofList []).source
  settings := .standard

def archiveRequest : SearchRequest :=
  { SearchRequest.forQuery "rust" with searchIndexes := ["archive"], excludeIndexes := ["drafts"] }

theorem archive_and_titles_are_searched :
    checkIndexes [shelves.member] archiveRequest = .ok () ∧
      SearchesIndexes shelves archiveRequest ∧
      (shelves.selectedIndexes archiveRequest).map (·.descriptor.id) = ["titles", "archive"] := by
  have accepted : checkIndexes [shelves.member] archiveRequest = .ok () := rfl
  have searches := (index_selection_is_consistent [shelves.member] archiveRequest).2 accepted
    shelves.member List.mem_cons_self shelves rfl
  exact ⟨accepted, searches, rfl⟩

end FederatedSearch
