import FederatedSearch.Proofs.ConfiguredWeights

/-!
Which members of a federation take part in a search. The candidates of a request are the ids
that it names, or else all ids in order, without the excluded ones and each once. A member that
was named has to be there and to be searchable; of members that were not named, those that
cannot be searched are left out. No other member has any influence on the search.
-/

namespace FederatedSearch

section

variable {α : Type} (catalog : Catalog α) (change : α → α)

def Catalog.mapValues : Catalog α where
  entries := catalog.entries.map fun entry => (entry.1, change entry.2)
  sorted := List.pairwise_map.mpr catalog.sorted

theorem Catalog.find_map_values (name : String) :
    (catalog.mapValues change).find? name = (catalog.find? name).map change := by
  simp only [Catalog.find?, Catalog.mapValues, List.find?_map, Option.map_map]
  rfl

theorem Catalog.names_map_values : (catalog.mapValues change).names = catalog.names := by
  rw [names, names, mapValues, List.map_map]
  rfl

theorem Catalog.find_is_some_iff (name : String) :
    (catalog.find? name).isSome = true ↔ name ∈ catalog.names := by
  constructor
  · intro found
    obtain ⟨value, found⟩ := Option.isSome_iff_exists.mp found
    exact List.mem_map.mpr ⟨_, Catalog.mem_of_find found, rfl⟩
  · intro known
    obtain ⟨entry, member, rfl⟩ := List.mem_map.mp known
    rw [catalog.find_of_mem member]
    rfl

end

/-- Of the ids that are asked for, those that are not excluded, each at the place where it is
first mentioned. -/
structure IsCandidateList (asked excluded ids : List String) : Prop where
  mem_iff : ∀ id, id ∈ ids ↔ id ∈ asked ∧ id ∉ excluded
  ascending : ids.Pairwise fun first second => asked.idxOf first < asked.idxOf second

namespace IsCandidateList

variable {asked excluded ids others : List String}

theorem nodup (candidates : IsCandidateList asked excluded ids) : ids.Nodup :=
  candidates.ascending.imp fun below same => by
    rw [same] at below
    exact lt_irrefl _ below

theorem unique (first : IsCandidateList asked excluded ids)
    (second : IsCandidateList asked excluded others) : ids = others := by
  have same : ids.Perm others := (List.perm_ext_iff_of_nodup first.nodup second.nodup).mpr
    fun id => (first.mem_iff id).trans (second.mem_iff id).symm
  exact same.eq_of_pairwise (fun _ _ _ _ less greater => absurd greater (lt_asymm less))
    first.ascending second.ascending

theorem of_filter (asked excluded : List String) :
    IsCandidateList asked excluded (asked.filter fun id => !excluded.contains id).eraseDups where
  mem_iff id := by simp
  ascending := erase_dups_filter_ascend _ _

end IsCandidateList

namespace Federation

variable {federation : Federation} {request : SearchRequest} {ids : List String}

def KeepsIds (federation : Federation) : Prop :=
  ∀ entry ∈ federation.members.entries, entry.2.id = entry.1

theorem new_keeps_ids (settings : SearchSettings) : (new settings).KeepsIds := by
  intro entry member
  cases member

theorem with_member_keeps_ids (own : federation.KeepsIds) (member : Member) :
    (federation.withMember member).KeepsIds := by
  intro entry among
  rcases mem_insert_entry among with rfl | known
  · rfl
  · exact own entry known

theorem of_settings_keeps_ids {settings : Settings} {member : NodeSettings → Member}
    (built : ofSettings settings member = .ok federation) : federation.KeepsIds := by
  unfold ofSettings at built
  cases valid : settings.validate with
  | error error =>
      rw [valid] at built
      cases built
  | ok _ =>
      rw [valid] at built
      cases built
      exact List.foldlRecOn settings.nodes.entries _ (new_keeps_ids settings.search)
        fun federation own entry _ => with_member_keeps_ids own (member entry.2)

/-- The ids that a request asks for: those that it names, or else all. -/
def asked (federation : Federation) (request : SearchRequest) : List String :=
  if request.nodes = [] then federation.ids else request.nodes

theorem candidates_listed (federation : Federation) (request : SearchRequest) :
    IsCandidateList (federation.asked request) request.excludeNodes
      (federation.candidates request) := by
  have listed := IsCandidateList.of_filter (federation.asked request) request.excludeNodes
  unfold asked at listed ⊢
  unfold candidates
  simp only [List.isEmpty_iff]
  exact listed

def searchable? (federation : Federation) (id : String) : Option Member :=
  (federation.members.find? id).filter (·.access.canSearch)

/-- There is a member under the id, and it can be searched. -/
def canReach (federation : Federation) (id : String) : Bool :=
  (federation.searchable? id).isSome

theorem searchable_eq_some {id : String} {member : Member} :
    federation.searchable? id = some member ↔
      federation.members.find? id = some member ∧ member.access.canSearch = true :=
  Option.filter_eq_some_iff

theorem members_of_reached (named : Bool) {front : List String}
    (reachable : ∀ id ∈ front, federation.canReach id = true) (rest : List String) :
    federation.membersOf named (front ++ rest) =
      (federation.membersOf named rest).map (front.filterMap federation.searchable? ++ ·) := by
  induction front with
  | nil => cases taken : federation.membersOf named rest <;> simp [taken, Except.map]
  | cons id front ih =>
      obtain ⟨member, taken⟩ := Option.isSome_iff_exists.mp (reachable id List.mem_cons_self)
      obtain ⟨found, searchable⟩ := searchable_eq_some.mp taken
      rw [List.cons_append, membersOf, found]
      simp only [searchable, if_true]
      rw [ih fun other among => reachable other (List.mem_cons_of_mem id among),
        List.filterMap_cons_some taken]
      cases federation.membersOf named rest <;> rfl

theorem members_of_unknown (named : Bool) {id : String} (unknown : id ∉ federation.ids)
    (rest : List String) :
    federation.membersOf named (id :: rest) = .error (.nodeNotFound id) := by
  have none : federation.members.find? id = none := by
    rw [← Option.not_isSome_iff_eq_none, Catalog.find_is_some_iff]
    exact unknown
  rw [membersOf, none]

theorem found_unreachable {id : String} (known : id ∈ federation.ids)
    (unreachable : federation.canReach id = false) :
    ∃ member, federation.members.find? id = some member ∧ member.access.canSearch = false := by
  obtain ⟨member, found⟩ := Option.isSome_iff_exists.mp (Catalog.find_is_some_iff _ _ |>.mpr known)
  refine ⟨member, found, ?_⟩
  rw [canReach, searchable?, found] at unreachable
  simpa using unreachable

theorem members_of_denied {id : String} (known : id ∈ federation.ids)
    (unreachable : federation.canReach id = false) (rest : List String) :
    federation.membersOf true (id :: rest) = .error (.accessDenied id "node is write-only") := by
  obtain ⟨member, found, closed⟩ := found_unreachable known unreachable
  rw [membersOf, found]
  simp only [closed, Bool.false_eq_true, if_false, if_true]

theorem members_of_skipped {id : String} (known : id ∈ federation.ids)
    (unreachable : federation.canReach id = false) (rest : List String) :
    federation.membersOf false (id :: rest) = federation.membersOf false rest := by
  obtain ⟨member, found, closed⟩ := found_unreachable known unreachable
  rw [membersOf, found]
  simp only [closed, Bool.false_eq_true, if_false]

theorem members_of_known (known : ∀ id ∈ ids, id ∈ federation.ids) :
    federation.membersOf false ids = .ok (ids.filterMap federation.searchable?) := by
  induction ids with
  | nil => rfl
  | cons id rest ih =>
      have others := ih fun other among => known other (List.mem_cons_of_mem id among)
      cases reachable : federation.canReach id with
      | true =>
          have here : ∀ other ∈ [id], federation.canReach other = true := by simpa using reachable
          rw [← List.singleton_append, members_of_reached false here, others,
            List.filterMap_append]
          rfl
      | false =>
          have none : federation.searchable? id = none := by simpa [canReach] using reachable
          rw [members_of_skipped (known id List.mem_cons_self) reachable, others,
            List.filterMap_cons_none none]

theorem ids_of_searchable (own : federation.KeepsIds) (ids : List String) :
    (ids.filterMap federation.searchable?).map (·.id) = ids.filter federation.canReach := by
  induction ids with
  | nil => rfl
  | cons id rest ih =>
      cases taken : federation.searchable? id with
      | none =>
          have unreachable : federation.canReach id = false := by rw [canReach, taken]; rfl
          rw [List.filterMap_cons_none taken, List.filter_cons_of_neg (by simp [unreachable]), ih]
      | some member =>
          have reachable : federation.canReach id = true := by rw [canReach, taken]; rfl
          have named : member.id = id :=
            own _ (Catalog.mem_of_find (searchable_eq_some.mp taken).1)
          rw [List.filterMap_cons_some taken, List.map_cons, List.filter_cons_of_pos reachable, ih,
            named]

def AreSearchable (federation : Federation) (members : List Member) : Prop :=
  ∀ member ∈ members, (member.id, member) ∈ federation.members.entries ∧
    member.access.canSearch = true

theorem are_searchable (own : federation.KeepsIds) (ids : List String) :
    federation.AreSearchable (ids.filterMap federation.searchable?) := by
  intro member among
  obtain ⟨id, -, taken⟩ := List.mem_filterMap.mp among
  obtain ⟨found, searchable⟩ := searchable_eq_some.mp taken
  have entry := Catalog.mem_of_find found
  have named : member.id = id := own _ entry
  exact ⟨named ▸ entry, searchable⟩

def selectionOf : Except SearchError (List Member) → Except SearchError (List Member)
  | .ok [] => .error (.invalidConfiguration none "no searchable nodes selected")
  | result => result

theorem select_eq (filled : federation.members.isEmpty = false)
    (left : federation.candidates request ≠ []) :
    federation.select request = selectionOf
      (federation.membersOf (!request.nodes.isEmpty) (federation.candidates request)) := by
  rw [select, filled]
  cases candidates : federation.candidates request with
  | nil => exact absurd candidates left
  | cons id rest =>
      simp only [Bool.false_eq_true, if_false]
      cases federation.membersOf (!request.nodes.isEmpty) (id :: rest) with
      | error error => rfl
      | ok members => cases members <;> rfl

structure SelectsExactly (federation : Federation) (request : SearchRequest)
    (ids : List String) : Prop where
  noneLeft : ids = [] → federation.select request =
    .error (.invalidConfiguration none "no nodes left to search after exclusions")
  /-- The first candidate that cannot be searched is reported, if it was named. -/
  unknown : request.nodes ≠ [] → ∀ front id rest, ids = front ++ id :: rest →
    (∀ other ∈ front, federation.canReach other = true) → id ∉ federation.ids →
      federation.select request = .error (.nodeNotFound id)
  denied : request.nodes ≠ [] → ∀ front id rest, ids = front ++ id :: rest →
    (∀ other ∈ front, federation.canReach other = true) → id ∈ federation.ids →
      federation.canReach id = false →
      federation.select request = .error (.accessDenied id "node is write-only")
  named : request.nodes ≠ [] → ids ≠ [] → (∀ id ∈ ids, federation.canReach id = true) →
    ∃ selected, federation.select request = .ok selected ∧ selected.map (·.id) = ids ∧
      federation.AreSearchable selected
  unnamed : request.nodes = [] → ids.filter federation.canReach ≠ [] →
    ∃ selected, federation.select request = .ok selected ∧
      selected.map (·.id) = ids.filter federation.canReach ∧ federation.AreSearchable selected
  noneSearchable : request.nodes = [] → ids ≠ [] → ids.filter federation.canReach = [] →
    federation.select request =
      .error (.invalidConfiguration none "no searchable nodes selected")

theorem selects_exactly (filled : federation.members.isEmpty = false)
    (own : federation.KeepsIds) :
    federation.SelectsExactly request (federation.candidates request) := by
  have explicit (named : request.nodes ≠ []) : (!request.nodes.isEmpty) = true := by
    simpa using named
  have implicit (unnamed : request.nodes = []) : (!request.nodes.isEmpty) = false := by
    simpa using unnamed
  have known (unnamed : request.nodes = []) :
      ∀ id ∈ federation.candidates request, id ∈ federation.ids := by
    intro id among
    have asked := ((candidates_listed federation request).mem_iff id).mp among |>.1
    rwa [Federation.asked, if_pos unnamed] at asked
  constructor
  case noneLeft =>
    intro none
    rw [select, filled, none]
    rfl
  case unknown =>
    intro named front id rest parts reached unknown
    rw [select_eq filled (by simp [parts]), explicit named, parts,
      members_of_reached true reached, members_of_unknown true unknown]
    rfl
  case denied =>
    intro named front id rest parts reached known unreachable
    rw [select_eq filled (by simp [parts]), explicit named, parts,
      members_of_reached true reached, members_of_denied known unreachable]
    rfl
  case named =>
    intro named left reached
    have taken := members_of_reached true reached []
    rw [List.append_nil, membersOf] at taken
    have ids := ids_of_searchable own (federation.candidates request)
    rw [List.filter_eq_self.mpr reached] at ids
    refine ⟨_, ?_, ids, are_searchable own _⟩
    rw [select_eq filled left, explicit named, taken, Except.map, List.append_nil]
    cases members : (federation.candidates request).filterMap federation.searchable? with
    | nil =>
        rw [members] at ids
        exact absurd ids.symm left
    | cons first others => rfl
  case unnamed =>
    intro unnamed some
    have ids := ids_of_searchable own (federation.candidates request)
    have left : federation.candidates request ≠ [] := by
      intro none
      rw [none] at some
      exact some rfl
    refine ⟨_, ?_, ids, are_searchable own _⟩
    rw [select_eq filled left, implicit unnamed, members_of_known (known unnamed)]
    cases members : (federation.candidates request).filterMap federation.searchable? with
    | nil =>
        rw [members] at ids
        exact absurd ids.symm some
    | cons first others => rfl
  case noneSearchable =>
    intro unnamed left none
    have ids := ids_of_searchable own (federation.candidates request)
    rw [none, List.map_eq_nil_iff] at ids
    rw [select_eq filled left, implicit unnamed, members_of_known (known unnamed), ids]
    rfl

/-- Members are taken for all ids, or one of the ids is refused. -/
theorem members_of_cases (federation : Federation) (named : Bool) (ids : List String) :
    federation.membersOf named ids = .ok (ids.filterMap federation.searchable?) ∨
      ∃ id ∈ ids, federation.membersOf named ids = .error (.nodeNotFound id) ∨
        federation.membersOf named ids = .error (.accessDenied id "node is write-only") := by
  induction ids with
  | nil => exact .inl rfl
  | cons id rest ih =>
      by_cases known : id ∈ federation.ids
      case neg => exact .inr ⟨id, List.mem_cons_self, .inl (members_of_unknown named known rest)⟩
      cases reachable : federation.canReach id with
      | true =>
          have here : ∀ other ∈ [id], federation.canReach other = true := by simpa using reachable
          rw [← List.singleton_append, members_of_reached named here, List.filterMap_append]
          rcases ih with taken | ⟨other, among, refused | refused⟩
          · exact .inl (by rw [taken]; rfl)
          · exact .inr ⟨other, List.mem_cons_of_mem id among, .inl (by rw [refused]; rfl)⟩
          · exact .inr ⟨other, List.mem_cons_of_mem id among, .inr (by rw [refused]; rfl)⟩
      | false =>
          cases named with
          | true =>
              have denied := members_of_denied known reachable rest
              exact .inr ⟨id, List.mem_cons_self, .inr denied⟩
          | false =>
              have none : federation.searchable? id = none := by simpa [canReach] using reachable
              rw [members_of_skipped known reachable, List.filterMap_cons_none none]
              exact ih.imp_right fun ⟨other, among, refused⟩ =>
                ⟨other, List.mem_cons_of_mem id among, refused⟩

theorem selected_eq {selected : List Member} (success : federation.select request = .ok selected) :
    selected = (federation.candidates request).filterMap federation.searchable? := by
  unfold select at success
  split at success
  · cases success
  · split at success
    · cases success
    · obtain ⟨members, found, success⟩ := bind_eq_ok.mp success
      have same : selected = members := by
        split at success
        · cases success
        · exact (Except.ok.inj success).symm
      rw [same]
      rcases federation.members_of_cases (!request.nodes.isEmpty)
          (federation.candidates request) with taken | ⟨_, _, refused | refused⟩
      · exact Except.ok.inj (found.symm.trans taken)
      · cases found.symm.trans refused
      · cases found.symm.trans refused

/-- Only a candidate is reported as unknown. -/
theorem candidate_of_not_found {id : String}
    (reported : federation.select request = .error (.nodeNotFound id)) :
    id ∈ federation.candidates request := by
  unfold select at reported
  split at reported
  · cases reported
  · split at reported
    · cases reported
    · rcases federation.members_of_cases (!request.nodes.isEmpty)
          (federation.candidates request) with taken | ⟨other, among, refused | refused⟩
      · rw [taken] at reported
        simp only [bind, Except.bind] at reported
        split at reported <;> cases reported
      · rw [refused] at reported
        cases reported
        exact among
      · rw [refused] at reported
        cases reported

def mapMembers (federation : Federation) (change : Member → Member) : Federation :=
  { federation with members := federation.members.mapValues change }

/-- A change leaves the candidates alone: who can be searched stays as it is, and can still be
searched if it could be. -/
def Spares (change : Member → Member) (federation : Federation) (ids : List String) : Prop :=
  ∀ id ∈ ids, ∀ member, federation.members.find? id = some member →
    (change member).access = member.access ∧
    (member.access.canSearch = true → change member = member)

theorem members_of_mapped {change : Member → Member} (spares : Spares change federation ids)
    (named : Bool) :
    (federation.mapMembers change).membersOf named ids = federation.membersOf named ids := by
  induction ids with
  | nil => rfl
  | cons id rest ih =>
      have others := ih fun other among => spares other (List.mem_cons_of_mem id among)
      rw [membersOf, membersOf, mapMembers, Catalog.find_map_values, ← mapMembers, others]
      cases found : federation.members.find? id with
      | none => rfl
      | some member =>
          obtain ⟨access, fixed⟩ := spares id List.mem_cons_self member found
          simp only [Option.map_some, access]
          cases searchable : member.access.canSearch with
          | true => rw [fixed searchable]
          | false => rfl

theorem select_mapped {change : Member → Member}
    (spares : Spares change federation (federation.candidates request)) :
    (federation.mapMembers change).select request = federation.select request := by
  have ids : (federation.mapMembers change).candidates request = federation.candidates request := by
    unfold candidates Federation.ids mapMembers
    rw [Catalog.names_map_values]
  have size : (federation.mapMembers change).members.isEmpty = federation.members.isEmpty :=
    List.isEmpty_map
  have members := members_of_mapped spares
  unfold select
  rw [ids, size]
  cases candidates : federation.candidates request with
  | nil => rfl
  | cons id rest =>
      rw [candidates] at members
      simp only [members]

/-- Members that are not searched have no influence on a search. -/
theorem search_mapped {change : Member → Member}
    (spares : Spares change federation (federation.candidates request)) :
    (federation.mapMembers change).search request = federation.search request := by
  rw [search, search, select_mapped spares]
  rfl

/-- Only the members selected from the candidates have a part in searches. -/
structure SearchesSelected (federation : Federation) (request : SearchRequest)
    (ids : List String) : Prop where
  once : ∀ selected, federation.select request = .ok selected → (selected.map (·.id)).Nodup
  admitted : ∀ selected, federation.select request = .ok selected → ∀ member ∈ selected,
    member.id ∉ request.excludeNodes ∧ member.access.canSearch = true
  unreported : ∀ id ∈ request.excludeNodes, federation.select request ≠ .error (.nodeNotFound id)
  /-- What a response reports comes from one search of each selected member. -/
  dispatched : ∀ response, federation.search request = .ok response →
    ∃ selected query gathered, federation.select request = .ok selected ∧
      federation.dispatch selected query request = .ok gathered ∧
      response = federation.response selected request gathered
  alone : ∀ change, Spares change federation ids →
    (federation.mapMembers change).search request = federation.search request

theorem searches_selected (own : federation.KeepsIds) :
    federation.SearchesSelected request (federation.candidates request) := by
  have listed := candidates_listed federation request
  have ids {selected : List Member} (success : federation.select request = .ok selected) :
      selected.map (·.id) = (federation.candidates request).filter federation.canReach := by
    rw [selected_eq success]
    exact ids_of_searchable own _
  constructor
  case once =>
    intro selected success
    rw [ids success]
    exact listed.nodup.filter _
  case admitted =>
    intro selected success member among
    have candidate : member.id ∈ federation.candidates request := by
      have named : member.id ∈ selected.map (·.id) := List.mem_map_of_mem among
      rw [ids success] at named
      exact (List.mem_filter.mp named).1
    refine ⟨((listed.mem_iff _).mp candidate).2, ?_⟩
    rw [selected_eq success] at among
    exact (are_searchable own _ member among).2
  case unreported =>
    intro id excluded reported
    exact ((listed.mem_iff id).mp (candidate_of_not_found reported)).2 excluded
  case dispatched =>
    intro response success
    obtain ⟨selected, query, gathered, chosen, -, searched, same⟩ := steps_of_search success
    exact ⟨selected, query, gathered, chosen, searched, same⟩
  case alone => exact fun _ => search_mapped

/-- The candidates of a request are determined by what it asks for and excludes, and they
determine what is selected. Nothing but the selected members is searched, and each of them once. -/
theorem node_selection_is_exact (federation : Federation) (request : SearchRequest)
    (filled : federation.members.isEmpty = false) (own : federation.KeepsIds) :
    ∃ ids, IsCandidateList (federation.asked request) request.excludeNodes ids ∧
      (∀ others, IsCandidateList (federation.asked request) request.excludeNodes others →
        others = ids) ∧
      federation.SelectsExactly request ids ∧ federation.SearchesSelected request ids := by
  have listed := candidates_listed federation request
  exact ⟨_, listed, fun _ other => other.unique listed, selects_exactly filled own,
    searches_selected own⟩

def quietMember (id : String) (access : NodeAccess) : Member :=
  ⟨id, access, none, [], fun _ _ => ⟨0, .success ⟨id, [], []⟩⟩⟩

def office : Federation :=
  [quietMember "work" .readOnly, quietMember "archive" .writeOnly, quietMember "home" .full].foldl
    withMember (new .standard)

theorem office_keeps_ids : office.KeepsIds :=
  with_member_keeps_ids (with_member_keeps_ids
    (with_member_keeps_ids (new_keeps_ids .standard) _) _) _

def workAndHome : SearchRequest :=
  { SearchRequest.forQuery "milk" with
    nodes := ["work", "ghost", "home", "work"], excludeNodes := ["ghost"] }

theorem office_searches_work_and_home :
    office.members.isEmpty = false ∧ office.KeepsIds ∧
    ∃ selected, office.select workAndHome = .ok selected ∧
      selected.map (·.id) = ["work", "home"] := by
  have filled : office.members.isEmpty = false := by decide
  obtain ⟨ids, -, only, exact, -⟩ := node_selection_is_exact office workAndHome filled
    office_keeps_ids
  have listed : IsCandidateList (office.asked workAndHome) workAndHome.excludeNodes
      ["work", "home"] := IsCandidateList.of_filter _ _
  obtain rfl := only _ listed
  obtain ⟨selected, success, same, -⟩ := exact.named (by decide) (by decide) (by decide)
  exact ⟨filled, office_keeps_ids, selected, success, same⟩

end Federation

end FederatedSearch
