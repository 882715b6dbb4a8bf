import FederatedSearch.Node.Holdings
import FederatedSearch.Proofs.Addresses
import FederatedSearch.Proofs.GivenWeights
import FederatedSearch.Proofs.Response

/-!
Weights from settings. A federation that is built from valid settings has one member for each
configured node, under the name of the node, and ranks with the weights that are configured for
the nodes and indexes it searches. A weight of the request stands in place of that of a node.
Each weight counts for the node and the index that it was given for, and for no others.
-/

namespace FederatedSearch

def Holdings.member (holdings : Holdings) (search : SearchSettings)
    (records : NodeSettings → RecordSource) (node : NodeSettings) : Member :=
  (holdings.node search node (records node)).member

theorem distinct_indexes_of_faultless {node : String} {seen : List String}
    {indexes : List IndexSettings} (faultless : indexFault? node seen indexes = none) :
    (indexes.map (·.id)).Nodup ∧ ∀ index ∈ indexes, index.id ∉ seen := by
  induction indexes generalizing seen with
  | nil => simp
  | cons index rest ih =>
      rw [indexFault?] at faultless
      split at faultless
      · cases faultless
      · next new =>
        split at faultless
        · cases faultless
        · obtain ⟨distinct, unseen⟩ := ih faultless
          simp only [List.contains_iff_mem] at new
          refine ⟨List.nodup_cons.mpr ⟨?_, distinct⟩, ?_⟩
          · intro repeated
            obtain ⟨other, member, same⟩ := List.mem_map.mp repeated
            exact unseen other member (same ▸ List.mem_cons_self)
          · intro other member
            rcases List.mem_cons.mp member with rfl | later
            · exact new
            · exact fun old => unseen other later (List.mem_cons_of_mem _ old)

theorem distinct_indexes_of_valid {settings : Settings} (valid : settings.validate = .ok ())
    {entry : String × NodeSettings} (member : entry ∈ settings.nodes.entries) :
    (entry.2.indexes.map (·.id)).Nodup := by
  have faultless := faultless_nodes (faultless_of_valid valid) entry member
  unfold NodeSettings.fault? at faultless
  split at faultless
  · cases faultless
  · split at faultless
    · cases faultless
    · exact (distinct_indexes_of_faultless faultless).1

/-- An entry whose name comes last is put at the end. -/
theorem insert_entry_last {α : Type} {name : String} {value : α} {entries : List (String × α)}
    (last : ∀ entry ∈ entries, entry.1 < name) :
    insertEntry name value entries = entries ++ [(name, value)] := by
  induction entries with
  | nil => rfl
  | cons first rest ih =>
      have before : first.1 < name := last first List.mem_cons_self
      have notBelow : ¬name < first.1 := fun below =>
        String.lt_irrefl _ (String.lt_trans before below)
      have different : name ≠ first.1 := by
        rintro rfl
        exact String.lt_irrefl _ before
      rw [insertEntry, if_neg notBelow, if_neg different,
        ih fun entry member => last entry (List.mem_cons_of_mem first member), List.cons_append]

namespace Federation

theorem members_added {member : NodeSettings → Member} (named : ∀ node, (member node).id = node.id)
    {entries : List (String × NodeSettings)} (sorted : entries.Pairwise (·.1 < ·.1))
    (own : ∀ entry ∈ entries, entry.1 = entry.2.id) (federation : Federation)
    (before : ∀ known ∈ federation.members.entries, ∀ entry ∈ entries, known.1 < entry.1) :
    (entries.foldl (fun federation entry => federation.withMember (member entry.2))
        federation).members.entries =
      federation.members.entries ++ entries.map fun entry => (entry.1, member entry.2) := by
  induction entries generalizing federation with
  | nil => simp
  | cons entry rest ih =>
      obtain ⟨below, sortedRest⟩ := List.pairwise_cons.mp sorted
      have key : (member entry.2).id = entry.1 :=
        (named entry.2).trans (own entry List.mem_cons_self).symm
      have here : (federation.withMember (member entry.2)).members.entries =
          federation.members.entries ++ [(entry.1, member entry.2)] := by
        rw [withMember, Catalog.insert, key]
        exact insert_entry_last fun known among => before known among entry List.mem_cons_self
      rw [List.foldl_cons, ih sortedRest, here, List.append_assoc, List.map_cons,
        List.singleton_append]
      · exact fun other among => own other (List.mem_cons_of_mem entry among)
      · intro known among later inRest
        rw [here] at among
        rcases List.mem_append.mp among with old | new
        · exact before known old later (List.mem_cons_of_mem entry inRest)
        · rw [List.mem_singleton.mp new]
          exact below later inRest

/-- Valid settings describe a federation with a member for each of their nodes. -/
theorem federation_of_valid {settings : Settings} (valid : settings.validate = .ok ())
    (member : NodeSettings → Member) (named : ∀ node, (member node).id = node.id) :
    ∃ federation, ofSettings settings member = .ok federation ∧
      federation.settings = settings.search ∧
      federation.members.entries =
        settings.nodes.entries.map fun entry => (entry.1, member entry.2) := by
  refine ⟨settings.nodes.entries.foldl
    (fun federation entry => federation.withMember (member entry.2)) (new settings.search),
    ?_, ?_, ?_⟩
  · rw [ofSettings, valid]
    rfl
  · apply List.foldlRecOn settings.nodes.entries
      (motive := fun federation : Federation => federation.settings = settings.search)
    · rfl
    · exact fun federation same entry _ => same
  · apply members_added named settings.nodes.sorted (own_ids_of_valid valid)
    intro known among
    cases among

theorem members_of_found {federation : Federation} {named : Bool} {ids : List String}
    {members : List Member} (found : federation.membersOf named ids = .ok members) :
    ∀ member ∈ members, ∃ id, federation.members.find? id = some member := by
  induction ids generalizing members with
  | nil =>
      cases found
      simp
  | cons id rest ih =>
      rw [membersOf] at found
      split at found
      · cases found
      · next first here =>
        split at found
        · cases others : federation.membersOf named rest with
          | error error =>
              rw [others] at found
              cases found
          | ok later =>
              rw [others] at found
              cases found
              intro member among
              rcases List.mem_cons.mp among with rfl | among
              · exact ⟨id, here⟩
              · exact ih others member among
        · split at found
          · cases found
          · exact ih found

theorem selected_found {federation : Federation} {request : SearchRequest}
    {selected : List Member} (success : federation.select request = .ok selected) :
    ∀ member ∈ selected, ∃ id, federation.members.find? id = some member := by
  unfold select at success
  split at success
  · cases success
  · split at success
    · cases success
    · obtain ⟨members, found, success⟩ := bind_eq_ok.mp success
      split at success
      · cases success
      · cases success
        exact members_of_found found

/-- A response is a page of what is ranked with the weights of the selected members. -/
theorem ranked_with_weights_of_selected {federation : Federation} {request : SearchRequest}
    {response : SearchResponse} (success : federation.search request = .ok response) :
    ∃ (selected : List Member) (gathered : Gathered), federation.select request = .ok selected ∧
      response.results = page request
        (rankedResults (federation.weights selected request) request gathered.outcomes) := by
  obtain ⟨selected, _, gathered, chosen, -, -, rfl⟩ := steps_of_search success
  exact ⟨selected, gathered, chosen, rfl⟩

end Federation

namespace Holdings

variable (holdings : Holdings) (search : SearchSettings) (records : NodeSettings → RecordSource)
  {node : NodeSettings}

theorem member_indexes :
    (holdings.member search records node).indexes = node.indexes.map .ofSettings := by
  simp [member, Holdings.node, Node.member, Node.descriptors, NodeIndex.ofSearchIndex]

theorem index_weight_of_configured (distinct : (node.indexes.map (·.id)).Nodup)
    {index : IndexSettings} (configured : index ∈ node.indexes) :
    (holdings.member search records node).indexWeight? index.id = index.weight := by
  rw [Member.indexWeight?, member_indexes]
  have listed : IndexDescriptor.ofSettings index ∈
      (node.indexes.map IndexDescriptor.ofSettings).reverse :=
    List.mem_reverse.mpr (List.mem_map_of_mem configured)
  refine find_some_of_shared listed (if_pos rfl) ?_
  intro descriptor among
  obtain ⟨other, member, rfl⟩ := List.mem_map.mp (List.mem_reverse.mp among)
  by_cases same : other.id = index.id
  · rw [List.inj_on_of_nodup_map distinct member configured same]
    exact Or.inl (if_pos rfl)
  · exact Or.inr (if_neg same)

theorem index_weight_of_unknown {index : String} (unknown : index ∉ node.indexes.map (·.id)) :
    (holdings.member search records node).indexWeight? index = none := by
  rw [Member.indexWeight?, member_indexes]
  apply List.findSome?_eq_none_iff.mpr
  intro descriptor among
  obtain ⟨other, member, rfl⟩ := List.mem_map.mp (List.mem_reverse.mp among)
  apply if_neg
  rintro rfl
  exact unknown (List.mem_map.mpr ⟨other, member, rfl⟩)

end Holdings

/-- The weights with which the nodes of the given ids are ranked for a request: those that the
request and the settings give for just that node or index, or else the default ones. -/
structure Settings.ConfiguresWeights (settings : Settings) (request : SearchRequest)
    (ids : List String) (weights : RankingWeights Float32) : Prop where
  node : ∀ entry ∈ settings.nodes.entries, entry.1 ∈ ids →
    weights.nodeWeight entry.1 =
      ((request.weightOf? entry.1).or entry.2.weight).getD settings.search.defaultNodeWeight
  index : ∀ entry ∈ settings.nodes.entries, entry.1 ∈ ids → ∀ index ∈ entry.2.indexes,
    weights.indexWeight entry.1 index.id = index.weight.getD settings.search.defaultIndexWeight
  otherNode : ∀ id, id ∉ ids →
    weights.nodeWeight id = (request.weightOf? id).getD settings.search.defaultNodeWeight
  otherIndex : ∀ id index,
    (∀ entry ∈ settings.nodes.entries, entry.1 = id → id ∈ ids →
      index ∉ entry.2.indexes.map (·.id)) →
    weights.indexWeight id index = settings.search.defaultIndexWeight

def Settings.HasMembers (settings : Settings) (member : NodeSettings → Member)
    (members : List Member) : Prop :=
  ∀ known ∈ members, ∃ entry ∈ settings.nodes.entries,
    known.id = entry.1 ∧ known = member entry.2

section

variable {settings : Settings} {holdings : Holdings} {records : NodeSettings → RecordSource}
  {federation : Federation}

theorem selected_configured
    (built : federation.members.entries = settings.nodes.entries.map fun entry =>
      (entry.1, holdings.member settings.search records entry.2))
    (own : ∀ entry ∈ settings.nodes.entries, entry.1 = entry.2.id) {request : SearchRequest}
    {selected : List Member} (success : federation.select request = .ok selected) :
    settings.HasMembers (holdings.member settings.search records) selected := by
  intro member among
  obtain ⟨id, found⟩ := Federation.selected_found success member among
  have listed := Catalog.mem_of_find found
  rw [built] at listed
  obtain ⟨entry, configured, same⟩ := List.mem_map.mp listed
  cases same
  exact ⟨entry, configured, (own entry configured).symm, rfl⟩

/-- Of members of configured nodes, the one under the name of an entry gives what is given for
that name. -/
theorem given_by_entry {selected : List Member}
    (configured : settings.HasMembers (holdings.member settings.search records) selected)
    {entry : String × NodeSettings} (present : entry ∈ settings.nodes.entries)
    (chosen : entry.1 ∈ selected.map (·.id)) {Value : Type} (given : Member → Option Value) :
    givenBy selected entry.1 given =
      given (holdings.member settings.search records entry.2) := by
  -- Names are distinct in the catalog, so that a member is known by its id.
  have known : ∀ member ∈ selected, member.id = entry.1 →
      member = holdings.member settings.search records entry.2 := by
    intro member among named
    obtain ⟨other, listed, own, same⟩ := configured member among
    have sameEntry : other = entry :=
      List.inj_on_of_nodup_map settings.nodes.nodup_names listed present (own.symm.trans named)
    rw [same, sameEntry]
  obtain ⟨member, among, named⟩ := List.mem_map.mp chosen
  have only : ∀ other ∈ selected, other.id = member.id → other = member := by
    intro other listed same
    rw [known other listed (same.trans named), known member among named]
  rw [← named, given_by_member among only, known member among named]

/-- The members that valid settings describe bring their own weights and no others. -/
theorem weights_of_selected (valid : settings.validate = .ok ())
    (search : federation.settings = settings.search) (request : SearchRequest)
    {selected : List Member}
    (configured : settings.HasMembers (holdings.member settings.search records) selected) :
    settings.ConfiguresWeights request (selected.map (·.id))
      (federation.weights selected request) := by
  constructor
  case node =>
    intro entry present chosen
    rw [Federation.node_weight_of_search, search, given_by_entry configured present chosen]
    rfl
  case index =>
    intro entry present chosen index listed
    rw [Federation.index_weight_of_search, search, given_by_entry configured present chosen,
      Holdings.index_weight_of_configured _ _ _ (distinct_indexes_of_valid valid present) listed]
  case otherNode =>
    intro id absent
    rw [Federation.node_weight_of_search, search, given_by_none absent, Option.or_none]
  case otherIndex =>
    intro id index unknown
    rw [Federation.index_weight_of_search, search]
    by_cases chosen : id ∈ selected.map (·.id)
    · obtain ⟨member, among, rfl⟩ := List.mem_map.mp chosen
      obtain ⟨entry, present, named, -⟩ := configured member among
      rw [named] at chosen unknown ⊢
      rw [given_by_entry configured present chosen,
        Holdings.index_weight_of_unknown _ _ _ (unknown entry present rfl chosen)]
      rfl
    · rw [given_by_none chosen]
      rfl

end

/-- Valid settings describe a federation with one member for each node, under its name. Whatever
is requested, its searches rank with the weights that are configured for the selected nodes. -/
theorem configured_weights_reach_ranking {settings : Settings} (valid : settings.validate = .ok ())
    (holdings : Holdings) (records : NodeSettings → RecordSource) :
    ∃ federation,
      Federation.ofSettings settings (holdings.member settings.search records) =
        .ok federation ∧
      (federation.members.entries = settings.nodes.entries.map fun entry =>
        (entry.1, holdings.member settings.search records entry.2)) ∧
      ∀ request,
        (∀ selected, federation.select request = .ok selected →
          settings.HasMembers (holdings.member settings.search records) selected ∧
          settings.ConfiguresWeights request (selected.map (·.id))
            (federation.weights selected request)) ∧
        ∀ response, federation.search request = .ok response →
          ∃ (selected : List Member) (gathered : Gathered),
            federation.select request = .ok selected ∧
            response.results = Federation.page request (Federation.rankedResults
              (federation.weights selected request) request gathered.outcomes) := by
  obtain ⟨federation, built, search, members⟩ :=
    Federation.federation_of_valid valid (holdings.member settings.search records) fun node => rfl
  refine ⟨federation, built, members, fun request => ⟨?_, ?_⟩⟩
  · intro selected success
    have configured := selected_configured members (own_ids_of_valid valid) success
    exact ⟨configured, weights_of_selected valid search request configured⟩
  · exact fun response => Federation.ranked_with_weights_of_selected

def homeNode : NodeSettings where
  id := "home"
  access := .full
  weight := some 0.5
  indexes := [{ IndexSettings.forPath "notes" "home.db" with weight := some 2 }]

def workNode : NodeSettings := { NodeSettings.forId "work" with
  indexes := [.forPath "notes" "work.db"] }

def homeAndWork : Settings := (Settings.standard.withNode homeNode).withNode workNode

def workFirst : SearchRequest := (SearchRequest.forQuery "milk").withNodeWeight "work" 3

def noHoldings : Holdings := .empty fun _ => .memory

def noRecords : NodeSettings → RecordSource := fun _ _ => .ok none

theorem home_and_work_weigh_as_configured :
    homeAndWork.validate = .ok () ∧
    ∃ (federation : Federation) (selected : List Member),
      Federation.ofSettings homeAndWork (noHoldings.member homeAndWork.search noRecords) =
        .ok federation ∧
      federation.ids = ["home", "work"] ∧
      federation.select workFirst = .ok selected ∧ selected.map (·.id) = ["home", "work"] ∧
      (federation.weights selected workFirst).nodeWeight "home" = 0.5 ∧
      (federation.weights selected workFirst).nodeWeight "work" = 3 ∧
      (federation.weights selected workFirst).indexWeight "home" "notes" = 2 ∧
      (federation.weights selected workFirst).indexWeight "work" "notes" = 1 := by
  have faultless : homeAndWork.fault? = none := by decide +kernel
  have valid : homeAndWork.validate = .ok () := by rw [Settings.validate, faultless]
  obtain ⟨⟨settings, parser, ⟨entries, sorted⟩⟩, built, rfl, ranks⟩ :=
    configured_weights_reach_ranking valid noHoldings noRecords
  let members := [homeNode, workNode].map (noHoldings.member homeAndWork.search noRecords)
  have selects : Federation.select ⟨settings, parser, ⟨_, sorted⟩⟩ workFirst = .ok members := rfl
  have weighs := ((ranks workFirst).1 members selects).2
  have home : ("home", homeNode) ∈ homeAndWork.nodes.entries := List.mem_cons_self
  have work : ("work", workNode) ∈ homeAndWork.nodes.entries :=
    List.mem_cons_of_mem _ List.mem_cons_self
  refine ⟨valid, _, members, built, rfl, selects, rfl, ?_, ?_, ?_, ?_⟩
  · exact weighs.node _ home List.mem_cons_self
  · exact weighs.node _ work (List.mem_cons_of_mem _ List.mem_cons_self)
  · exact weighs.index _ home List.mem_cons_self _ List.mem_cons_self
  · exact weighs.index _ work (List.mem_cons_of_mem _ List.mem_cons_self) _ List.mem_cons_self

end FederatedSearch
