import FederatedSearch.Federation.Search

/-!
Weights of a search. The request, the members and their indexes give weights one after the
other. A node is ranked with the last weight that was given under its id, and an index with the
last one that was given under its id at its node, or else with the default one.
-/

namespace FederatedSearch

/-- The weight that a request gives a node. If it gives several, the last one counts. -/
def SearchRequest.weightOf? (request : SearchRequest) (node : String) : Option Float32 :=
  Document.find? node (request.nodeWeights.getD []).reverse

def Member.indexWeight? (member : Member) (index : String) : Option Float32 :=
  member.indexes.reverse.findSome? fun descriptor =>
    if descriptor.id = index then descriptor.weight else none

section

variable {State Item Value : Type}

/-- If every step may give a value in place of the one before, the last one given stays. -/
theorem read_after_fold (read : State → Value) (given : Item → Option Value)
    {step : State → Item → State}
    (each : ∀ state item, read (step state item) = (given item).getD (read state))
    (state : State) (items : List Item) :
    read (items.foldl step state) = (items.reverse.findSome? given).getD (read state) := by
  induction items generalizing state with
  | nil => rfl
  | cons item rest ih =>
      rw [List.foldl_cons, ih, each, List.reverse_cons, List.findSome?_append,
        List.findSome?_singleton, Option.getD_or]

theorem find_some_of_shared {items : List Item} {given : Item → Option Value} {item : Item}
    {value : Option Value} (among : item ∈ items) (own : given item = value)
    (others : ∀ other ∈ items, given other = value ∨ given other = none) :
    items.findSome? given = value := by
  cases found : items.findSome? given with
  | none => exact (List.findSome?_eq_none_iff.mp found item among).symm.trans own
  | some first =>
      obtain ⟨other, member, gives⟩ := List.exists_of_findSome?_eq_some found
      rcases others other member with same | nothing
      · exact gives.symm.trans same
      · rw [gives] at nothing
        cases nothing

theorem Document.find_eq_find_some (key : String) (entries : List (String × Value)) :
    Document.find? key entries =
      entries.findSome? fun entry => if entry.1 = key then some entry.2 else none := by
  induction entries with
  | nil => rfl
  | cons entry rest ih =>
      rw [Document.find?, List.findSome?_cons, ih]
      by_cases same : entry.1 = key <;> simp [same]

end

namespace RankingWeights

variable (weights : RankingWeights Float32)

theorem node_weight_given (node : String) (weight : Float32) (id : String) :
    (weights.withNodeWeight node weight).nodeWeight id =
      (if node = id then some weight else none).getD (weights.nodeWeight id) := by
  rw [nodeWeight, withNodeWeight, Document.find_put]
  by_cases same : node = id
  · rw [if_pos same, if_pos same]
    rfl
  · rw [if_neg same, if_neg same]
    rfl

theorem index_weight_given (node index : String) (weight : Float32) (id other : String) :
    (weights.withIndexWeight node index weight).indexWeight id other =
      (if node = id ∧ index = other then some weight else none).getD
        (weights.indexWeight id other) := by
  rw [indexWeight, withIndexWeight, Document.find_put]
  by_cases sameNode : node = id
  · subst sameNode
    simp only [if_true, Option.bind_some, Document.find_put, true_and]
    by_cases sameIndex : index = other
    · rw [if_pos sameIndex, if_pos sameIndex]
      rfl
    · rw [if_neg sameIndex, if_neg sameIndex, indexWeight]
      cases Document.find? node weights.indexWeights <;> rfl
  · rw [if_neg sameNode, if_neg fun both => sameNode both.1]
    rfl

def withOwnWeight (member : Member) : RankingWeights Float32 :=
  match member.weight with
  | some weight => weights.withNodeWeight member.id weight
  | none => weights

def withDescriptor (node : String) (descriptor : IndexDescriptor) : RankingWeights Float32 :=
  match descriptor.weight with
  | some weight => weights.withIndexWeight node descriptor.id weight
  | none => weights

theorem with_member_eq (member : Member) :
    weights.withMember member =
      member.indexes.foldl (withDescriptor · member.id) (weights.withOwnWeight member) := rfl

theorem node_weight_of_descriptor (node : String) (descriptor : IndexDescriptor) (id : String) :
    (weights.withDescriptor node descriptor).nodeWeight id = weights.nodeWeight id := by
  unfold withDescriptor
  cases descriptor.weight <;> rfl

theorem index_weight_of_descriptor (node : String) (descriptor : IndexDescriptor)
    (id index : String) :
    (weights.withDescriptor node descriptor).indexWeight id index =
      (if node = id ∧ descriptor.id = index then descriptor.weight else none).getD
        (weights.indexWeight id index) := by
  unfold withDescriptor
  cases descriptor.weight with
  | none => rw [ite_self]; rfl
  | some weight => exact index_weight_given weights node descriptor.id weight id index

theorem node_weight_of_own (member : Member) (id : String) :
    (weights.withOwnWeight member).nodeWeight id =
      (if member.id = id then member.weight else none).getD (weights.nodeWeight id) := by
  unfold withOwnWeight
  cases member.weight with
  | none => rw [ite_self]; rfl
  | some weight => exact node_weight_given weights member.id weight id

theorem index_weight_of_own (member : Member) (id index : String) :
    (weights.withOwnWeight member).indexWeight id index = weights.indexWeight id index := by
  unfold withOwnWeight
  cases member.weight <;> rfl

theorem multipliers_of_member (member : Member) :
    (weights.withMember member).multipliers = weights.multipliers := by
  rw [with_member_eq]
  apply List.foldlRecOn member.indexes
    (motive := fun after : RankingWeights Float32 => after.multipliers = weights.multipliers)
  · unfold withOwnWeight
    cases member.weight <;> rfl
  · intro after same descriptor _
    rw [← same, withDescriptor]
    cases descriptor.weight <;> rfl

/-- A member gives its weight under its own id. Its indexes do not touch the weights of nodes. -/
theorem node_weight_of_member (member : Member) (id : String) :
    (weights.withMember member).nodeWeight id =
      (if member.id = id then member.weight else none).getD (weights.nodeWeight id) := by
  have untouched : (weights.withMember member).nodeWeight id =
      (weights.withOwnWeight member).nodeWeight id := by
    rw [with_member_eq]
    apply List.foldlRecOn member.indexes (motive := fun after : RankingWeights Float32 =>
      after.nodeWeight id = (weights.withOwnWeight member).nodeWeight id)
    · rfl
    · intro after same descriptor _
      rw [node_weight_of_descriptor, same]
  rw [untouched, node_weight_of_own]

/-- A member gives the weights of its indexes under its own id. -/
theorem index_weight_of_member (member : Member) (id index : String) :
    (weights.withMember member).indexWeight id index =
      (if member.id = id then member.indexWeight? index else none).getD
        (weights.indexWeight id index) := by
  rw [with_member_eq, read_after_fold (indexWeight · id index) _ fun after descriptor =>
    index_weight_of_descriptor after member.id descriptor id index, index_weight_of_own]
  by_cases same : member.id = id
  · simp only [same, true_and, if_true, Member.indexWeight?]
  · have nothing : member.indexes.reverse.findSome? (fun _ => (none : Option Float32)) = none :=
      List.findSome?_eq_none_iff.mpr fun _ _ => rfl
    simp only [same, false_and, if_false, nothing]

end RankingWeights

/-- What a list of members gives for an id: the last of those with that id counts. -/
def givenBy {Value : Type} (members : List Member) (id : String) (given : Member → Option Value) :
    Option Value :=
  members.reverse.findSome? fun member => if member.id = id then given member else none

section

variable {Value : Type} {members : List Member} {id : String} {given : Member → Option Value}

theorem given_by_member {member : Member} (among : member ∈ members)
    (only : ∀ other ∈ members, other.id = member.id → other = member) :
    givenBy members member.id given = given member := by
  refine find_some_of_shared (List.mem_reverse.mpr among) (if_pos rfl) ?_
  intro other listed
  by_cases same : other.id = member.id
  · rw [only other (List.mem_reverse.mp listed) same]
    exact Or.inl (if_pos rfl)
  · exact Or.inr (if_neg same)

theorem given_by_none (absent : id ∉ members.map (·.id)) : givenBy members id given = none := by
  apply List.findSome?_eq_none_iff.mpr
  intro member listed
  apply if_neg
  rintro rfl
  exact absent (List.mem_map.mpr ⟨member, List.mem_reverse.mp listed, rfl⟩)

end

namespace Federation

variable (federation : Federation) (members : List Member) (request : SearchRequest)

theorem node_weight_of_search (id : String) :
    (federation.weights members request).nodeWeight id =
      ((request.weightOf? id).or (givenBy members id Member.weight)).getD
        federation.settings.defaultNodeWeight := by
  rw [weights, read_after_fold (RankingWeights.nodeWeight · id) _ fun after entry =>
      RankingWeights.node_weight_given after entry.1 entry.2 id,
    read_after_fold (RankingWeights.nodeWeight · id) _ fun after member =>
      RankingWeights.node_weight_of_member after member id, Option.getD_or,
    SearchRequest.weightOf?, Document.find_eq_find_some]
  rfl

theorem multipliers_of_search :
    (federation.weights members request).multipliers = federation.settings.multipliers := by
  rw [weights]
  apply List.foldlRecOn (request.nodeWeights.getD [])
    (motive := fun after : RankingWeights Float32 => after.multipliers = _)
  · apply List.foldlRecOn members
      (motive := fun after : RankingWeights Float32 => after.multipliers = _)
    · rfl
    · intro after same member _
      rw [RankingWeights.multipliers_of_member, same]
  · exact fun after same entry _ => same

theorem index_weight_of_search (id index : String) :
    (federation.weights members request).indexWeight id index =
      (givenBy members id (·.indexWeight? index)).getD
        federation.settings.defaultIndexWeight := by
  have untouched : (federation.weights members request).indexWeight id index =
      (members.foldl RankingWeights.withMember federation.settings.baseWeights).indexWeight
        id index := by
    rw [weights]
    apply List.foldlRecOn (request.nodeWeights.getD [])
      (motive := fun after : RankingWeights Float32 => after.indexWeight id index = _)
    · rfl
    · exact fun after same entry _ => same
  rw [untouched, read_after_fold (RankingWeights.indexWeight · id index) _ fun after member =>
    RankingWeights.index_weight_of_member after member id index]
  rfl

end Federation

end FederatedSearch
