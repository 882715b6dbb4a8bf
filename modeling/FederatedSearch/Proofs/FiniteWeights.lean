import FederatedSearch.Proofs.ArrivalOrder
import FederatedSearch.Proofs.ConfiguredWeights
import FederatedSearch.Proofs.ScoreArithmetic

/-!
Weights that poison nothing. No weight of settings or of a request is below zero. Infinite ones
are admitted, and an infinite weight makes the score of a worthless hit undefined, which counts
as the best relevance there is. With finite weights no score is undefined, and what is worthless
to every index stays so.
-/

namespace FederatedSearch

open Float.Model (UnpackedFloat)
open FederatedSearch.Float32 (IsZero)

namespace IndexHit

def InRange (hit : IndexHit Float32) : Prop := 0 ≤ hit.baseRelevance ∧ hit.baseRelevance ≤ 1

def worthless (node index : String) : IndexHit Float32 :=
  ⟨.plain "note" "milk" ⟨0, 0⟩, node, index, none, 0⟩

theorem worthless_in_range (node index : String) : (worthless node index).InRange := by
  have zero : (worthless node index).baseRelevance = 0 := rfl
  rw [InRange, zero]
  exact ⟨by decide +kernel, by decide +kernel⟩

theorem worthless_zero (node index : String) : IsZero (worthless node index).baseRelevance := by
  have zero : (worthless node index).baseRelevance = 0 := rfl
  rw [zero]
  exact ⟨.positive, rfl⟩

end IndexHit

namespace RankingWeights

variable {weights : RankingWeights Float32} {hits : List (IndexHit Float32)}

structure AllFinite (weights : RankingWeights Float32) : Prop where
  node : ∀ id, (weights.nodeWeight id).isFinite = true
  index : ∀ id index, (weights.indexWeight id index).isFinite = true
  multiplier : ∀ multiplier ∈ weights.multipliers, multiplier.isFinite = true

/-- No score is undefined, and a record that is worthless to every index does not become relevant
by as many hits as 32 bits can count. -/
structure PoisonNothing (weights : RankingWeights Float32) : Prop where
  defined : ∀ hits : List (IndexHit Float32), (∀ hit ∈ hits, hit.InRange) →
    ∀ hit ∈ hits, (weights.weighted hit).isNaN = false
  worthless : ∀ hits : List (IndexHit Float32), (∀ hit ∈ hits, hit.InRange) →
    ∀ row ∈ weights.rerank hits,
      (∀ hit ∈ hitsOf hits row.record.id, (hit.baseRelevance == 0) = true) →
      (hitsOf hits row.record.id).length < weights.multipliers.length + 2 ^ 31 →
      ¬0 < row.relevance

section scores

variable {hit : IndexHit Float32}

theorem weighted_defined (finite : weights.AllFinite) (inRange : hit.InRange) :
    (weights.weighted hit).isNaN = false := by
  obtain ⟨base, small⟩ := Float32.small_of_unit inRange.1 inRange.2
  have product := Float32.small_mul_finite base small (finite.index hit.node hit.index)
  exact Float32.mul_defined product (finite.node hit.node)

theorem weighted_zero (finite : weights.AllFinite) (zero : IsZero hit.baseRelevance) :
    IsZero (weights.weighted hit) :=
  Float32.zero_mul (Float32.zero_mul zero (finite.index hit.node hit.index)) (finite.node hit.node)

theorem finite_of_weighted (hit : IndexHit Float32) (zero : IsZero hit.baseRelevance)
    (defined : (weights.weighted hit).isNaN = false) :
    (weights.indexWeight hit.node hit.index).isFinite = true ∧
      (weights.nodeWeight hit.node).isFinite = true := by
  rw [← Bool.not_eq_true] at defined
  have index : (weights.indexWeight hit.node hit.index).isFinite = true := by
    by_contra infinite
    have undefined := Float32.zero_mul_undefined zero (Bool.not_eq_true _ ▸ infinite)
    exact defined (Float32.undefined_mul undefined)
  refine ⟨index, ?_⟩
  by_contra infinite
  have product := Float32.zero_mul zero index
  exact defined (Float32.zero_mul_undefined product (Bool.not_eq_true _ ▸ infinite))

end scores

section multipliers

variable {position : ℕ}

theorem multiplier_configured (inside : position < weights.multipliers.length) :
    weights.multiplier position = weights.multipliers[position] := by
  rw [multiplier, List.getElem?_eq_getElem inside]

theorem halvings_small {length : ℕ} (few : position + 1 < length + 2 ^ 31) :
    0 ≤ halvings length position := by
  unfold halvings
  rw [Nat.pow_eq, Int.bmod_def]
  omega

theorem multiplier_finite (finite : weights.AllFinite)
    (few : position + 1 < weights.multipliers.length + 2 ^ 31) :
    (weights.multiplier position).isFinite = true := by
  rw [multiplier]
  split
  next found => exact finite.multiplier _ (List.mem_of_getElem? found)
  next found =>
    obtain ⟨half, small⟩ := Float32.half_power_small (halvings_small few)
    have last := finite.multiplier _ (List.mem_of_getLast? found)
    exact Float32.mul_small_finite last half small
  next => rfl

theorem halvings_wrapped {length : ℕ} (many : position + 1 = length + 2 ^ 31) :
    halvings length position = -2 ^ 31 := by
  unfold halvings
  rw [Nat.pow_eq, Int.bmod_def]
  omega

/-- The first place that 32 bits cannot count has no finite multiplier. -/
theorem multiplier_infinite (filled : weights.multipliers ≠ [])
    (many : position + 1 = weights.multipliers.length + 2 ^ 31) :
    (weights.multiplier position).isFinite = false := by
  have behind : weights.multipliers[position]? = none := List.getElem?_eq_none (by omega)
  rw [multiplier, behind, List.getLast?_eq_some_getLast filled, halvings_wrapped many]
  exact Float32.mul_infinite Float32.half_power_infinite

end multipliers

section totals

variable {scores : List Float32} {position : ℕ} {sum : Float32}

theorem total_zero (zeros : ∀ score ∈ scores, IsZero score) (zero : IsZero sum)
    (finite : ∀ place, place < position + scores.length →
      (weights.multiplier place).isFinite = true) :
    IsZero (weights.totalFrom position sum scores) := by
  induction scores generalizing position sum with
  | nil => exact zero
  | cons score rest induction =>
      obtain ⟨first, others⟩ := List.forall_mem_cons.mp zeros
      rw [List.length_cons] at finite
      apply induction others
      · exact Float32.zero_add zero (Float32.zero_mul first (finite position (by omega)))
      · exact fun place below => finite place (by omega)

theorem total_of_undefined (undefined : sum.isNaN = true) :
    (weights.totalFrom position sum scores).isNaN = true := by
  induction scores generalizing position sum with
  | nil => exact undefined
  | cons score rest induction => exact induction (Float32.undefined_add undefined)

/-- A multiplier that is not finite makes the total of zeros undefined, as soon as it is used. -/
theorem total_undefined (zeros : ∀ score ∈ scores, IsZero score) {place : ℕ}
    (reached : position ≤ place) (used : place < position + scores.length)
    (infinite : (weights.multiplier place).isFinite = false) :
    (weights.totalFrom position sum scores).isNaN = true := by
  induction scores generalizing position sum with
  | nil =>
      rw [List.length_nil] at used
      omega
  | cons score rest induction =>
      obtain ⟨first, others⟩ := List.forall_mem_cons.mp zeros
      rw [List.length_cons] at used
      rw [totalFrom]
      rcases reached.eq_or_lt with rfl | later
      · have product := Float32.zero_mul_undefined first infinite
        exact total_of_undefined (Float32.add_undefined product)
      · exact induction others later (by omega)

end totals

theorem scores_zero (zeros : ∀ hit ∈ hits, IsZero (weights.weighted hit)) :
    ∀ score ∈ (weights.bestFirst hits).map weights.weighted, IsZero score := by
  intro score among
  obtain ⟨hit, listed, rfl⟩ := List.mem_map.mp among
  exact zeros hit ((weights.best_first_perm hits).mem_iff.mp listed)

theorem scores_length : ((weights.bestFirst hits).map weights.weighted).length = hits.length := by
  rw [List.length_map, (weights.best_first_perm hits).length_eq]

theorem capped_zero {x : Float32} (zero : IsZero x) : ¬0 < ScoreArithmetic.capped x := by
  obtain ⟨sign, same⟩ := zero
  have defined : x.isNaN = false := by
    rw [← Bool.not_eq_true, Float32.undefined_iff, same]
    exact UnpackedFloat.noConfusion
  have below : x < 1 := by
    rw [Float32.less_iff_compare, same]
    rfl
  have kept : ScoreArithmetic.capped x = x := by
    simp only [ScoreArithmetic.capped, defined, below, if_true, Bool.false_eq_true, if_false]
  rw [kept, Float32.less_iff_compare, same]
  exact fun less => Ordering.noConfusion (Option.some.inj less)

theorem capped_undefined {x : Float32} (undefined : x.isNaN = true) :
    ScoreArithmetic.capped x = 1 := by
  simp only [ScoreArithmetic.capped, undefined, if_true]

theorem relevance_of_worthless (finite : weights.AllFinite)
    (zeros : ∀ hit ∈ hits, IsZero hit.baseRelevance)
    (few : hits.length < weights.multipliers.length + 2 ^ 31) : ¬0 < weights.relevanceOf hits := by
  have scores := scores_zero fun hit among => weighted_zero finite (zeros hit among)
  apply capped_zero
  apply total_zero scores
  · exact ⟨.negative, rfl⟩
  · intro place below
    rw [scores_length] at below
    exact multiplier_finite finite (by omega)

/-- A multiplier that is not finite makes worthless hits relevant, if it is used. -/
theorem relevance_of_infinite (zeros : ∀ hit ∈ hits, IsZero (weights.weighted hit)) {place : ℕ}
    (used : place < hits.length) (infinite : (weights.multiplier place).isFinite = false) :
    weights.relevanceOf hits = 1 := by
  apply capped_undefined
  apply total_undefined (scores_zero zeros) (Nat.zero_le place) _ infinite
  rw [scores_length]
  omega

/-- It takes more hits than 32 bits can count to make them relevant. -/
theorem relevance_of_worthless_iff (finite : weights.AllFinite) (filled : weights.multipliers ≠ [])
    (zeros : ∀ hit ∈ hits, IsZero hit.baseRelevance) :
    ¬0 < weights.relevanceOf hits ↔ hits.length < weights.multipliers.length + 2 ^ 31 := by
  refine ⟨fun worthless => ?_, relevance_of_worthless finite zeros⟩
  by_contra many
  obtain ⟨place, last⟩ : ∃ place, place + 1 = weights.multipliers.length + 2 ^ 31 :=
    ⟨weights.multipliers.length + (2 ^ 31 - 1), by omega⟩
  have scores := fun hit among => weighted_zero finite (zeros hit among)
  have relevant := relevance_of_infinite scores (by omega) (multiplier_infinite filled last)
  rw [relevant] at worthless
  exact worthless (by decide +kernel)

theorem poison_nothing_of_finite (finite : weights.AllFinite) : weights.PoisonNothing where
  defined hits inRange hit among := weighted_defined finite (inRange hit among)
  worthless := by
    intro hits inRange row among zeros few
    rw [(row_of_rerank among).1]
    apply relevance_of_worthless finite _ few
    exact fun hit listed => Float32.zero_iff_equal.mp (zeros hit listed)

theorem row_of_repeated (weights : RankingWeights Float32) (hit : IndexHit Float32) (more : ℕ) :
    ∃ row ∈ weights.rerank (List.replicate (more + 1) hit),
      hitsOf (List.replicate (more + 1) hit) row.record.id = List.replicate (more + 1) hit := by
  have among : hit ∈ List.replicate (more + 1) hit :=
    List.mem_replicate.mpr ⟨Nat.succ_ne_zero more, rfl⟩
  have known : hit.record.id ∈ recordIds (List.replicate (more + 1) hit) :=
    mem_record_ids.mpr (List.mem_map_of_mem among)
  obtain ⟨row, ranked, about⟩ := List.mem_map.mp ((weights.ids_of_rerank _).mem_iff.mpr known)
  refine ⟨row, ranked, List.filter_eq_self.mpr ?_⟩
  intro other listed
  rw [List.eq_of_mem_replicate listed]
  exact beq_iff_eq.mpr about.symm

theorem weights_finite_of_poisonless (poisonless : weights.PoisonNothing) (node index : String) :
    (weights.indexWeight node index).isFinite = true ∧
      (weights.nodeWeight node).isFinite = true := by
  have defined : (weights.weighted (IndexHit.worthless node index)).isNaN = false := by
    apply poisonless.defined [.worthless node index]
    · intro hit among
      rw [List.mem_singleton.mp among]
      exact IndexHit.worthless_in_range node index
    · exact List.mem_singleton_self _
  have zero := IndexHit.worthless_zero node index
  exact finite_of_weighted (IndexHit.worthless node index) zero defined

theorem multiplier_finite_of_poisonless (poisonless : weights.PoisonNothing) {place : ℕ}
    (inside : place < weights.multipliers.length) : weights.multipliers[place].isFinite = true := by
  by_contra infinite
  rw [← multiplier_configured inside, Bool.not_eq_true] at infinite
  obtain ⟨row, ranked, own⟩ := weights.row_of_repeated (IndexHit.worthless "" "") place
  have same {hit : IndexHit Float32}
      (listed : hit ∈ List.replicate (place + 1) (IndexHit.worthless "" "")) :
      hit = .worthless "" "" := List.eq_of_mem_replicate listed
  have made := (row_of_rerank ranked).1
  rw [own] at made
  have relevant : row.relevance = 1 := by
    apply made.trans
    apply relevance_of_infinite _ _ infinite
    · intro hit listed
      obtain ⟨index, node⟩ := weights_finite_of_poisonless poisonless "" ""
      rw [same listed]
      exact Float32.zero_mul (Float32.zero_mul (IndexHit.worthless_zero "" "") index) node
    · rw [List.length_replicate]
      omega
  apply poisonless.worthless _ _ row ranked
  · intro hit listed
    rw [own] at listed
    rw [same listed]
    exact Float32.zero_iff_equal.mpr (IndexHit.worthless_zero "" "")
  · rw [own, List.length_replicate]
    omega
  · rw [relevant]
    decide +kernel
  · intro hit listed
    rw [same listed]
    exact IndexHit.worthless_in_range "" ""

/-- Weights poison nothing exactly if all of them are finite. -/
theorem poison_nothing_iff : weights.PoisonNothing ↔ weights.AllFinite := by
  constructor
  · intro poisonless
    constructor
    case node => exact fun id => (weights_finite_of_poisonless poisonless id "").2
    case index => exact fun id index => (weights_finite_of_poisonless poisonless id index).1
    case multiplier =>
      intro multiplier among
      obtain ⟨place, inside, rfl⟩ := List.getElem_of_mem among
      exact multiplier_finite_of_poisonless poisonless inside
  · exact poison_nothing_of_finite

end RankingWeights

def NodeSettings.givenWeights (node : NodeSettings) : List Float32 :=
  node.weight.toList ++ node.indexes.flatMap (·.weight.toList)

def SearchSettings.givenWeights (search : SearchSettings) : List Float32 :=
  search.defaultNodeWeight :: search.defaultIndexWeight :: search.multipliers

def Settings.givenWeights (settings : Settings) : List Float32 :=
  settings.search.givenWeights ++ settings.nodes.entries.flatMap fun entry => entry.2.givenWeights

def SearchRequest.givenWeights (request : SearchRequest) : List Float32 :=
  (request.nodeWeights.getD []).map (·.2)

section validation

variable {settings : Settings} {weight : Float32}

theorem own_weight_admitted {own : Option Float32} (admitted : ¬own.any isNegative = true)
    (given : weight ∈ own.toList) : isNegative weight = false := by
  rw [Option.mem_toList] at given
  rw [given, Option.any_some, Bool.not_eq_true] at admitted
  exact admitted

theorem search_weights_admitted {search : SearchSettings} (faultless : search.fault? = none)
    (given : weight ∈ search.givenWeights) : isNegative weight = false := by
  have multipliers : search.multipliers.any isNegative = false := by
    grind [SearchSettings.fault?]
  have defaults :
      (isNegative search.defaultNodeWeight || isNegative search.defaultIndexWeight) = false := by
    grind [SearchSettings.fault?]
  rw [Bool.or_eq_false_iff] at defaults
  rw [SearchSettings.givenWeights, List.mem_cons, List.mem_cons] at given
  rcases given with rfl | rfl | given
  · exact defaults.1
  · exact defaults.2
  · exact Bool.not_eq_true _ ▸ List.any_eq_false.mp multipliers weight given

theorem index_weights_admitted {node : String} {seen : List String} {indexes : List IndexSettings}
    (faultless : indexFault? node seen indexes = none)
    (given : weight ∈ indexes.flatMap (·.weight.toList)) : isNegative weight = false := by
  induction indexes generalizing seen with
  | nil => cases given
  | cons index rest induction =>
      rw [indexFault?] at faultless
      split at faultless
      · cases faultless
      · split at faultless
        · cases faultless
        · next admitted =>
          rw [List.flatMap_cons, List.mem_append] at given
          rcases given with own | later
          · exact own_weight_admitted admitted own
          · exact induction faultless later

theorem node_weights_admitted {key : String} {node : NodeSettings}
    (faultless : node.fault? key = none) (given : weight ∈ node.givenWeights) :
    isNegative weight = false := by
  unfold NodeSettings.fault? at faultless
  split at faultless
  · cases faultless
  · split at faultless
    · cases faultless
    · next admitted =>
      rcases List.mem_append.mp given with own | below
      · exact own_weight_admitted admitted own
      · exact index_weights_admitted faultless below

theorem settings_weights_admitted (valid : settings.validate = .ok ())
    (given : weight ∈ settings.givenWeights) : ¬weight < 0 := by
  have faultless := faultless_of_valid valid
  have admitted : isNegative weight = false := by
    rcases List.mem_append.mp given with general | special
    · apply search_weights_admitted _ general
      rw [Settings.fault?] at faultless
      split at faultless
      · cases faultless
      · assumption
    · obtain ⟨entry, present, own⟩ := List.mem_flatMap.mp special
      exact node_weights_admitted (faultless_nodes faultless entry present) own
  exact of_decide_eq_false admitted

theorem faultless_of_accepted {request : SearchRequest} (accepted : request.validate = .ok ()) :
    request.fault? = none := by
  rw [SearchRequest.validate] at accepted
  cases fault : request.fault? with
  | none => rfl
  | some fault =>
      rw [fault] at accepted
      cases accepted

theorem request_weights_admitted {request : SearchRequest} (accepted : request.validate = .ok ())
    (given : weight ∈ request.givenWeights) : 0 ≤ weight := by
  obtain ⟨entry, listed, rfl⟩ := List.mem_map.mp given
  have faultless := faultless_of_accepted accepted
  have none : (request.nodeWeights.getD []).find? (fun entry => entry.2.isNaN || entry.2 < 0) =
      none := by
    unfold SearchRequest.fault? at faultless
    split_ifs at faultless
    exact Option.map_eq_none_iff.mp faultless
  have admitted := List.find?_eq_none.mp none entry listed
  rw [Bool.or_eq_true, decide_eq_true_iff, not_or, Bool.not_eq_true] at admitted
  exact Float32.nonneg_of_not_negative admitted.1 admitted.2

end validation

section

variable {settings : Settings} {holdings : Holdings} {records : NodeSettings → RecordSource}
  {federation : Federation} {request : SearchRequest} {selected : List Member} {weight : Float32}

theorem given_by_some {Value : Type} {id : String} {given : Member → Option Value} {value : Value}
    (found : givenBy selected id given = some value) :
    ∃ member ∈ selected, given member = some value := by
  obtain ⟨member, among, gives⟩ := List.exists_of_findSome?_eq_some found
  rw [Option.ite_none_right_eq_some] at gives
  exact ⟨member, List.mem_reverse.mp among, gives.2⟩

theorem member_weight_given
    (configured : settings.HasMembers (holdings.member settings.search records) selected)
    {member : Member} (among : member ∈ selected)
    (given : member.weight = some weight ∨ ∃ index, member.indexWeight? index = some weight) :
    weight ∈ settings.givenWeights := by
  obtain ⟨entry, present, -, rfl⟩ := configured member among
  apply List.mem_append_right
  apply List.mem_flatMap.mpr
  refine ⟨entry, present, ?_⟩
  rcases given with own | ⟨index, own⟩
  · apply List.mem_append_left
    exact Option.mem_toList.mpr own
  · apply List.mem_append_right
    rw [Member.indexWeight?, Holdings.member_indexes] at own
    obtain ⟨descriptor, listed, gives⟩ := List.exists_of_findSome?_eq_some own
    obtain ⟨configuredIndex, inside, rfl⟩ := List.mem_map.mp (List.mem_reverse.mp listed)
    rw [Option.ite_none_right_eq_some] at gives
    exact List.mem_flatMap.mpr ⟨configuredIndex, inside, Option.mem_toList.mpr gives.2⟩

theorem weight_of_given {id : String} (asked : request.weightOf? id = some weight) :
    weight ∈ request.givenWeights := by
  rw [SearchRequest.weightOf?, Document.find_eq_find_some] at asked
  obtain ⟨entry, listed, gives⟩ := List.exists_of_findSome?_eq_some asked
  rw [Option.ite_none_right_eq_some] at gives
  exact List.mem_map.mpr ⟨entry, List.mem_reverse.mp listed, Option.some_inj.mp gives.2⟩

/-- A search ranks with finite weights if all weights that are given are finite. -/
theorem all_finite_of_given (search : federation.settings = settings.search)
    (configured : settings.HasMembers (holdings.member settings.search records) selected)
    (finite : ∀ weight ∈ settings.givenWeights ++ request.givenWeights, weight.isFinite = true) :
    (federation.weights selected request).AllFinite := by
  rw [List.forall_mem_append] at finite
  obtain ⟨ofSettings, ofRequest⟩ := finite
  constructor
  case node =>
    intro id
    rw [Federation.node_weight_of_search, search]
    cases asked : request.weightOf? id with
    | some weight => exact ofRequest weight (weight_of_given asked)
    | none =>
        rw [Option.none_or]
        cases given : givenBy selected id Member.weight with
        | none => exact ofSettings _ List.mem_cons_self
        | some weight =>
            obtain ⟨member, among, own⟩ := given_by_some given
            exact ofSettings weight (member_weight_given configured among (.inl own))
  case index =>
    intro id index
    rw [Federation.index_weight_of_search, search]
    cases given : givenBy selected id (·.indexWeight? index) with
    | none => exact ofSettings _ (List.mem_cons_of_mem _ List.mem_cons_self)
    | some weight =>
        obtain ⟨member, among, own⟩ := given_by_some given
        exact ofSettings weight (member_weight_given configured among (.inr ⟨index, own⟩))
  case multiplier =>
    intro multiplier among
    rw [Federation.multipliers_of_search, search] at among
    exact ofSettings multiplier
      (List.mem_append_left _ (List.mem_cons_of_mem _ (List.mem_cons_of_mem _ among)))

end

/-- Weights of settings are not below zero, and those of a request are numbers from zero on. If
they are finite as well, a search ranks with weights that poison nothing, which it does exactly
if all those that it ranks with are finite. -/
theorem admitted_weights_poison_nothing_iff {settings : Settings}
    (valid : settings.validate = .ok ()) {request : SearchRequest}
    (accepted : request.validate = .ok ()) {holdings : Holdings}
    {records : NodeSettings → RecordSource} {federation : Federation}
    (built : Federation.ofSettings settings (holdings.member settings.search records) =
      .ok federation)
    {selected : List Member} (chosen : federation.select request = .ok selected) :
    (∀ weight ∈ settings.givenWeights, ¬weight < 0) ∧
    (∀ weight ∈ request.givenWeights, 0 ≤ weight) ∧
    ((∀ weight ∈ settings.givenWeights ++ request.givenWeights, weight.isFinite = true) →
      (federation.weights selected request).PoisonNothing) ∧
    ((federation.weights selected request).PoisonNothing ↔
      (federation.weights selected request).AllFinite) := by
  obtain ⟨_, same, search, members⟩ := Federation.federation_of_valid valid
    (holdings.member settings.search records) fun node => rfl
  rw [built] at same
  cases same
  have configured := selected_configured members (own_ids_of_valid valid) chosen
  refine ⟨fun weight => settings_weights_admitted valid,
    fun weight => request_weights_admitted accepted, fun finite => ?_,
    RankingWeights.poison_nothing_iff⟩
  exact RankingWeights.poison_nothing_of_finite (all_finite_of_given search configured finite)

def bothMembers : List Member :=
  [homeNode, workNode].map (noHoldings.member homeAndWork.search noRecords)

theorem both_selected (weight : Float32) :
    homeAndWork.validate = .ok () ∧ ∃ federation,
      Federation.ofSettings homeAndWork (noHoldings.member homeAndWork.search noRecords) =
        .ok federation ∧
      federation.settings = homeAndWork.search ∧
      federation.select ((SearchRequest.forQuery "milk").withNodeWeight "work" weight) =
        .ok bothMembers := by
  have faultless : homeAndWork.fault? = none := by decide +kernel
  have valid : homeAndWork.validate = .ok () := by rw [Settings.validate, faultless]
  obtain ⟨⟨settings, parser, ⟨entries, sorted⟩⟩, built, rfl, rfl⟩ := Federation.federation_of_valid
    valid (noHoldings.member homeAndWork.search noRecords) fun node => rfl
  exact ⟨valid, _, built, rfl, rfl⟩

theorem home_and_work_poison_nothing :
    ∃ federation,
      homeAndWork.validate = .ok () ∧ workFirst.validate = .ok () ∧
      Federation.ofSettings homeAndWork (noHoldings.member homeAndWork.search noRecords) =
        .ok federation ∧
      federation.select workFirst = .ok bothMembers ∧
      (federation.weights bothMembers workFirst).PoisonNothing := by
  obtain ⟨valid, federation, built, search, chosen⟩ := both_selected 3
  have accepted : workFirst.validate = .ok () := by
    have faultless : workFirst.fault? = none := by decide +kernel
    rw [SearchRequest.validate, faultless]
  refine ⟨federation, valid, accepted, built, chosen, ?_⟩
  apply (admitted_weights_poison_nothing_iff valid accepted built chosen).2.2.1
  decide +kernel

def workAlone : SearchRequest := (SearchRequest.forQuery "milk").withNodeWeight "work" (1 / 0)

/-- The infinite weight is admitted, and makes a hit most relevant that is worthless. -/
theorem infinite_weight_poisons :
    ∃ federation,
      homeAndWork.validate = .ok () ∧ workAlone.validate = .ok () ∧
      Federation.ofSettings homeAndWork (noHoldings.member homeAndWork.search noRecords) =
        .ok federation ∧
      federation.select workAlone = .ok bothMembers ∧
      (∃ weight ∈ workAlone.givenWeights, weight.isFinite = false) ∧
      (IndexHit.worthless "work" "notes").InRange ∧
      ((federation.weights bothMembers workAlone).weighted
        (.worthless "work" "notes")).isNaN = true ∧
      ((federation.weights bothMembers workAlone).rerank [.worthless "work" "notes"]).map
        (·.relevance) = [1] := by
  obtain ⟨valid, federation, built, search, chosen⟩ := both_selected (1 / 0)
  have accepted : workAlone.validate = .ok () := by
    have faultless : workAlone.fault? = none := by decide +kernel
    rw [SearchRequest.validate, faultless]
  have weights : federation.weights bothMembers workAlone =
      (Federation.new homeAndWork.search).weights bothMembers workAlone := by
    rw [Federation.weights, search]
    rfl
  refine ⟨federation, valid, accepted, built, chosen, ?_⟩
  rw [weights]
  refine ⟨?_, ?_, ?_, ?_⟩
  · decide +kernel
  · exact IndexHit.worthless_in_range "work" "notes"
  · decide +kernel
  · decide +kernel

end FederatedSearch
