import FederatedSearch.Proofs.Grouping
import FederatedSearch.Proofs.ScanLimit
import Mathlib.Data.List.Perm.Subperm

/-!
The cap on the results of a node. It limits the matches of each index. So it bounds the
results of a node of which only one index is asked; several indexes, each within the cap,
exceed it together, in results and in different records.
-/

namespace FederatedSearch

open FederatedSearch.Index

namespace NodeEngine

def bare (engine : NodeEngine) : NodeEngine :=
  { engine with index := { engine.index with table := none } }

def holding (table : Table) (engine : NodeEngine) : NodeEngine :=
  { engine with index := { engine.index with table := some table } }

def takesPart (request : SearchRequest) (engine : NodeEngine) : Bool :=
  engine.isAsked request && engine.opens

end NodeEngine

/-- A successful search of the node, whatever rows its indexes have, whatever its records are
and whatever is sought. -/
def Node.CanReturn (node : Node) (engines : List NodeEngine) (request : SearchRequest)
    (outcome : NodeOutcome) : Prop :=
  ∃ filled records query, filled.map NodeEngine.bare = engines.map NodeEngine.bare ∧
    ({ node with records }.withEngines filled).execute query request = .ok outcome

/-- The node asks nothing of an index, or always fails, or has one index at most to ask. -/
def Node.KeepsCap (node : Node) (engines : List NodeEngine) (request : SearchRequest) : Prop :=
  node.settings.matchLimit request = 0 ∨
    (∃ engine ∈ engines, engine.descriptor.required = true ∧ engine.opens = false) ∨
    engines.countP (NodeEngine.takesPart request) ≤ 1

section

variable {node : Node} {engines : List NodeEngine} {request : SearchRequest}
variable {outcome : NodeOutcome}

theorem open_of_asked (engines : List NodeEngine) :
    (engines.filter (NodeEngine.isAsked request)).filter NodeEngine.opens =
      engines.filter (NodeEngine.takesPart request) := by
  rw [List.filter_filter]
  exact List.filter_congr fun engine _ => Bool.and_comm ..

theorem parts_of_bare {filled : List NodeEngine}
    (same : filled.map NodeEngine.bare = engines.map NodeEngine.bare) :
    filled.countP (NodeEngine.takesPart request) =
      engines.countP (NodeEngine.takesPart request) := by
  have untouched (others : List NodeEngine) :
      (others.map NodeEngine.bare).countP (NodeEngine.takesPart request) =
        others.countP (NodeEngine.takesPart request) := List.countP_map
  rw [← untouched, same, untouched]

theorem all_of_bare {filled : List NodeEngine} {holds : NodeEngine → Prop}
    (same : filled.map NodeEngine.bare = engines.map NodeEngine.bare)
    (untouched : ∀ engine, holds engine.bare = holds engine)
    (all : ∀ engine ∈ filled, holds engine) : ∀ engine ∈ engines, holds engine := by
  intro engine member
  have bareMember : engine.bare ∈ filled.map NodeEngine.bare := by
    rw [same]
    exact List.mem_map_of_mem member
  obtain ⟨other, among, equal⟩ := List.mem_map.mp bareMember
  rw [← untouched, ← equal, untouched]
  exact all other among

/-- A node that returns something can reach the indexes that it needs. -/
theorem required_open (returns : node.CanReturn engines request outcome) :
    ∀ engine ∈ engines, engine.descriptor.required = true → engine.opens = true := by
  obtain ⟨filled, records, query, same, success⟩ := returns
  obtain ⟨plan, _, _, needed⟩ := Node.hits_of_execute success
  refine all_of_bare same (fun _ => rfl) fun engine member required => ?_
  have selected : engine.nodeIndex ∈
      ({ node with records }.withEngines filled).selectedIndexes request := by
    rw [selected_engines]
    refine List.mem_map_of_mem (List.mem_filter.mpr ⟨member, ?_⟩)
    rw [NodeEngine.isAsked, IndexDescriptor.isSelected, required, Bool.true_or]
  have answers := needed _ selected required
  cases opens : engine.opens with
  | true => rfl
  | false =>
      rw [closed_index_fails plan opens] at answers
      cases answers

theorem results_bounded (returns : node.CanReturn engines request outcome) :
    outcome.hits.length ≤
      node.settings.matchLimit request * engines.countP (NodeEngine.takesPart request) := by
  obtain ⟨filled, records, query, same, success⟩ := returns
  obtain ⟨plan, planned, hits, _⟩ := Node.hits_of_execute success
  have limited : plan.limit = node.settings.matchLimit request := limit_of_plan planned
  rw [← parts_of_bare same, ← limited, hits, selected_engines, hits_of_open_engines, open_of_asked,
    List.countP_eq_length_filter]
  exact hits_of_engines_length _

end

def numbered (number : Nat) : String := String.ofList (List.replicate number 'a')

theorem numbered_injective : Function.Injective numbered := by
  intro first second same
  have lengths := congrArg List.length (String.ofList_inj.mp same)
  simpa using lengths

/-- As many ids as the cap allows; those of different places are different. -/
def blockIds (cap place : Nat) : List String :=
  (List.range cap).map fun number => numbered (cap * place + number)

theorem block_ids_length (cap place : Nat) : (blockIds cap place).length = cap := by
  rw [blockIds, List.length_map, List.length_range]

theorem block_ids_nodup (cap place : Nat) : (blockIds cap place).Nodup := by
  refine List.Nodup.map (numbered_injective.comp ?_) List.nodup_range
  exact fun _ _ => Nat.add_left_cancel

theorem block_ids_disjoint {cap first second : Nat} (different : first ≠ second) :
    List.Disjoint (blockIds cap first) (blockIds cap second) := by
  intro id inFirst inSecond
  obtain ⟨one, oneBelow, rfl⟩ := List.mem_map.mp inFirst
  obtain ⟨other, otherBelow, same⟩ := List.mem_map.mp inSecond
  rw [List.mem_range] at oneBelow otherBelow
  have positive : 0 < cap := Nat.zero_lt_of_lt oneBelow
  have quotients := congrArg (· / cap) (numbered_injective same)
  simp only [Nat.mul_add_div positive, Nat.div_eq_of_lt oneBelow, Nat.div_eq_of_lt otherBelow,
    Nat.add_zero] at quotients
  exact different quotients.symm

def NodeEngine.inPlace (cap : Nat) (part : NodeEngine × Nat) : NodeEngine :=
  part.1.holding ⟨true, (blockIds cap part.2).map fun id => ⟨id, none, none, ""⟩⟩

def filledEngines (cap : Nat) (engines : List NodeEngine) : List NodeEngine :=
  engines.zipIdx.map (NodeEngine.inPlace cap)

theorem filled_bare (cap : Nat) (engines : List NodeEngine) :
    (filledEngines cap engines).map NodeEngine.bare = engines.map NodeEngine.bare := by
  have same : NodeEngine.bare ∘ NodeEngine.inPlace cap = NodeEngine.bare ∘ Prod.fst := rfl
  rw [filledEngines, List.map_map, same, ← List.map_map, List.zipIdx_map_fst]

theorem rows_in_place (cap : Nat) (part : NodeEngine × Nat) :
    (NodeEngine.inPlace cap part).rows.map (·.id) = blockIds cap part.2 := by
  change ((blockIds cap part.2).map _).map _ = _
  rw [List.map_map]
  exact List.map_id _

section

variable {chosen : NodeEngine → Bool}

theorem ids_of_filled (cap : Nat) (engines : List NodeEngine)
    (untouched : ∀ engine : NodeEngine, chosen engine.bare = chosen engine) :
    (((filledEngines cap engines).filter chosen).flatMap fun engine => engine.rows.map (·.id)) =
      (engines.zipIdx.filter fun part => chosen part.1).flatMap fun part =>
        blockIds cap part.2 := by
  have same : chosen ∘ NodeEngine.inPlace cap = fun part => chosen part.1 := by
    funext part
    exact (untouched (NodeEngine.inPlace cap part)).symm.trans (untouched part.1)
  rw [filledEngines, List.filter_map, List.flatMap_map, same]
  exact List.flatMap_congr fun part _ => rows_in_place cap part

theorem places_ascend (engines : List NodeEngine) :
    engines.zipIdx.Pairwise fun first second => first.2 < second.2 := by
  have places : (engines.zipIdx.map Prod.snd).Pairwise (· < ·) := by
    rw [List.zipIdx_map_snd]
    exact List.pairwise_lt_range' 1
  exact List.pairwise_map.mp places

theorem blocks_nodup (cap : Nat) (engines : List NodeEngine) :
    ((engines.zipIdx.filter fun part => chosen part.1).flatMap fun part =>
      blockIds cap part.2).Nodup := by
  refine List.nodup_flatMap.mpr ⟨fun part _ => block_ids_nodup cap part.2, ?_⟩
  exact ((places_ascend engines).filter _).imp fun below => block_ids_disjoint (Nat.ne_of_lt below)

theorem blocks_length (cap : Nat) (engines : List NodeEngine) :
    ((engines.zipIdx.filter fun part => chosen part.1).flatMap fun part =>
      blockIds cap part.2).length = cap * engines.countP chosen := by
  have count : (engines.zipIdx.filter fun part => chosen part.1).length =
      engines.countP chosen := by
    rw [← List.countP_eq_length_filter]
    calc engines.zipIdx.countP (chosen ∘ Prod.fst)
        = (engines.zipIdx.map Prod.fst).countP chosen := List.countP_map.symm
      _ = engines.countP chosen := by rw [List.zipIdx_map_fst]
  simp only [List.length_flatMap, block_ids_length, List.map_const', List.sum_replicate_nat, count]
  exact Nat.mul_comm ..

end

def anyRecord : RecordSource := fun id => .ok (some (.plain id "" ⟨0, 0⟩))

theorem any_record_keyed : anyRecord.IsKeyed := by
  intro id record found
  cases found
  rfl

/-- The plan of a search for a blank text, which is no term and leaves no test behind the
index either. -/
def planForAll (settings : SearchSettings) (request : SearchRequest) : NodePlan :=
  { engineText := EngineQuery.everything.write
    limit := settings.matchLimit request
    markers := settings.markers request
    keeps := keepsRecord (.ofTerms []) none }

theorem plan_for_all (settings : SearchSettings) (request : SearchRequest) :
    NodePlan.of settings (.text "") request = .ok (planForAll settings request) := rfl

section

variable {node : Node} {engines : List NodeEngine} {request : SearchRequest}

/-- The node with its indexes full of rows, and with a record for each of them. -/
def Node.full (node : Node) (engines : List NodeEngine) (request : SearchRequest) : Node :=
  { node with records := anyRecord }.withEngines
    (filledEngines (node.settings.matchLimit request) engines)

theorem full_engines_bear
    (needed : ∀ engine ∈ engines, engine.descriptor.required = true → engine.opens = true) :
    ∀ index ∈ (node.full engines request).selectedIndexes request,
      (node.full engines request).Bears (planForAll node.settings request) index := by
  intro index member
  rw [Node.full, selected_engines] at member
  obtain ⟨engine, asked, rfl⟩ := List.mem_map.mp member
  have open_if_needed : engine.descriptor.required = true → engine.opens = true :=
    all_of_bare (filled_bare _ engines).symm (fun _ => rfl) needed engine
      (List.mem_of_mem_filter asked)
  cases opens : engine.opens with
  | true => exact scanned_bears rfl opens fun row _ => ⟨_, rfl⟩
  | false =>
      refine Or.inr ⟨closed_index_fails _ opens, ?_⟩
      rw [opens] at open_if_needed
      exact Bool.eq_false_iff.mpr fun required => Bool.false_ne_true (open_if_needed required)

theorem full_engine_answers (part : ∃ engine ∈ engines, engine.takesPart request = true) :
    ∃ index ∈ (node.full engines request).selectedIndexes request,
      Node.answersPlan (planForAll node.settings request) index = true := by
  have filledPart : 0 < (filledEngines (node.settings.matchLimit request) engines).countP
      (NodeEngine.takesPart request) := by
    rw [parts_of_bare (filled_bare _ engines)]
    exact List.countP_pos_iff.mpr part
  obtain ⟨engine, member, takesPart⟩ := List.countP_pos_iff.mp filledPart
  obtain ⟨asked, opens⟩ := Bool.and_eq_true_iff.mp takesPart
  refine ⟨engine.nodeIndex, ?_, scanned_answers rfl opens⟩
  rw [Node.full, selected_engines]
  exact List.mem_map_of_mem (List.mem_filter.mpr ⟨member, asked⟩)

theorem ids_of_full_engine {engine : NodeEngine}
    (full : engine ∈ filledEngines (node.settings.matchLimit request) engines)
    (opens : engine.opens = true) :
    ((node.full engines request).indexHits (planForAll node.settings request) request
        engine.nodeIndex).map (·.record.id) = engine.rows.map (·.id) := by
  obtain ⟨part, _, rfl⟩ := List.mem_map.mp full
  have within := congrArg List.length (rows_in_place (node.settings.matchLimit request) part)
  rw [List.length_map, block_ids_length] at within
  rw [ids_of_scanned rfl opens any_record_keyed, planForAll, List.take_of_length_le within.le,
    List.filter_eq_self.mpr]
  intro row _
  rfl

/-- Indexes that are full of different records reach the cap one by one. -/
theorem bound_reached
    (needed : ∀ engine ∈ engines, engine.descriptor.required = true → engine.opens = true)
    (part : ∃ engine ∈ engines, engine.takesPart request = true) :
    ∃ outcome, node.CanReturn engines request outcome ∧
      node.settings.matchLimit request * engines.countP (NodeEngine.takesPart request) ≤
        (recordIds outcome.hits).length := by
  let cap := node.settings.matchLimit request
  obtain ⟨outcome, success, hits⟩ := Node.execute_succeeds
    (plan_for_all (node.full engines request).settings request)
    (full_engines_bear needed) (full_engine_answers part)
  refine ⟨outcome, ⟨filledEngines cap engines, anyRecord, _, filled_bare .., success⟩, ?_⟩
  have ids : outcome.hits.map (·.record.id) =
      ((filledEngines cap engines).filter (NodeEngine.takesPart request)).flatMap fun engine =>
        engine.rows.map (·.id) := by
    rw [hits, Node.full, selected_engines, hits_of_open_engines, open_of_asked, List.map_flatMap]
    refine List.flatMap_congr fun engine member => ?_
    obtain ⟨full, takesPart⟩ := List.mem_filter.mp member
    exact ids_of_full_engine full (Bool.and_eq_true_iff.mp takesPart).2
  rw [ids_of_filled cap engines fun _ => rfl] at ids
  have distinct : (outcome.hits.map (·.record.id)).Nodup := ids ▸ blocks_nodup cap engines
  calc cap * engines.countP (NodeEngine.takesPart request)
      = (outcome.hits.map (·.record.id)).length := by rw [ids, blocks_length]
    _ ≤ (recordIds outcome.hits).length :=
        (List.subperm_of_subset distinct fun id => mem_record_ids.mpr).length_le

theorem record_ids_length (hits : List (IndexHit Float32)) :
    (recordIds hits).length ≤ hits.length := by
  have among : List.Subperm (recordIds hits) (hits.map (·.record.id)) :=
    List.subperm_of_subset (record_ids_nodup hits) fun id => mem_record_ids.mp
  exact among.length_le.trans_eq (List.length_map ..)

theorem within_cap (keeps : node.KeepsCap engines request) {outcome : NodeOutcome}
    (returns : node.CanReturn engines request outcome) :
    outcome.hits.length ≤ node.settings.matchLimit request := by
  have bounded := results_bounded returns
  rcases keeps with nothing | ⟨engine, member, required, closed⟩ | single
  · rw [nothing, Nat.zero_mul] at bounded
    exact bounded.trans (Nat.zero_le _)
  · rw [required_open returns engine member required] at closed
    cases closed
  · have once := Nat.mul_le_mul_left (node.settings.matchLimit request) single
    rw [Nat.mul_one] at once
    exact bounded.trans once

theorem keeps_cap_of_records
    (bounded : ∀ outcome, node.CanReturn engines request outcome →
      (recordIds outcome.hits).length ≤ node.settings.matchLimit request) :
    node.KeepsCap engines request := by
  by_cases nothing : node.settings.matchLimit request = 0
  · exact Or.inl nothing
  by_cases closed : ∃ engine ∈ engines, engine.descriptor.required = true ∧ engine.opens = false
  · exact Or.inr (Or.inl closed)
  -- Two indexes full of different records would find more than the cap allows.
  refine Or.inr (Or.inr (Nat.not_lt.mp fun several => ?_))
  have needed : ∀ engine ∈ engines, engine.descriptor.required = true → engine.opens = true :=
    fun engine member required =>
      Bool.of_not_eq_false fun shut => closed ⟨engine, member, required, shut⟩
  obtain ⟨outcome, returns, reached⟩ :=
    bound_reached needed (List.countP_pos_iff.mp (Nat.zero_lt_of_lt several))
  have twice := Nat.mul_le_mul_left (node.settings.matchLimit request) several
  have once := bounded outcome returns
  omega

end

/-- Whatever is indexed, stored and sought, the results of a node keep to the cap, and so do the
different records among them, if and only if no more than one index takes part, a cap of zero and
nodes that always fail aside. In any case there are no more results than the cap allows each of
the indexes that take part. -/
theorem results_within_cap_iff (node : Node) (engines : List NodeEngine)
    (request : SearchRequest) :
    ((∀ outcome, node.CanReturn engines request outcome →
        outcome.hits.length ≤ node.settings.matchLimit request) ↔
      node.KeepsCap engines request) ∧
    ((∀ outcome, node.CanReturn engines request outcome →
        (recordIds outcome.hits).length ≤ node.settings.matchLimit request) ↔
      node.KeepsCap engines request) ∧
    ∀ outcome, node.CanReturn engines request outcome → outcome.hits.length ≤
      node.settings.matchLimit request * engines.countP (NodeEngine.takesPart request) := by
  refine ⟨⟨fun bounded => keeps_cap_of_records fun outcome returns => ?_, ?_⟩,
    ⟨keeps_cap_of_records, ?_⟩, fun outcome returns => results_bounded returns⟩
  · exact (record_ids_length outcome.hits).trans (bounded outcome returns)
  · exact fun keeps outcome returns => within_cap keeps returns
  · exact fun keeps outcome returns =>
      (record_ids_length outcome.hits).trans (within_cap keeps returns)

def engineOf (index : String) (record : Record) : NodeEngine where
  descriptor := .plain index
  index :=
    { options := .standard, storage := .memory, isOpen := true
      table := some ⟨true, [.ofRecord record]⟩ }

def splitNode : Node where
  id := "local"
  access := .full
  weight := none
  indexes := []
  records := (ContentStore.ofList [untaggedNote.withTags ["work"], taggedNote]).source
  settings := .standard

/-- There is room for one result, and there are two. -/
theorem two_indexes_exceed_cap :
    ∃ outcome, (splitNode.withEngines [engineOf "x" (untaggedNote.withTags ["work"]),
        engineOf "y" taggedNote]).execute taggedWork oneResult = .ok outcome ∧
      splitNode.settings.matchLimit oneResult = 1 ∧
      outcome.hits.map (·.record.id) = ["first", "second"] ∧
      (recordIds outcome.hits).length = 2 := by
  refine ⟨_, rfl, rfl, ?_, ?_⟩
  · decide
  · decide

end FederatedSearch
