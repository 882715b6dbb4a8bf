import FederatedSearch.Proofs.Gathering
import FederatedSearch.Proofs.QueryReading

/-!
Nodes whose indexes have storage. Of an index that can be reached the cap limits the matches,
before any of them is looked up and filtered; one that cannot be reached leads to nothing. An
index that is asked for everything leads to those of its first rows that pass the filters.
-/

namespace FederatedSearch

open FederatedSearch.Index

structure NodeEngine where
  descriptor : IndexDescriptor
  index : SearchIndex

namespace NodeEngine

def nodeIndex (engine : NodeEngine) : NodeIndex := .ofSearchIndex engine.descriptor engine.index

def isAsked (request : SearchRequest) (engine : NodeEngine) : Bool :=
  engine.descriptor.isSelected request

def opens (engine : NodeEngine) : Bool :=
  match engine.index.storage with
  | .unreachable _ => false
  | .file | .memory => true

def rows (engine : NodeEngine) : List Row := engine.index.foundTable.rows

end NodeEngine

def Node.withEngines (node : Node) (engines : List NodeEngine) : Node :=
  { node with indexes := engines.map NodeEngine.nodeIndex }

theorem selected_engines (node : Node) (engines : List NodeEngine) (request : SearchRequest) :
    (node.withEngines engines).selectedIndexes request =
      (engines.filter (NodeEngine.isAsked request)).map NodeEngine.nodeIndex := by
  rw [Node.selectedIndexes, Node.withEngines, List.filter_map]
  rfl

theorem limit_of_plan {settings : SearchSettings} {query : Query} {request : SearchRequest}
    {plan : NodePlan} (planned : NodePlan.of settings query request = .ok plan) :
    plan.limit = settings.matchLimit request := by
  unfold NodePlan.of at planned
  cases compiled : query.compileStructured with
  | error error =>
      rw [compiled] at planned
      cases planned
  | ok structured =>
      rw [compiled] at planned
      cases planned
      rfl

section

variable {engine : NodeEngine} {text : String} {limit : Nat} {markers : Markers}

theorem table_search_length (table : Table) (options : IndexOptions) (query : EngineQuery) :
    (table.search options markers limit query).length ≤ limit := by
  cases query with
  | everything =>
      rw [Table.search, Table.scan, List.length_map]
      exact List.length_take_le ..
  | matching expression =>
      rw [Table.search, Table.ranked, List.length_map]
      exact List.length_take_le ..

theorem opened_of_opens (opens : engine.opens = true) :
    engine.index.opened =
      .ok { engine.index with table := some engine.index.foundTable, isOpen := true } := by
  rw [NodeEngine.opens] at opens
  rw [SearchIndex.opened]
  cases storage : engine.index.storage with
  | unreachable reason =>
      rw [storage] at opens
      cases opens
  | file | memory => simp only [storage]

theorem answer_within_limit {found : List Match}
    (answer : engine.nodeIndex.answer text limit markers = .ok found) :
    engine.opens = true ∧ found.length ≤ limit := by
  simp only [NodeEngine.nodeIndex, NodeIndex.ofSearchIndex, SearchIndex.search] at answer
  cases opens : engine.opens with
  | true =>
      refine ⟨rfl, ?_⟩
      rw [opened_of_opens opens] at answer
      simp only [Except.bind] at answer
      cases asked : SearchIndex.asked? text with
      | none =>
          rw [asked] at answer
          cases answer
      | some query =>
          rw [asked] at answer
          cases answer
          exact table_search_length ..
  | false =>
      unfold SearchIndex.opened at answer
      unfold NodeEngine.opens at opens
      cases storage : engine.index.storage with
      | unreachable reason =>
          rw [storage] at answer
          cases answer
      | file | memory =>
          rw [storage] at opens
          cases opens

/-- An index that is asked for everything lists its first rows. -/
theorem scan_answer (opens : engine.opens = true) :
    engine.nodeIndex.answer EngineQuery.everything.write limit markers =
      .ok (engine.index.foundTable.scan engine.index.options limit) := by
  simp only [NodeEngine.nodeIndex, NodeIndex.ofSearchIndex, SearchIndex.search,
    opened_of_opens opens, Except.bind, everything_asked]
  rfl

end

section

variable {node : Node} {plan : NodePlan} {request : SearchRequest} {engine : NodeEngine}

theorem closed_index_fails (plan : NodePlan) (closed : engine.opens = false) :
    Node.answersPlan plan engine.nodeIndex = false := by
  rw [Node.answersPlan]
  cases answer : engine.nodeIndex.answer plan.engineText plan.limit plan.markers with
  | error reason => rfl
  | ok found =>
      rw [(answer_within_limit answer).1] at closed
      cases closed

theorem hits_of_closed_index (closed : engine.opens = false) :
    node.indexHits plan request engine.nodeIndex = [] := by
  have fails := closed_index_fails plan closed
  rw [Node.answersPlan] at fails
  rw [Node.indexHits]
  cases answer : engine.nodeIndex.answer plan.engineText plan.limit plan.markers with
  | error reason => rfl
  | ok found =>
      rw [answer] at fails
      cases fails

theorem index_hits_length : (node.indexHits plan request engine.nodeIndex).length ≤ plan.limit := by
  rw [Node.indexHits]
  cases answer : engine.nodeIndex.answer plan.engineText plan.limit plan.markers with
  | error reason => exact Nat.zero_le _
  | ok found =>
      exact Nat.le_trans (List.length_filterMap_le ..) (answer_within_limit answer).2

/-- Indexes that cannot be reached count for nothing. -/
theorem hits_of_open_engines (engines : List NodeEngine) :
    (engines.map NodeEngine.nodeIndex).flatMap (node.indexHits plan request) =
      (engines.filter NodeEngine.opens).flatMap fun engine =>
        node.indexHits plan request engine.nodeIndex := by
  induction engines with
  | nil => rfl
  | cons engine rest ih =>
      rw [List.map_cons, List.flatMap_cons, List.filter_cons]
      cases opens : engine.opens with
      | true => rw [if_pos rfl, List.flatMap_cons, ih]
      | false => rw [hits_of_closed_index opens, List.nil_append, ih, if_neg Bool.false_ne_true]

theorem hits_of_engines_length (engines : List NodeEngine) :
    (engines.flatMap fun engine => node.indexHits plan request engine.nodeIndex).length ≤
      plan.limit * engines.length := by
  induction engines with
  | nil => exact Nat.zero_le _
  | cons engine rest ih =>
      have here : (node.indexHits plan request engine.nodeIndex).length ≤ plan.limit :=
        index_hits_length
      rw [List.flatMap_cons, List.length_append, List.length_cons, Nat.mul_succ]
      omega

end

def Node.keepsRow (node : Node) (keeps : Record → Bool) (row : Row) : Bool :=
  (node.records.recordAt row.id).any keeps

section

variable {node : Node} {plan : NodePlan} {request : SearchRequest} {engine : NodeEngine}

theorem ids_of_scan (keyed : node.records.IsKeyed) (table : Table) (options : IndexOptions)
    (limit : Nat) (index : String) :
    ((table.scan options limit).filterMap (node.hitOf? plan request index)).map (·.record.id) =
      ((table.rows.take limit).filter (node.keepsRow plan.keeps)).map (·.id) := by
  rw [Table.scan]
  induction table.rows.take limit with
  | nil => rfl
  | cons row rest ih =>
      rw [List.map_cons, List.filterMap_cons, List.filter_cons, Node.keepsRow, Node.hitOf?]
      cases found : node.records.recordAt row.id with
      | none => simpa using ih
      | some record =>
          have same := keyed row.id record found
          cases kept : plan.keeps record with
          | false => simpa [Option.filter, kept] using ih
          | true => simpa [Option.filter, kept, same, Match.toHit] using ih

/-- An index that is asked for everything leads to the kept ones of its first rows. -/
theorem ids_of_scanned (scanning : plan.engineText = EngineQuery.everything.write)
    (opens : engine.opens = true) (keyed : node.records.IsKeyed) :
    (node.indexHits plan request engine.nodeIndex).map (·.record.id) =
      ((engine.rows.take plan.limit).filter (node.keepsRow plan.keeps)).map (·.id) := by
  rw [Node.indexHits, scanning, scan_answer opens]
  exact ids_of_scan keyed _ _ _ _

theorem scanned_answers (scanning : plan.engineText = EngineQuery.everything.write)
    (opens : engine.opens = true) : Node.answersPlan plan engine.nodeIndex = true := by
  rw [Node.answersPlan, scanning, scan_answer opens]
  rfl

theorem scanned_bears (scanning : plan.engineText = EngineQuery.everything.write)
    (opens : engine.opens = true)
    (answers : ∀ row ∈ engine.rows, node.records.Answers row.id) :
    node.Bears plan engine.nodeIndex := by
  refine Or.inl ⟨_, by rw [scanning]; exact scan_answer opens, ?_⟩
  intro found member
  obtain ⟨row, among, rfl⟩ := List.mem_map.mp member
  exact answers row (List.mem_of_mem_take among)

end

end FederatedSearch
