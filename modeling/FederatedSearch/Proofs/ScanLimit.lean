import FederatedSearch.Proofs.NodeEngines
import Mathlib.Data.List.Nodup

/-!
What the cap leaves out of a scan. An index that is asked for everything lists as many rows as
the cap allows, and the filters come after that. A search that only excludes or tests records
therefore misses a record that passes, although few enough pass, if its row stands too far
behind.
-/

namespace FederatedSearch

open FederatedSearch.Index

theorem ids_distinct_put {table : Table} (distinct : table.ids.Nodup) (row : Row) :
    (table.put row).ids.Nodup := by
  rw [Table.ids_put, ← List.concat_eq_append, List.nodup_concat]
  exact ⟨by simp, distinct.filter _⟩

theorem ids_distinct_remove {table : Table} (distinct : table.ids.Nodup) (id : String) :
    (table.remove id).ids.Nodup := by
  rw [Table.ids_remove]
  exact distinct.filter _

inductive TableChange where
  | put (row : Row)
  | remove (id : String)
  | clear

def TableChange.apply (table : Table) : TableChange → Table
  | .put row => table.put row
  | .remove id => table.remove id
  | .clear => table.clear

/-- The table comes about by changes of an empty one. -/
def Index.Table.IsReachable (table : Table) : Prop :=
  ∃ (stemming : Bool) (changes : List TableChange),
    table = changes.foldl TableChange.apply ⟨stemming, []⟩

theorem ids_distinct_of_changes (changes : List TableChange) {table : Table}
    (distinct : table.ids.Nodup) : (changes.foldl TableChange.apply table).ids.Nodup := by
  induction changes generalizing table with
  | nil => exact distinct
  | cons change rest ih =>
      rw [List.foldl_cons]
      apply ih
      cases change with
      | put row => exact ids_distinct_put distinct row
      | remove id => exact ids_distinct_remove distinct id
      | clear => exact List.nodup_nil

/-- However the rows of an index have been changed, no two of them have one id. -/
theorem reachable_ids_distinct {table : Table} (reachable : table.IsReachable) :
    table.ids.Nodup := by
  obtain ⟨stemming, changes, rfl⟩ := reachable
  exact ids_distinct_of_changes changes List.nodup_nil

/-- The rows whose record is there and passes the filters of a query. -/
def Node.keptRows (node : Node) (query : Query) (structured : Option Predicate)
    (rows : List Row) : List Row :=
  rows.filter (node.keepsRow (keepsRecord (.ofTerms query.fullTextPart.excludedTerms) structured))

theorem kept_all_first_iff {rows : List Row} (distinct : (rows.map (·.id)).Nodup)
    (keeps : Row → Bool) (cap : Nat) :
    (∀ row ∈ rows.filter keeps, row.id ∈ ((rows.take cap).filter keeps).map (·.id)) ↔
      (rows.drop cap).filter keeps = [] := by
  have split : rows.filter keeps =
      (rows.take cap).filter keeps ++ (rows.drop cap).filter keeps := by
    rw [← List.filter_append, List.take_append_drop]
  rw [split]
  constructor
  · intro allFirst
    apply List.eq_nil_iff_forall_not_mem.mpr
    intro row behind
    -- The row would have one id with a row before it.
    have first := allFirst row (List.mem_append_right _ behind)
    rw [← List.take_append_drop cap rows, List.map_append, List.nodup_append] at distinct
    refine distinct.2.2 row.id ?_ row.id ?_ rfl
    · exact List.map_subset _ (List.filter_subset_self _) first
    · exact List.mem_map_of_mem (List.mem_of_mem_filter behind)
  · intro none row member
    rw [none, List.append_nil] at member
    exact List.mem_map_of_mem member

section

variable (node : Node) (engine : NodeEngine) (query : Query) (request : SearchRequest)
variable {structured : Option Predicate}

theorem scan_returns (selected : node.selectedIndexes request = [engine.nodeIndex])
    (opens : engine.opens = true) (everything : query.fullTextPart.engineQuery = .everything)
    (compiled : query.compileStructured = .ok structured)
    (answers : ∀ row ∈ engine.rows, node.records.Answers row.id)
    (keyed : node.records.IsKeyed) :
    ∃ outcome, node.execute query request = .ok outcome ∧
      outcome.hits.map (·.record.id) = (node.keptRows query structured
        (engine.rows.take (node.settings.matchLimit request))).map (·.id) := by
  let plan : NodePlan :=
    { engineText := query.fullTextPart.engineQuery.write
      limit := node.settings.matchLimit request
      markers := node.settings.markers request
      keeps := keepsRecord (.ofTerms query.fullTextPart.excludedTerms) structured }
  have planned : NodePlan.of node.settings query request = .ok plan := by
    rw [NodePlan.of, compiled]
    rfl
  have scanning : plan.engineText = EngineQuery.everything.write :=
    congrArg EngineQuery.write everything
  obtain ⟨outcome, success, hits⟩ := Node.execute_succeeds planned
    (by simpa [selected] using scanned_bears scanning opens answers)
    ⟨engine.nodeIndex, by simp [selected], scanned_answers scanning opens⟩
  refine ⟨outcome, success, ?_⟩
  rw [hits, selected, List.flatMap_singleton]
  exact ids_of_scanned scanning opens keyed

/-- A node that asks one index for everything returns the kept ones of as many first rows as the
cap allows. So it returns all kept records whenever the cap leaves room for them, if and only if
it leaves no room or no kept row stands behind those. -/
theorem scan_returns_kept_iff (selected : node.selectedIndexes request = [engine.nodeIndex])
    (opens : engine.opens = true) (everything : query.fullTextPart.engineQuery = .everything)
    (compiled : query.compileStructured = .ok structured)
    (answers : ∀ row ∈ engine.rows, node.records.Answers row.id)
    (keyed : node.records.IsKeyed)
    (reachable : engine.index.foundTable.IsReachable) :
    ∃ outcome, node.execute query request = .ok outcome ∧
      outcome.hits.map (·.record.id) = (node.keptRows query structured
        (engine.rows.take (node.settings.matchLimit request))).map (·.id) ∧
      (((node.keptRows query structured engine.rows).length ≤ node.settings.matchLimit request →
          ∀ row ∈ node.keptRows query structured engine.rows,
            row.id ∈ outcome.hits.map (·.record.id)) ↔
        (node.settings.matchLimit request < (node.keptRows query structured engine.rows).length ∨
          node.keptRows query structured
            (engine.rows.drop (node.settings.matchLimit request)) = [])) := by
  obtain ⟨outcome, success, returned⟩ :=
    scan_returns node engine query request selected opens everything compiled answers keyed
  refine ⟨outcome, success, returned, ?_⟩
  have allFirst := kept_all_first_iff (reachable_ids_distinct reachable)
    (node.keepsRow (keepsRecord (.ofTerms query.fullTextPart.excludedTerms) structured))
    (node.settings.matchLimit request)
  rw [returned, ← Nat.not_le, ← imp_iff_not_or]
  exact imp_congr_right fun _ => allFirst

end

def taggedWork : Query := .compare "tags" .equal (.text "work")

def untaggedNote : Record := .plain "first" "milk" ⟨0, 0⟩

def taggedNote : Record := (Record.plain "second" "meeting" ⟨0, 0⟩).withTags ["work"]

def notesEngine : NodeEngine where
  descriptor := .plain defaultIndexId
  index :=
    { options := .standard, storage := .memory, isOpen := true
      table := some ⟨true, [.ofRecord untaggedNote, .ofRecord taggedNote]⟩ }

def notesNode : Node where
  id := "local"
  access := .full
  weight := none
  indexes := [notesEngine.nodeIndex]
  records := (ContentStore.ofList [untaggedNote, taggedNote]).source
  settings := .standard

def oneResult : SearchRequest := { SearchRequest.forQuery "q" with maxResultsPerNode := some 1 }

theorem tagged_note_needs_room :
    ∃ structured, taggedWork.compileStructured = .ok structured ∧
      (notesNode.keptRows taggedWork structured notesEngine.rows).map (·.id) = ["second"] ∧
      (∃ outcome, notesNode.execute taggedWork (.forQuery "q") = .ok outcome ∧
        ∀ row ∈ notesNode.keptRows taggedWork structured notesEngine.rows,
          row.id ∈ outcome.hits.map (·.record.id)) ∧
      ∃ outcome, notesNode.execute taggedWork oneResult = .ok outcome ∧
        ¬∀ row ∈ notesNode.keptRows taggedWork structured notesEngine.rows,
          row.id ∈ outcome.hits.map (·.record.id) := by
  have keyed : notesNode.records.IsKeyed := source_keyed (keyed_of_list _)
  have answers : ∀ row ∈ notesEngine.rows, notesNode.records.Answers row.id :=
    fun row _ => ⟨_, rfl⟩
  have reachable : notesEngine.index.foundTable.IsReachable :=
    ⟨true, [.put (.ofRecord untaggedNote), .put (.ofRecord taggedNote)], rfl⟩
  refine ⟨_, rfl, by decide, ?_, ?_⟩
  · obtain ⟨outcome, success, _, returned⟩ := scan_returns_kept_iff notesNode notesEngine
      taggedWork (.forQuery "q") rfl rfl rfl rfl answers keyed reachable
    exact ⟨outcome, success, returned.mpr (Or.inr rfl) (by decide)⟩
  · obtain ⟨outcome, success, _, returned⟩ := scan_returns_kept_iff notesNode notesEngine
      taggedWork oneResult rfl rfl rfl rfl answers keyed reachable
    refine ⟨outcome, success, fun all => ?_⟩
    rcases returned.mp fun _ => all with noRoom | noneBehind
    · revert noRoom
      decide
    · cases noneBehind

theorem tagged_note_is_hidden :
    ∃ structured outcome, taggedWork.compileStructured = .ok structured ∧
      taggedWork.fullTextPart.engineQuery = .everything ∧
      notesNode.selectedIndexes oneResult = [notesEngine.nodeIndex] ∧
      notesNode.settings.matchLimit oneResult = 1 ∧
      (notesNode.keptRows taggedWork structured notesEngine.rows).map (·.id) = ["second"] ∧
      notesNode.execute taggedWork oneResult = .ok outcome ∧
      outcome.hits.map (·.record.id) = [] := by
  refine ⟨_, _, rfl, rfl, rfl, rfl, ?_, rfl, ?_⟩
  · decide
  · decide

end FederatedSearch
