import FederatedSearch.Index.SearchIndex
import Mathlib.Data.List.Nodup

/-!
An index over a sequence of calls. Its rows are those that were written and not displaced since,
in the order of writing: a row is displaced by a later row with its id, by the removal of its
id, by a clearing, and by a closing if the rows are held in memory only. All answers can be told
from these rows.
-/

namespace FederatedSearch.Index

inductive IndexCall where
  | put (row : Row)
  | remove (id : String)
  | clear
  | count
  | search (text : String) (limit : Nat) (markers : Markers)
  | close

inductive IndexAnswer where
  | done
  | removed (wasThere : Bool)
  | counted (rows : Nat)
  | found (matched : List Match)

namespace SearchIndex

/-- The index with its answer. If it could not be changed, it stays as it is. -/
def afterAttempt (index : SearchIndex) :
    Except IndexError (SearchIndex × IndexAnswer) → SearchIndex × Except IndexError IndexAnswer
  | .ok (next, answer) => (next, .ok answer)
  | .error error => (index, .error error)

def call (index : SearchIndex) : IndexCall → SearchIndex × Except IndexError IndexAnswer
  | .put row => index.afterAttempt ((index.put row).map (·, .done))
  | .remove id =>
      index.afterAttempt ((index.remove id).map fun (next, wasThere) => (next, .removed wasThere))
  | .clear => index.afterAttempt (index.clear.map (·, .done))
  | .count => index.afterAttempt (index.count.map fun (next, rows) => (next, .counted rows))
  | .search text limit markers =>
      match index.opened with
      | .ok next => (next, (next.search text limit markers).map .found)
      | .error error => (index, .error error)
  | .close => (index.close, .ok .done)

def after (index : SearchIndex) (calls : List IndexCall) : SearchIndex :=
  calls.foldl (fun index call => (index.call call).1) index

end SearchIndex

namespace IndexCall

def isClose : IndexCall → Bool
  | .close => true
  | _ => false

/-- The row that the call writes. -/
def written : IndexCall → List Row
  | .put row => [row]
  | _ => []

/-- The call takes out the row of an id, if the rows are where the storage has them. -/
def displaces (storage : Storage) (id : String) : IndexCall → Bool
  | .put row => id == row.id
  | .remove other => id == other
  | .clear => true
  | .close => match storage with
      | .memory => true
      | .file | .unreachable _ => false
  | .count | .search .. => false

/-- The rows that are written and not displaced by a later call, in the order of writing. -/
def standing (storage : Storage) : List IndexCall → List Row
  | [] => []
  | call :: later =>
      call.written.filter (fun row => !later.any (·.displaces storage row.id)) ++
        standing storage later

end IndexCall

def Storage.isReachable : Storage → Bool
  | .unreachable _ => false
  | .file | .memory => true

/-- The answers to all calls but closings. -/
def SearchIndex.heard (index : SearchIndex) : List IndexCall → List (Except IndexError IndexAnswer)
  | [] => []
  | call :: later =>
      let (next, answer) := index.call call
      if call.isClose then next.heard later else answer :: next.heard later

def Table.reply (table : Table) (options : IndexOptions) :
    IndexCall → Except IndexError IndexAnswer
  | .put _ | .clear | .close => .ok .done
  | .remove id => .ok (.removed (table.ids.contains id))
  | .count => .ok (.counted table.count)
  | .search text limit markers => match SearchIndex.asked? text with
      | some query => .ok (.found (table.search options markers limit query))
      | none => .error .badQuery

section

variable {index : SearchIndex}

def SearchIndex.holding (index : SearchIndex) (table : Table) : SearchIndex :=
  { index with table := some table, isOpen := true }

theorem opened_holding (reachable : index.storage.isReachable = true) :
    index.opened = .ok (index.holding index.foundTable) := by
  rw [SearchIndex.opened, SearchIndex.holding]
  cases storage : index.storage with
  | unreachable reason =>
      rw [storage] at reachable
      cases reachable
  | file | memory => simp only

theorem update_holding (reachable : index.storage.isReachable = true) (change : Table → Table) :
    index.update change = .ok (index.holding (change index.foundTable)) := by
  rw [SearchIndex.update, opened_holding reachable]
  rfl

theorem call_eq (reachable : index.storage.isReachable = true) (call : IndexCall) :
    index.call call = (match call with
      | .put row => index.holding (index.foundTable.put row)
      | .remove id => index.holding (index.foundTable.remove id)
      | .clear => index.holding index.foundTable.clear
      | .count | .search .. => index.holding index.foundTable
      | .close => index.close, index.foundTable.reply index.options call) := by
  cases call with
  | put row | clear | remove id =>
      simp only [SearchIndex.call, SearchIndex.put, SearchIndex.clear, SearchIndex.remove,
        update_holding reachable]
      rfl
  | count =>
      rw [SearchIndex.call, SearchIndex.count, opened_holding reachable]
      rfl
  | search text limit markers =>
      have stillReachable : (index.holding index.foundTable).storage.isReachable = true := reachable
      simp only [SearchIndex.call, opened_holding reachable, SearchIndex.search,
        opened_holding stillReachable, Table.reply]
      cases SearchIndex.asked? text <;> rfl
  | close => rfl

theorem storage_after_close (index : SearchIndex) : index.close.storage = index.storage := by
  rw [SearchIndex.close]
  split <;> rfl

theorem options_after_close (index : SearchIndex) : index.close.options = index.options := by
  rw [SearchIndex.close]
  split <;> rfl

theorem rows_after_close (index : SearchIndex) :
    index.close.foundTable.rows =
      index.foundTable.rows.filter fun row => !IndexCall.close.displaces index.storage row.id := by
  rw [SearchIndex.close]
  cases storage : index.storage with
  | memory => simp [IndexCall.displaces, SearchIndex.foundTable]
  | file | unreachable reason => simp [IndexCall.displaces, SearchIndex.foundTable]

theorem storage_after_call (reachable : index.storage.isReachable = true) (call : IndexCall) :
    (index.call call).1.storage = index.storage := by
  rw [call_eq reachable]
  cases call with
  | close => exact storage_after_close index
  | _ => rfl

theorem options_after_call (reachable : index.storage.isReachable = true) (call : IndexCall) :
    (index.call call).1.options = index.options := by
  rw [call_eq reachable]
  cases call with
  | close => exact options_after_close index
  | _ => rfl

/-- A call takes out the rows that it displaces and adds the row that it writes. -/
theorem rows_after_call (reachable : index.storage.isReachable = true) (call : IndexCall) :
    (index.call call).1.foundTable.rows =
      index.foundTable.rows.filter (fun row => !call.displaces index.storage row.id) ++
        call.written := by
  have untouched :
      index.foundTable.rows = index.foundTable.rows.filter (fun _ => !false) ++ [] := by
    simp
  rw [call_eq reachable]
  cases call with
  | put row => rfl
  | remove id => exact (List.append_nil _).symm
  | clear =>
      simp [IndexCall.displaces, IndexCall.written, SearchIndex.foundTable, Table.clear,
        SearchIndex.holding]
  | count | search text limit markers => exact untouched
  | close => simpa [IndexCall.written] using rows_after_close index

theorem rows_after (reachable : index.storage.isReachable = true) (calls : List IndexCall) :
    (index.after calls).foundTable.rows =
      index.foundTable.rows.filter
          (fun row => !calls.any (·.displaces index.storage row.id)) ++
        IndexCall.standing index.storage calls := by
  induction calls generalizing index with
  | nil =>
      change index.foundTable.rows = index.foundTable.rows.filter (fun _ => true) ++ []
      rw [List.filter_true, List.append_nil]
  | cons call later ih =>
      have stored := storage_after_call reachable call
      have run := @ih (index.call call).1 (by rw [stored]; exact reachable)
      rw [stored, rows_after_call reachable, List.filter_append, List.filter_filter,
        List.append_assoc] at run
      refine run.trans ?_
      simp only [IndexCall.standing, List.any_cons, Bool.not_or, Bool.and_comm]

theorem storage_after (reachable : index.storage.isReachable = true) (calls : List IndexCall) :
    (index.after calls).storage = index.storage := by
  induction calls generalizing index with
  | nil => rfl
  | cons call later ih =>
      have stored := storage_after_call reachable call
      exact (@ih (index.call call).1 (by rw [stored]; exact reachable)).trans stored

theorem options_after (reachable : index.storage.isReachable = true) (calls : List IndexCall) :
    (index.after calls).options = index.options := by
  induction calls generalizing index with
  | nil => rfl
  | cons call later ih =>
      have stored := storage_after_call reachable call
      exact (@ih (index.call call).1 (by rw [stored]; exact reachable)).trans
        (options_after_call reachable call)

end

section

variable {storage : Storage} {calls : List IndexCall} {row : Row}

theorem written_iff {call : IndexCall} : row ∈ call.written ↔ call = .put row := by
  cases call <;> simp [IndexCall.written, eq_comm]

/-- A row stands if it was written and no later call displaces it. -/
theorem mem_standing :
    row ∈ IndexCall.standing storage calls ↔
      ∃ before later, calls = before ++ .put row :: later ∧
        ∀ call ∈ later, call.displaces storage row.id = false := by
  induction calls with
  | nil => simp [IndexCall.standing]
  | cons call rest ih =>
      rw [IndexCall.standing, List.mem_append, List.mem_filter, written_iff, ih]
      constructor
      · rintro (⟨rfl, stays⟩ | ⟨before, later, rfl, stays⟩)
        · exact ⟨[], rest, rfl, by simpa using stays⟩
        · exact ⟨call :: before, later, rfl, stays⟩
      · rintro ⟨before, later, split, stays⟩
        cases before with
        | nil =>
            cases split
            exact Or.inl ⟨rfl, by simpa using stays⟩
        | cons first before =>
            cases split
            exact Or.inr ⟨before, later, rfl, stays⟩

theorem displaced_of_standing (stands : row ∈ IndexCall.standing storage calls) :
    calls.any (·.displaces storage row.id) = true := by
  obtain ⟨before, later, rfl, _⟩ := mem_standing.mp stands
  simp [IndexCall.displaces]

theorem standing_ids_distinct (storage : Storage) (calls : List IndexCall) :
    ((IndexCall.standing storage calls).map (·.id)).Nodup := by
  induction calls with
  | nil => exact List.nodup_nil
  | cons call later ih =>
      cases call with
      | put row =>
          rw [IndexCall.standing, IndexCall.written, List.filter_singleton]
          cases displaced : later.any (·.displaces storage row.id) with
          | true => exact ih
          | false =>
              refine List.nodup_cons.mpr ⟨fun again => ?_, ih⟩
              obtain ⟨other, stands, same⟩ := List.mem_map.mp again
              have displaces := displaced_of_standing stands
              rw [same, displaced] at displaces
              cases displaces
      | remove | clear | count | search | close => exact ih

end

theorem found_in_table {table : Table} {options : IndexOptions} {markers : Markers} {limit : Nat}
    {query : EngineQuery} {found : Match}
    (member : found ∈ table.search options markers limit query) :
    ∃ row ∈ table.rows, row.id = found.id := by
  cases query with
  | everything =>
      obtain ⟨row, among, rfl⟩ := List.mem_map.mp member
      exact ⟨row, List.mem_of_mem_take among, rfl⟩
  | matching expression =>
      obtain ⟨ranked, among, rfl⟩ := List.mem_map.mp member
      have matched := List.mem_mergeSort.mp (List.mem_of_mem_take among)
      obtain ⟨split, holds, rfl⟩ := List.mem_map.mp matched
      obtain ⟨row, inTable, rfl⟩ := List.mem_map.mp (List.mem_of_mem_filter holds)
      exact ⟨row, inTable, rfl⟩

structure HoldAlike (first second : SearchIndex) : Prop where
  firstFile : first.storage = .file
  secondFile : second.storage = .file
  options : first.options = second.options
  table : first.foundTable = second.foundTable

section

variable {first second : SearchIndex}

theorem reachable_of_file (file : first.storage = .file) : first.storage.isReachable = true := by
  rw [file]
  rfl

theorem table_after_close (file : first.storage = .file) :
    first.close.foundTable = first.foundTable := by
  rw [SearchIndex.close, file]
  rfl

theorem HoldAlike.after_close (alike : HoldAlike first second) : HoldAlike first.close second where
  firstFile := (storage_after_close first).trans alike.firstFile
  secondFile := alike.secondFile
  options := (options_after_close first).trans alike.options
  table := (table_after_close alike.firstFile).trans alike.table

theorem HoldAlike.after_call (alike : HoldAlike first second) (call : IndexCall) :
    HoldAlike (first.call call).1 (second.call call).1 where
  firstFile :=
    (storage_after_call (reachable_of_file alike.firstFile) call).trans alike.firstFile
  secondFile :=
    (storage_after_call (reachable_of_file alike.secondFile) call).trans alike.secondFile
  options := by
    rw [options_after_call (reachable_of_file alike.firstFile),
      options_after_call (reachable_of_file alike.secondFile), alike.options]
  table := by
    rw [call_eq (reachable_of_file alike.firstFile), call_eq (reachable_of_file alike.secondFile)]
    cases call with
    | close =>
        exact (table_after_close alike.firstFile).trans
          (alike.table.trans (table_after_close alike.secondFile).symm)
    | put row => exact congrArg (·.put row) alike.table
    | remove id => exact congrArg (·.remove id) alike.table
    | clear => exact congrArg Table.clear alike.table
    | count | search => exact alike.table

theorem HoldAlike.same_answer (alike : HoldAlike first second) (call : IndexCall) :
    (first.call call).2 = (second.call call).2 := by
  rw [call_eq (reachable_of_file alike.firstFile), call_eq (reachable_of_file alike.secondFile),
    alike.table, alike.options]

theorem HoldAlike.heard (alike : HoldAlike first second) (calls : List IndexCall) :
    first.heard calls = second.heard (calls.filter (!·.isClose)) := by
  induction calls generalizing first second with
  | nil => rfl
  | cons call later ih =>
      cases closing : call.isClose with
      | true =>
          have same : call = .close := by
            cases call <;> first | rfl | cases closing
          subst same
          exact ih alike.after_close
      | false =>
          rw [List.filter_cons, closing]
          simp only [SearchIndex.heard, closing, Bool.not_false, if_true, Bool.false_eq_true,
            if_false, alike.same_answer call]
          rw [ih (alike.after_call call)]

end

/-- The rows of an index that was empty at first are those that stand, no two of them with one
id, and its answers are what these rows say. On a file, closing changes no answer. -/
theorem index_keeps_standing_rows (index : SearchIndex) (calls : List IndexCall)
    (reachable : index.storage.isReachable = true) (empty : index.foundTable.rows = []) :
    (index.after calls).foundTable.rows = IndexCall.standing index.storage calls ∧
      (∀ row, row ∈ IndexCall.standing index.storage calls ↔
        ∃ before later, calls = before ++ .put row :: later ∧
          ∀ call ∈ later, call.displaces index.storage row.id = false) ∧
      ((IndexCall.standing index.storage calls).map (·.id)).Nodup ∧
      ((index.after calls).call .count).2 =
        .ok (.counted (IndexCall.standing index.storage calls).length) ∧
      (∀ id, ((index.after calls).call (.remove id)).2 =
        .ok (.removed ((IndexCall.standing index.storage calls).any (·.id == id)))) ∧
      (∀ text limit markers, Text.trim text.toList = [] ∨ Text.trim text.toList = ['*'] →
        ((index.after calls).call (.search text limit markers)).2 =
          .ok (.found (((IndexCall.standing index.storage calls).take limit).map fun row =>
            ⟨row.id, 1, String.ofList (row.content.toList.take index.options.previewLength)⟩))) ∧
      (∀ text limit markers matched,
        ((index.after calls).call (.search text limit markers)).2 = .ok (.found matched) →
          ∀ found ∈ matched, ∃ row ∈ IndexCall.standing index.storage calls, row.id = found.id) ∧
      (index.storage = .file → ∀ others : List IndexCall,
        others.filter (!·.isClose) = calls.filter (!·.isClose) →
          index.heard others = index.heard calls) := by
  have rows : (index.after calls).foundTable.rows = IndexCall.standing index.storage calls := by
    rw [rows_after reachable, empty, List.filter_nil, List.nil_append]
  have stillReachable : (index.after calls).storage.isReachable = true := by
    rw [storage_after reachable]
    exact reachable
  have answer (call : IndexCall) : ((index.after calls).call call).2 =
      (index.after calls).foundTable.reply index.options call := by
    rw [call_eq stillReachable, options_after reachable]
  refine ⟨rows, fun row => mem_standing, standing_ids_distinct _ _, ?_, ?_, ?_, ?_, ?_⟩
  · rw [answer, ← rows]
    rfl
  · intro id
    rw [answer, ← rows, Table.reply, Table.ids, List.contains_eq_any_beq, List.any_map]
    simp only [Function.comp_def, BEq.comm]
  · intro text limit markers blank
    rw [answer, ← rows, Table.reply, SearchIndex.asked?, if_pos blank]
    rfl
  · intro text limit markers matched search found member
    rw [answer, Table.reply] at search
    rw [← rows]
    cases asked : SearchIndex.asked? text with
    | none =>
        rw [asked] at search
        cases search
    | some query =>
        rw [asked] at search
        cases search
        exact found_in_table member
  · intro file others same
    have alike : HoldAlike index index := ⟨file, file, rfl, rfl⟩
    rw [alike.heard others, same, ← alike.heard calls]

def noteCalls : List IndexCall :=
  [.put ⟨"a", none, none, "milk"⟩, .put ⟨"b", none, none, "meeting"⟩, .close,
    .put ⟨"a", none, none, "milk and bread"⟩, .search "*" 10 .none, .remove "b"]

/-- The index in a file counts the first note only, finds it as it was written last, and
answers the same without being closed. -/
theorem rewritten_note_stands :
    ∃ index : SearchIndex, index.storage.isReachable = true ∧ index.foundTable.rows = [] ∧
      IndexCall.standing index.storage noteCalls = [⟨"a", none, none, "milk and bread"⟩] ∧
      ((index.after noteCalls).call .count).2 = .ok (.counted 1) ∧
      ((index.after noteCalls).call (.remove "b")).2 = .ok (.removed false) ∧
      ((index.after noteCalls).call (.search " " 10 .none)).2 =
        .ok (.found [⟨"a", 1, "milk and bread"⟩]) ∧
      index.heard noteCalls = index.heard (noteCalls.filter (!·.isClose)) := by
  refine ⟨.new .standard .file, rfl, rfl, rfl, ?_⟩
  obtain ⟨_, _, _, counted, removed, listed, _, unheard⟩ :=
    index_keeps_standing_rows (.new .standard .file) noteCalls rfl rfl
  exact ⟨counted, removed "b", listed " " 10 .none (by decide), (unheard rfl _ rfl).symm⟩

/-- An index in memory has lost its rows when it is opened again. -/
theorem closed_memory_index_forgets :
    (SearchIndex.new .standard .memory).heard [.put ⟨"a", none, none, "milk"⟩, .count] =
        [.ok .done, .ok (.counted 1)] ∧
      (SearchIndex.new .standard .memory).heard [.put ⟨"a", none, none, "milk"⟩, .close, .count] =
        [.ok .done, .ok (.counted 0)] := ⟨rfl, rfl⟩

end FederatedSearch.Index
