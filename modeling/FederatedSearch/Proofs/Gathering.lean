import FederatedSearch.Node.Execution

/-!
What a node gathers. Records are remembered as long as a search lasts, and what is remembered
of an id is what its source says. So the hits of a search are those of its indexes, one index
after the other, with the record of every match looked up by itself.
-/

namespace FederatedSearch

open FederatedSearch.Index

/-- What is known of records is what their source says. -/
def LookedUp.Faithful (source : RecordSource) (known : LookedUp) : Prop :=
  ∀ entry ∈ known, source entry.1 = .ok entry.2

def RecordSource.Answers (source : RecordSource) (id : String) : Prop :=
  ∃ record?, source id = .ok record?

def RecordSource.recordAt (source : RecordSource) (id : String) : Option Record :=
  (source id).toOption.join

def RecordSource.IsKeyed (source : RecordSource) : Prop :=
  ∀ id record, source.recordAt id = some record → record.id = id

section

variable {source : RecordSource} {known : LookedUp} {id : String}

theorem record_at_of_answer {record? : Option Record} (answer : source id = .ok record?) :
    source.recordAt id = record? := by
  rw [RecordSource.recordAt, answer]
  rfl

theorem faithful_empty : LookedUp.Faithful source [] := fun _ member =>
  absurd member List.not_mem_nil

theorem look_up_ok (faithful : known.Faithful source) {record? : Option Record}
    (answer : source id = .ok record?) :
    ∃ later, lookUp source known id = .ok (record?, later) ∧ later.Faithful source := by
  unfold lookUp
  cases found : known.find? (·.1 == id) with
  | some entry =>
      obtain ⟨name, remembered⟩ := entry
      have same : name = id := by simpa using List.find?_some found
      have said := faithful _ (List.mem_of_find?_eq_some found)
      rw [same, answer] at said
      cases said
      exact ⟨known, rfl, faithful⟩
  | none =>
      refine ⟨known ++ [(id, record?)], by rw [answer]; rfl, ?_⟩
      intro entry member
      rcases List.mem_append.mp member with earlier | now
      · exact faithful entry earlier
      · rw [List.mem_singleton.mp now]
        exact answer

theorem look_up_fails (faithful : known.Faithful source) {failure : StoreError}
    (fails : source id = .error failure) : lookUp source known id = .error failure := by
  unfold lookUp
  cases found : known.find? (·.1 == id) with
  | some entry =>
      have same : entry.1 = id := by simpa using List.find?_some found
      have said := faithful entry (List.mem_of_find?_eq_some found)
      rw [same, fails] at said
      cases said
  | none => simp only [fails, Except.map]

end

def ContentStore.IsKeyed (store : ContentStore) : Prop :=
  ∀ entry ∈ store.records.entries, entry.2.id = entry.1

theorem keyed_put {store : ContentStore} (keyed : store.IsKeyed) (record : Record) :
    (store.put record).IsKeyed := by
  intro entry member
  rcases mem_insert_entry member with rfl | earlier
  · rfl
  · exact keyed entry earlier

theorem keyed_of_list (records : List Record) : (ContentStore.ofList records).IsKeyed := by
  have keyed_puts : ∀ {store : ContentStore}, store.IsKeyed →
      (records.foldl ContentStore.put store).IsKeyed := by
    induction records with
    | nil => exact id
    | cons record rest ih => exact fun keyed => ih (keyed_put keyed record)
  exact keyed_puts fun _ member => absurd member List.not_mem_nil

theorem source_keyed {store : ContentStore} (keyed : store.IsKeyed) : store.source.IsKeyed := by
  intro id record found
  have inStore : store.get? id = some record := found
  obtain ⟨entry, isFirst, rfl⟩ := Option.map_eq_some_iff.mp inStore
  rw [keyed entry (List.mem_of_find?_eq_some isFirst)]
  simpa using List.find?_some isFirst

namespace Node

/-- The hit that a match leads to, if its record is there and is kept. -/
def hitOf? (node : Node) (plan : NodePlan) (request : SearchRequest) (index : String)
    (found : Match) : Option (IndexHit Float32) :=
  ((node.records.recordAt found.id).filter plan.keeps).map (found.toHit request node.id index)

/-- The hits that an index leads to. An index that fails leads to none. -/
def indexHits (node : Node) (plan : NodePlan) (request : SearchRequest) (index : NodeIndex) :
    List (IndexHit Float32) :=
  match index.answer plan.engineText plan.limit plan.markers with
  | .ok found => found.filterMap (node.hitOf? plan request index.descriptor.id)
  | .error _ => []

section

variable {node : Node} {plan : NodePlan} {request : SearchRequest}
variable {gathering next : Gathering}

theorem gather_matches_ok (gathering : Gathering) {index : String} {matched : List Match}
    (faithful : gathering.known.Faithful node.records)
    (answers : ∀ found ∈ matched, node.records.Answers found.id) :
    ∃ known, known.Faithful node.records ∧
      node.gatherMatches plan request index gathering matched =
        .ok { gathering with
          hits := gathering.hits ++ matched.filterMap (node.hitOf? plan request index)
          known } := by
  induction matched generalizing gathering with
  | nil =>
      refine ⟨gathering.known, faithful, ?_⟩
      rw [gatherMatches, List.filterMap_nil, List.append_nil]
  | cons found rest ih =>
      obtain ⟨record?, answer⟩ := answers found List.mem_cons_self
      obtain ⟨known, lookedUp, stillFaithful⟩ := look_up_ok faithful answer
      have own : node.hitOf? plan request index found =
          (record?.filter plan.keeps).map (found.toHit request node.id index) := by
        rw [hitOf?, record_at_of_answer answer]
      have others : ∀ other ∈ rest, node.records.Answers other.id := fun other member =>
        answers other (List.mem_cons_of_mem found member)
      simp only [gatherMatches, lookedUp, List.filterMap_cons, own]
      cases record?.filter plan.keeps with
      | none => exact ih { gathering with known } stillFaithful others
      | some record =>
          obtain ⟨later, laterFaithful, gathered⟩ := ih
            ({ gathering with known }.addHit (found.toHit request node.id index record))
            stillFaithful others
          refine ⟨later, laterFaithful, gathered.trans ?_⟩
          simp only [Gathering.addHit, Option.map_some, List.append_assoc, List.singleton_append]

theorem gather_matches_fails (gathering : Gathering) {index : String} {matched : List Match}
    (faithful : gathering.known.Faithful node.records)
    (unanswered : ¬∀ found ∈ matched, node.records.Answers found.id) :
    ∃ failure : StoreError, node.gatherMatches plan request index gathering matched =
      .error (.nodeUnavailable node.id failure.message) := by
  induction matched generalizing gathering with
  | nil => exact absurd (fun _ member => absurd member List.not_mem_nil) unanswered
  | cons found rest ih =>
      cases said : node.records found.id with
      | error failure =>
          refine ⟨failure, ?_⟩
          rw [gatherMatches, look_up_fails faithful said]
      | ok record? =>
          obtain ⟨known, lookedUp, stillFaithful⟩ := look_up_ok faithful said
          have behind : ¬∀ other ∈ rest, node.records.Answers other.id := fun others =>
            unanswered (List.forall_mem_cons.mpr ⟨⟨record?, said⟩, others⟩)
          simp only [gatherMatches, lookedUp]
          refine ih _ ?_ behind
          cases record?.filter plan.keeps <;> exact stillFaithful

/-- All that asking an index can do, if it does not fail the node. -/
theorem gather_index_cases {index : NodeIndex} (faithful : gathering.known.Faithful node.records)
    (step : node.gatherIndex plan request gathering index = .ok next) :
    next.known.Faithful node.records ∧
      ((∃ found known, index.answer plan.engineText plan.limit plan.markers = .ok found ∧
          (∀ each ∈ found, node.records.Answers each.id) ∧
          next = { gathering with
            hits := gathering.hits ++
              found.filterMap (node.hitOf? plan request index.descriptor.id)
            answered := gathering.answered + 1, known }) ∨
        ∃ reason, index.answer plan.engineText plan.limit plan.markers = .error reason ∧
          index.descriptor.required = false ∧
          next = { gathering with
            warnings := gathering.warnings ++ [⟨node.id, index.descriptor.id, reason⟩] }) := by
  unfold gatherIndex at step
  cases answer : index.answer plan.engineText plan.limit plan.markers with
  | ok found =>
      simp only [answer] at step
      by_cases answers : ∀ each ∈ found, node.records.Answers each.id
      · obtain ⟨known, stillFaithful, gathered⟩ := gather_matches_ok
          { gathering with answered := gathering.answered + 1 } faithful answers
        cases gathered.symm.trans step
        exact ⟨stillFaithful, Or.inl ⟨found, known, rfl, answers, rfl⟩⟩
      · obtain ⟨failure, fails⟩ := gather_matches_fails
          { gathering with answered := gathering.answered + 1 } faithful answers
        cases fails.symm.trans step
  | error reason =>
      simp only [answer] at step
      cases required : index.descriptor.required with
      | true =>
          rw [required, if_pos rfl] at step
          cases step
      | false =>
          rw [required, if_neg Bool.false_ne_true] at step
          cases step
          exact ⟨faithful, Or.inr ⟨reason, rfl, rfl, rfl⟩⟩

def answersPlan (plan : NodePlan) (index : NodeIndex) : Bool :=
  (index.answer plan.engineText plan.limit plan.markers).isOk

theorem gather_indexes {indexes : List NodeIndex} (faithful : gathering.known.Faithful node.records)
    (run : indexes.foldlM (node.gatherIndex plan request) gathering = .ok next) :
    next.hits = gathering.hits ++ indexes.flatMap (node.indexHits plan request) ∧
      next.answered = gathering.answered + indexes.countP (answersPlan plan) ∧
      ∀ index ∈ indexes, index.descriptor.required = true → answersPlan plan index = true := by
  induction indexes generalizing gathering with
  | nil =>
      cases run
      exact ⟨(List.append_nil _).symm, rfl, fun _ member => absurd member List.not_mem_nil⟩
  | cons index rest ih =>
      rw [List.foldlM_cons] at run
      cases step : node.gatherIndex plan request gathering index with
      | error error =>
          rw [step] at run
          cases run
      | ok between =>
          rw [step] at run
          obtain ⟨stillFaithful, cases⟩ := gather_index_cases faithful step
          obtain ⟨hits, answered, needed⟩ := ih stillFaithful run
          rw [List.flatMap_cons, ← List.append_assoc, hits, List.countP_cons, answered,
            List.forall_mem_cons]
          rcases cases with ⟨found, known, answer, _, rfl⟩ | ⟨reason, answer, optional, rfl⟩
          · have answers : answersPlan plan index = true := by
              rw [answersPlan, answer]
              rfl
            refine ⟨?_, ?_, fun _ => answers, needed⟩
            · simp only [indexHits, answer]
            · simp only [answers, if_true]
              omega
          · have fails : answersPlan plan index = false := by
              rw [answersPlan, answer]
              rfl
            refine ⟨?_, ?_, fun required => ?_, needed⟩
            · simp only [indexHits, answer, List.append_nil]
            · simp only [fails, Bool.false_eq_true, if_false, Nat.add_zero]
            · rw [optional] at required
              cases required

/-- An index that cannot fail the node: it answers, and its matches can be looked up, or the
node can do without it. -/
def Bears (node : Node) (plan : NodePlan) (index : NodeIndex) : Prop :=
  (∃ found, index.answer plan.engineText plan.limit plan.markers = .ok found ∧
      ∀ each ∈ found, node.records.Answers each.id) ∨
    (answersPlan plan index = false ∧ index.descriptor.required = false)

theorem gather_bearing_indexes {indexes : List NodeIndex}
    (faithful : gathering.known.Faithful node.records)
    (bearing : ∀ index ∈ indexes, node.Bears plan index) :
    ∃ next, indexes.foldlM (node.gatherIndex plan request) gathering = .ok next := by
  induction indexes generalizing gathering with
  | nil => exact ⟨gathering, rfl⟩
  | cons index rest ih =>
      obtain ⟨here, others⟩ := List.forall_mem_cons.mp bearing
      have step : ∃ between, node.gatherIndex plan request gathering index = .ok between := by
        rw [gatherIndex]
        rcases here with ⟨found, answer, answers⟩ | ⟨fails, optional⟩
        · obtain ⟨known, _, gathered⟩ := gather_matches_ok
            { gathering with answered := gathering.answered + 1 } faithful answers
          exact ⟨_, by rw [answer]; exact gathered⟩
        · rw [answersPlan] at fails
          cases answer : index.answer plan.engineText plan.limit plan.markers with
          | ok found =>
              rw [answer] at fails
              cases fails
          | error reason => exact ⟨_, by rw [optional]; rfl⟩
      obtain ⟨between, step⟩ := step
      obtain ⟨next, run⟩ := ih (gather_index_cases faithful step).1 others
      exact ⟨next, by rw [List.foldlM_cons, step]; exact run⟩

/-- The hits of a search are those of the selected indexes, in order. -/
theorem hits_of_execute {query : Query} {outcome : NodeOutcome}
    (success : node.execute query request = .ok outcome) :
    ∃ plan, NodePlan.of node.settings query request = .ok plan ∧
      outcome.hits = (node.selectedIndexes request).flatMap (node.indexHits plan request) ∧
      ∀ index ∈ node.selectedIndexes request, index.descriptor.required = true →
        answersPlan plan index = true := by
  unfold execute at success
  cases planned : NodePlan.of node.settings query request with
  | error error =>
      rw [planned] at success
      cases success
  | ok plan =>
      simp only [planned, carryOut] at success
      cases run : (node.selectedIndexes request).foldlM (node.gatherIndex plan request) .empty with
      | error error =>
          rw [run] at success
          cases success
      | ok gathering =>
          rw [run] at success
          obtain ⟨hits, _, needed⟩ := gather_indexes faithful_empty run
          simp only [Except.bind, outcomeOf] at success
          split at success
          · cases success
          · cases success
            exact ⟨plan, rfl, hits, needed⟩

/-- A search succeeds if no selected index can fail the node and one of them answers. -/
theorem execute_succeeds {query : Query}
    (planned : NodePlan.of node.settings query request = .ok plan)
    (bearing : ∀ index ∈ node.selectedIndexes request, node.Bears plan index)
    (answered : ∃ index ∈ node.selectedIndexes request, answersPlan plan index = true) :
    ∃ outcome, node.execute query request = .ok outcome ∧
      outcome.hits = (node.selectedIndexes request).flatMap (node.indexHits plan request) := by
  have runs : ∃ gathering,
      (node.selectedIndexes request).foldlM (node.gatherIndex plan request) .empty =
        .ok gathering := gather_bearing_indexes faithful_empty bearing
  obtain ⟨gathering, run⟩ := runs
  obtain ⟨hits, count, _⟩ := gather_indexes faithful_empty run
  have some : gathering.answered ≠ 0 := by
    rw [count]
    have positive := List.countP_pos_iff.mpr answered
    omega
  refine ⟨⟨node.id, gathering.hits, gathering.warnings⟩, ?_, hits⟩
  rw [execute, planned]
  simp only [carryOut, run, Except.bind, outcomeOf, some, false_and, if_false]

end

end Node

end FederatedSearch
