import FederatedSearch.Proofs.RecordLookups

/-!
What failures of indexes do to the search of a node. A required index that fails is the end of
the search. Every other failure leaves a warning, and the node does with the indexes that
answer; only if it asked indexes and none of them answered, there is no outcome.
-/

namespace FederatedSearch

open FederatedSearch.Index

abbrev IndexReply := NodeIndex → Except String (List Match)

namespace IndexReply

def answering (reply : IndexReply) (indexes : List NodeIndex) : List (NodeIndex × List Match) :=
  indexes.filterMap fun index => match reply index with
    | .ok found => some (index, found)
    | .error _ => none

def failing (reply : IndexReply) (indexes : List NodeIndex) : List (NodeIndex × String) :=
  indexes.filterMap fun index => match reply index with
    | .ok _ => none
    | .error reason => some (index, reason)

section

variable {reply : IndexReply} {indexes : List NodeIndex} {index : NodeIndex}

theorem mem_answering {found : List Match} :
    (index, found) ∈ reply.answering indexes ↔ index ∈ indexes ∧ reply index = .ok found := by
  rw [answering, List.mem_filterMap]
  constructor
  · rintro ⟨other, member, said⟩
    split at said
    · next answer =>
        cases said
        exact ⟨member, answer⟩
    · cases said
  · rintro ⟨member, answer⟩
    exact ⟨index, member, by rw [answer]⟩

theorem mem_failing {reason : String} :
    (index, reason) ∈ reply.failing indexes ↔ index ∈ indexes ∧ reply index = .error reason := by
  rw [failing, List.mem_filterMap]
  constructor
  · rintro ⟨other, member, said⟩
    split at said
    · cases said
    · next answer =>
        cases said
        exact ⟨member, answer⟩
  · rintro ⟨member, answer⟩
    exact ⟨index, member, by rw [answer]⟩

theorem not_answering (allFail : ∀ index ∈ indexes, ∃ reason, reply index = .error reason) :
    reply.answering indexes = [] := by
  refine List.eq_nil_iff_forall_not_mem.mpr fun answer member => ?_
  obtain ⟨among, found⟩ := mem_answering.mp member
  obtain ⟨reason, fails⟩ := allFail answer.1 among
  cases found.symm.trans fails

theorem failing_optional (needed : ∀ index ∈ indexes, index.descriptor.required = true →
    ∃ found, reply index = .ok found) :
    ∀ failed ∈ reply.failing indexes, failed.1.descriptor.required = false := by
  intro failed member
  obtain ⟨among, fails⟩ := mem_failing.mp member
  refine Bool.eq_false_iff.mpr fun required => ?_
  obtain ⟨found, answer⟩ := needed failed.1 among required
  cases fails.symm.trans answer

theorem answering_of_ok {found : List Match} (answer : reply index = .ok found) :
    reply.answering (index :: indexes) = (index, found) :: reply.answering indexes := by
  rw [answering, List.filterMap_cons, answer]
  rfl

theorem answering_of_error {reason : String} (fails : reply index = .error reason) :
    reply.answering (index :: indexes) = reply.answering indexes := by
  rw [answering, List.filterMap_cons, fails]
  rfl

theorem failing_of_ok {found : List Match} (answer : reply index = .ok found) :
    reply.failing (index :: indexes) = reply.failing indexes := by
  rw [failing, List.filterMap_cons, answer]
  rfl

theorem failing_of_error {reason : String} (fails : reply index = .error reason) :
    reply.failing (index :: indexes) = (index, reason) :: reply.failing indexes := by
  rw [failing, List.filterMap_cons, fails]
  rfl

end

end IndexReply

def NodePlan.reply (plan : NodePlan) : IndexReply := fun index =>
  index.answer plan.engineText plan.limit plan.markers

namespace Node

def requiredFailure (node : Node) (failed : NodeIndex × String) : SearchError :=
  .nodeUnavailable node.id
    ("required index '" ++ failed.1.descriptor.id ++ "' failed: " ++ failed.2)

def warningOf (node : Node) (failed : NodeIndex × String) : IndexWarning :=
  ⟨node.id, failed.1.descriptor.id, failed.2⟩

section

variable {node : Node} {plan : NodePlan} {request : SearchRequest} {gathering : Gathering}

theorem gather_answering_index {index : NodeIndex} {found : List Match}
    (faithful : gathering.known.Faithful node.records)
    (answers : ∀ id, node.records.Answers id) (answer : plan.reply index = .ok found) :
    ∃ known, known.Faithful node.records ∧ node.gatherIndex plan request gathering index =
      .ok { gathering with
        hits := gathering.hits ++ found.filterMap (node.hitOf? plan request index.descriptor.id)
        answered := gathering.answered + 1, known } := by
  rw [NodePlan.reply] at answer
  rw [gatherIndex, answer]
  exact gather_matches_ok { gathering with answered := gathering.answered + 1 } faithful
    fun each _ => answers each.id

theorem gather_failing_index {index : NodeIndex} {reason : String}
    (fails : plan.reply index = .error reason) :
    node.gatherIndex plan request gathering index =
      if index.descriptor.required then .error (node.requiredFailure (index, reason))
      else .ok { gathering with
        warnings := gathering.warnings ++ [node.warningOf (index, reason)] } := by
  rw [NodePlan.reply] at fails
  rw [gatherIndex, fails]
  rfl

/-- The first required index that fails decides, whatever was gathered before. -/
theorem gather_required_failure {indexes : List NodeIndex} {failed : NodeIndex × String}
    (faithful : gathering.known.Faithful node.records)
    (answers : ∀ id, node.records.Answers id)
    (first : (plan.reply.failing indexes).find? (·.1.descriptor.required) = some failed) :
    indexes.foldlM (node.gatherIndex plan request) gathering =
      .error (node.requiredFailure failed) := by
  induction indexes generalizing gathering with
  | nil => cases first
  | cons index rest ih =>
      rw [List.foldlM_cons]
      cases reply : plan.reply index with
      | ok found =>
          obtain ⟨known, stillFaithful, step⟩ := gather_answering_index faithful answers reply
          rw [IndexReply.failing_of_ok reply] at first
          rw [step]
          exact ih stillFaithful first
      | error reason =>
          rw [IndexReply.failing_of_error reply, List.find?_cons] at first
          rw [gather_failing_index reply]
          cases required : index.descriptor.required with
          | true =>
              simp only [required] at first
              cases first
              rfl
          | false =>
              simp only [required] at first
              exact ih faithful first

/-- Indexes that the node can do without leave their warnings, the others their hits. -/
theorem gather_degraded {indexes : List NodeIndex}
    (faithful : gathering.known.Faithful node.records)
    (answers : ∀ id, node.records.Answers id)
    (optional : ∀ failed ∈ plan.reply.failing indexes, failed.1.descriptor.required = false) :
    ∃ known, indexes.foldlM (node.gatherIndex plan request) gathering =
      .ok {
        hits := gathering.hits ++ (plan.reply.answering indexes).flatMap fun answer =>
          answer.2.filterMap (node.hitOf? plan request answer.1.descriptor.id)
        warnings := gathering.warnings ++ (plan.reply.failing indexes).map node.warningOf
        answered := gathering.answered + (plan.reply.answering indexes).length
        known } := by
  induction indexes generalizing gathering with
  | nil => exact ⟨gathering.known, by simp [IndexReply.answering, IndexReply.failing]; rfl⟩
  | cons index rest ih =>
      rw [List.foldlM_cons]
      cases reply : plan.reply index with
      | ok found =>
          rw [IndexReply.failing_of_ok reply] at optional ⊢
          obtain ⟨known, stillFaithful, step⟩ := gather_answering_index faithful answers reply
          let next : Gathering := { gathering with
            hits := gathering.hits ++
              found.filterMap (node.hitOf? plan request index.descriptor.id)
            answered := gathering.answered + 1, known }
          obtain ⟨later, run⟩ := @ih next stillFaithful optional
          refine ⟨later, ?_⟩
          rw [step]
          refine run.trans ?_
          simp only [next, IndexReply.answering_of_ok reply, List.flatMap_cons, List.length_cons,
            List.append_assoc, Nat.add_assoc, Nat.add_comm 1]
      | error reason =>
          rw [IndexReply.failing_of_error reply] at optional ⊢
          obtain ⟨here, others⟩ := List.forall_mem_cons.mp optional
          let next : Gathering := { gathering with
            warnings := gathering.warnings ++ [node.warningOf (index, reason)] }
          obtain ⟨later, run⟩ := @ih next faithful others
          refine ⟨later, ?_⟩
          rw [gather_failing_index reply, here]
          refine run.trans ?_
          simp only [next, IndexReply.answering_of_error reply, List.map_cons, List.append_assoc,
            List.singleton_append]

end

/-- What the node of a query carries out, as far as the node has to know it. -/
def planFor (node : Node) (query : Query) (request : SearchRequest)
    (structured : Option Predicate) : NodePlan where
  engineText := query.fullTextPart.engineQuery.write
  limit := node.settings.matchLimit request
  markers := node.settings.markers request
  keeps := keepsRecord (.ofTerms query.fullTextPart.excludedTerms) structured

def reply (node : Node) (query : Query) (request : SearchRequest) : IndexReply := fun index =>
  index.answer query.fullTextPart.engineQuery.write (node.settings.matchLimit request)
    (node.settings.markers request)

def answeringIndexes (node : Node) (query : Query) (request : SearchRequest) :
    List (NodeIndex × List Match) :=
  (node.reply query request).answering (node.selectedIndexes request)

def failingIndexes (node : Node) (query : Query) (request : SearchRequest) :
    List (NodeIndex × String) :=
  (node.reply query request).failing (node.selectedIndexes request)

/-- The rows that a list of answers leads to. -/
def rowsOf (node : Node) (query : Query) (request : SearchRequest)
    (structured : Option Predicate) (answers : List (NodeIndex × List Match)) :
    List (IndexHit Float32) :=
  answers.flatMap fun answer => answer.2.filterMap
    (node.plainRow? request (.ofTerms query.fullTextPart.excludedTerms) structured answer.1)

section

variable {node : Node} {query : Query} {request : SearchRequest} {structured : Option Predicate}

theorem execute_planned (compiled : query.compileStructured = .ok structured) :
    node.execute query request =
      node.carryOut (node.planFor query request structured) request := by
  have planned : NodePlan.of node.settings query request =
      .ok (node.planFor query request structured) := by
    rw [NodePlan.of, compiled]
    rfl
  rw [execute, planned]

theorem execute_with_required_failure {failed : NodeIndex × String}
    (compiled : query.compileStructured = .ok structured)
    (answers : ∀ id, node.records.Answers id)
    (first : (node.failingIndexes query request).find? (·.1.descriptor.required) = some failed) :
    node.execute query request = .error (node.requiredFailure failed) := by
  have run := @gather_required_failure node (node.planFor query request structured) request
    .empty _ _ faithful_empty answers first
  rw [execute_planned compiled, carryOut, run]
  rfl

theorem rows_of_answers (answers : List (NodeIndex × List Match)) :
    (answers.flatMap fun answer => answer.2.filterMap
      (node.hitOf? (node.planFor query request structured) request answer.1.descriptor.id)) =
      node.rowsOf query request structured answers := by
  refine List.flatMap_congr fun answer _ => List.filterMap_congr fun found _ => ?_
  exact hit_of_match_plainly node request answer.1 found rfl

/-- What the node makes of its indexes if it can do without those that fail. -/
theorem execute_degraded (compiled : query.compileStructured = .ok structured)
    (answers : ∀ id, node.records.Answers id)
    (optional : ∀ failed ∈ node.failingIndexes query request,
      failed.1.descriptor.required = false) :
    ∃ known, node.execute query request = node.outcomeOf {
      hits := node.rowsOf query request structured (node.answeringIndexes query request)
      warnings := (node.failingIndexes query request).map node.warningOf
      answered := (node.answeringIndexes query request).length
      known } := by
  obtain ⟨known, run⟩ := @gather_degraded node (node.planFor query request structured) request
    .empty _ faithful_empty answers optional
  refine ⟨known, ?_⟩
  rw [execute_planned compiled, carryOut, run, rows_of_answers]
  simp only [Gathering.empty, List.nil_append, Nat.zero_add]
  rfl

end

/-- A node whose store answers fails with a required index, does without any others as long as
one answers, with a warning for each, and has no outcome if it asked indexes in vain. -/
theorem failing_indexes_degrade (node : Node) (query : Query) (request : SearchRequest)
    {structured : Option Predicate} (compiled : query.compileStructured = .ok structured)
    (answers : ∀ id, node.records.Answers id) :
    ((∃ index ∈ node.selectedIndexes request, index.descriptor.required = true ∧
        ∃ reason, node.reply query request index = .error reason) →
      ∃ failed ∈ (node.failingIndexes query request).find? (·.1.descriptor.required),
        node.execute query request = .error (.nodeUnavailable node.id
          ("required index '" ++ failed.1.descriptor.id ++ "' failed: " ++ failed.2))) ∧
    ((∀ index ∈ node.selectedIndexes request, index.descriptor.required = true →
        ∃ found, node.reply query request index = .ok found) →
      ((∃ index ∈ node.selectedIndexes request, ∃ found,
          node.reply query request index = .ok found) →
        ∃ outcome, node.execute query request = .ok outcome ∧ outcome.node = node.id ∧
          outcome.hits =
            node.rowsOf query request structured (node.answeringIndexes query request) ∧
          outcome.warnings = (node.failingIndexes query request).map (fun failed =>
            ⟨node.id, failed.1.descriptor.id, failed.2⟩) ∧
          outcome.warnings.map IndexWarning.message =
            (node.failingIndexes query request).map fun failed => node.id ++ ": " ++
              ("Search index '" ++ failed.1.descriptor.id ++ "' unavailable: " ++ failed.2)) ∧
      (node.selectedIndexes request ≠ [] →
        (∀ index ∈ node.selectedIndexes request, ∃ reason,
          node.reply query request index = .error reason) →
        ∃ reason, node.execute query request = .error (.nodeUnavailable node.id reason)) ∧
      (node.selectedIndexes request = [] →
        node.execute query request = .ok ⟨node.id, [], []⟩)) := by
  refine ⟨?_, fun needed => ?_⟩
  · rintro ⟨index, member, required, reason, fails⟩
    have failed : (index, reason) ∈ node.failingIndexes query request :=
      IndexReply.mem_failing.mpr ⟨member, fails⟩
    cases first : (node.failingIndexes query request).find? (·.1.descriptor.required) with
    | none => exact absurd required (List.find?_eq_none.mp first _ failed)
    | some other => exact ⟨other, rfl, execute_with_required_failure compiled answers first⟩
  obtain ⟨known, outcome⟩ :=
    execute_degraded compiled answers (IndexReply.failing_optional needed)
  rw [outcome]
  refine ⟨?_, ?_, ?_⟩
  · rintro ⟨index, member, found, answer⟩
    have positive : 0 < (node.answeringIndexes query request).length :=
      List.length_pos_of_mem (IndexReply.mem_answering.mpr ⟨member, answer⟩)
    rw [outcomeOf, if_neg fun silent => Nat.ne_of_gt positive silent.1]
    exact ⟨_, rfl, rfl, rfl, rfl, List.map_map⟩
  · intro asked allFail
    obtain ⟨index, member⟩ := List.exists_mem_of_ne_nil _ asked
    obtain ⟨reason, fails⟩ := allFail index member
    have failed : (index, reason) ∈ node.failingIndexes query request :=
      IndexReply.mem_failing.mpr ⟨member, fails⟩
    have warned : (node.failingIndexes query request).map node.warningOf ≠ [] :=
      List.ne_nil_of_mem (List.mem_map_of_mem failed)
    have silent : node.answeringIndexes query request = [] := IndexReply.not_answering allFail
    rw [silent, outcomeOf, if_pos ⟨rfl, warned⟩]
    exact ⟨_, rfl⟩
  · intro unasked
    rw [answeringIndexes, failingIndexes, unasked]
    rfl

/-- Indexes of which the first is required; those that are named cannot be opened. -/
def threeIndexNode (broken : List String) : Node where
  id := "local"
  access := .full
  weight := none
  indexes := [⟨"titles", true, none⟩, .plain "archive", .plain "contents"].map fun descriptor =>
    ⟨descriptor, fun _ _ _ => if broken.contains descriptor.id then .error "IO error: no such file"
      else .ok [⟨"note", 0.5, ""⟩]⟩
  records := (ContentStore.ofList [.plain "note" "Rust in practice" ⟨0, 0⟩]).source
  settings := .standard

/-- The node does without its archive, but not without its titles. -/
theorem node_does_without_archive :
    ∃ structured, (Query.text "rust").compileStructured = .ok structured ∧
      (∃ outcome, (threeIndexNode ["archive"]).execute (.text "rust") (.forQuery "rust") =
          .ok outcome ∧
        outcome.hits.map (fun hit => (hit.index, hit.record.id)) =
          [("titles", "note"), ("contents", "note")] ∧
        outcome.warnings.map IndexWarning.message =
          ["local: Search index 'archive' unavailable: IO error: no such file"]) ∧
      (threeIndexNode ["archive", "titles"]).execute (.text "rust") (.forQuery "rust") =
        .error (.nodeUnavailable "local"
          "required index 'titles' failed: IO error: no such file") := by
  have answers (broken : List String) (id : String) :
      (threeIndexNode broken).records.Answers id := ⟨_, rfl⟩
  refine ⟨none, rfl, ?_, ?_⟩
  · obtain ⟨-, degraded⟩ := failing_indexes_degrade (threeIndexNode ["archive"]) (.text "rust")
      (.forQuery "rust") rfl (answers _)
    have needed : ∀ index ∈ (threeIndexNode ["archive"]).selectedIndexes (.forQuery "rust"),
        index.descriptor.required = true → ∃ found,
          (threeIndexNode ["archive"]).reply (.text "rust") (.forQuery "rust") index =
            .ok found := by
      intro index member required
      have among := List.mem_of_mem_filter member
      simp only [threeIndexNode, List.map_cons, List.map_nil, List.mem_cons, List.not_mem_nil,
        or_false] at among
      rcases among with rfl | rfl | rfl
      · exact ⟨_, rfl⟩
      · cases required
      · exact ⟨_, rfl⟩
    obtain ⟨outcome, success, -, hits, -, warned⟩ :=
      (degraded needed).1 ⟨_, List.mem_cons_self, _, rfl⟩
    refine ⟨outcome, success, ?_, ?_⟩
    · rw [hits]
      rfl
    · rw [warned]
      rfl
  · obtain ⟨failed, -⟩ := failing_indexes_degrade (threeIndexNode ["archive", "titles"])
      (.text "rust") (.forQuery "rust") rfl (answers _)
    obtain ⟨first, isFirst, ending⟩ := failed ⟨_, List.mem_cons_self, rfl, _, rfl⟩
    cases isFirst
    exact ending

end Node

end FederatedSearch
