import FederatedSearch.Proofs.Degradation
import FederatedSearch.Proofs.FailFast

/-!
Failures and the nodes that they name. The search of a node fails because its records, its
required indexes or all of its indexes cannot be reached, because it takes too long or because it
is cancelled. Each of these failures names the node. Only a query that is no condition on records
is a malformed request, which concerns no node.
-/

namespace FederatedSearch

def SearchError.IsOutage (error : SearchError) (node : String) : Prop :=
  ∃ reason, error = .nodeUnavailable node reason

/-- The error is the one of a query that cannot be made into a condition on records. -/
def Query.IsRejectedAs (query : Query) (error : SearchError) : Prop :=
  ∃ fault, query.compileStructured = .error fault ∧ error = fault.toSearchError

namespace Node

variable {node : Node} {plan : NodePlan} {query : Query} {request : SearchRequest}
variable {gathering : Gathering} {error : SearchError}

theorem gather_matches_outage {index : String} {matched : List Index.Match}
    (fails : node.gatherMatches plan request index gathering matched = .error error) :
    error.IsOutage node.id := by
  induction matched generalizing gathering with
  | nil => cases fails
  | cons found rest ih =>
      rw [gatherMatches] at fails
      cases said : lookUp node.records gathering.known found.id with
      | error failure =>
          simp only [said] at fails
          cases fails
          exact ⟨_, rfl⟩
      | ok answer =>
          simp only [said] at fails
          exact ih fails

theorem gather_index_outage {index : NodeIndex}
    (fails : node.gatherIndex plan request gathering index = .error error) :
    error.IsOutage node.id := by
  unfold gatherIndex at fails
  cases answer : index.answer plan.engineText plan.limit plan.markers with
  | ok found =>
      simp only [answer] at fails
      exact gather_matches_outage fails
  | error reason =>
      simp only [answer] at fails
      split at fails
      · cases fails
        exact ⟨_, rfl⟩
      · cases fails

theorem gather_indexes_outage {indexes : List NodeIndex}
    (fails : indexes.foldlM (node.gatherIndex plan request) gathering = .error error) :
    error.IsOutage node.id := by
  induction indexes generalizing gathering with
  | nil => cases fails
  | cons index rest ih =>
      rw [List.foldlM_cons] at fails
      cases step : node.gatherIndex plan request gathering index with
      | error failure =>
          rw [step] at fails
          cases fails
          exact gather_index_outage step
      | ok between =>
          rw [step] at fails
          exact ih fails

theorem carry_out_outage (fails : node.carryOut plan request = .error error) :
    error.IsOutage node.id := by
  unfold carryOut at fails
  cases gathered : (node.selectedIndexes request).foldlM (node.gatherIndex plan request) .empty with
  | error failure =>
      rw [gathered] at fails
      cases fails
      exact gather_indexes_outage gathered
  | ok gathering =>
      rw [gathered] at fails
      simp only [Except.bind, outcomeOf] at fails
      split at fails
      · cases fails
        exact ⟨_, rfl⟩
      · cases fails

/-- Whatever the indexes and the store answer, a search that is carried out to its end fails as
one of a node that is not available, or as one of a query that is rejected. -/
theorem execute_error_cases (fails : node.execute query request = .error error) :
    error.IsOutage node.id ∨ query.IsRejectedAs error := by
  unfold execute NodePlan.of at fails
  cases compiled : query.compileStructured with
  | error fault =>
      simp only [compiled, Except.map] at fails
      cases fails
      exact Or.inr ⟨fault, compiled, rfl⟩
  | ok structured =>
      simp only [compiled, Except.map] at fails
      exact Or.inl (carry_out_outage fails)

def lasting (node : Node) (time : Nat) : Member :=
  { node.member with
    run := fun query request => ⟨time, .ofResult (node.execute query request)⟩ }

/-- The end of a search of the node that takes a time of its own, under a standard deadline, and
that may be cancelled at a moment. -/
def endingOf (node : Node) (time standard : Nat) (cancelled : Option Nat) (query : Query)
    (request : SearchRequest) : NodeEnding :=
  let run := (node.lasting time).search query request standard
  match cancelled with
  | none => run.ending
  | some moment => run.cancelledAt node.id moment

/-- The error names the node. Only that of a rejected query names none. -/
structure Names (node : Node) (query : Query) (error : SearchError) : Prop where
  named : ¬query.IsRejectedAs error → error.node? = some node.id
  unnamed : query.IsRejectedAs error → error.node? = none

theorem names_of_named (named : error.node? = some node.id) : node.Names query error where
  named _ := named
  unnamed := by
    rintro ⟨fault, -, rfl⟩
    cases named

theorem attributed_names (own : error.IsOutage node.id ∨ query.IsRejectedAs error) :
    node.Names query (error.forNode node.id) := by
  rcases own with ⟨reason, rfl⟩ | ⟨fault, compiled, rfl⟩
  · exact names_of_named rfl
  · exact ⟨fun other => absurd ⟨fault, compiled, rfl⟩ other, fun _ => rfl⟩

theorem failed_run_names {time standard : Nat}
    (fails : ((node.lasting time).search query request standard).ending = .failure error) :
    node.Names query error := by
  rcases search_fails_iff.mp fails with ⟨-, own, executed, rfl⟩ | ⟨-, rfl⟩
  · have failed : node.execute query request = .error own := by
      cases result : node.execute query request with
      | ok outcome => simp [lasting, result, NodeEnding.ofResult] at executed
      | error other => simpa [lasting, result, NodeEnding.ofResult] using executed
    exact attributed_names (execute_error_cases failed)
  · exact names_of_named rfl

/-- However long the search of a node lasts, whatever its indexes and its store answer and whenever
it is cancelled: if it fails, the error names the node, unless it is that of a rejected query. -/
theorem failed_search_names_node (node : Node) (query : Query) (request : SearchRequest)
    (error : SearchError) :
    (∀ time standard cancelled,
      node.endingOf time standard cancelled query request = .failure error →
        node.Names query error) ∧
    (node.search query request = .failure error → node.Names query error) := by
  refine ⟨fun time standard cancelled fails => ?_, failed_run_names⟩
  cases cancelled with
  | none => exact failed_run_names fails
  | some moment =>
      simp only [endingOf, NodeRun.cancelledAt] at fails
      split at fails
      · cases fails
        exact names_of_named rfl
      · exact failed_run_names fails

def unreadableNode : Node :=
  { threeIndexNode [] with records := fun _ => .error (.storage "disk full") }

theorem unreadable_node_is_named :
    ∃ unread late cancelled,
      unreadableNode.search (.text "rust") (.forQuery "rust") = .failure unread ∧
      unreadableNode.endingOf 5 3 none (.text "rust") (.forQuery "rust") = .failure late ∧
      unreadableNode.endingOf 5 9 (some 4) (.text "rust") (.forQuery "rust") =
        .failure cancelled ∧
      [unread, late, cancelled].map SearchError.node? = List.replicate 3 (some "local") := by
  have accepted (error : SearchError) : ¬(Query.text "rust").IsRejectedAs error := by
    rintro ⟨fault, compiled, -⟩
    cases compiled
  have names := failed_search_names_node unreadableNode (.text "rust") (.forQuery "rust")
  refine ⟨_, _, _, rfl, rfl, rfl, ?_⟩
  rw [List.map_cons, ((names _).2 rfl).named (accepted _), List.map_cons,
    ((names _).1 5 3 none rfl).named (accepted _), List.map_cons,
    ((names _).1 5 9 (some 4) rfl).named (accepted _)]
  rfl

/-- A query about a field that records do not have fails at every node and names none of them. -/
theorem unknown_field_names_no_node :
    let query := Query.comparison (.ofPath "author") .equal (.text "x")
    ∃ error, unreadableNode.search query (.forQuery "q") = .failure error ∧
      error.message = "Invalid request: Unknown field: author" ∧
      error.node? ≠ some unreadableNode.id := by
  exact ⟨.invalidRequest "Unknown field: author", rfl, rfl, by decide⟩

end Node

end FederatedSearch
