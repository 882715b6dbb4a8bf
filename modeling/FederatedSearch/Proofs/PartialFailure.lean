import FederatedSearch.Federation.Search
import FederatedSearch.Proofs.FailFast

/-!
Searches that go on when nodes fail. Whatever the interleaving, nothing is cancelled and every
node comes to its own end, as an outcome or as a failure. So the response of a search of which
one node succeeds depends on the nodes alone. If all of them fail, the error is the own one of
one of them.
-/

namespace FederatedSearch

def NodeEnding.result (node : String) : NodeEnding → Except SearchError NodeOutcome
  | .success outcome => .ok outcome
  | .failure error => .error error
  | .crash reason => .error (.nodeUnavailable node ("search task failed: " ++ reason))

def Member.ownResult (member : Member) (query : Query) (request : SearchRequest)
    (standardDeadline : Nat) : Except SearchError NodeOutcome :=
  (member.search query request standardDeadline).ending.result member.id

section

variable {results : List (Except SearchError NodeOutcome)}

theorem mem_outcomes_of {outcome : NodeOutcome} :
    outcome ∈ outcomesOf results ↔ .ok outcome ∈ results := by
  rw [outcomesOf, List.mem_filterMap]
  constructor
  · rintro ⟨result, member, success⟩
    cases result with
    | error error => cases success
    | ok found =>
        cases success
        exact member
  · exact fun member => ⟨_, member, rfl⟩

/-- No result is lost, and none counts twice. -/
theorem outcomes_and_failures (results : List (Except SearchError NodeOutcome)) :
    (outcomesOf results).length + (failuresOf results).length = results.length := by
  induction results with
  | nil => rfl
  | cons result rest ih =>
      cases result with
      | error error => exact (Nat.add_assoc _ _ _).symm.trans (congrArg (· + 1) ih)
      | ok outcome => exact (Nat.add_right_comm _ _ _).trans (congrArg (· + 1) ih)

theorem gathered_of_success (firstFailure : Option SearchError)
    (success : ∃ outcome, .ok outcome ∈ results) :
    gathered .«partial» firstFailure results = .ok ⟨outcomesOf results, failuresOf results⟩ := by
  obtain ⟨outcome, member⟩ := success
  have some : outcomesOf results ≠ [] := List.ne_nil_of_mem (mem_outcomes_of.mpr member)
  rw [gathered]
  cases failuresOf results with
  | nil => rfl
  | cons failure others => simp [some]

theorem gathered_of_failures {firstFailure : Option SearchError}
    (none : ∀ outcome, .ok outcome ∉ results) (nonempty : results ≠ [])
    (own : ∀ error, firstFailure = some error → .error error ∈ results) :
    ∃ error, gathered .«partial» firstFailure results = .error error ∧ .error error ∈ results := by
  have empty : outcomesOf results = [] := List.eq_nil_iff_forall_not_mem.mpr fun outcome member =>
    none outcome (mem_outcomes_of.mp member)
  rw [gathered, empty]
  cases failures : failuresOf results with
  | nil =>
      have successful := results_without_failures failures
      rw [empty] at successful
      exact absurd successful nonempty
  | cons failure others =>
      refine ⟨firstFailure.getD failure, by simp, ?_⟩
      cases recorded : firstFailure with
      | some error => exact own error recorded
      | none =>
          rw [← mem_failures_of, failures]
          exact List.mem_cons_self

end

namespace Dispatch

/-- Nothing has been cancelled, and nothing is going to be. -/
structure Undisturbed (dispatch : Dispatch) : Prop where
  policy : dispatch.policy = .«partial»
  uncancelled : dispatch.cancelled = false
  uncancelling : ∀ (position : Nat) (task : Task), dispatch.tasks[position]? = some task →
    ∀ error, task.state ≠ .recorded error

section

variable {searches : List (String × NodeEnding)} {moves : List (Nat × Move)}
variable {dispatch next : Dispatch} {position : Nat} {move : Move} {task : Task}

theorem start_undisturbed (searches : List (String × NodeEnding)) :
    (start .«partial» searches).Undisturbed where
  policy := rfl
  uncancelled := rfl
  uncancelling := by
    intro position task found error
    rw [start, List.getElem?_map, Option.map_eq_some_iff] at found
    obtain ⟨_, _, rfl⟩ := found
    exact TaskState.noConfusion

theorem undisturbed_step (undisturbed : dispatch.Undisturbed)
    (stepped : dispatch.step? position move = some next) : next.Undisturbed := by
  obtain ⟨task, state, found, takes, rfl⟩ := step_cases stepped
  have unrecorded (error : SearchError) : state ≠ .recorded error := by
    rintro rfl
    cases takes with
    | recordFirst _ policy => cases undisturbed.policy.symm.trans policy
  constructor
  case policy => exact undisturbed.policy
  case uncancelled =>
    rw [undisturbed.uncancelled, Bool.false_or, beq_eq_false_iff_ne]
    rintro rfl
    cases takes with
    | cancelOthers recorded => exact undisturbed.uncancelling position task found _ recorded
  case uncancelling =>
    intro other later foundLater error
    rcases task_after_step found foundLater with ⟨_, rfl⟩ | ⟨_, unchanged⟩
    · exact unrecorded error
    · exact undisturbed.uncancelling other later unchanged error

theorem none_given_up (accords : Accords searches moves dispatch)
    (undisturbed : dispatch.Undisturbed) (position : Nat) : (position, .giveUp) ∉ moves := by
  intro givenUp
  cases undisturbed.uncancelled.symm.trans (accords.givenUp position givenUp)

theorem own_result_of_ended (accords : TaskAccords moves position task)
    (free : (position, .giveUp) ∉ moves) (ended : task.HasEnded) :
    task.result? = some (task.own.result task.node) := by
  obtain ⟨ending, state⟩ := ended
  rcases accords.fate ending (by rw [Task.fate?, state]) with ⟨rfl, _⟩ | ⟨_, givenUp⟩
  · rw [Task.result?, state]
    cases task.own <;> rfl
  · exact absurd givenUp free

theorem own_results (accords : Accords searches moves dispatch)
    (undisturbed : dispatch.Undisturbed) (joined : dispatch.HasJoined) :
    dispatch.tasks.map Task.result? =
      searches.map fun search => some (search.2.result search.1) := by
  rw [← accords.own, List.map_map]
  refine List.map_congr_left fun task member => ?_
  obtain ⟨position, found⟩ := List.getElem?_of_mem member
  exact own_result_of_ended (accords.tasks position task found)
    (none_given_up accords undisturbed position) (joined task member)

theorem recorded_is_own (accords : Accords searches moves dispatch) {error : SearchError}
    (recorded : dispatch.firstFailure = some error) :
    .error error ∈ searches.map fun search => search.2.result search.1 := by
  obtain ⟨position, node, _, _, own, _⟩ := accords.first error recorded
  exact List.mem_map.mpr ⟨_, List.mem_of_getElem? own, rfl⟩

end

end Dispatch

namespace Federation

theorem selected_nonempty {federation : Federation} {request : SearchRequest}
    {members : List Member} (selected : federation.select request = .ok members) :
    members ≠ [] := by
  rintro rfl
  unfold select at selected
  split at selected
  · cases selected
  · split at selected
    · cases selected
    · cases found : federation.membersOf (!request.nodes.isEmpty)
          (federation.candidates request) with
      | error error =>
          rw [found] at selected
          cases selected
      | ok members =>
          rw [found] at selected
          cases members <;> cases selected

theorem search_of_checked {federation : Federation} {request : SearchRequest}
    {members : List Member} {query : Query} (valid : request.validate = .ok ())
    (selected : federation.select request = .ok members)
    (indexed : checkIndexes members request = .ok ())
    (read : federation.parse request.query = .ok query) :
    federation.search request =
      (federation.dispatch members query request).map (federation.response members request) := by
  rw [search, valid, selected]
  simp only [bind, Except.bind, indexed, read]
  cases federation.dispatch members query request <;> rfl

def ownResults (federation : Federation) (members : List Member) (query : Query)
    (request : SearchRequest) : List (Except SearchError NodeOutcome) :=
  members.map (·.ownResult query request federation.settings.standardDeadline)

def account (federation : Federation) (members : List Member) (request : SearchRequest)
    (results : List (Except SearchError NodeOutcome)) : SearchResponse :=
  federation.response members request ⟨outcomesOf results, failuresOf results⟩

structure Accounts (federation : Federation) (members : List Member) (request : SearchRequest)
    (results : List (Except SearchError NodeOutcome))
    (answer : Except SearchError SearchResponse) : Prop where
  answered : (∃ outcome, .ok outcome ∈ results) →
    answer = .ok (federation.account members request results)
  failed : (∀ outcome, .ok outcome ∉ results) → ∃ error, answer = .error error ∧
    .error error ∈ results

theorem accounts_of_gathered {federation : Federation} {members : List Member}
    {request : SearchRequest} {results : List (Except SearchError NodeOutcome)}
    {firstFailure : Option SearchError} (nonempty : results ≠ [])
    (own : ∀ error, firstFailure = some error → .error error ∈ results) :
    federation.Accounts members request results
      ((gathered .«partial» firstFailure results).map (federation.response members request)) where
  answered success := by
    rw [gathered_of_success firstFailure success]
    rfl
  failed none := by
    obtain ⟨error, fails, member⟩ := gathered_of_failures none nonempty own
    exact ⟨error, by rw [fails]; rfl, member⟩

section

variable {federation : Federation} {request : SearchRequest} {members : List Member}
variable {query : Query} {moves : List (Nat × Move)} {final : Dispatch}

open Dispatch in
theorem joined_accounts (members_nonempty : members ≠ [])
    (run : (Dispatch.start .«partial» (ownSearches members query request
      federation.settings.standardDeadline)).steps? moves = some final)
    (joined : final.HasJoined) :
    (∀ position, (position, .giveUp) ∉ moves) ∧ final.cancelled = false ∧
      final.tasks.map Task.result? = (federation.ownResults members query request).map some ∧
      ∃ result, final.result? = some result ∧
        federation.Accounts members request (federation.ownResults members query request)
          (result.map (federation.response members request)) := by
  have accords := accords_steps (start_accords .«partial» _) moves run
  rw [List.nil_append] at accords
  have undisturbed : final.Undisturbed :=
    kept_of_steps undisturbed_step (start_undisturbed _) moves run
  have own : final.tasks.map Task.result? =
      (federation.ownResults members query request).map some := by
    rw [own_results accords undisturbed joined, ownSearches, ownResults, List.map_map, List.map_map]
    rfl
  obtain ⟨results, same, result⟩ := result_of_joined joined
  have results_own : results = federation.ownResults members query request :=
    (List.map_inj_right fun _ _ => Option.some.inj).mp (same.symm.trans own)
  refine ⟨none_given_up accords undisturbed, undisturbed.uncancelled, own, _, result, ?_⟩
  rw [undisturbed.policy, results_own]
  refine accounts_of_gathered ?_ fun error recorded => ?_
  · simpa [ownResults] using members_nonempty
  · have isOwn := recorded_is_own accords recorded
    rw [ownSearches, List.map_map] at isOwn
    exact isOwn

theorem search_accounts (goesOn : federation.settings.failurePolicy = .«partial»)
    (valid : request.validate = .ok ()) (selected : federation.select request = .ok members)
    (indexed : checkIndexes members request = .ok ())
    (read : federation.parse request.query = .ok query)
    (inTime : lastEnd federation.settings.failurePolicy
        (members.map (·.search query request federation.settings.standardDeadline)) <
      federation.settings.queryTimeout * 1000) :
    federation.Accounts members request (federation.ownResults members query request)
      (federation.search request) := by
  obtain ⟨moves, final, run, joined, result⟩ :=
    Dispatch.federation_dispatch_interleaves federation members query request inTime
  rw [goesOn] at run
  obtain ⟨_, _, _, gathered, same, accounts⟩ :=
    joined_accounts (selected_nonempty selected) run joined
  cases result.symm.trans same
  rw [search_of_checked valid selected indexed read]
  exact accounts

theorem account_of_results (federation : Federation) (members : List Member) (query : Query)
    (request : SearchRequest) :
    let results := federation.ownResults members query request
    let account := federation.account members request results
    account.nodesSearched = (outcomesOf results).length ∧
      account.nodesRequested = account.nodesSearched + (failuresOf results).length ∧
      account.warnings = ((outcomesOf results).flatMap (·.warnings)).map IndexWarning.message ++
        (failuresOf results).map SearchError.message := by
  refine ⟨rfl, ?_, rfl⟩
  exact (List.length_map _).symm.trans (outcomes_and_failures _).symm

end

/-- A search of several members that goes on when some fail. No member is cancelled, whatever
the interleaving, and each contributes what it finds by itself. If one succeeds, the response
follows from these contributions alone; if none does, the error is one of theirs. -/
theorem partial_search_accounts (federation : Federation) (request : SearchRequest)
    (members : List Member) (query : Query)
    (goesOn : federation.settings.failurePolicy = .«partial»)
    (valid : request.validate = .ok ()) (selected : federation.select request = .ok members)
    (indexed : checkIndexes members request = .ok ())
    (read : federation.parse request.query = .ok query) (moves : List (Nat × Move))
    (final : Dispatch)
    (run : (Dispatch.start federation.settings.failurePolicy (Dispatch.ownSearches members query
      request federation.settings.standardDeadline)).steps? moves = some final)
    (joined : final.HasJoined) :
    let results := federation.ownResults members query request
    let account := federation.account members request results
    (∀ position, (position, .giveUp) ∉ moves) ∧ final.cancelled = false ∧
    final.tasks.map Task.result? = results.map some ∧
    (∃ result, final.result? = some result ∧ federation.Accounts members request results
      (result.map (federation.response members request))) ∧
    (lastEnd federation.settings.failurePolicy
        (members.map (·.search query request federation.settings.standardDeadline)) <
      federation.settings.queryTimeout * 1000 →
        federation.Accounts members request results (federation.search request)) ∧
    account.nodesSearched = (outcomesOf results).length ∧
    account.nodesRequested = account.nodesSearched + (failuresOf results).length ∧
    account.warnings = ((outcomesOf results).flatMap (·.warnings)).map IndexWarning.message ++
      (failuresOf results).map SearchError.message := by
  rw [goesOn] at run
  obtain ⟨free, uncancelled, own, gathered⟩ :=
    joined_accounts (selected_nonempty selected) run joined
  exact ⟨free, uncancelled, own, gathered, search_accounts goesOn valid selected indexed read,
    account_of_results federation members query request⟩

def warningMember (id : String) (time : Nat) (warning : IndexWarning) : Member :=
  ⟨id, .full, none, [], fun _ _ => ⟨time, .success ⟨id, [], [warning]⟩⟩⟩

def limpingMembers : List Member :=
  [warningMember "alpha" 5 ⟨"alpha", "notes", "IO error: gone"⟩,
    Dispatch.failingMember "beta" 7 (.indexNotFound none "notes"),
    warningMember "gamma" 90000 ⟨"gamma", "notes", "IO error: gone"⟩]

def limpingFederation : Federation :=
  limpingMembers.foldl Federation.withMember
    (.new { SearchSettings.standard with failurePolicy := .«partial» })

def limpingMoves : List (Nat × Move) :=
  [(2, .finish), (0, .finish), (2, .record), (1, .finish), (1, .record)]

def limpingEnd : Dispatch where
  policy := .«partial»
  tasks := [
    ⟨"alpha", .success ⟨"alpha", [], [⟨"alpha", "notes", "IO error: gone"⟩]⟩,
      .ended (.success ⟨"alpha", [], [⟨"alpha", "notes", "IO error: gone"⟩]⟩)⟩,
    ⟨"beta", .failure (.indexNotFound (some "beta") "notes"),
      .ended (.failure (.indexNotFound (some "beta") "notes"))⟩,
    ⟨"gamma", .failure (.nodeTimeout "gamma" 30000),
      .ended (.failure (.nodeTimeout "gamma" 30000))⟩]
  firstFailure := some (.nodeTimeout "gamma" 30000)
  cancelled := false

theorem limping_search_answers :
    limpingFederation.parse "rust" = .ok (.text "rust") ∧
    (Dispatch.start .«partial» (Dispatch.ownSearches limpingMembers (.text "rust")
      (.forQuery "rust") 30000)).steps? limpingMoves = some limpingEnd ∧ limpingEnd.HasJoined ∧
    ∃ response, limpingFederation.search (.forQuery "rust") = .ok response ∧
      (∃ result, limpingEnd.result? = some result ∧
        result.map (limpingFederation.response limpingMembers (.forQuery "rust")) =
          .ok response) ∧
      response.nodesSearched = 1 ∧ response.nodesRequested = 3 ∧
      response.warnings.length = 3 := by
  have joined : limpingEnd.HasJoined := by
    intro task member
    simp only [limpingEnd, List.mem_cons, List.not_mem_nil, or_false] at member
    rcases member with rfl | rfl | rfl <;> exact ⟨_, rfl⟩
  refine ⟨rfl, rfl, joined, ?_⟩
  obtain ⟨_, _, _, ⟨result, gathers, accounts⟩, searched, one, all, _⟩ :=
    partial_search_accounts limpingFederation (.forQuery "rust") limpingMembers (.text "rust")
      rfl rfl rfl rfl rfl limpingMoves limpingEnd rfl joined
  have success : ∃ outcome, .ok outcome ∈ limpingFederation.ownResults limpingMembers
      (.text "rust") (.forQuery "rust") := ⟨_, List.mem_cons_self⟩
  exact ⟨_, (searched (by decide)).answered success, ⟨result, gathers, accounts.answered success⟩,
    one, all, rfl⟩

end Federation

end FederatedSearch
