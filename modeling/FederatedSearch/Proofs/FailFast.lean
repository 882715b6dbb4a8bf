import FederatedSearch.Proofs.Joining

/-!
Searches that end at the first failure. Whatever the interleaving, such a search succeeds
exactly if all nodes do by themselves. Else its error is the own one of the node whose
failure is recorded first: an error of its execution, or its deadline. The error that a node
gets because others are cancelled is never reported.
-/

namespace FederatedSearch

/-- The search of a member fails by itself: with an error of its own, or at its deadline. -/
def Member.FailsBy (member : Member) (query : Query) (request : SearchRequest)
    (standardDeadline : Nat) (error : SearchError) : Prop :=
  let run := member.run query request
  let deadline := request.deadline standardDeadline
  (run.time ≤ deadline ∧ ∃ own, run.ending = .failure own ∧ error = own.forNode member.id) ∨
    (deadline < run.time ∧ error = .nodeTimeout member.id deadline)

theorem search_fails_iff {member : Member} {query : Query} {request : SearchRequest}
    {standardDeadline : Nat} {error : SearchError} :
    (member.search query request standardDeadline).ending = .failure error ↔
      member.FailsBy query request standardDeadline error := by
  unfold Member.search NodeRun.within Member.FailsBy
  by_cases inTime : (member.run query request).time ≤ request.deadline standardDeadline
  · have notLate := Nat.not_lt.mpr inTime
    simp only [inTime, if_true, true_and, notLate, false_and, or_false]
    cases (member.run query request).ending <;> simp [NodeEnding.forNode, eq_comm]
  · have late := Nat.lt_of_not_le inTime
    simp [inTime, late, eq_comm]

theorem mem_failures_of {results : List (Except SearchError NodeOutcome)} {error : SearchError} :
    error ∈ failuresOf results ↔ .error error ∈ results := by
  induction results with
  | nil => simp [failuresOf]
  | cons result rest ih => cases result <;> simp [failuresOf, ih]

theorem results_without_failures {results : List (Except SearchError NodeOutcome)}
    (none : failuresOf results = []) : results = (outcomesOf results).map .ok := by
  induction results with
  | nil => rfl
  | cons result rest ih =>
      cases result with
      | error error => cases none
      | ok outcome => exact congrArg (Except.ok outcome :: ·) (ih none)

namespace Dispatch

section

variable {searches : List (String × NodeEnding)} {moves : List (Nat × Move)}
variable {dispatch : Dispatch} {position : Nat} {task : Task}

theorem own_success (accords : TaskAccords moves position task) {outcome : NodeOutcome}
    (result : task.result? = some (.ok outcome)) : task.own = .success outcome := by
  have known : task.fate? = some (.success outcome) := by
    unfold Task.result? at result
    split at result <;> simp_all [Task.fate?]
  rcases accords.fate _ known with ⟨own, _⟩ | ⟨cancelled, _⟩
  · exact own.symm
  · cases cancelled

theorem crash_of_error (accords : Accords searches moves dispatch)
    (none : dispatch.firstFailure = none) (found : dispatch.tasks[position]? = some task)
    {error : SearchError} (result : task.result? = some (.error error)) :
    ∃ reason, task.own = .crash reason ∧
      error = .nodeUnavailable task.node ("search task failed: " ++ reason) := by
  have here := accords.tasks position task found
  unfold Task.result? at result
  split at result
  · cases result
  · next ended =>
      exact absurd (here.reported _ (Or.inr ended)) (accords.unreported none position)
  · next reason ended =>
      cases result
      rcases here.fate _ (by rw [Task.fate?, ended]) with ⟨same, _⟩ | ⟨cancelled, _⟩
      · exact ⟨reason, same.symm, rfl⟩
      · cases cancelled
  · cases result

theorem own_successes (accords : Accords searches moves dispatch) {outcomes : List NodeOutcome}
    (results : dispatch.tasks.map Task.result? = outcomes.map fun outcome => some (.ok outcome)) :
    searches.map (·.2) = outcomes.map .success := by
  apply List.ext_getElem?
  intro position
  have here := congrArg (·[position]?) results
  simp only [List.getElem?_map] at here
  rw [← accords.own, List.getElem?_map, List.getElem?_map, List.getElem?_map]
  cases found : dispatch.tasks[position]? with
  | none =>
      cases given : outcomes[position]? with
      | none => rfl
      | some outcome => simp [found, given] at here
  | some task =>
      cases given : outcomes[position]? with
      | none => simp [found, given] at here
      | some outcome =>
          simp only [found, given, Option.map_some, Option.some.injEq] at here
          have own := own_success (accords.tasks position task found) here
          simp [own]

/-- Either all tasks have succeeded by themselves, or one of them has not and is reported. -/
theorem fail_fast_cases (accords : Accords searches moves dispatch)
    (policy : dispatch.policy = .failFast) (joined : dispatch.HasJoined) :
    (∃ outcomes, dispatch.result? = some (.ok ⟨outcomes, []⟩) ∧
      searches.map (·.2) = outcomes.map .success) ∨
    ∃ error position node ending, dispatch.result? = some (.error error) ∧
      searches[position]? = some (node, ending) ∧
      ((ending = .failure error ∧ (position, .giveUp) ∉ moves ∧ ∃ before after,
          moves = before ++ (position, .record) :: after ∧ ∀ other, (other, .record) ∉ before) ∨
        (∃ reason, ending = .crash reason ∧ (∀ other, (other, .record) ∉ moves) ∧
          error = .nodeUnavailable node ("search task failed: " ++ reason))) := by
  obtain ⟨results, same, result⟩ := result_of_joined joined
  rw [policy, gathered] at result
  cases failures : failuresOf results with
  | nil =>
      have successful := results_without_failures failures
      rw [failures] at result
      generalize outcomesOf results = outcomes at successful result
      refine Or.inl ⟨outcomes, result, own_successes accords ?_⟩
      rw [same, successful, List.map_map]
      rfl
  | cons failure others =>
      simp only [failures, reduceCtorEq, false_and, if_false] at result
      cases recorded : dispatch.firstFailure with
      | some error =>
          obtain ⟨position, node, before, after, own, order, none, free⟩ :=
            accords.first error recorded
          rw [recorded] at result
          exact Or.inr ⟨error, position, node, _, result, own,
            Or.inl ⟨rfl, free, before, after, order, none⟩⟩
      | none =>
          have among : .error failure ∈ results := by
            rw [← mem_failures_of, failures]
            exact List.mem_cons_self
          have reported : some (.error failure) ∈ dispatch.tasks.map Task.result? := by
            rw [same]
            exact List.mem_map_of_mem among
          obtain ⟨task, member, broken⟩ := List.mem_map.mp reported
          obtain ⟨position, found⟩ := List.getElem?_of_mem member
          obtain ⟨reason, own, message⟩ := crash_of_error accords recorded found broken
          have search : searches[position]? = some (task.node, task.own) := by
            rw [← accords.own, List.getElem?_map, found, Option.map_some]
          rw [recorded] at result
          exact Or.inr ⟨failure, position, task.node, _, result, search,
            Or.inr ⟨reason, own, accords.unreported recorded, message⟩⟩

end

theorem member_of_search {members : List Member} {query : Query} {request : SearchRequest}
    {standardDeadline position : Nat} {node : String} {ending : NodeEnding}
    (found : (ownSearches members query request standardDeadline)[position]? =
      some (node, ending)) :
    ∃ member, members[position]? = some member ∧ member.id = node ∧
      (member.search query request standardDeadline).ending = ending := by
  rw [ownSearches, List.getElem?_map, Option.map_eq_some_iff] at found
  obtain ⟨member, here, same⟩ := found
  exact ⟨member, here, Prod.mk.inj same⟩

/-- The result of a dispatch of the searches of members that ends at the first failure. If it
is an error, a member failed by itself with it, and it was the first that recorded a failure.
If none was recorded, the search of a member broke down. -/
theorem fail_fast_reports_own_failure (members : List Member) (query : Query)
    (request : SearchRequest) (standardDeadline : Nat) (moves : List (Nat × Move))
    (final : Dispatch)
    (run : (Dispatch.start .failFast (ownSearches members query request standardDeadline)).steps?
      moves = some final) (joined : final.HasJoined) :
    ∃ result, final.result? = some result ∧
      ((∃ gathered, result = .ok gathered) ↔ ∀ member ∈ members, ∃ outcome,
        (member.search query request standardDeadline).ending = .success outcome) ∧
      (∀ gathered, result = .ok gathered → gathered.failures = [] ∧
        members.map (fun member => (member.search query request standardDeadline).ending) =
          gathered.outcomes.map .success) ∧
      ∀ error, result = .error error → ∃ position member, members[position]? = some member ∧
        ((member.FailsBy query request standardDeadline error ∧ (position, .giveUp) ∉ moves ∧
            ∃ before after, moves = before ++ (position, .record) :: after ∧
              ∀ other, (other, .record) ∉ before) ∨
          ∃ reason, (member.search query request standardDeadline).ending = .crash reason ∧
            (∀ other, (other, .record) ∉ moves) ∧
            error = .nodeUnavailable member.id ("search task failed: " ++ reason)) := by
  have accords := accords_steps (start_accords .failFast _) moves run
  rw [List.nil_append] at accords
  have policy : final.policy = .failFast :=
    kept_of_steps (fun same stepped => (policy_of_step stepped).trans same) rfl moves run
  rcases fail_fast_cases accords policy joined with
    ⟨outcomes, result, own⟩ | ⟨error, position, node, ending, result, own, reported⟩
  · have successes : members.map (fun member =>
        (member.search query request standardDeadline).ending) = outcomes.map .success := by
      rw [← own, ownSearches, List.map_map]
      rfl
    refine ⟨_, result, ⟨fun _ member among => ?_, fun _ => ⟨_, rfl⟩⟩, ?_, ?_⟩
    · have ending : (member.search query request standardDeadline).ending ∈
          outcomes.map .success := by
        rw [← successes]
        exact List.mem_map_of_mem among
      obtain ⟨outcome, _, same⟩ := List.mem_map.mp ending
      exact ⟨outcome, same.symm⟩
    · rintro _ ⟨⟩
      exact ⟨rfl, successes⟩
    · rintro error ⟨⟩
  · obtain ⟨member, found, rfl, rfl⟩ := member_of_search own
    refine ⟨_, result, ⟨?_, ?_⟩, ?_, ?_⟩
    · rintro ⟨_, ⟨⟩⟩
    · intro successful
      obtain ⟨outcome, success⟩ := successful member (List.mem_of_getElem? found)
      rw [success] at reported
      rcases reported with ⟨⟨⟩, _⟩ | ⟨_, ⟨⟩, _⟩
    · rintro _ ⟨⟩
    · rintro _ ⟨⟩
      refine ⟨position, member, found, ?_⟩
      rw [← search_fails_iff]
      exact reported

def answeringMember (id : String) (time : Nat) : Member :=
  ⟨id, .full, none, [], fun _ _ => ⟨time, .success ⟨id, [], []⟩⟩⟩

def failingMember (id : String) (time : Nat) (error : SearchError) : Member :=
  ⟨id, .full, none, [], fun _ _ => ⟨time, .failure error⟩⟩

def racingMembers : List Member :=
  [answeringMember "alpha" 5, failingMember "beta" 7 (.indexNotFound none "notes"),
    answeringMember "gamma" 90000]

/-- The late member ends first, but its failure is recorded behind that of the failing one,
and the member that would answer is cancelled. -/
def raceMoves : List (Nat × Move) :=
  [(2, .finish), (1, .finish), (1, .record), (2, .record), (1, .cancelOthers), (0, .giveUp),
    (0, .record), (2, .cancelOthers), (0, .cancelOthers)]

def raceEnd : Dispatch where
  policy := .failFast
  tasks := [
    ⟨"alpha", .success ⟨"alpha", [], []⟩, .ended (.failure (cancellation "alpha"))⟩,
    ⟨"beta", .failure (.indexNotFound (some "beta") "notes"),
      .ended (.failure (.indexNotFound (some "beta") "notes"))⟩,
    ⟨"gamma", .failure (.nodeTimeout "gamma" 30000),
      .ended (.failure (.nodeTimeout "gamma" 30000))⟩]
  firstFailure := some (.indexNotFound (some "beta") "notes")
  cancelled := true

theorem failing_member_is_reported :
    (start .failFast (ownSearches racingMembers (.text "rust") (.forQuery "rust") 30000)).steps?
        raceMoves = some raceEnd ∧ raceEnd.HasJoined ∧
      raceEnd.result? = some (.error (.indexNotFound (some "beta") "notes")) ∧
      ∃ position member, racingMembers[position]? = some member ∧
        member.FailsBy (.text "rust") (.forQuery "rust") 30000
          (.indexNotFound (some "beta") "notes") ∧ (position, .giveUp) ∉ raceMoves := by
  have run : (start .failFast (ownSearches racingMembers (.text "rust") (.forQuery "rust")
      30000)).steps? raceMoves = some raceEnd := rfl
  have joined : raceEnd.HasJoined := by
    intro task member
    simp only [raceEnd, List.mem_cons, List.not_mem_nil, or_false] at member
    rcases member with rfl | rfl | rfl <;> exact ⟨_, rfl⟩
  have result : raceEnd.result? = some (.error (.indexNotFound (some "beta") "notes")) := rfl
  refine ⟨run, joined, result, ?_⟩
  obtain ⟨_, given, _, _, reported⟩ := fail_fast_reports_own_failure _ _ _ _ _ _ run joined
  cases result.symm.trans given
  obtain ⟨position, member, found, ⟨fails, free, _⟩ | ⟨reason, _, none, _⟩⟩ := reported _ rfl
  · exact ⟨position, member, found, fails, free⟩
  · exact absurd (by decide) (none 1)

end Dispatch

end FederatedSearch
