import FederatedSearch.Proofs.Interleaving

/-!
Interleavings that come to an end. They are bounded, and one that cannot go on has come to
its end and has a result. Turns of all tasks lead there, in whatever order they come, so that
the dispatch of a federation is one of the interleavings that have come to an end.
-/

namespace FederatedSearch

def Task.HasEnded (task : Task) : Prop := ∃ ending, task.state = .ended ending

namespace Dispatch

section

variable {dispatch next : Dispatch} {position : Nat} {move : Move} {task : Task}

def HasJoined (dispatch : Dispatch) : Prop := ∀ task ∈ dispatch.tasks, task.HasEnded

def stepsLeft : TaskState → Nat
  | .running => 3
  | .failed _ => 2
  | .recorded _ => 1
  | .ended _ => 0

/-- How many steps a task can take at most behind the turn of a move. -/
def stepsAfter : Move → Nat
  | .giveUp => 3
  | .finish => 2
  | .record => 1
  | .cancelOthers => 0

def totalLeft : List Task → Nat
  | [] => 0
  | task :: rest => stepsLeft task.state + totalLeft rest

theorem total_of_change {tasks : List Task} (state : TaskState)
    (found : tasks[position]? = some task) :
    totalLeft (tasks.modify position fun task => { task with state }) + stepsLeft task.state =
      totalLeft tasks + stepsLeft state := by
  induction tasks generalizing position with
  | nil => cases found
  | cons first rest ih =>
      cases position with
      | zero =>
          cases found
          simp only [List.modify_zero_cons, totalLeft]
          omega
      | succ position =>
          have behind := ih found
          simp only [List.modify_succ_cons, totalLeft]
          omega

theorem less_left_behind_step (stepped : dispatch.step? position move = some next) :
    totalLeft next.tasks < totalLeft dispatch.tasks := by
  obtain ⟨task, state, found, takes, rfl⟩ := step_cases stepped
  have fewer : stepsLeft state < stepsLeft task.state := by
    cases takes <;> simp_all [stepsLeft]
  have sum := total_of_change state found
  simp only [setState]
  omega

theorem total_of_start (policy : FailurePolicy) (searches : List (String × NodeEnding)) :
    totalLeft (start policy searches).tasks = 3 * searches.length := by
  induction searches with
  | nil => rfl
  | cons search rest ih =>
      rw [List.length_cons, Nat.mul_succ, ← ih, Nat.add_comm]
      rfl

theorem length_of_interleaving {policy : FailurePolicy} {searches : List (String × NodeEnding)}
    {moves : List (Nat × Move)} (run : (start policy searches).steps? moves = some next) :
    moves.length ≤ 3 * searches.length := by
  have fewer (moves : List (Nat × Move)) (dispatch : Dispatch)
      (run : dispatch.steps? moves = some next) : moves.length ≤ totalLeft dispatch.tasks := by
    induction moves generalizing dispatch with
    | nil => exact Nat.zero_le _
    | cons step rest ih =>
        obtain ⟨between, stepped, run⟩ := Option.bind_eq_some_iff.mp run
        have first := less_left_behind_step stepped
        have others := ih between run
        rw [List.length_cons]
        omega
  rw [← total_of_start policy searches]
  exact fewer moves _ run

/-- An interleaving that cannot go on has come to its end. -/
theorem joined_of_stuck (stuck : ∀ position move, dispatch.step? position move = none) :
    dispatch.HasJoined := by
  intro task member
  obtain ⟨position, found⟩ := List.getElem?_of_mem member
  have none (move : Move) := stuck position move
  simp only [step?, found] at none
  cases state : task.state with
  | ended ending => exact ⟨ending, state⟩
  | running =>
      have finish := none .finish
      cases own : task.own <;> simp [state, own] at finish
  | failed error => simpa [state] using none .record
  | recorded error => simpa [state] using none .cancelOthers

theorem moved_if_possible (move : Move) (found : dispatch.tasks[position]? = some task)
    (left : stepsLeft task.state ≤ stepsAfter move + 1) :
    ∃ later, (dispatch.stepIfPossible position move).tasks[position]? = some later ∧
      stepsLeft later.state ≤ stepsAfter move := by
  cases stepped : dispatch.step? position move with
  | none =>
      refine ⟨task, by rw [stepIfPossible, stepped, Option.getD_none, found], ?_⟩
      unfold step? at stepped
      rw [found] at stepped
      cases state : task.state <;> cases move <;> cases own : task.own <;>
        simp_all [stepsLeft, stepsAfter]
  | some next =>
      obtain ⟨same, state, foundSame, takes, rfl⟩ := step_cases stepped
      cases found.symm.trans foundSame
      refine ⟨{ task with state }, ?_, ?_⟩
      · rw [stepIfPossible, stepped, Option.getD_some]
        simp [setState, found]
      · cases takes <;> simp [stepsLeft, stepsAfter]

def HasEndedAt (dispatch : Dispatch) (position : Nat) : Prop :=
  ∃ task, dispatch.tasks[position]? = some task ∧ task.HasEnded

theorem turn_ends (inside : position < dispatch.tasks.length) :
    (dispatch.turn position).HasEndedAt position := by
  have found := List.getElem?_eq_getElem inside
  have atMost : stepsLeft dispatch.tasks[position].state ≤ stepsAfter .giveUp + 1 := by
    cases dispatch.tasks[position].state <;> simp [stepsLeft, stepsAfter]
  obtain ⟨_, found, left⟩ := moved_if_possible .giveUp found atMost
  obtain ⟨_, found, left⟩ := moved_if_possible .finish found left
  obtain ⟨_, found, left⟩ := moved_if_possible .record found left
  obtain ⟨last, found, left⟩ := moved_if_possible .cancelOthers found left
  refine ⟨last, found, ?_⟩
  cases state : last.state with
  | ended ending => exact ⟨ending, state⟩
  | running | failed | recorded => simp [state, stepsLeft, stepsAfter] at left

theorem possible_steps_run (tried : List Move) (dispatch : Dispatch) :
    ∃ moves, dispatch.steps? moves = some (tried.foldl (·.stepIfPossible position ·) dispatch) := by
  induction tried generalizing dispatch with
  | nil => exact ⟨[], rfl⟩
  | cons move rest ih =>
      obtain ⟨moves, run⟩ := ih (dispatch.stepIfPossible position move)
      rw [List.foldl_cons]
      cases stepped : dispatch.step? position move with
      | none =>
          rw [stepIfPossible, stepped, Option.getD_none] at run ⊢
          exact ⟨moves, run⟩
      | some next =>
          rw [stepIfPossible, stepped, Option.getD_some] at run ⊢
          refine ⟨(position, move) :: moves, ?_⟩
          exact (congrArg (·.bind (steps? · moves)) stepped).trans run

theorem turn_run (dispatch : Dispatch) (position : Nat) :
    ∃ moves, dispatch.steps? moves = some (dispatch.turn position) :=
  possible_steps_run _ dispatch

theorem ended_of_step {position other : Nat} (ended : dispatch.HasEndedAt other)
    (stepped : dispatch.step? position move = some next) : next.HasEndedAt other := by
  obtain ⟨endedTask, foundEnded, ending, state⟩ := ended
  obtain ⟨task, nextState, found, takes, rfl⟩ := step_cases stepped
  by_cases same : position = other
  · subst same
    cases found.symm.trans foundEnded
    cases takes <;> simp_all
  · refine ⟨endedTask, ?_, ending, state⟩
    simp [setState, same, foundEnded]

/-- Turns of all tasks are steps to an end, in whatever order they come. -/
theorem turns_join (order : List Nat) (dispatch : Dispatch)
    (all : ∀ position < dispatch.tasks.length,
      position ∈ order ∨ dispatch.HasEndedAt position) :
    ∃ moves final, dispatch.steps? moves = some final ∧ final.HasJoined ∧
      order.foldl turn dispatch = final := by
  induction order generalizing dispatch with
  | nil =>
      refine ⟨[], dispatch, rfl, ?_, rfl⟩
      intro task member
      obtain ⟨position, inside, rfl⟩ := List.getElem_of_mem member
      obtain ⟨_, found, ended⟩ := (all position inside).resolve_left List.not_mem_nil
      rw [List.getElem?_eq_getElem inside, Option.some.injEq] at found
      rw [found]
      exact ended
  | cons position order ih =>
      obtain ⟨first, firstRun⟩ := turn_run dispatch position
      have length : (dispatch.turn position).tasks.length = dispatch.tasks.length :=
        kept_of_steps (fun same stepped => (length_step stepped).trans same) rfl first firstRun
      have others : ∀ other < (dispatch.turn position).tasks.length,
          other ∈ order ∨ (dispatch.turn position).HasEndedAt other := by
        intro other inside
        rw [length] at inside
        rcases all other inside with waiting | ended
        · rcases List.mem_cons.mp waiting with rfl | later
          · exact Or.inr (turn_ends inside)
          · exact Or.inl later
        · exact Or.inr (kept_of_steps ended_of_step ended first firstRun)
      obtain ⟨moves, final, run, joined, same⟩ := ih (dispatch.turn position) others
      refine ⟨first ++ moves, final, ?_, joined, same⟩
      rw [steps_append, firstRun, Option.bind_some, run]

/-- Whatever has happened so far, the tasks can all come to an end. -/
theorem can_join (dispatch : Dispatch) :
    ∃ moves final, dispatch.steps? moves = some final ∧ final.HasJoined := by
  obtain ⟨moves, final, run, joined, _⟩ :=
    turns_join (List.range dispatch.tasks.length) dispatch fun position inside =>
      Or.inl (List.mem_range.mpr inside)
  exact ⟨moves, final, run, joined⟩

end

theorem results_of_tasks {tasks : List Task} (ended : ∀ task ∈ tasks, task.HasEnded) :
    ∃ results, tasks.mapM Task.result? = some results ∧
      tasks.map Task.result? = results.map some := by
  induction tasks with
  | nil => exact ⟨[], rfl, rfl⟩
  | cons task rest ih =>
      obtain ⟨ending, state⟩ := ended task List.mem_cons_self
      have here : ∃ result, task.result? = some result := by
        rw [Task.result?, state]
        cases ending <;> exact ⟨_, rfl⟩
      obtain ⟨result, here⟩ := here
      obtain ⟨results, behind, same⟩ := ih fun other member =>
        ended other (List.mem_cons_of_mem task member)
      refine ⟨result :: results, ?_, ?_⟩
      · rw [List.mapM_cons, here, behind]
        rfl
      · rw [List.map_cons, List.map_cons, here, same]

theorem result_of_joined {dispatch : Dispatch} (joined : dispatch.HasJoined) :
    ∃ results, dispatch.tasks.map Task.result? = results.map some ∧
      dispatch.result? = some (gathered dispatch.policy dispatch.firstFailure results) := by
  obtain ⟨results, gathers, same⟩ := results_of_tasks joined
  exact ⟨results, same, by rw [result?, gathers, Option.map_some]⟩

def ownSearches (members : List Member) (query : Query) (request : SearchRequest)
    (standardDeadline : Nat) : List (String × NodeEnding) :=
  members.map fun member => (member.id, (member.search query request standardDeadline).ending)

theorem mem_ending_order {runs : List NodeRun} {position : Nat} (inside : position < runs.length) :
    position ∈ endingOrder runs := by
  have member : (runs[position], position) ∈ runs.zipIdx :=
    List.mem_zipIdx_iff_getElem?.mpr (List.getElem?_eq_getElem inside)
  exact List.mem_map.mpr ⟨_, List.mem_mergeSort.mpr member, rfl⟩

/-- The dispatch of a federation, if it is in time, is one of the interleavings that have
come to an end. -/
theorem federation_dispatch_interleaves (federation : Federation) (members : List Member)
    (query : Query) (request : SearchRequest)
    (inTime : lastEnd federation.settings.failurePolicy
        (members.map (·.search query request federation.settings.standardDeadline)) <
      federation.settings.queryTimeout * 1000) :
    ∃ moves final, (Dispatch.start federation.settings.failurePolicy
        (ownSearches members query request federation.settings.standardDeadline)).steps? moves =
          some final ∧
      final.HasJoined ∧ final.result? = some (federation.dispatch members query request) := by
  have covered : ∀ position < (Dispatch.start federation.settings.failurePolicy
      (ownSearches members query request
        federation.settings.standardDeadline)).tasks.length,
      position ∈ endingOrder (members.map
        (·.search query request federation.settings.standardDeadline)) := by
    intro position inside
    apply mem_ending_order
    simpa [start, ownSearches] using inside
  obtain ⟨moves, final, run, joined, last⟩ :=
    turns_join _ _ fun position inside => Or.inl (covered position inside)
  obtain ⟨results, _, result⟩ := result_of_joined joined
  refine ⟨moves, final, run, joined, ?_⟩
  have searches : (members.map (·.id)).zip ((members.map
      (·.search query request federation.settings.standardDeadline)).map (·.ending)) =
      ownSearches members query request federation.settings.standardDeadline := by
    rw [List.map_map, List.zip_map']
    rfl
  unfold Federation.dispatch
  simp only [searches, last, result, Option.getD_some, Nat.not_le.mpr inTime, if_false]

end Dispatch

end FederatedSearch
