import FederatedSearch.Federation.Dispatch

/-!
Interleavings of the searches of several nodes. Whatever the order of the steps, each task
keeps its node and its own ending, and it comes to its own ending unless it was cancelled.
Nothing is cancelled before a failure is recorded, so that the task that records the first
one has failed by itself.
-/

namespace FederatedSearch

/-- The state into which a move takes a task. -/
inductive Task.Takes (policy : FailurePolicy) (cancelled : Bool) (task : Task) :
    Move → TaskState → Prop
  | fail {error : SearchError} : task.state = .running → task.own = .failure error →
      Takes policy cancelled task .finish (.failed error)
  | finish : task.state = .running → (∀ error, task.own ≠ .failure error) →
      Takes policy cancelled task .finish (.ended task.own)
  | giveUp : task.state = .running → cancelled = true →
      Takes policy cancelled task .giveUp (.failed (cancellation task.node))
  | recordFirst {error : SearchError} : task.state = .failed error → policy = .failFast →
      Takes policy cancelled task .record (.recorded error)
  | recordLast {error : SearchError} : task.state = .failed error → policy = .«partial» →
      Takes policy cancelled task .record (.ended (.failure error))
  | cancelOthers {error : SearchError} : task.state = .recorded error →
      Takes policy cancelled task .cancelOthers (.ended (.failure error))

def Task.reports? (task : Task) (move : Move) : Option SearchError :=
  match move, task.state with
  | .record, .failed error => some error
  | _, _ => none

/-- What has become of the search of a task, if that is known. -/
def Task.fate? (task : Task) : Option NodeEnding :=
  match task.state with
  | .running => none
  | .failed error | .recorded error => some (.failure error)
  | .ended ending => some ending

namespace Dispatch

section

variable {dispatch next : Dispatch} {position : Nat} {move : Move}

/-- All that a step changes: the state of its task, the recorded failure and the cancellation. -/
theorem step_cases (stepped : dispatch.step? position move = some next) :
    ∃ task state, dispatch.tasks[position]? = some task ∧
      task.Takes dispatch.policy dispatch.cancelled move state ∧
      next = { dispatch.setState position state with
        firstFailure := dispatch.firstFailure.or (task.reports? move)
        cancelled := dispatch.cancelled || move == .cancelOthers } := by
  unfold step? at stepped
  cases found : dispatch.tasks[position]? with
  | none =>
      rw [found] at stepped
      cases stepped
  | some task =>
      rw [found] at stepped
      refine ⟨task, ?_⟩
      simp only at stepped
      split at stepped
      · next running =>
          split at stepped
          · next error fails =>
              cases stepped
              exact ⟨_, rfl, .fail running fails, by simp [Task.reports?, setState]⟩
          · next ends =>
              cases stepped
              exact ⟨_, rfl, .finish running ends, by simp [Task.reports?, setState]⟩
      · next running =>
          split at stepped
          · next cancelled =>
              cases stepped
              exact ⟨_, rfl, .giveUp running cancelled, by simp [Task.reports?, setState]⟩
          · cases stepped
      · next error failed =>
          cases stepped
          cases policy : dispatch.policy with
          | failFast => exact ⟨_, rfl, .recordFirst failed rfl,
              by simp [Task.reports?, failed, setState, policy]⟩
          | «partial» => exact ⟨_, rfl, .recordLast failed rfl,
              by simp [Task.reports?, failed, setState, policy]⟩
      · next error recorded =>
          cases stepped
          exact ⟨_, rfl, .cancelOthers recorded, by simp [Task.reports?, setState]⟩
      · cases stepped

theorem length_step (stepped : dispatch.step? position move = some next) :
    next.tasks.length = dispatch.tasks.length := by
  obtain ⟨task, state, _, _, rfl⟩ := step_cases stepped
  exact List.length_modify ..

theorem policy_of_step (stepped : dispatch.step? position move = some next) :
    next.policy = dispatch.policy := by
  obtain ⟨_, _, _, _, rfl⟩ := step_cases stepped
  rfl

theorem steps_append (first second : List (Nat × Move)) :
    dispatch.steps? (first ++ second) = (dispatch.steps? first).bind (·.steps? second) :=
  List.foldlM_append

theorem kept_of_steps {kept : Dispatch → Prop}
    (step : ∀ {dispatch next : Dispatch} {position : Nat} {move : Move}, kept dispatch →
      dispatch.step? position move = some next → kept next)
    (holds : kept dispatch) (moves : List (Nat × Move))
    (run : dispatch.steps? moves = some next) : kept next := by
  induction moves generalizing dispatch with
  | nil =>
      cases run
      exact holds
  | cons first rest ih =>
      obtain ⟨between, stepped, run⟩ := Option.bind_eq_some_iff.mp run
      exact ih (step holds stepped) run

end

structure TaskAccords (moves : List (Nat × Move)) (position : Nat) (task : Task) : Prop where
  unmoved : task.state = .running → ∀ move, (position, move) ∉ moves
  /-- The search has come to its own end, unless it was cancelled. -/
  fate : ∀ ending, task.fate? = some ending →
    (ending = task.own ∧ (position, .giveUp) ∉ moves) ∨
      (ending = .failure (cancellation task.node) ∧ (position, .giveUp) ∈ moves)
  reported : ∀ error, task.state = .recorded error ∨ task.state = .ended (.failure error) →
    (position, .record) ∈ moves

/-- What holds of a dispatch of some searches behind the moves so far. -/
structure Accords (searches : List (String × NodeEnding)) (moves : List (Nat × Move))
    (dispatch : Dispatch) : Prop where
  own : dispatch.tasks.map (fun task => (task.node, task.own)) = searches
  tasks : ∀ position task, dispatch.tasks[position]? = some task →
    TaskAccords moves position task
  unreported : dispatch.firstFailure = none → ∀ position, (position, .record) ∉ moves
  /-- The recorded failure is the own one of the task that records first. -/
  first : ∀ error, dispatch.firstFailure = some error → ∃ position node before after,
    searches[position]? = some (node, .failure error) ∧
      moves = before ++ (position, .record) :: after ∧ (∀ other, (other, .record) ∉ before) ∧
      (position, .giveUp) ∉ moves
  cancelled : dispatch.cancelled = true → dispatch.firstFailure ≠ none
  givenUp : ∀ position, (position, .giveUp) ∈ moves → dispatch.cancelled = true

section

variable {searches : List (String × NodeEnding)} {moves : List (Nat × Move)}
variable {dispatch next : Dispatch} {position : Nat} {move : Move} {task : Task}

theorem start_accords (policy : FailurePolicy) (searches : List (String × NodeEnding)) :
    Accords searches [] (.start policy searches) where
  own := by simp [start, Function.comp_def]
  tasks := by
    intro position task found
    rw [start, List.getElem?_map, Option.map_eq_some_iff] at found
    obtain ⟨_, _, rfl⟩ := found
    constructor
    · intro _ move
      exact List.not_mem_nil
    · intro ending known
      cases known
    · intro error known
      rcases known with known | known <;> cases known
  unreported := fun _ position => List.not_mem_nil
  first := by
    intro error recorded
    cases recorded
  cancelled := by
    intro cancelled
    cases cancelled
  givenUp := by
    intro position givenUp
    cases givenUp

theorem task_of_other (accords : TaskAccords moves position task) {other : Nat}
    (differs : other ≠ position) (move : Move) :
    TaskAccords (moves ++ [(other, move)]) position task := by
  have same (step : Move) : (position, step) ∈ moves ++ [(other, move)] ↔
      (position, step) ∈ moves := by
    have unlike : (position, step) ≠ (other, move) := fun equal =>
      differs (congrArg Prod.fst equal).symm
    simp [unlike]
  constructor
  · intro running step
    rw [same]
    exact accords.unmoved running step
  · intro ending known
    rw [same]
    exact accords.fate ending known
  · intro error known
    rw [same]
    exact accords.reported error known

theorem task_of_move {policy : FailurePolicy} {cancelled : Bool} {state : TaskState}
    (accords : TaskAccords moves position task) (takes : task.Takes policy cancelled move state) :
    TaskAccords (moves ++ [(position, move)]) position { task with state } := by
  have added (step : Move) : (position, step) ∈ moves ++ [(position, move)] ↔
      (position, step) ∈ moves ∨ step = move := by simp
  -- What is known of the fate of a task stays as it is, since only a running task gives up.
  have keeps (ending : NodeEnding) (known : task.fate? = some ending) (other : move ≠ .giveUp) :
      (ending = task.own ∧ (position, .giveUp) ∉ moves ++ [(position, move)]) ∨
        (ending = .failure (cancellation task.node) ∧
          (position, .giveUp) ∈ moves ++ [(position, move)]) := by
    rw [added]
    simpa [other.symm] using accords.fate ending known
  constructor
  · intro running
    cases takes <;> cases running
  · intro ending known
    cases takes with
    | fail running fails =>
        cases known
        rw [added]
        simp [fails, accords.unmoved running]
    | finish running ends =>
        cases known
        rw [added]
        simp [accords.unmoved running]
    | giveUp running cancelled =>
        cases known
        rw [added]
        simp
    | recordFirst failed | recordLast failed =>
        exact keeps ending (by rw [← known, Task.fate?, failed]; rfl) (by simp)
    | cancelOthers recorded =>
        exact keeps ending (by rw [← known, Task.fate?, recorded]; rfl) (by simp)
  · intro error known
    rw [added]
    cases takes with
    | fail running | giveUp running => rcases known with known | known <;> cases known
    | finish running ends =>
        rcases known with known | known
        · cases known
        · exact absurd (TaskState.ended.inj known) (ends error)
    | recordFirst failed | recordLast failed => exact Or.inr rfl
    | cancelOthers recorded => exact Or.inl (accords.reported _ (Or.inl recorded))

theorem task_after_step {state : TaskState} (found : dispatch.tasks[position]? = some task)
    {other : Nat} {later : Task}
    (foundLater : (dispatch.setState position state).tasks[other]? = some later) :
    (other = position ∧ later = { task with state }) ∨
      (position ≠ other ∧ dispatch.tasks[other]? = some later) := by
  rw [setState, List.getElem?_modify, Option.map_eq_map] at foundLater
  by_cases same : position = other
  · subst same
    simp only [found, if_true, Option.map_some, Option.some.injEq] at foundLater
    exact Or.inl ⟨rfl, foundLater.symm⟩
  · simp only [same, if_false, Option.map_id'] at foundLater
    exact Or.inr ⟨same, foundLater⟩

theorem own_searches_kept (state : TaskState) :
    (dispatch.setState position state).tasks.map (fun task => (task.node, task.own)) =
      dispatch.tasks.map (fun task => (task.node, task.own)) := by
  apply List.ext_getElem?
  intro other
  rw [List.getElem?_map, List.getElem?_map, setState, List.getElem?_modify, Option.map_eq_map,
    Option.map_map]
  apply congrArg (Option.map · _)
  funext task
  simp only [Function.comp_apply]
  split <;> rfl

/-- A task that has not been cancelled has failed by itself. -/
theorem own_failure (accords : Accords searches moves dispatch)
    (found : dispatch.tasks[position]? = some task) {error : SearchError}
    (failed : task.fate? = some (.failure error)) (free : (position, .giveUp) ∉ moves) :
    searches[position]? = some (task.node, .failure error) := by
  have fate := (accords.tasks position task found).fate _ failed
  rcases fate with ⟨own, _⟩ | ⟨_, givenUp⟩
  · rw [← accords.own, List.getElem?_map, found, Option.map_some, ← own]
  · exact absurd givenUp free

theorem reports_iff {error : SearchError} :
    task.reports? move = some error ↔ move = .record ∧ task.state = .failed error := by
  unfold Task.reports?
  split <;> simp_all

/-- One step keeps it all: a failure is recorded before anything is cancelled. -/
theorem accords_step (accords : Accords searches moves dispatch)
    (stepped : dispatch.step? position move = some next) :
    Accords searches (moves ++ [(position, move)]) next := by
  obtain ⟨task, state, found, takes, rfl⟩ := step_cases stepped
  have here := accords.tasks position task found
  constructor
  case own => exact (own_searches_kept state).trans accords.own
  case tasks =>
    intro other later foundLater
    rcases task_after_step found foundLater with ⟨rfl, rfl⟩ | ⟨differs, unchanged⟩
    · exact task_of_move here takes
    · exact task_of_other (accords.tasks other later unchanged) differs move
  case unreported =>
    intro empty other recorded
    obtain ⟨emptyBefore, noReport⟩ := Option.or_eq_none_iff.mp empty
    rcases List.mem_append.mp recorded with earlier | now
    · exact accords.unreported emptyBefore other earlier
    · cases List.mem_singleton.mp now
      have reports (error : SearchError) : task.state ≠ .failed error := fun failed =>
        Option.some_ne_none _ ((reports_iff.mpr ⟨rfl, failed⟩).symm.trans noReport)
      cases takes with
      | recordFirst failed | recordLast failed => exact reports _ failed
  case first =>
    intro error recorded
    cases slot : dispatch.firstFailure with
    | some earlier =>
        simp only [slot, Option.some_or, Option.some.injEq] at recorded
        subst recorded
        obtain ⟨first, node, before, after, own, order, none, free⟩ := accords.first _ slot
        refine ⟨first, node, before, after ++ [(position, move)], own, ?_, none, ?_⟩
        · rw [order, List.append_assoc, List.cons_append]
        · intro givenUp
          rcases List.mem_append.mp givenUp with before | now
          · exact free before
          · -- A task that has recorded its failure does not run, and cannot be cancelled.
            cases List.mem_singleton.mp now
            cases takes with
            | giveUp running _ =>
                apply here.unmoved running .record
                rw [order]
                exact List.mem_append_right before List.mem_cons_self
    | none =>
        simp only [slot, Option.none_or] at recorded
        obtain ⟨rfl, failed⟩ := reports_iff.mp recorded
        have free : (position, .giveUp) ∉ moves := fun givenUp =>
          accords.cancelled (accords.givenUp position givenUp) slot
        have own := own_failure accords found (by rw [Task.fate?, failed]) free
        refine ⟨position, task.node, moves, [], own, rfl, accords.unreported slot, ?_⟩
        simpa using free
  case cancelled =>
    intro cancelled empty
    obtain ⟨emptyBefore, _⟩ := Option.or_eq_none_iff.mp empty
    rcases Bool.or_eq_true_iff.mp cancelled with earlier | now
    · exact accords.cancelled earlier emptyBefore
    · cases beq_iff_eq.mp now
      cases takes with
      | cancelOthers recorded =>
          exact accords.unreported emptyBefore position (here.reported _ (Or.inl recorded))
  case givenUp =>
    intro other givenUp
    apply Bool.or_eq_true_iff.mpr
    rcases List.mem_append.mp givenUp with earlier | now
    · exact Or.inl (accords.givenUp other earlier)
    · cases List.mem_singleton.mp now
      cases takes with
      | giveUp _ cancelled => exact Or.inl cancelled

/-- What holds of every interleaving. -/
theorem accords_steps (accords : Accords searches moves dispatch) (further : List (Nat × Move))
    (run : dispatch.steps? further = some next) : Accords searches (moves ++ further) next := by
  induction further generalizing moves dispatch with
  | nil =>
      cases run
      rw [List.append_nil]
      exact accords
  | cons step rest ih =>
      obtain ⟨between, stepped, run⟩ := Option.bind_eq_some_iff.mp run
      have whole := ih (accords_step accords stepped) run
      rw [List.append_assoc, List.singleton_append] at whole
      exact whole

end

end Dispatch

end FederatedSearch
