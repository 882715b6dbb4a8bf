import FederatedSearch.Federation.Basic

/-!
The searches of several nodes at once. Each node is searched by a task of its own. A task
that fails records its failure unless one is recorded already; under the fail-fast policy
it then cancels the other tasks. The steps of different tasks may come in any order; when
all tasks have ended, the result depends on their endings and on the recorded failure.
-/

namespace FederatedSearch

inductive TaskState where
  | running
  /-- The search has failed, and the failure is not recorded yet. -/
  | failed (error : SearchError)
  /-- The failure is recorded, and the other tasks are not cancelled yet. -/
  | recorded (error : SearchError)
  | ended (ending : NodeEnding)

structure Task where
  node : String
  /-- How the search ends if it is not cancelled. -/
  own : NodeEnding
  state : TaskState

inductive Move where
  /-- The search comes to its own end. -/
  | finish
  /-- The search is cancelled. -/
  | giveUp
  | record
  | cancelOthers
deriving DecidableEq

structure Dispatch where
  policy : FailurePolicy
  tasks : List Task
  firstFailure : Option SearchError
  cancelled : Bool

structure Gathered where
  outcomes : List NodeOutcome
  failures : List SearchError

namespace Dispatch

def start (policy : FailurePolicy) (searches : List (String × NodeEnding)) : Dispatch :=
  { policy, tasks := searches.map fun (node, own) => ⟨node, own, .running⟩
    firstFailure := none, cancelled := false }

def setState (dispatch : Dispatch) (position : Nat) (state : TaskState) : Dispatch :=
  { dispatch with tasks := dispatch.tasks.modify position fun task => { task with state } }

/-- The dispatch behind a step of the task at a position, if the task can take it. -/
def step? (dispatch : Dispatch) (position : Nat) (move : Move) : Option Dispatch :=
  match dispatch.tasks[position]? with
  | none => none
  | some task =>
      match move, task.state with
      | .finish, .running =>
          match task.own with
          | .failure error => some (dispatch.setState position (.failed error))
          | own => some (dispatch.setState position (.ended own))
      | .giveUp, .running =>
          if dispatch.cancelled then
            some (dispatch.setState position (.failed (cancellation task.node)))
          else none
      | .record, .failed error =>
          let next := match dispatch.policy with
            | .failFast => .recorded error
            | .«partial» => .ended (.failure error)
          some { dispatch.setState position next with
            firstFailure := dispatch.firstFailure.or (some error) }
      | .cancelOthers, .recorded error =>
          some { dispatch.setState position (.ended (.failure error)) with cancelled := true }
      | _, _ => none

def steps? (dispatch : Dispatch) (moves : List (Nat × Move)) : Option Dispatch :=
  moves.foldlM (fun dispatch (position, move) => dispatch.step? position move) dispatch

end Dispatch

/-- What an ended task contributes. A task that broke down makes its node unavailable. -/
def Task.result? (task : Task) : Option (Except SearchError NodeOutcome) :=
  match task.state with
  | .ended (.success outcome) => some (.ok outcome)
  | .ended (.failure error) => some (.error error)
  | .ended (.crash reason) =>
      some (.error (.nodeUnavailable task.node ("search task failed: " ++ reason)))
  | _ => none

def outcomesOf (results : List (Except SearchError NodeOutcome)) : List NodeOutcome :=
  results.filterMap Except.toOption

def failuresOf : List (Except SearchError NodeOutcome) → List SearchError
  | [] => []
  | .error error :: rest => error :: failuresOf rest
  | .ok _ :: rest => failuresOf rest

/-- The result of a search from those of all tasks. Under the partial policy the search
succeeds if one node does; otherwise the recorded failure is the one that is reported. -/
def gathered (policy : FailurePolicy) (firstFailure : Option SearchError)
    (results : List (Except SearchError NodeOutcome)) : Except SearchError Gathered :=
  let outcomes := outcomesOf results
  match failuresOf results with
  | [] => .ok ⟨outcomes, []⟩
  | failure :: others =>
      if policy = .«partial» ∧ !outcomes.isEmpty then .ok ⟨outcomes, failure :: others⟩
      else .error (firstFailure.getD failure)

namespace Dispatch

def result? (dispatch : Dispatch) : Option (Except SearchError Gathered) :=
  (dispatch.tasks.mapM Task.result?).map (gathered dispatch.policy dispatch.firstFailure)

def stepIfPossible (dispatch : Dispatch) (position : Nat) (move : Move) : Dispatch :=
  (dispatch.step? position move).getD dispatch

/-- A task takes all its steps. If the search was cancelled before its own end, it is given up. -/
def turn (dispatch : Dispatch) (position : Nat) : Dispatch :=
  [Move.giveUp, .finish, .record, .cancelOthers].foldl (·.stepIfPossible position ·) dispatch

end Dispatch

/-- The positions of runs in the order in which they end; at the same time the first one comes
first. -/
def endingOrder (runs : List NodeRun) : List Nat :=
  (runs.zipIdx.mergeSort fun a b => a.1.time ≤ b.1.time).map (·.2)

/-- When the last of the tasks ends: under the fail-fast policy the first failure ends all. -/
def lastEnd (policy : FailurePolicy) (runs : List NodeRun) : Nat :=
  let failures := runs.filter fun run => match run.ending with
    | .failure _ => true
    | _ => false
  match policy, (failures.map (·.time)).min? with
  | .failFast, some time => time
  | _, _ => ((runs.map (·.time)).max?).getD 0

def Federation.dispatch (federation : Federation) (members : List Member) (query : Query)
    (request : SearchRequest) : Except SearchError Gathered :=
  let policy := federation.settings.failurePolicy
  let limit := federation.settings.queryTimeout * 1000
  let runs := members.map (·.search query request federation.settings.standardDeadline)
  let searches := (members.map (·.id)).zip (runs.map (·.ending))
  if limit ≤ lastEnd policy runs then .error (.queryTimeout none limit)
  else
    (((endingOrder runs).foldl Dispatch.turn (.start policy searches)).result?).getD
      (.error (.queryTimeout none limit))

end FederatedSearch
