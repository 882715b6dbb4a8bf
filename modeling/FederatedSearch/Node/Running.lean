import FederatedSearch.Node.Execution

/-!
Searches of nodes in time. A search that takes longer than its deadline is given up, and
so is one that is cancelled before it has ended. Times are in milliseconds from the start
of the search.
-/

namespace FederatedSearch

inductive NodeEnding where
  | success (outcome : NodeOutcome)
  | failure (error : SearchError)
  /-- The search breaks down without an answer. -/
  | crash (reason : String)

def NodeEnding.forNode (ending : NodeEnding) (node : String) : NodeEnding :=
  match ending with
  | .failure error => .failure (error.forNode node)
  | ending => ending

def NodeEnding.ofResult : Except SearchError NodeOutcome → NodeEnding
  | .ok outcome => .success outcome
  | .error error => .failure error

structure NodeRun where
  time : Nat
  ending : NodeEnding

def SearchRequest.deadline (request : SearchRequest) (standard : Nat) : Nat :=
  match request.timeoutSeconds with
  | some seconds => seconds * 1000
  | none => standard

/-- The run as it ends under a deadline. It may last until the deadline. -/
def NodeRun.within (run : NodeRun) (node : String) (deadline : Nat) : NodeRun :=
  if run.time ≤ deadline then ⟨run.time, run.ending.forNode node⟩
  else ⟨deadline, .failure (.nodeTimeout node deadline)⟩

def cancellation (node : String) : SearchError := .nodeUnavailable node "search cancelled"

/-- The ending of a run that is cancelled at a time. A search that is cancelled from the
beginning does not start. -/
def NodeRun.cancelledAt (run : NodeRun) (node : String) (time : Nat) : NodeEnding :=
  if time = 0 ∨ time < run.time then .failure (cancellation node) else run.ending

/-- What a federation knows of a node: who it is, and how its searches would run. -/
structure Member where
  id : String
  access : NodeAccess
  weight : Option Float32
  indexes : List IndexDescriptor
  run : Query → SearchRequest → NodeRun

def Member.search (member : Member) (query : Query) (request : SearchRequest)
    (standardDeadline : Nat) : NodeRun :=
  (member.run query request).within member.id (request.deadline standardDeadline)

/-- The time that a search of a node takes: none if no index is asked, and else the least. -/
def Node.searchTime (node : Node) (query : Query) (request : SearchRequest) : Nat :=
  match NodePlan.of node.settings query request with
  | .ok _ => if (node.selectedIndexes request).isEmpty then 0 else 1
  | .error _ => 0

def Node.member (node : Node) : Member :=
  { id := node.id, access := node.access, weight := node.weight, indexes := node.descriptors
    run := fun query request =>
      ⟨node.searchTime query request, .ofResult (node.execute query request)⟩ }

def SearchSettings.standardDeadline (settings : SearchSettings) : Nat :=
  settings.defaultTimeout * 1000

def Node.search (node : Node) (query : Query) (request : SearchRequest) : NodeEnding :=
  (node.member.search query request node.settings.standardDeadline).ending

structure ScriptedMember where
  id : String
  access : NodeAccess
  weight : Option Float32
  indexes : List IndexDescriptor
  hits : List (IndexHit Float32)
  /-- How long a search takes. -/
  delay : Nat
  failure : Option SearchError
  /-- Searches break down with this reason. -/
  crash : Option String

namespace ScriptedMember

/-- Only hits of indexes that are searched for the request are given. -/
def outcome (script : ScriptedMember) (request : SearchRequest) : NodeOutcome :=
  let selected := script.indexes.filter (·.isSelected request)
  ⟨script.id, script.hits.filter fun hit => selected.any (·.id == hit.index), []⟩

def run (script : ScriptedMember) (request : SearchRequest) : NodeRun :=
  match script.crash, script.failure with
  | some reason, _ => ⟨0, .crash reason⟩
  | none, some error => ⟨script.delay, .failure error⟩
  | none, none => ⟨script.delay, .success (script.outcome request)⟩

def member (script : ScriptedMember) : Member :=
  { id := script.id, access := script.access, weight := script.weight
    indexes := script.indexes, run := fun _ request => script.run request }

end ScriptedMember

end FederatedSearch
