import FederatedSearch.Node.Basic
import FederatedSearch.Query.Compilation
import FederatedSearch.Query.Exclusion

/-!
The search of a node. The full-text part of the query is put to every selected index; each
match is looked up among the records, where each id is looked up only once, and kept if
no excluded term occurs in the record and its other fields meet the conditions. A node
can do without an index that is not required, as long as one index answers.
-/

namespace FederatedSearch

open FederatedSearch.Index

structure NodePlan where
  engineText : String
  limit : Nat
  markers : Markers
  keeps : Record → Bool

def SearchSettings.matchLimit (settings : SearchSettings) (request : SearchRequest) : Nat :=
  request.maxResultsPerNode.getD settings.defaultMaxResultsPerNode

def SearchSettings.markers (settings : SearchSettings) (request : SearchRequest) : Markers :=
  if request.highlight then ⟨settings.highlightStart, settings.highlightEnd⟩ else .none

def keepsRecord (filter : ExclusionFilter) (structured : Option Predicate) (record : Record) :
    Bool :=
  !filter.excludes record && structured.all (· record)

def NodePlan.of (settings : SearchSettings) (query : Query) (request : SearchRequest) :
    Except CompileError NodePlan :=
  let part := query.fullTextPart
  query.compileStructured.map fun structured =>
    { engineText := part.engineQuery.write
      limit := settings.matchLimit request
      markers := settings.markers request
      keeps := keepsRecord (.ofTerms part.excludedTerms) structured }

/-- The beginning of a snippet, or of the content if there is no snippet. -/
def snippetContent (snippet content : String) (length : Option Nat) : String :=
  let text := if snippet = "" then content else snippet
  match length with
  | some length => String.ofList (text.toList.take length)
  | none => text

def Index.Match.toHit (found : Match) (request : SearchRequest) (node index : String)
    (record : Record) : IndexHit Float32 :=
  let content := if request.snippetOnly then
      snippetContent found.snippet record.content request.snippetLength
    else record.content
  { record := { record with content }, node, index, chunk := none, baseRelevance := found.score }

/-- Records by id as far as they have been looked up, in the order of asking. -/
abbrev LookedUp := List (String × Option Record)

/-- The record of an id. The source is asked only for an id that it has not been asked for. -/
def lookUp (source : RecordSource) (known : LookedUp) (id : String) :
    Except StoreError (Option Record × LookedUp) :=
  match known.find? (·.1 == id) with
  | some (_, record) => .ok (record, known)
  | none => (source id).map fun record => (record, known ++ [(id, record)])

structure Gathering where
  hits : List (IndexHit Float32)
  warnings : List IndexWarning
  /-- The number of indexes that answered. -/
  answered : Nat
  known : LookedUp

namespace Gathering

def empty : Gathering := ⟨[], [], 0, []⟩

def addHit (gathering : Gathering) (hit : IndexHit Float32) : Gathering :=
  { gathering with hits := gathering.hits ++ [hit] }

end Gathering

namespace Node

def gatherMatches (node : Node) (plan : NodePlan) (request : SearchRequest) (index : String) :
    Gathering → List Match → Except SearchError Gathering
  | gathering, [] => .ok gathering
  | gathering, found :: rest =>
      match lookUp node.records gathering.known found.id with
      | .error failure => .error (.nodeUnavailable node.id failure.message)
      | .ok (record?, known) =>
          let gathering := { gathering with known }
          node.gatherMatches plan request index
            (match record?.filter plan.keeps with
              | some record => gathering.addHit (found.toHit request node.id index record)
              | none => gathering)
            rest

def gatherIndex (node : Node) (plan : NodePlan) (request : SearchRequest)
    (gathering : Gathering) (index : NodeIndex) : Except SearchError Gathering :=
  match index.answer plan.engineText plan.limit plan.markers with
  | .ok found =>
      node.gatherMatches plan request index.descriptor.id
        { gathering with answered := gathering.answered + 1 } found
  | .error reason =>
      if index.descriptor.required then
        .error (.nodeUnavailable node.id
          ("required index '" ++ index.descriptor.id ++ "' failed: " ++ reason))
      else
        let warning : IndexWarning := ⟨node.id, index.descriptor.id, reason⟩
        .ok { gathering with warnings := gathering.warnings ++ [warning] }

def selectedIndexes (node : Node) (request : SearchRequest) : List NodeIndex :=
  node.indexes.filter (·.descriptor.isSelected request)

/-- The outcome of what was gathered. Failures of indexes alone are none. -/
def outcomeOf (node : Node) (gathering : Gathering) : Except SearchError NodeOutcome :=
  if gathering.answered = 0 ∧ gathering.warnings ≠ [] then
    .error (.nodeUnavailable node.id ("no index answered: " ++
      "; ".intercalate (gathering.warnings.map IndexWarning.message)))
  else .ok ⟨node.id, gathering.hits, gathering.warnings⟩

def carryOut (node : Node) (plan : NodePlan) (request : SearchRequest) :
    Except SearchError NodeOutcome :=
  ((node.selectedIndexes request).foldlM (node.gatherIndex plan request) .empty).bind
    node.outcomeOf

def execute (node : Node) (query : Query) (request : SearchRequest) :
    Except SearchError NodeOutcome :=
  match NodePlan.of node.settings query request with
  | .ok plan => node.carryOut plan request
  | .error error => .error error.toSearchError

end Node

end FederatedSearch
