import FederatedSearch.Index.SearchIndex
import FederatedSearch.Ranking.Hit
import FederatedSearch.Request
import FederatedSearch.Settings.Basic
import FederatedSearch.Store

/-!
Nodes: each holds records, and indexes through which they are found. An index of a node
has an id; a required one takes part in every search.
-/

namespace FederatedSearch

open FederatedSearch.Index

structure IndexDescriptor where
  id : String
  /-- The index cannot be left out, and if it fails, the node fails. -/
  required : Bool
  weight : Option Float32

def defaultIndexId : String := "default"

def IndexDescriptor.plain (id : String) : IndexDescriptor := ⟨id, false, none⟩

def IndexDescriptor.ofSettings (settings : IndexSettings) : IndexDescriptor :=
  ⟨settings.id, settings.required, settings.weight⟩

/-- The request asks for the index, by name or by naming none, and does not exclude it. -/
def SearchRequest.wants (request : SearchRequest) (index : String) : Bool :=
  (request.searchIndexes.isEmpty || request.searchIndexes.contains index) &&
    !request.excludeIndexes.contains index

def IndexDescriptor.isSelected (index : IndexDescriptor) (request : SearchRequest) : Bool :=
  index.required || request.wants index.id

structure IndexWarning where
  node : String
  index : String
  reason : String
deriving DecidableEq

def IndexWarning.message (warning : IndexWarning) : String :=
  warning.node ++ ": " ++
    (SearchError.indexUnavailable (some warning.node) warning.index warning.reason).message

structure NodeOutcome where
  node : String
  hits : List (IndexHit Float32)
  /-- Failures of indexes that the node could do without. -/
  warnings : List IndexWarning

/-- An index of a node, as it answers the text of a query: with at most so many matches, or
with the reason why it has none to give. -/
structure NodeIndex where
  descriptor : IndexDescriptor
  answer : String → Nat → Markers → Except String (List Match)

def NodeIndex.ofSearchIndex (descriptor : IndexDescriptor) (index : SearchIndex) : NodeIndex where
  descriptor
  answer text limit markers :=
    match index.search text limit markers with
    | .ok found => .ok found
    | .error error => .error error.message

structure Node where
  id : String
  access : NodeAccess
  weight : Option Float32
  indexes : List NodeIndex
  records : RecordSource
  settings : SearchSettings

def Node.descriptors (node : Node) : List IndexDescriptor := node.indexes.map (·.descriptor)

end FederatedSearch
