import FederatedSearch.Catalog
import FederatedSearch.Error
import FederatedSearch.Ranking.Weights

/-!
Settings: the limits and weights of searches, and the nodes with their indexes. Valid
settings have at least one node, each under its own id and with indexes of distinct ids,
no zero limits and no negative weights.
-/

namespace FederatedSearch

inductive FailurePolicy where
  /-- The first failure ends the search. -/
  | failFast
  /-- Failed nodes become warnings, unless all of them fail. -/
  | «partial»
deriving DecidableEq

inductive NodeAccess where
  | full | readOnly | writeOnly
deriving DecidableEq

def NodeAccess.canSearch (access : NodeAccess) : Bool := access != .writeOnly

structure SearchSettings where
  /-- The time a node has, if the request does not say, in seconds. -/
  defaultTimeout : Nat
  defaultMaxResultsPerNode : Nat
  /-- The time a whole search has, in seconds. -/
  queryTimeout : Nat
  maxQueryDepth : Nat
  maxQueryNodes : Nat
  defaultNodeWeight : Float32
  defaultIndexWeight : Float32
  multipliers : List Float32
  failurePolicy : FailurePolicy
  highlightStart : String
  highlightEnd : String

def SearchSettings.standard : SearchSettings :=
  { defaultTimeout := 30, defaultMaxResultsPerNode := 1000, queryTimeout := 60
    maxQueryDepth := 32, maxQueryNodes := 512, defaultNodeWeight := 1, defaultIndexWeight := 1
    multipliers := RankingWeights.defaultMultipliers, failurePolicy := .failFast
    highlightStart := "<mark>", highlightEnd := "</mark>" }

structure IndexSettings where
  id : String
  path : String
  stemming : Bool
  /-- A required index cannot be left out, and its failure is one of the node. -/
  required : Bool
  weight : Option Float32

def IndexSettings.forPath (id path : String) : IndexSettings :=
  { id, path, stemming := true, required := false, weight := none }

structure NodeSettings where
  id : String
  access : NodeAccess
  weight : Option Float32
  indexes : List IndexSettings

def NodeSettings.forId (id : String) : NodeSettings :=
  { id, access := .full, weight := none, indexes := [] }

structure Settings where
  logLevel : String
  search : SearchSettings
  nodes : Catalog NodeSettings

def Settings.standard : Settings := ⟨"info", .standard, .empty⟩

def Settings.withNode (settings : Settings) (node : NodeSettings) : Settings :=
  { settings with nodes := settings.nodes.insert node.id node }

inductive SettingsFault where
  | zeroDefaultTimeout
  | zeroQueryTimeout
  | zeroResultsPerNode
  | noMultipliers
  | negativeMultiplier
  | negativeDefaultWeight
  | noNodes
  | misnamedNode (key id : String)
  | negativeNodeWeight (node : String)
  | repeatedIndex (node index : String)
  | negativeIndexWeight (node index : String)

namespace SettingsFault

def message : SettingsFault → String
  | zeroDefaultTimeout => "default_timeout_secs must be > 0"
  | zeroQueryTimeout => "query_timeout_secs must be > 0"
  | zeroResultsPerNode => "default_max_results_per_node must be > 0"
  | noMultipliers => "diminishing_multipliers must not be empty"
  | negativeMultiplier => "diminishing_multipliers must be >= 0"
  | negativeDefaultWeight => "default weights must be >= 0"
  | noNodes => "no nodes configured"
  | misnamedNode key id => "node key '" ++ key ++ "' does not match node id '" ++ id ++ "'"
  | negativeNodeWeight node => "node '" ++ node ++ "' has a negative weight"
  | repeatedIndex node index =>
      "node '" ++ node ++ "' has duplicate search index '" ++ index ++ "'"
  | negativeIndexWeight node index =>
      "search index '" ++ index ++ "' on node '" ++ node ++ "' has a negative weight"

def node? : SettingsFault → Option String
  | misnamedNode key _ => some key
  | negativeNodeWeight node | repeatedIndex node _ | negativeIndexWeight node _ => some node
  | _ => none

def toSearchError (fault : SettingsFault) : SearchError :=
  .invalidConfiguration fault.node? fault.message

end SettingsFault

/-- The weight is below zero. A weight that is no number is not. -/
def isNegative (weight : Float32) : Bool := weight < 0

def SearchSettings.fault? (search : SearchSettings) : Option SettingsFault :=
  if search.defaultTimeout = 0 then some .zeroDefaultTimeout
  else if search.queryTimeout = 0 then some .zeroQueryTimeout
  else if search.defaultMaxResultsPerNode = 0 then some .zeroResultsPerNode
  else if search.multipliers.isEmpty then some .noMultipliers
  else if search.multipliers.any isNegative then some .negativeMultiplier
  else if isNegative search.defaultNodeWeight || isNegative search.defaultIndexWeight then
    some .negativeDefaultWeight
  else none

/-- The first fault among the indexes of a node, of which those in `seen` come before. -/
def indexFault? (node : String) (seen : List String) : List IndexSettings → Option SettingsFault
  | [] => none
  | index :: rest =>
      if seen.contains index.id then some (.repeatedIndex node index.id)
      else if index.weight.any isNegative then some (.negativeIndexWeight node index.id)
      else indexFault? node (index.id :: seen) rest

def NodeSettings.fault? (key : String) (node : NodeSettings) : Option SettingsFault :=
  if key ≠ node.id then some (.misnamedNode key node.id)
  else if node.weight.any isNegative then some (.negativeNodeWeight node.id)
  else indexFault? node.id [] node.indexes

def Settings.fault? (settings : Settings) : Option SettingsFault :=
  match settings.search.fault? with
  | some fault => some fault
  | none =>
      if settings.nodes.isEmpty then some .noNodes
      else settings.nodes.entries.findSome? fun (key, node) => node.fault? key

def Settings.validate (settings : Settings) : Except SearchError Unit :=
  match settings.fault? with
  | some fault => .error fault.toSearchError
  | none => .ok ()

def SearchSettings.baseWeights (search : SearchSettings) : RankingWeights Float32 :=
  { nodeWeights := [], indexWeights := [], multipliers := search.multipliers
    defaultNodeWeight := search.defaultNodeWeight
    defaultIndexWeight := search.defaultIndexWeight }

end FederatedSearch
