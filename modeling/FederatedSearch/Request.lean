import FederatedSearch.Decimal.Notation
import FederatedSearch.Document.Decoding
import FederatedSearch.Error
import FederatedSearch.Text.Blank

/-!
Requests: what is sought, at which nodes and in which of their indexes, and how much of
what is found is wanted.
-/

namespace FederatedSearch

structure SearchRequest where
  query : String
  /-- The nodes to search; none stand for all. -/
  nodes : List String
  excludeNodes : List String
  /-- The indexes to search; none stand for all of each node. -/
  searchIndexes : List String
  excludeIndexes : List String
  limit : Nat
  offset : Nat
  minRelevance : Float32
  maxResultsPerNode : Option Nat
  timeoutSeconds : Option Nat
  /-- Weights of nodes in place of the configured ones. -/
  nodeWeights : Option (List (String × Float32))
  /-- Results carry the snippet of the index instead of the content. -/
  snippetOnly : Bool
  /-- Snippets mark what was found. -/
  highlight : Bool
  snippetLength : Option Nat

inductive RequestFault where
  | emptyQuery
  | zeroLimit
  | relevanceOutOfRange (value : Float32)
  | zeroTimeout
  | zeroResultsPerNode
  | invalidNodeWeight (node : String) (weight : Float32)

def RequestFault.message : RequestFault → String
  | emptyQuery => "query is empty"
  | zeroLimit => "limit must be greater than 0"
  | relevanceOutOfRange value => "min_relevance must be 0.0-1.0, got " ++ Decimal.plain32 value
  | zeroTimeout => "timeout_seconds must be greater than 0"
  | zeroResultsPerNode => "max_results_per_node must be greater than 0"
  | invalidNodeWeight node weight =>
      "node weight for '" ++ node ++ "' must be >= 0, got " ++ Decimal.plain32 weight

namespace SearchRequest

def defaultLimit : Nat := 20

def defaultMinRelevance : Float32 := 0.3

/-- The request for a query in which everything else is left at its default. -/
def forQuery (query : String) : SearchRequest :=
  { query, nodes := [], excludeNodes := [], searchIndexes := [], excludeIndexes := []
    limit := defaultLimit, offset := 0, minRelevance := defaultMinRelevance
    maxResultsPerNode := none, timeoutSeconds := none, nodeWeights := none
    snippetOnly := false, highlight := false, snippetLength := none }

def withNodeWeight (request : SearchRequest) (node : String) (weight : Float32) : SearchRequest :=
  { request with nodeWeights := some (Document.put node weight (request.nodeWeights.getD [])) }

def fault? (request : SearchRequest) : Option RequestFault :=
  if Text.isBlankText request.query then some .emptyQuery
  else if request.limit = 0 then some .zeroLimit
  else if !(0 ≤ request.minRelevance && request.minRelevance ≤ 1) then
    some (.relevanceOutOfRange request.minRelevance)
  else if request.timeoutSeconds = some 0 then some .zeroTimeout
  else if request.maxResultsPerNode = some 0 then some .zeroResultsPerNode
  else
    ((request.nodeWeights.getD []).find? fun (_, weight) => weight.isNaN || weight < 0).map
      fun (node, weight) => .invalidNodeWeight node weight

def validate (request : SearchRequest) : Except SearchError Unit :=
  match request.fault? with
  | some fault => .error (.invalidRequest fault.message)
  | none => .ok ()

def fieldNames : List String :=
  ["query", "nodes", "exclude_nodes", "search_indexes", "exclude_indexes", "limit", "offset",
   "min_relevance", "max_results_per_node", "timeout_seconds", "node_weights", "snippet_only",
   "highlight", "snippet_length"]

def decode? (document : Document) : Option SearchRequest := do
  let fields ← document.fields? fieldNames
  let texts := Decoder.list Decoder.text
  return {
    query := ← fields.required "query" Decoder.text
    nodes := ← fields.withDefault "nodes" texts []
    excludeNodes := ← fields.withDefault "exclude_nodes" texts []
    searchIndexes := ← fields.withDefault "search_indexes" texts []
    excludeIndexes := ← fields.withDefault "exclude_indexes" texts []
    limit := ← fields.withDefault "limit" Decoder.natural defaultLimit
    offset := ← fields.withDefault "offset" Decoder.natural 0
    minRelevance := ← fields.withDefault "min_relevance" Decoder.float32 defaultMinRelevance
    maxResultsPerNode := ← fields.optional "max_results_per_node" Decoder.natural
    timeoutSeconds := ← fields.optional "timeout_seconds" Decoder.natural
    nodeWeights := ← fields.optional "node_weights" (Decoder.table Decoder.float32)
    snippetOnly := ← fields.withDefault "snippet_only" Decoder.flag false
    highlight := ← fields.withDefault "highlight" Decoder.flag false
    snippetLength := ← fields.optional "snippet_length" Decoder.natural }

def encode (request : SearchRequest) : Document :=
  .table [
    ("query", .text request.query),
    ("nodes", .ofTexts request.nodes),
    ("exclude_nodes", .ofTexts request.excludeNodes),
    ("search_indexes", .ofTexts request.searchIndexes),
    ("exclude_indexes", .ofTexts request.excludeIndexes),
    ("limit", .ofNat request.limit),
    ("offset", .ofNat request.offset),
    ("min_relevance", .ofFloat32 request.minRelevance),
    ("max_results_per_node", .ofOption .ofNat request.maxResultsPerNode),
    ("timeout_seconds", .ofOption .ofNat request.timeoutSeconds),
    ("node_weights", .ofOption .ofWeights request.nodeWeights),
    ("snippet_only", .bool request.snippetOnly),
    ("highlight", .bool request.highlight),
    ("snippet_length", .ofOption .ofNat request.snippetLength)]

end SearchRequest

end FederatedSearch
