import FederatedSearch.Settings.Basic

/-!
Settings as documents. What a scalar field takes is given by decoding rules, because
settings that were put together from several layers are read more liberally than
settings in a single document.
-/

namespace FederatedSearch

structure ScalarRules where
  text : Decoder String
  flag : Decoder Bool
  natural : Decoder Nat
  float32 : Decoder Float32
  /-- The name of a variant, out of a list of all names. -/
  variant : List String → Decoder String

/-- Every value has to be written as one of its own kind. -/
def ScalarRules.exact : ScalarRules :=
  { text := Decoder.text, flag := Decoder.flag, natural := Decoder.natural
    float32 := Decoder.float32
    variant := fun names => Decoder.variant fun name =>
      if names.contains name then some name else none }

namespace FailurePolicy

def name : FailurePolicy → String
  | .failFast => "fail_fast"
  | .«partial» => "partial"

def all : List FailurePolicy := [.failFast, .«partial»]

def decode? (rules : ScalarRules) (document : Document) : Option FailurePolicy := do
  let name ← rules.variant (all.map (·.name)) document
  all.find? (·.name == name)

end FailurePolicy

namespace NodeAccess

def name : NodeAccess → String
  | .full => "full"
  | .readOnly => "read_only"
  | .writeOnly => "write_only"

def all : List NodeAccess := [.full, .readOnly, .writeOnly]

def decode? (rules : ScalarRules) (document : Document) : Option NodeAccess := do
  let name ← rules.variant (all.map (·.name)) document
  all.find? (·.name == name)

end NodeAccess

namespace SearchSettings

def fieldNames : List String :=
  ["default_timeout_secs", "default_max_results_per_node", "query_timeout_secs",
   "max_query_depth", "max_query_nodes", "default_node_weight", "default_index_weight",
   "diminishing_multipliers", "failure_policy", "highlight_prefix", "highlight_suffix"]

def decode? (rules : ScalarRules) (document : Document) : Option SearchSettings := do
  let fields ← document.fields? fieldNames
  let natural (name : String) (default : Nat) := fields.withDefault name rules.natural default
  let weight (name : String) := fields.withDefault name rules.float32 1
  return {
    defaultTimeout := ← natural "default_timeout_secs" standard.defaultTimeout
    defaultMaxResultsPerNode :=
      ← natural "default_max_results_per_node" standard.defaultMaxResultsPerNode
    queryTimeout := ← natural "query_timeout_secs" standard.queryTimeout
    maxQueryDepth := ← natural "max_query_depth" standard.maxQueryDepth
    maxQueryNodes := ← natural "max_query_nodes" standard.maxQueryNodes
    defaultNodeWeight := ← weight "default_node_weight"
    defaultIndexWeight := ← weight "default_index_weight"
    multipliers := ← fields.withDefault "diminishing_multipliers" (Decoder.list rules.float32)
      standard.multipliers
    failurePolicy := ← fields.withDefault "failure_policy" (FailurePolicy.decode? rules)
      standard.failurePolicy
    highlightStart := ← fields.withDefault "highlight_prefix" rules.text standard.highlightStart
    highlightEnd := ← fields.withDefault "highlight_suffix" rules.text standard.highlightEnd }

def encode (search : SearchSettings) : Document :=
  .table [
    ("default_timeout_secs", .ofNat search.defaultTimeout),
    ("default_max_results_per_node", .ofNat search.defaultMaxResultsPerNode),
    ("query_timeout_secs", .ofNat search.queryTimeout),
    ("max_query_depth", .ofNat search.maxQueryDepth),
    ("max_query_nodes", .ofNat search.maxQueryNodes),
    ("default_node_weight", .ofFloat32 search.defaultNodeWeight),
    ("default_index_weight", .ofFloat32 search.defaultIndexWeight),
    ("diminishing_multipliers", .list (search.multipliers.map .ofFloat32)),
    ("failure_policy", .text search.failurePolicy.name),
    ("highlight_prefix", .text search.highlightStart),
    ("highlight_suffix", .text search.highlightEnd)]

end SearchSettings

namespace IndexSettings

def fieldNames : List String := ["id", "path", "enable_stemming", "required", "weight"]

def decode? (rules : ScalarRules) (document : Document) : Option IndexSettings := do
  let fields ← document.fields? fieldNames
  return {
    id := ← fields.required "id" rules.text
    path := ← fields.required "path" rules.text
    stemming := ← fields.withDefault "enable_stemming" rules.flag true
    required := ← fields.withDefault "required" rules.flag false
    weight := ← fields.optional "weight" rules.float32 }

def encode (index : IndexSettings) : Document :=
  .table [
    ("id", .text index.id),
    ("path", .text index.path),
    ("enable_stemming", .bool index.stemming),
    ("required", .bool index.required),
    ("weight", .ofOption .ofFloat32 index.weight)]

end IndexSettings

namespace NodeSettings

def fieldNames : List String := ["id", "access", "weight", "search_indexes"]

def decode? (rules : ScalarRules) (document : Document) : Option NodeSettings := do
  let fields ← document.fields? fieldNames
  return {
    id := ← fields.required "id" rules.text
    access := ← fields.withDefault "access" (NodeAccess.decode? rules) .full
    weight := ← fields.optional "weight" rules.float32
    indexes := ← fields.withDefault "search_indexes"
      (Decoder.list (IndexSettings.decode? rules)) [] }

def encode (node : NodeSettings) : Document :=
  .table [
    ("id", .text node.id),
    ("access", .text node.access.name),
    ("weight", .ofOption .ofFloat32 node.weight),
    ("search_indexes", .list (node.indexes.map (·.encode)))]

end NodeSettings

namespace Settings

def fieldNames : List String := ["log_level", "search", "nodes"]

def decode? (rules : ScalarRules) (document : Document) : Option Settings := do
  let fields ← document.fields? fieldNames
  let nodes ← fields.withDefault "nodes" (Decoder.table (NodeSettings.decode? rules)) []
  return {
    logLevel := ← fields.withDefault "log_level" rules.text standard.logLevel
    search := ← fields.withDefault "search" (SearchSettings.decode? rules) .standard
    nodes := Catalog.ofList nodes }

def encode (settings : Settings) : Document :=
  .table [
    ("log_level", .text settings.logLevel),
    ("search", settings.search.encode),
    ("nodes", .table (settings.nodes.entries.map fun (key, node) => (key, node.encode)))]

end Settings

end FederatedSearch
