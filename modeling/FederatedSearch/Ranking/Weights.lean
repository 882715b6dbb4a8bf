import FederatedSearch.Document.Decoding
import FederatedSearch.Ranking.Score

/-!
Weights: how much the opinion of a node and of an index counts, and by what repeated
appearances of a record are multiplied. Behind the last configured multiplier each
further appearance gets half of the one before.
-/

namespace FederatedSearch

structure RankingWeights (Score : Type) where
  nodeWeights : List (String × Score)
  /-- The weights of indexes by node. -/
  indexWeights : List (String × List (String × Score))
  multipliers : List Score
  defaultNodeWeight : Score
  defaultIndexWeight : Score

namespace RankingWeights

variable {Score : Type}

def nodeWeight (weights : RankingWeights Score) (node : String) : Score :=
  (Document.find? node weights.nodeWeights).getD weights.defaultNodeWeight

def indexWeight (weights : RankingWeights Score) (node index : String) : Score :=
  ((Document.find? node weights.indexWeights).bind (Document.find? index)).getD
    weights.defaultIndexWeight

/-- How often the last multiplier is halved at a position behind the list. The count is kept
in 32 bits with a sign. -/
def halvings (length position : Nat) : Int :=
  Int.bmod ((position - length + 1 : Nat) : Int) (Nat.pow 2 32)

def multiplier [ScoreArithmetic Score] (weights : RankingWeights Score) (position : Nat) : Score :=
  match weights.multipliers[position]?, weights.multipliers.getLast? with
  | some configured, _ => configured
  | none, some last =>
      last * ScoreArithmetic.halfPower (halvings weights.multipliers.length position)
  | none, none => ScoreArithmetic.zero

def defaultMultipliers : List Float32 := [1, 0.5, 0.25, 0.125]

def uniform : RankingWeights Float32 :=
  { nodeWeights := [], indexWeights := [], multipliers := defaultMultipliers
    defaultNodeWeight := 1, defaultIndexWeight := 1 }

def fieldNames : List String :=
  ["node_weights", "index_weights", "diminishing_multipliers", "default_node_weight",
   "default_index_weight"]

def decode? (document : Document) : Option (RankingWeights Float32) := do
  let fields ← document.fields? fieldNames
  let weights := Decoder.table Decoder.float32
  return {
    nodeWeights := ← fields.withDefault "node_weights" weights []
    indexWeights := ← fields.withDefault "index_weights" (Decoder.table weights) []
    multipliers := ← fields.required "diminishing_multipliers" (Decoder.list Decoder.float32)
    defaultNodeWeight := ← fields.withDefault "default_node_weight" Decoder.float32 1
    defaultIndexWeight := ← fields.withDefault "default_index_weight" Decoder.float32 1 }

def encode (weights : RankingWeights Float32) : Document :=
  .table [
    ("node_weights", .ofWeights weights.nodeWeights),
    ("index_weights", .table (weights.indexWeights.map fun (node, indexes) =>
      (node, .ofWeights indexes))),
    ("diminishing_multipliers", .list (weights.multipliers.map .ofFloat32)),
    ("default_node_weight", .ofFloat32 weights.defaultNodeWeight),
    ("default_index_weight", .ofFloat32 weights.defaultIndexWeight)]

end RankingWeights

end FederatedSearch
