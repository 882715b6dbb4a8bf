import FederatedSearch.Federation.Dispatch
import FederatedSearch.Ranking.Reranking

/-!
Searches of a federation: the request is checked, the selected members are searched, and
what they found is ranked, filtered by relevance and cut to the wanted page.
-/

namespace FederatedSearch

structure SearchResponse where
  query : String
  /-- The number of results that are relevant enough, on this page or not. -/
  total : Nat
  results : List (SearchResult Float32)
  nodesSearched : Nat
  nodesRequested : Nat
  /-- The nodes that answered, in order. -/
  answered : List String
  indexWarnings : List IndexWarning
  nodeFailures : List SearchError

def SearchResponse.warningsWith (duration : Nat → String) (response : SearchResponse) :
    List String :=
  response.indexWarnings.map IndexWarning.message ++
    response.nodeFailures.map (·.messageWith duration)

def SearchResponse.warnings : SearchResponse → List String :=
  warningsWith SearchError.secondsText

namespace RankingWeights

variable {Score : Type}

def withNodeWeight (weights : RankingWeights Score) (node : String) (weight : Score) :
    RankingWeights Score :=
  { weights with nodeWeights := Document.put node weight weights.nodeWeights }

def withIndexWeight (weights : RankingWeights Score) (node index : String) (weight : Score) :
    RankingWeights Score :=
  let indexes := (Document.find? node weights.indexWeights).getD []
  { weights with
    indexWeights := Document.put node (Document.put index weight indexes) weights.indexWeights }

def withMember (weights : RankingWeights Float32) (member : Member) : RankingWeights Float32 :=
  let weights := match member.weight with
    | some weight => weights.withNodeWeight member.id weight
    | none => weights
  member.indexes.foldl (fun weights index =>
    match index.weight with
    | some weight => weights.withIndexWeight member.id index.id weight
    | none => weights) weights

end RankingWeights

namespace Federation

/-- The weights of a search. A weight of the request stands in place of the member's. -/
def weights (federation : Federation) (members : List Member) (request : SearchRequest) :
    RankingWeights Float32 :=
  (request.nodeWeights.getD []).foldl
    (fun weights (node, weight) => weights.withNodeWeight node weight)
    (members.foldl RankingWeights.withMember federation.settings.baseWeights)

def rankedResults (weights : RankingWeights Float32) (request : SearchRequest)
    (outcomes : List NodeOutcome) : List (SearchResult Float32) :=
  (weights.rerank (outcomes.flatMap (·.hits))).filter fun result =>
    request.minRelevance ≤ result.relevance

def page {α : Type} (request : SearchRequest) (results : List α) : List α :=
  (results.drop request.offset).take request.limit

def response (federation : Federation) (members : List Member) (request : SearchRequest)
    (gathered : Gathered) : SearchResponse :=
  let ranked := rankedResults (federation.weights members request) request gathered.outcomes
  { query := request.query
    total := ranked.length
    results := page request ranked
    nodesSearched := gathered.outcomes.length
    nodesRequested := members.length
    answered := (Catalog.ofList (gathered.outcomes.map fun outcome => (outcome.node, ()))).names
    indexWarnings := gathered.outcomes.flatMap (·.warnings)
    nodeFailures := gathered.failures }

def search (federation : Federation) (request : SearchRequest) :
    Except SearchError SearchResponse := do
  request.validate
  let members ← federation.select request
  checkIndexes members request
  let query ← federation.parse request.query
  let gathered ← federation.dispatch members query request
  return federation.response members request gathered

end Federation

end FederatedSearch
