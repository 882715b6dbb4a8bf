import FederatedSearch.Ranking.Hit
import FederatedSearch.Ranking.Weights

/-!
Reranking: the hits of a search become one result per record. Every hit is weighted by
its node and its index; the hits of one record, best first, are multiplied by the
multipliers of their positions and added up to the relevance, which is at most one.
Results are ordered by relevance, and equally relevant ones by age, newest first.
-/

namespace FederatedSearch

open ScoreArithmetic

variable {Score : Type}

/-- Hits in groups, one for each record, and at which position the group of a record stands. -/
structure HitGroups (Score : Type) where
  positions : List (String × Nat)
  groups : List (List (IndexHit Score))

namespace HitGroups

def empty : HitGroups Score := ⟨[], []⟩

/-- A hit joins the group of its record. The first hit about a record begins a group. -/
def add (grouped : HitGroups Score) (hit : IndexHit Score) : HitGroups Score :=
  match Document.find? hit.record.id grouped.positions with
  | some position => { grouped with groups := grouped.groups.modify position (· ++ [hit]) }
  | none =>
      { positions := grouped.positions ++ [(hit.record.id, grouped.groups.length)]
        groups := grouped.groups ++ [[hit]] }

def ofHits (hits : List (IndexHit Score)) : HitGroups Score := hits.foldl add empty

end HitGroups

variable [ScoreArithmetic Score]

namespace RankingWeights

def weighted (weights : RankingWeights Score) (hit : IndexHit Score) : Score :=
  hit.baseRelevance * weights.indexWeight hit.node hit.index * weights.nodeWeight hit.node

/-- Hits by weighted score, best first; equal ones stay in order. -/
def bestFirst (weights : RankingWeights Score) (hits : List (IndexHit Score)) :
    List (IndexHit Score) :=
  hits.mergeSort fun a b => atLeast (weights.weighted a) (weights.weighted b)

/-- Scores, best first, multiplied and added up from the given position on. -/
def totalFrom (weights : RankingWeights Score) (position : Nat) (sum : Score) :
    List Score → Score
  | [] => sum
  | score :: rest =>
      weights.totalFrom (position + 1) (sum + score * weights.multiplier position) rest

def relevance (weights : RankingWeights Score) (scores : List Score) : Score :=
  capped (weights.totalFrom 0 emptySum scores)

def aggregate? (weights : RankingWeights Score) (hits : List (IndexHit Score)) :
    Option (SearchResult Score) :=
  let sorted := weights.bestFirst hits
  sorted.head?.map fun best =>
    { record := best.record, node := best.node
      relevance := weights.relevance (sorted.map weights.weighted) }

end RankingWeights

def SearchResult.ranksAtLeast (a b : SearchResult Score) : Bool :=
  atLeast a.relevance b.relevance &&
    (!atLeast b.relevance a.relevance ||
      a.record.createdAt.compare b.record.createdAt != .lt)

def RankingWeights.rerank (weights : RankingWeights Score) (hits : List (IndexHit Score)) :
    List (SearchResult Score) :=
  ((HitGroups.ofHits hits).groups.filterMap weights.aggregate?).mergeSort
    SearchResult.ranksAtLeast

end FederatedSearch
