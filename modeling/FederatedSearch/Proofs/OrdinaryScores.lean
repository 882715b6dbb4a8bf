import FederatedSearch.Proofs.Ranking

/-!
Rankings of patterns and of the numbers they stand for. As long as scores become undefined by
operations on numbers only, their patterns are ordinary, and hits are ranked alike by both.
-/

namespace FederatedSearch

open ScoreArithmetic

section

variable {Score Other : Type} (change : Score → Other)

def IndexHit.rescored (hit : IndexHit Score) : IndexHit Other :=
  ⟨hit.record, hit.node, hit.index, hit.chunk, change hit.baseRelevance⟩

def SearchResult.rescored (result : SearchResult Score) : SearchResult Other :=
  ⟨result.record, result.node, change result.relevance⟩

def rescoredTable (entries : List (String × Score)) : List (String × Other) :=
  entries.map fun (name, score) => (name, change score)

def RankingWeights.rescored (weights : RankingWeights Score) : RankingWeights Other where
  nodeWeights := rescoredTable change weights.nodeWeights
  indexWeights := weights.indexWeights.map fun (node, indexes) =>
    (node, rescoredTable change indexes)
  multipliers := weights.multipliers.map change
  defaultNodeWeight := change weights.defaultNodeWeight
  defaultIndexWeight := change weights.defaultIndexWeight

theorem find_mapped {α β : Type} (change : α → β) (key : String) (entries : List (String × α)) :
    Document.find? key (entries.map fun (name, value) => (name, change value)) =
      (Document.find? key entries).map change := by
  induction entries with
  | nil => rfl
  | cons entry rest induction =>
      obtain ⟨name, value⟩ := entry
      rw [List.map_cons, Document.find?, Document.find?, induction]
      split <;> rfl

variable (weights : RankingWeights Score) (hits : List (IndexHit Score))

theorem node_weight_rescored (node : String) :
    (weights.rescored change).nodeWeight node = change (weights.nodeWeight node) := by
  simp only [RankingWeights.nodeWeight, RankingWeights.rescored, rescoredTable, find_mapped,
    Option.getD_map]

theorem index_weight_rescored (node index : String) :
    (weights.rescored change).indexWeight node index = change (weights.indexWeight node index) := by
  simp only [RankingWeights.indexWeight, RankingWeights.rescored, find_mapped]
  cases Document.find? node weights.indexWeights with
  | none => rfl
  | some indexes =>
      rw [Option.map_some, Option.bind_some, Option.bind_some, rescoredTable, find_mapped,
        Option.getD_map]

theorem record_ids_rescored :
    recordIds (hits.map (·.rescored change)) = recordIds hits := by
  rw [recordIds, recordIds, List.map_map]
  rfl

theorem hits_of_rescored (id : String) :
    hitsOf (hits.map (·.rescored change)) id = (hitsOf hits id).map (·.rescored change) := by
  rw [hitsOf, hitsOf, List.filter_map]
  rfl

end

namespace Pattern

variable {weights : RankingWeights Pattern} {hits : List (IndexHit Pattern)}

theorem score_weighted (hit : IndexHit Pattern) :
    (weights.rescored score).weighted (hit.rescored score) = (weights.weighted hit).score := by
  rw [RankingWeights.weighted, RankingWeights.weighted, node_weight_rescored,
    index_weight_rescored, score_mul, score_mul]
  rfl

theorem score_multiplier (position : Nat) :
    (weights.rescored score).multiplier position = (weights.multiplier position).score := by
  have multipliers : (weights.rescored score).multipliers = weights.multipliers.map score := rfl
  rw [RankingWeights.multiplier, RankingWeights.multiplier, multipliers, List.getElem?_map,
    List.getLast?_map, List.length_map]
  cases weights.multipliers[position]? with
  | some configured => rfl
  | none =>
      cases weights.multipliers.getLast? with
      | none => exact (score_of_score 0).symm
      | some last =>
          rw [Option.map_none, Option.map_some]
          dsimp only
          rw [score_mul, score_half_power]

theorem score_total_from (position : Nat) (sum : Pattern) (scores : List Pattern) :
    (weights.rescored score).totalFrom position sum.score (scores.map score) =
      (weights.totalFrom position sum scores).score := by
  induction scores generalizing position sum with
  | nil => rfl
  | cons first rest induction =>
      rw [List.map_cons, RankingWeights.totalFrom, RankingWeights.totalFrom, score_multiplier,
        ← score_mul, ← score_add, induction]

theorem score_relevance (scores : List Pattern) :
    (weights.rescored score).relevance (scores.map score) = (weights.relevance scores).score := by
  have none : (emptySum : Pattern).score = (emptySum : Float32) := score_of_score _
  rw [RankingWeights.relevance, RankingWeights.relevance, score_capped, ← score_total_from, none]

theorem score_best_first (ordinary : ∀ hit ∈ hits, (weights.weighted hit).Ordinary) :
    (weights.rescored score).bestFirst (hits.map (·.rescored score)) =
      (weights.bestFirst hits).map (·.rescored score) := by
  rw [RankingWeights.bestFirst, RankingWeights.bestFirst, List.map_mergeSort]
  intro first member second member'
  rw [score_weighted, score_weighted]
  exact at_least_of_ordinary (ordinary first member) (ordinary second member')

theorem score_aggregate (ordinary : ∀ hit ∈ hits, (weights.weighted hit).Ordinary) :
    (weights.rescored score).aggregate? (hits.map (·.rescored score)) =
      (weights.aggregate? hits).map (·.rescored score) := by
  have weighted : (weights.rescored score).weighted ∘ (·.rescored score) =
      score ∘ weights.weighted := funext score_weighted
  rw [RankingWeights.aggregate?, RankingWeights.aggregate?, score_best_first ordinary,
    List.map_map, weighted, ← List.map_map, score_relevance, List.head?_map, Option.map_map,
    Option.map_map]
  rfl

theorem relevance_ordinary {result : SearchResult Pattern}
    (member : result ∈ weights.results hits) : result.relevance.Ordinary := by
  obtain ⟨id, -, made⟩ := List.mem_filterMap.mp member
  obtain ⟨best, -, rfl⟩ := Option.map_eq_some_iff.mp made
  intro undefined
  have defined := @capped_defined (weights.totalFrom 0 emptySum
    ((weights.bestFirst (hitsOf hits id)).map weights.weighted))
  exact absurd (undefined.symm.trans defined) Bool.noConfusion

theorem ordinary_weighted (node : ∀ id, (weights.nodeWeight id).Ordinary)
    (index : ∀ id index, (weights.indexWeight id index).Ordinary) {hit : IndexHit Pattern}
    (base : hit.baseRelevance.Ordinary) : (weights.weighted hit).Ordinary := by
  have indexed := ordinary_combine (· * ·) base (index hit.node hit.index)
  exact ordinary_combine (· * ·) indexed (node hit.node)

/-- Where weights and scores are numbers, patterns are ranked as the numbers they stand for,
although operations can make some of them undefined. -/
theorem rerank_of_ordinary (node : ∀ id, (weights.nodeWeight id).Ordinary)
    (index : ∀ id index, (weights.indexWeight id index).Ordinary)
    (base : ∀ hit ∈ hits, hit.baseRelevance.Ordinary) :
    (weights.rescored score).rerank (hits.map (·.rescored score)) =
      (weights.rerank hits).map (·.rescored score) := by
  have ordinary (hit : IndexHit Pattern) (member : hit ∈ hits) :=
    ordinary_weighted node index (base hit member)
  have results : (weights.rescored score).results (hits.map (·.rescored score)) =
      (weights.results hits).map (·.rescored score) := by
    rw [RankingWeights.results, RankingWeights.results, record_ids_rescored, List.map_filterMap]
    apply List.filterMap_congr
    intro id _
    rw [hits_of_rescored]
    apply score_aggregate
    intro hit member
    exact ordinary hit (List.mem_of_mem_filter member)
  rw [RankingWeights.rerank_eq, RankingWeights.rerank_eq, results, List.map_mergeSort]
  intro first member second member'
  have forward := at_least_of_ordinary (relevance_ordinary member) (relevance_ordinary member')
  have backward := at_least_of_ordinary (relevance_ordinary member') (relevance_ordinary member)
  rw [SearchResult.ranksAtLeast, SearchResult.ranksAtLeast, forward, backward]
  rfl

end Pattern

end FederatedSearch
