import FederatedSearch.Proofs.Ranking
import Mathlib.Data.List.Perm.Basic

/-!
Rankings of the same hits in another order. The scores of a record are put in order before
they are added up, so that rounding is the same whichever hit arrives first. Only where scores
or relevances tie does the order of arrival show.
-/

namespace FederatedSearch

open ScoreArithmetic

section

variable {Score : Type} {hits others : List (IndexHit Score)}

theorem record_ids_of_perm (same : hits.Perm others) :
    (recordIds hits).Perm (recordIds others) := by
  rw [List.perm_ext_iff_of_nodup (record_ids_nodup hits) (record_ids_nodup others)]
  intro id
  rw [mem_record_ids, mem_record_ids]
  exact (same.map _).mem_iff

theorem hits_of_perm (same : hits.Perm others) (id : String) :
    (hitsOf hits id).Perm (hitsOf others id) :=
  same.filter _

end

theorem descending_unique {Score : Type} [ScoreArithmetic Score] [DistinctScores Score]
    {scores others : List Score} (sorted : scores.Pairwise fun a b => atLeast a b = true)
    (sorted' : others.Pairwise fun a b => atLeast a b = true) (same : scores.Perm others) :
    scores = others :=
  List.Perm.eq_of_pairwise (fun a b _ _ => DistinctScores.antisymm a b) sorted sorted' same

namespace RankingWeights

variable {Score : Type} [ScoreArithmetic Score]

def relevanceOf (weights : RankingWeights Score) (hits : List (IndexHit Score)) : Score :=
  weights.relevance ((weights.bestFirst hits).map weights.weighted)

def IsBest (weights : RankingWeights Score) (hits : List (IndexHit Score))
    (best : IndexHit Score) : Prop :=
  best ∈ hits ∧ ∀ hit ∈ hits, hit.record.id = best.record.id →
    atLeast (weights.weighted best) (weights.weighted hit) = true

theorem IsBest.of_perm {weights : RankingWeights Score} {hits others : List (IndexHit Score)}
    {best : IndexHit Score} (same : hits.Perm others) (isBest : weights.IsBest others best) :
    weights.IsBest hits best := by
  refine ⟨same.mem_iff.mpr isBest.1, fun hit member about => ?_⟩
  exact isBest.2 hit (same.mem_iff.mp member) about

variable [DistinctScores Score]

theorem relevance_of_perm (weights : RankingWeights Score) {hits others : List (IndexHit Score)}
    (same : hits.Perm others) : weights.relevanceOf hits = weights.relevanceOf others := by
  have scores : ((weights.bestFirst hits).map weights.weighted).Perm
      ((weights.bestFirst others).map weights.weighted) := by
    apply List.Perm.map
    exact (weights.best_first_perm hits).trans (same.trans (weights.best_first_perm others).symm)
  rw [relevanceOf, relevanceOf, descending_unique (weights.best_first_descends hits)
    (weights.best_first_descends others) scores]

theorem row_of_rerank {weights : RankingWeights Score} {hits : List (IndexHit Score)}
    {row : SearchResult Score} (member : row ∈ weights.rerank hits) :
    row.relevance = weights.relevanceOf (hitsOf hits row.record.id) ∧
      ∃ best, weights.IsBest hits best ∧ row.record = best.record ∧ row.node = best.node := by
  obtain ⟨id, among, made⟩ := mem_rerank.mp member
  obtain ⟨before, best, after, split, rfl, below, above, own⟩ := weights.result_of_record among
  cases made.symm.trans own
  refine ⟨rfl, best, ⟨?_, ?_⟩, rfl, rfl⟩
  · simp [split]
  · intro hit inside about
    rw [split, List.mem_append, List.mem_cons] at inside
    rcases inside with first | rfl | last
    · have lower := below hit first about
      have comparable := OrderedScores.total (weights.weighted best) (weights.weighted hit)
      simpa [lower] using comparable
    · simpa using OrderedScores.total (weights.weighted hit) (weights.weighted hit)
    · exact above hit last about

theorem scored_rows (weights : RankingWeights Score) (hits : List (IndexHit Score)) :
    ((weights.rerank hits).map fun row => (row.record.id, row.relevance)).Perm
      ((recordIds hits).map fun id => (id, weights.relevanceOf (hitsOf hits id))) := by
  have scored : ((weights.rerank hits).map fun row => (row.record.id, row.relevance)) =
      ((weights.rerank hits).map (·.record.id)).map fun id =>
        (id, weights.relevanceOf (hitsOf hits id)) := by
    rw [List.map_map]
    apply List.map_congr_left
    intro row member
    rw [(row_of_rerank member).1]
    rfl
  rw [scored]
  exact (weights.ids_of_rerank hits).map _

variable {hits others : List (IndexHit Score)}

theorem scored_rows_of_perm (weights : RankingWeights Score) (same : hits.Perm others) :
    ((weights.rerank hits).map fun row => (row.record.id, row.relevance)).Perm
      ((weights.rerank others).map fun row => (row.record.id, row.relevance)) := by
  have scores (id : String) := weights.relevance_of_perm (hits_of_perm same id)
  apply (weights.scored_rows hits).trans
  simp only [scores]
  exact ((record_ids_of_perm same).map _).trans (weights.scored_rows others).symm

theorem rerank_distinct (weights : RankingWeights Score) (hits : List (IndexHit Score)) :
    ((weights.rerank hits).map (·.record.id)).Nodup :=
  (weights.ids_of_rerank hits).nodup_iff.mpr (record_ids_nodup hits)

theorem relevances_descend (weights : RankingWeights Score) (hits : List (IndexHit Score)) :
    ((weights.rerank hits).map (·.relevance)).Pairwise fun a b => atLeast a b = true := by
  rw [List.pairwise_map]
  exact (weights.rerank_descends hits).imp fun ranks => (ranks_at_least_iff.mp ranks.1).1

theorem relevances_of_perm (weights : RankingWeights Score) (same : hits.Perm others) :
    (weights.rerank hits).map (·.relevance) = (weights.rerank others).map (·.relevance) := by
  apply descending_unique (weights.relevances_descend hits) (weights.relevances_descend others)
  have scores := (weights.scored_rows_of_perm same).map Prod.snd
  rw [List.map_map, List.map_map] at scores
  exact scores

/-- Best hits about one record have one score. -/
theorem best_hits_tie {weights : RankingWeights Score} {best rival : IndexHit Score}
    (first : weights.IsBest hits best) (second : weights.IsBest hits rival)
    (about : best.record.id = rival.record.id) :
    weights.weighted best = weights.weighted rival := by
  apply DistinctScores.antisymm
  · exact first.2 rival second.1 about.symm
  · exact second.2 best first.1 about

end RankingWeights

/-- Two rankings of the same hits, which give every record one relevance. Rows of different
relevance stand in the same order, and a record whose rows differ has several best hits of one
weighted score. -/
structure DifferInTiesOnly {Score : Type} [ScoreArithmetic Score]
    (weights : RankingWeights Score) (hits : List (IndexHit Score))
    (rows others : List (SearchResult Score)) : Prop where
  distinct : (rows.map (·.record.id)).Nodup
  scored : (rows.map fun row => (row.record.id, row.relevance)).Perm
    (others.map fun row => (row.record.id, row.relevance))
  relevances : rows.map (·.relevance) = others.map (·.relevance)
  shown : ∀ row ∈ rows, ∀ other ∈ others, row.record.id = other.record.id →
    ∃ best ∈ hits, ∃ rival ∈ hits, row.record = best.record ∧ row.node = best.node ∧
      other.record = rival.record ∧ other.node = rival.node ∧
      weights.weighted best = weights.weighted rival ∧
      ∀ hit ∈ hits, hit.record.id = row.record.id →
        atLeast (weights.weighted best) (weights.weighted hit) = true

/-- In whatever order hits arrive, every record gets the same relevance, to the bit. -/
theorem arrival_order_breaks_ties_only {Score : Type} [ScoreArithmetic Score]
    [DistinctScores Score] (weights : RankingWeights Score)
    {hits others : List (IndexHit Score)} (same : hits.Perm others) :
    DifferInTiesOnly weights hits (weights.rerank hits) (weights.rerank others) where
  distinct := weights.rerank_distinct hits
  scored := weights.scored_rows_of_perm same
  relevances := weights.relevances_of_perm same
  shown := by
    intro row member other member' about
    obtain ⟨-, best, isBest, record, node⟩ := RankingWeights.row_of_rerank member
    obtain ⟨-, rival, isBest', record', node'⟩ := RankingWeights.row_of_rerank member'
    have alsoBest := isBest'.of_perm same
    rw [record, record'] at about
    refine ⟨best, isBest.1, rival, alsoBest.1, record, node, record', node',
      RankingWeights.best_hits_tie isBest alsoBest about, ?_⟩
    intro hit inside own
    rw [record] at own
    exact isBest.2 hit inside own

/-- Two versions of a talk, whose weighted scores are both undefined and tie, and a memo whose
hits at home and at work do not. -/
def tiedHits : List (IndexHit Pattern) :=
  [⟨.plain "talk" "Rust at work" ⟨0, 0⟩, "north", "default", none, .ofScore 0.5⟩,
   ⟨.plain "talk" "Rust at work, revised" ⟨7, 0⟩, "south", "default", none, .ofScore 0.5⟩,
   memoAt "home", memoAt "work"]

theorem ties_broken_by_arrival :
    DistinctScores Pattern ∧ tiedHits.Perm tiedHits.reverse ∧
      DifferInTiesOnly undefinedByDefault tiedHits (undefinedByDefault.rerank tiedHits)
        (undefinedByDefault.rerank tiedHits.reverse) :=
  ⟨inferInstance, (List.reverse_perm tiedHits).symm,
    arrival_order_breaks_ties_only undefinedByDefault (List.reverse_perm tiedHits).symm⟩

end FederatedSearch
