import Mathlib
import FederatedSearch.Proofs.ArrivalOrder

/-!
Evidence. Without rounding and with no number below zero, a record that is found once more, or
found as a better match, is no less relevant than before. The new score may move others to places
with greater or smaller multipliers. What decides is that at every place of the new order the
score is no lower than the one that stood there before.
-/

namespace FederatedSearch

open ScoreArithmetic

instance : ScoreArithmetic ℚ≥0 where
  zero := 0
  emptySum := 0
  halfPower power := (1 / (2 : Nat)) ^ power
  capped score := min score 1
  atLeast a b := decide (b ≤ a)

theorem exact_at_least_iff {a b : ℚ≥0} : atLeast a b = true ↔ b ≤ a := decide_eq_true_iff

instance : DistinctScores ℚ≥0 where
  trans := by
    intro a b c first second
    rw [exact_at_least_iff] at first second ⊢
    exact second.trans first
  total := by
    intro a b
    rw [Bool.or_eq_true, exact_at_least_iff, exact_at_least_iff]
    exact le_total b a
  antisymm := by
    intro a b first second
    rw [exact_at_least_iff] at first second
    exact second.antisymm first

/-- Every score is met by one at the same place of the other list, which is no lower. -/
inductive Outdone : List ℚ≥0 → List ℚ≥0 → Prop
  | nil {others : List ℚ≥0} : Outdone [] others
  | cons {score other : ℚ≥0} {scores others : List ℚ≥0} (atMost : score ≤ other)
      (rest : Outdone scores others) : Outdone (score :: scores) (other :: others)

/-- However high the bar, no fewer of the other scores reach it. -/
def Outnumbered (scores others : List ℚ≥0) : Prop :=
  ∀ bar : ℚ≥0, scores.countP (bar ≤ ·) ≤ others.countP (bar ≤ ·)

theorem Outnumbered.of_perm {scores scores' others others' : List ℚ≥0}
    (few : Outnumbered scores others) (same : scores'.Perm scores) (same' : others'.Perm others) :
    Outnumbered scores' others' := by
  intro bar
  rw [same.countP_eq, same'.countP_eq]
  exact few bar

theorem none_reaches {bar top : ℚ≥0} {scores : List ℚ≥0} (below : ∀ score ∈ scores, score ≤ top)
    (higher : top < bar) : scores.countP (bar ≤ ·) = 0 := by
  rw [List.countP_eq_zero]
  intro score member reaches
  exact absurd ((of_decide_eq_true reaches).trans (below score member)) higher.not_ge

/-- Of two lists that descend, one is outdone place by place if it is outnumbered at every bar. -/
theorem Outnumbered.outdone {scores others : List ℚ≥0} (few : Outnumbered scores others)
    (descends : scores.Pairwise (· ≥ ·)) (descends' : others.Pairwise (· ≥ ·)) :
    Outdone scores others := by
  induction scores generalizing others with
  | nil => exact .nil
  | cons score scores ih =>
      obtain ⟨below, descends⟩ := List.pairwise_cons.mp descends
      -- The bar at the greatest score is reached, so one of the other scores reaches it too.
      have reached : 0 < others.countP (score ≤ ·) := by
        refine lt_of_lt_of_le ?_ (few score)
        exact List.countP_pos_iff.mpr ⟨score, List.mem_cons_self, decide_eq_true le_rfl⟩
      cases others with
      | nil => cases reached
      | cons other others =>
          obtain ⟨below', descends'⟩ := List.pairwise_cons.mp descends'
          have atMost : score ≤ other := by
            obtain ⟨found, member, reaches⟩ := List.countP_pos_iff.mp reached
            rcases List.mem_cons.mp member with rfl | member
            · exact of_decide_eq_true reaches
            · exact (of_decide_eq_true reaches).trans (below' found member)
          refine .cons atMost (ih ?_ descends descends')
          intro bar
          by_cases low : bar ≤ score
          · have counts := few bar
            simpa [List.countP_cons, low, low.trans atMost] using counts
          · rw [none_reaches below (lt_of_not_ge low)]
            exact Nat.zero_le _

namespace RankingWeights

variable (weights : RankingWeights ℚ≥0)

theorem sum_le_total_from (scores : List ℚ≥0) (position : Nat) (sum : ℚ≥0) :
    sum ≤ weights.totalFrom position sum scores := by
  induction scores generalizing position sum with
  | nil => exact le_rfl
  | cons score scores ih => exact le_self_add.trans (ih (position + 1) _)

/-- Whether multipliers rise or fall from place to place, better scores add up to no less. -/
theorem total_of_outdone {scores others : List ℚ≥0} (outdone : Outdone scores others)
    (position : Nat) {sum sum' : ℚ≥0} (atMost : sum ≤ sum') :
    weights.totalFrom position sum scores ≤ weights.totalFrom position sum' others := by
  induction outdone generalizing position sum sum' with
  | nil => exact atMost.trans (weights.sum_le_total_from _ position sum')
  | cons lower rest ih =>
      apply ih (position + 1)
      exact add_le_add atMost (mul_le_mul_left lower _)

theorem relevance_of_outdone {scores others : List ℚ≥0} (outdone : Outdone scores others) :
    weights.relevance scores ≤ weights.relevance others :=
  min_le_min_right 1 (weights.total_of_outdone outdone 0 le_rfl)

/-- Hits whose scores are outnumbered at every bar make a record no more relevant. -/
theorem relevance_of_outnumbered {hits others : List (IndexHit ℚ≥0)}
    (few : Outnumbered (hits.map weights.weighted) (others.map weights.weighted)) :
    weights.relevanceOf hits ≤ weights.relevanceOf others := by
  have descends (hits : List (IndexHit ℚ≥0)) :
      ((weights.bestFirst hits).map weights.weighted).Pairwise (· ≥ ·) :=
    (weights.best_first_descends hits).imp exact_at_least_iff.mp
  have sorted := few.of_perm ((weights.best_first_perm hits).map weights.weighted)
    ((weights.best_first_perm others).map weights.weighted)
  exact weights.relevance_of_outdone (sorted.outdone (descends hits) (descends others))

theorem one_more_hit (before after : List (IndexHit ℚ≥0)) (hit : IndexHit ℚ≥0) :
    Outnumbered ((before ++ after).map weights.weighted)
      ((before ++ hit :: after).map weights.weighted) := by
  intro bar
  apply List.Sublist.countP_le
  exact ((List.sublist_cons_self hit after).append_left before).map weights.weighted

theorem better_hit (before after : List (IndexHit ℚ≥0)) {hit better : IndexHit ℚ≥0}
    (atMost : weights.weighted hit ≤ weights.weighted better) :
    Outnumbered ((before ++ hit :: after).map weights.weighted)
      ((before ++ better :: after).map weights.weighted) := by
  intro bar
  simp only [List.map_append, List.map_cons, List.countP_append, List.countP_cons]
  by_cases low : bar ≤ weights.weighted hit
  · simp [low, low.trans atMost]
  · simp [low]

theorem weighted_of_raised (hit : IndexHit ℚ≥0) (raise : ℚ≥0) :
    weights.weighted hit ≤
      weights.weighted { hit with baseRelevance := hit.baseRelevance + raise } :=
  mul_le_mul_left (mul_le_mul_left le_self_add _) _

end RankingWeights

def GivesRelevance (rows : List (SearchResult ℚ≥0)) (id : String) (relevance : ℚ≥0) : Prop :=
  ∃ row ∈ rows, row.record.id = id ∧ row.relevance = relevance

theorem rerank_gives_iff {weights : RankingWeights ℚ≥0} {hits : List (IndexHit ℚ≥0)} {id : String}
    {relevance : ℚ≥0} : GivesRelevance (weights.rerank hits) id relevance ↔
      hitsOf hits id ≠ [] ∧ relevance = weights.relevanceOf (hitsOf hits id) := by
  constructor
  · rintro ⟨row, member, rfl, rfl⟩
    refine ⟨hits_of_filled ?_, (RankingWeights.row_of_rerank member).1⟩
    exact (weights.ids_of_rerank hits).mem_iff.mp (List.mem_map_of_mem member)
  · rintro ⟨filled, rfl⟩
    have among : id ∈ recordIds hits := by
      by_contra new
      exact filled (hits_of_new new)
    obtain ⟨row, member, rfl⟩ := List.mem_map.mp ((weights.ids_of_rerank hits).mem_iff.mpr among)
    exact ⟨row, member, rfl, (RankingWeights.row_of_rerank member).1⟩

/-- From the first rows to the others, the record is found and no less relevant, and every other
record is as relevant as it was, or still not found. No record has two rows. -/
structure HelpsOnly (id : String) (rows others : List (SearchResult ℚ≥0)) : Prop where
  distinct : (rows.map (·.record.id)).Nodup
  distinct' : (others.map (·.record.id)).Nodup
  never_lower : ∃ higher, GivesRelevance others id higher ∧
    ∀ relevance, GivesRelevance rows id relevance → relevance ≤ higher
  unchanged : ∀ other ≠ id, ∀ relevance,
    GivesRelevance others other relevance ↔ GivesRelevance rows other relevance

theorem helps_only_of_outnumbered {weights : RankingWeights ℚ≥0} {hits others : List (IndexHit ℚ≥0)}
    {id : String} (found : hitsOf others id ≠ [])
    (few : Outnumbered ((hitsOf hits id).map weights.weighted)
      ((hitsOf others id).map weights.weighted))
    (elsewhere : ∀ other ≠ id, hitsOf others other = hitsOf hits other) :
    HelpsOnly id (weights.rerank hits) (weights.rerank others) where
  distinct := weights.rerank_distinct hits
  distinct' := weights.rerank_distinct others
  never_lower := by
    refine ⟨_, rerank_gives_iff.mpr ⟨found, rfl⟩, fun relevance gives => ?_⟩
    obtain ⟨-, rfl⟩ := rerank_gives_iff.mp gives
    exact weights.relevance_of_outnumbered few
  unchanged := by
    intro other different relevance
    rw [rerank_gives_iff, rerank_gives_iff, elsewhere other different]

/-- A hit at one place among the hits, of another base relevance or left out, says nothing about
other records. -/
theorem hits_of_middle (before after : List (IndexHit ℚ≥0)) (hit : IndexHit ℚ≥0) (id : String) :
    hitsOf (before ++ hit :: after) id =
      if hit.record.id = id then hitsOf before id ++ hit :: hitsOf after id
      else hitsOf (before ++ after) id := by
  by_cases own : hit.record.id = id <;> simp [hitsOf, own]

/-- One more hit about a record, or a higher base relevance of one of its hits, never makes the
record less relevant and changes the relevance of no other one. -/
theorem more_evidence_never_hurts (weights : RankingWeights ℚ≥0)
    (before after : List (IndexHit ℚ≥0)) (hit : IndexHit ℚ≥0) (raise : ℚ≥0) :
    let better := { hit with baseRelevance := hit.baseRelevance + raise }
    HelpsOnly hit.record.id (weights.rerank (before ++ after))
        (weights.rerank (before ++ hit :: after)) ∧
      HelpsOnly hit.record.id (weights.rerank (before ++ hit :: after))
        (weights.rerank (before ++ better :: after)) := by
  intro better
  have own (shown : IndexHit ℚ≥0) (about : shown.record.id = hit.record.id) :
      hitsOf (before ++ shown :: after) hit.record.id =
        hitsOf before hit.record.id ++ shown :: hitsOf after hit.record.id := by
    rw [hits_of_middle, if_pos about]
  have elsewhere (shown : IndexHit ℚ≥0) (about : shown.record.id = hit.record.id) (id : String)
      (different : id ≠ hit.record.id) :
      hitsOf (before ++ shown :: after) id = hitsOf (before ++ after) id := by
    rw [hits_of_middle, if_neg (about ▸ different.symm)]
  constructor
  · apply helps_only_of_outnumbered
    · simp [own hit rfl]
    · rw [own hit rfl, hitsOf, List.filter_append]
      exact weights.one_more_hit _ _ hit
    · exact elsewhere hit rfl
  · apply helps_only_of_outnumbered
    · simp [own better rfl]
    · rw [own hit rfl, own better rfl]
      exact weights.better_hit _ _ (weights.weighted_of_raised hit raise)
    · intro id different
      rw [elsewhere better rfl id different, elsewhere hit rfl id different]

end FederatedSearch
