import FederatedSearch.Proofs.Grouping
import FederatedSearch.Proofs.Patterns

/-!
Rankings. Reranking makes one result of the hits about each record. The result shows the record
as its best hit does, and its relevance is the capped sum of the weighted scores of all its
hits, best first, each times the multiplier of its place. Results stand in order of relevance,
equally relevant ones in order of age, and those of one age as their records first appear.
-/

namespace FederatedSearch

open ScoreArithmetic SingleScores FederatedSearch.Time

section

variable {α : Type} {le : α → α → Bool}
variable (trans : ∀ a b c : α, le a b = true → le b c = true → le a c = true)
variable (total : ∀ a b : α, (le a b || le b a) = true)

include trans total

/-- A stable sort begins with the first of the items that no other one precedes. -/
theorem head_of_stable_sort {items : List α} {best : α}
    (first : (items.mergeSort le).head? = some best) :
    ∃ before after, items = before ++ best :: after ∧ (∀ item ∈ before, le item best = false) ∧
      ∀ item ∈ after, le best item = true := by
  induction items with
  | nil =>
      rw [List.mergeSort_nil] at first
      cases first
  | cons item rest ih =>
      obtain ⟨front, back, whole, others, strict⟩ := List.mergeSort_cons trans total item rest
      rw [whole] at first
      cases front with
      | nil =>
          obtain rfl : item = best := Option.some.inj first
          have sorted := List.pairwise_mergeSort trans total (item :: rest)
          rw [whole] at sorted
          refine ⟨[], rest, rfl, fun _ member => absurd member List.not_mem_nil, ?_⟩
          intro other member
          apply List.rel_of_pairwise_cons sorted
          rw [← List.nil_append back, ← others]
          exact List.mem_mergeSort.mpr member
      | cons head front =>
          obtain rfl : head = best := Option.some.inj first
          obtain ⟨before, after, split, below, above⟩ := ih (by rw [others]; rfl)
          refine ⟨item :: before, after, by rw [split, List.cons_append], ?_, above⟩
          intro other member
          rcases List.mem_cons.mp member with rfl | member
          · simpa using strict head List.mem_cons_self
          · exact below other member

/-- A stable sort leaves items that tie in the order in which they were. -/
theorem ties_keep_order {items : List α} {precedes : α → α → Prop}
    (order : items.Pairwise precedes) :
    (items.mergeSort le).Pairwise fun a b =>
      le a b = true ∧ (le b a = true → precedes a b) := by
  induction items with
  | nil =>
      rw [List.mergeSort_nil]
      exact List.Pairwise.nil
  | cons item rest ih =>
      obtain ⟨front, back, whole, others, strict⟩ := List.mergeSort_cons trans total item rest
      obtain ⟨firstPrecedes, restOrder⟩ := List.pairwise_cons.mp order
      have sorted := List.pairwise_mergeSort trans total (item :: rest)
      rw [whole, List.pairwise_append, List.pairwise_cons] at sorted
      obtain ⟨_, ⟨itemFirst, _⟩, across⟩ := sorted
      have earlier := ih restOrder
      rw [others, List.pairwise_append] at earlier
      obtain ⟨frontOrder, backOrder, frontBack⟩ := earlier
      rw [whole, List.pairwise_append, List.pairwise_cons]
      refine ⟨frontOrder, ⟨?_, backOrder⟩, ?_⟩
      · intro other member
        have among : other ∈ rest.mergeSort le := by
          rw [others]
          exact List.mem_append_right front member
        exact ⟨itemFirst other member, fun _ => firstPrecedes other (List.mem_mergeSort.mp among)⟩
      · intro other inFront last member
        rcases List.mem_cons.mp member with rfl | member
        · refine ⟨across other inFront last List.mem_cons_self, fun ties => ?_⟩
          have notTied := strict other inFront
          rw [ties] at notTied
          cases notTied
        · exact frontBack other inFront last member

end

theorem instant_compare_eq :
    Instant.compare = compareLex (compareOn Instant.second) (compareOn Instant.nanosecond) := rfl

instance : Std.TransCmp Instant.compare := by
  rw [instant_compare_eq]
  infer_instance

section

variable {Score : Type} [ScoreArithmetic Score]

theorem ranks_at_least_iff {a b : SearchResult Score} :
    a.ranksAtLeast b = true ↔ atLeast a.relevance b.relevance = true ∧
      (atLeast b.relevance a.relevance = true →
        (a.record.createdAt.compare b.record.createdAt).isGE = true) := by
  unfold SearchResult.ranksAtLeast
  cases atLeast b.relevance a.relevance <;>
    cases a.record.createdAt.compare b.record.createdAt <;> simp

variable [OrderedScores Score]

theorem ranks_at_least_trans (a b c : SearchResult Score) (first : a.ranksAtLeast b = true)
    (second : b.ranksAtLeast c = true) : a.ranksAtLeast c = true := by
  rw [ranks_at_least_iff] at first second ⊢
  refine ⟨OrderedScores.trans _ _ _ first.1 second.1, fun ties => ?_⟩
  have firstTies := OrderedScores.trans _ _ _ second.1 ties
  have secondTies := OrderedScores.trans _ _ _ ties first.1
  exact Std.TransCmp.isGE_trans (first.2 firstTies) (second.2 secondTies)

theorem ranks_at_least_total (a b : SearchResult Score) :
    (a.ranksAtLeast b || b.ranksAtLeast a) = true := by
  have comparable := Bool.or_eq_true_iff.mp (OrderedScores.total a.relevance b.relevance)
  have swapped : b.record.createdAt.compare a.record.createdAt =
      (a.record.createdAt.compare b.record.createdAt).swap := Std.OrientedCmp.eq_swap
  rw [Bool.or_eq_true, ranks_at_least_iff, ranks_at_least_iff, swapped]
  by_cases first : atLeast a.relevance b.relevance = true
  · by_cases second : atLeast b.relevance a.relevance = true
    · cases a.record.createdAt.compare b.record.createdAt <;> simp [first, second]
    · exact Or.inl ⟨first, fun ties => absurd ties second⟩
  · exact Or.inr ⟨comparable.resolve_left first, fun ties => absurd ties first⟩

end

namespace RankingWeights

variable {Score : Type} [ScoreArithmetic Score]

theorem best_first_perm (weights : RankingWeights Score) (hits : List (IndexHit Score)) :
    (weights.bestFirst hits).Perm hits :=
  List.mergeSort_perm ..

theorem best_first_descends [OrderedScores Score] (weights : RankingWeights Score)
    (hits : List (IndexHit Score)) :
    ((weights.bestFirst hits).map weights.weighted).Pairwise fun a b => atLeast a b = true := by
  rw [List.pairwise_map]
  exact List.pairwise_mergeSort
    (fun a b c => OrderedScores.trans (weights.weighted a) (weights.weighted b)
      (weights.weighted c))
    (fun a b => OrderedScores.total (weights.weighted a) (weights.weighted b)) hits

/-- The sum of scores, each times the multiplier of its place, from left to right. -/
theorem total_from_eq (weights : RankingWeights Score) (scores : List Score) (position : Nat)
    (sum : Score) :
    weights.totalFrom position sum scores =
      ((scores.zipIdx position).map fun (score, place) =>
        score * weights.multiplier place).foldl (· + ·) sum := by
  induction scores generalizing position sum with
  | nil => rfl
  | cons score rest ih => exact ih (position + 1) (sum + score * weights.multiplier position)

theorem aggregate_filled [OrderedScores Score] (weights : RankingWeights Score)
    {hits : List (IndexHit Score)} (filled : hits ≠ []) :
    ∃ before best after, hits = before ++ best :: after ∧
      (∀ hit ∈ before, atLeast (weights.weighted hit) (weights.weighted best) = false) ∧
      (∀ hit ∈ after, atLeast (weights.weighted best) (weights.weighted hit) = true) ∧
      weights.aggregate? hits = some ⟨best.record, best.node,
        weights.relevance ((weights.bestFirst hits).map weights.weighted)⟩ := by
  cases sorted : weights.bestFirst hits with
  | nil =>
      have none := weights.best_first_perm hits
      rw [sorted] at none
      exact absurd none.symm.eq_nil filled
  | cons best others =>
      have first : (weights.bestFirst hits).head? = some best := by rw [sorted]; rfl
      obtain ⟨before, after, split, below, above⟩ := head_of_stable_sort
        (fun a b c => OrderedScores.trans (weights.weighted a) (weights.weighted b)
          (weights.weighted c))
        (fun a b => OrderedScores.total (weights.weighted a) (weights.weighted b)) first
      refine ⟨before, best, after, split, below, above, ?_⟩
      rw [aggregate?, sorted]
      rfl

def results (weights : RankingWeights Score) (hits : List (IndexHit Score)) :
    List (SearchResult Score) :=
  (recordIds hits).filterMap fun id => weights.aggregate? (hitsOf hits id)

theorem rerank_eq (weights : RankingWeights Score) (hits : List (IndexHit Score)) :
    weights.rerank hits = (weights.results hits).mergeSort SearchResult.ranksAtLeast := by
  rw [rerank, HitGroups.groups_of_hits, List.filterMap_map]
  rfl

theorem mem_rerank {weights : RankingWeights Score} {hits : List (IndexHit Score)}
    {result : SearchResult Score} :
    result ∈ weights.rerank hits ↔
      ∃ id ∈ recordIds hits, weights.aggregate? (hitsOf hits id) = some result := by
  rw [rerank_eq, List.mem_mergeSort, results, List.mem_filterMap]

variable [OrderedScores Score]

theorem result_of_record (weights : RankingWeights Score) {hits : List (IndexHit Score)}
    {id : String} (member : id ∈ recordIds hits) :
    ∃ before best after, hits = before ++ best :: after ∧ best.record.id = id ∧
      (∀ hit ∈ before, hit.record.id = id →
        atLeast (weights.weighted hit) (weights.weighted best) = false) ∧
      (∀ hit ∈ after, hit.record.id = id →
        atLeast (weights.weighted best) (weights.weighted hit) = true) ∧
      weights.aggregate? (hitsOf hits id) = some ⟨best.record, best.node,
        weights.relevance ((weights.bestFirst (hitsOf hits id)).map weights.weighted)⟩ := by
  obtain ⟨lower, best, upper, split, below, above, result⟩ :=
    weights.aggregate_filled (hits_of_filled member)
  obtain ⟨front, rest, whole, rfl, restSplit⟩ := List.filter_eq_append_iff.mp split
  obtain ⟨gap, after, restWhole, others, own, rfl⟩ := List.filter_eq_cons_iff.mp restSplit
  have inFilter {hits : List (IndexHit Score)} {hit : IndexHit Score} (member : hit ∈ hits)
      (about : hit.record.id = id) : hit ∈ hits.filter (·.record.id == id) :=
    List.mem_filter.mpr ⟨member, beq_iff_eq.mpr about⟩
  refine ⟨front ++ gap, best, after, ?_, beq_iff_eq.mp own, ?_, ?_, result⟩
  · rw [whole, restWhole, List.append_assoc]
  · intro hit member about
    rcases List.mem_append.mp member with inFront | inGap
    · exact below hit (inFilter inFront about)
    · exact absurd (beq_iff_eq.mpr about) (others hit inGap)
  · intro hit member about
    exact above hit (inFilter member about)

/-- Before they are put in order, results stand as their records first appear. -/
theorem ids_of_results (weights : RankingWeights Score) (hits : List (IndexHit Score)) :
    (weights.results hits).map (·.record.id) = recordIds hits := by
  have own : ∀ id ∈ recordIds hits, (weights.aggregate? (hitsOf hits id)).map (·.record.id) =
      some id := by
    intro id member
    obtain ⟨_, best, _, _, about, _, _, result⟩ := weights.result_of_record member
    rw [result, Option.map_some, about]
  rw [results, List.map_filterMap, List.filterMap_congr own, List.filterMap_some]

theorem ids_of_rerank (weights : RankingWeights Score) (hits : List (IndexHit Score)) :
    ((weights.rerank hits).map (·.record.id)).Perm (recordIds hits) := by
  rw [rerank_eq, ← weights.ids_of_results hits]
  exact (List.mergeSort_perm ..).map _

theorem rerank_descends (weights : RankingWeights Score) (hits : List (IndexHit Score)) :
    (weights.rerank hits).Pairwise fun a b => a.ranksAtLeast b = true ∧
      (b.ranksAtLeast a = true →
        firstAppearance hits a.record.id < firstAppearance hits b.record.id) := by
  have ascending := record_ids_ascend hits
  rw [← weights.ids_of_results hits, List.pairwise_map] at ascending
  rw [rerank_eq]
  exact ties_keep_order ranks_at_least_trans ranks_at_least_total ascending

end RankingWeights

section

variable {Score : Type} [ScoreArithmetic Score]

/-- The first result is more relevant than the second, or as relevant and newer, or of one age
with it while its record appears first among the hits. -/
def RanksAbove (hits : List (IndexHit Score)) (a b : SearchResult Score) : Prop :=
  atLeast b.relevance a.relevance = false ∨
    atLeast a.relevance b.relevance = true ∧ atLeast b.relevance a.relevance = true ∧
      (b.record.createdAt.compare a.record.createdAt = .lt ∨
        b.record.createdAt.compare a.record.createdAt = .eq ∧
          firstAppearance hits a.record.id < firstAppearance hits b.record.id)

theorem ranks_above_of_ranks_at_least {hits : List (IndexHit Score)} {a b : SearchResult Score}
    (above : a.ranksAtLeast b = true)
    (ties : b.ranksAtLeast a = true →
      firstAppearance hits a.record.id < firstAppearance hits b.record.id) :
    RanksAbove hits a b := by
  obtain ⟨first, newer⟩ := ranks_at_least_iff.mp above
  have swapped : b.record.createdAt.compare a.record.createdAt =
      (a.record.createdAt.compare b.record.createdAt).swap := Std.OrientedCmp.eq_swap
  cases second : atLeast b.relevance a.relevance with
  | false => exact Or.inl second
  | true =>
      have notOlder := newer second
      refine Or.inr ⟨first, second, ?_⟩
      rw [swapped]
      cases age : a.record.createdAt.compare b.record.createdAt with
      | lt =>
          rw [age] at notOlder
          cases notOlder
      | gt => exact Or.inl rfl
      | eq =>
          refine Or.inr ⟨rfl, ties (ranks_at_least_iff.mpr ⟨second, ?_⟩)⟩
          intro _
          rw [swapped, age]
          rfl

variable [SingleScores Score]

/-- The relevance that the hits about a record give it. Their weighted scores are put in order,
greatest first; each is multiplied by the multiplier of its place, and the products are added up
from left to right. The sum counts up to one, and an undefined one counts as one. -/
def IsRelevance (weights : RankingWeights Score) (hits : List (IndexHit Score))
    (relevance : Score) : Prop :=
  ∃ scores : List Score, scores.Perm (hits.map weights.weighted) ∧
    (scores.Pairwise fun a b => atLeast a b = true) ∧
    let sum := (scores.zipIdx.map fun (score, place) =>
      single score * single (weights.multiplier place)).foldl (· + ·) (-0.0)
    single relevance = if sum.isNaN then 1 else if sum < 1 then sum else 1

structure IsRanking (weights : RankingWeights Score) (hits : List (IndexHit Score))
    (results : List (SearchResult Score)) : Prop where
  distinct : (results.map (·.record.id)).Nodup
  complete : ∀ id, id ∈ results.map (·.record.id) ↔ id ∈ hits.map (·.record.id)
  relevance : ∀ result ∈ results,
    IsRelevance weights (hitsOf hits result.record.id) result.relevance
  /-- A result shows the record as the first of the best hits about it does. -/
  shown : ∀ result ∈ results, ∃ before best after, hits = before ++ best :: after ∧
    result.record = best.record ∧ result.node = best.node ∧
    (∀ hit ∈ before, hit.record.id = result.record.id →
      atLeast (weights.weighted hit) (weights.weighted best) = false) ∧
    (∀ hit ∈ after, hit.record.id = result.record.id →
      atLeast (weights.weighted best) (weights.weighted hit) = true)
  ordered : results.Pairwise (RanksAbove hits)

theorem single_sum (scores : List Score) (sum : Score) :
    single (scores.foldl (· + ·) sum) = (scores.map single).foldl (· + ·) (single sum) := by
  induction scores generalizing sum with
  | nil => rfl
  | cons score rest ih =>
      rw [List.foldl_cons, List.map_cons, List.foldl_cons, ih, single_add]

theorem relevance_of_hits (weights : RankingWeights Score) (hits : List (IndexHit Score)) :
    IsRelevance weights hits
      (weights.relevance ((weights.bestFirst hits).map weights.weighted)) := by
  refine ⟨_, (weights.best_first_perm hits).map weights.weighted,
    weights.best_first_descends hits, ?_⟩
  rw [RankingWeights.relevance, RankingWeights.total_from_eq, single_capped, single_sum,
    single_empty_sum, List.map_map]
  simp only [Function.comp_def, single_mul]

/-- Reranking ranks, whatever the weights and the hits, zeros of either sign and undefined scores
of any place among them. -/
theorem rerank_is_ranking (weights : RankingWeights Score) (hits : List (IndexHit Score)) :
    IsRanking weights hits (weights.rerank hits) where
  distinct := (weights.ids_of_rerank hits).nodup_iff.mpr (record_ids_nodup hits)
  complete id := (weights.ids_of_rerank hits).mem_iff.trans mem_record_ids
  relevance := by
    intro result member
    obtain ⟨id, among, made⟩ := RankingWeights.mem_rerank.mp member
    obtain ⟨_, best, _, _, rfl, _, _, own⟩ := weights.result_of_record among
    cases made.symm.trans own
    exact relevance_of_hits weights _
  shown := by
    intro result member
    obtain ⟨id, among, made⟩ := RankingWeights.mem_rerank.mp member
    obtain ⟨before, best, after, split, rfl, below, above, own⟩ :=
      weights.result_of_record among
    cases made.symm.trans own
    exact ⟨before, best, after, split, rfl, rfl, below, above⟩
  ordered := (weights.rerank_descends hits).imp fun ranks =>
    ranks_above_of_ranks_at_least ranks.1 ranks.2

end

/-- Only the node at home has a weight. The default weight of other nodes is undefined, with
positive sign, so that it stands above all numbers. -/
def undefinedByDefault : RankingWeights Pattern :=
  { nodeWeights := [("home", .ofScore 1)], indexWeights := []
    multipliers := [.ofScore 1, .ofScore 0.5]
    defaultNodeWeight := ⟨0x7fc00000⟩, defaultIndexWeight := .ofScore 1 }

def memoAt (node : String) : IndexHit Pattern :=
  ⟨.plain "memo" "Rust" ⟨0, 0⟩, node, "default", none, .ofScore 0.5⟩

theorem memo_at_work_first :
    undefinedByDefault.bestFirst [memoAt "home", memoAt "work"] =
      [memoAt "work", memoAt "home"] := by
  have below : atLeast (undefinedByDefault.weighted (memoAt "home"))
      (undefinedByDefault.weighted (memoAt "work")) = false := by decide +kernel
  simp [RankingWeights.bestFirst, List.mergeSort, below]

theorem undefined_weight_ranks_first :
    IsRanking undefinedByDefault [memoAt "home", memoAt "work"]
        (undefinedByDefault.rerank [memoAt "home", memoAt "work"]) ∧
      undefinedByDefault.rerank [memoAt "home", memoAt "work"] =
        [⟨.plain "memo" "Rust" ⟨0, 0⟩, "work", .ofScore 1⟩] := by
  apply And.intro (rerank_is_ranking _ _)
  have ids : recordIds [memoAt "home", memoAt "work"] = ["memo"] := rfl
  have own : hitsOf [memoAt "home", memoAt "work"] "memo" = [memoAt "home", memoAt "work"] := rfl
  -- The sum is undefined, and counts as one.
  have relevance : undefinedByDefault.relevance
      ([memoAt "work", memoAt "home"].map undefinedByDefault.weighted) = .ofScore 1 := by
    decide +kernel
  have result : undefinedByDefault.aggregate? [memoAt "home", memoAt "work"] =
      some ⟨.plain "memo" "Rust" ⟨0, 0⟩, "work", .ofScore 1⟩ := by
    rw [RankingWeights.aggregate?, memo_at_work_first, relevance]
    rfl
  rw [RankingWeights.rerank_eq, RankingWeights.results, ids, List.filterMap_cons, own, result]
  exact List.mergeSort_singleton _

end FederatedSearch
