import FederatedSearch.Federation.Search
import FederatedSearch.Proofs.ArrivalOrder

/-!
What a client may rely on in a response, whatever the nodes returned: undefined, infinite and
negative scores and weights among it. Relevances are defined and at most one, rows stand in
order, and the pages of a search are the rows of the ranking which are relevant enough.
-/

namespace FederatedSearch

open ScoreArithmetic

theorem capped_le_one (score : Float32) : capped score ≤ (1 : Float32) := by
  have one : (1 : Float32) ≤ 1 := by decide
  change (if score.isNaN then 1 else if score < 1 then score else 1) ≤ (1 : Float32)
  split
  next undefined => exact one
  next defined =>
    split
    next less => exact Float32.le_of_lt less
    next more => exact one

section

variable {α : Type}

/-- A condition that holds of every item before one of which it holds, holds of the first
items. -/
theorem filter_eq_take_while {items : List α} {holds : α → Bool}
    (sooner : items.Pairwise fun a b => holds b = true → holds a = true) :
    items.filter holds = items.takeWhile holds := by
  induction items with
  | nil => rfl
  | cons item rest ih =>
      obtain ⟨first, others⟩ := List.pairwise_cons.mp sooner
      by_cases here : holds item = true
      · rw [List.filter_cons_of_pos here, List.takeWhile_cons_of_pos here, ih others]
      · rw [List.filter_cons_of_neg here, List.takeWhile_cons_of_neg here,
          List.filter_eq_nil_iff]
        intro other member passes
        exact here (first other member passes)

theorem pages_join (items : List α) (size count : Nat) :
    (List.range count).flatMap (fun page => (items.drop (page * size)).take size) =
      items.take (count * size) := by
  induction count with
  | zero => simp
  | succ count ih => simp [List.range_succ, ih, Nat.succ_mul, List.take_add]

end

/-- Rows as they stand in a response: by relevance, and where it is the same, newest first. -/
def RowsDescend (rows : List (SearchResult Float32)) : Prop :=
  rows.Pairwise fun a b => b.relevance ≤ a.relevance ∧
    (Float32.rank b.relevance < Float32.rank a.relevance ∨
      a.relevance = b.relevance ∧ (a.record.createdAt.compare b.record.createdAt).isGE = true)

structure KeepsContract (request : SearchRequest) (ranking rows : List (SearchResult Float32))
    (respond : Nat → SearchResponse) : Prop where
  distinct : ∀ offset, ((respond offset).results.map (·.record.id)).Nodup
  ordered : ∀ offset, RowsDescend (respond offset).results
  relevance : ∀ offset, ∀ row ∈ (respond offset).results,
    request.minRelevance ≤ row.relevance ∧ row.relevance ≤ 1 ∧ row.relevance.isNaN = false
  /-- The rows that are relevant enough come first in the ranking. -/
  leading : rows <+: ranking
  qualifying : ∀ row ∈ ranking, row ∈ rows ↔ request.minRelevance ≤ row.relevance
  total : ∀ offset, (respond offset).total = rows.length
  length : ∀ offset, (respond offset).results.length =
    min request.limit ((respond offset).total - offset)
  pages : ∀ count, (List.range count).flatMap (fun page =>
    (respond (page * request.limit)).results) = rows.take (count * request.limit)
  /-- With enough pages every row is shown. -/
  complete : ∀ count, rows.length ≤ count → (List.range count).flatMap (fun page =>
    (respond (page * request.limit)).results) = rows

section

variable (weights : RankingWeights Float32) (hits : List (IndexHit Float32))

theorem row_le_one {row : SearchResult Float32} (member : row ∈ weights.rerank hits) :
    row.relevance ≤ (1 : Float32) := by
  rw [(RankingWeights.row_of_rerank member).1]
  exact capped_le_one _

theorem rows_descend : RowsDescend (weights.rerank hits) := by
  apply (weights.rerank_descends hits).imp_of_mem
  intro a b first second ranks
  obtain ⟨above, newer⟩ := ranks_at_least_iff.mp ranks.1
  have defined := (Float32.le_iff.mp (row_le_one weights hits first)).1
  have defined' := (Float32.le_iff.mp (row_le_one weights hits second)).1
  rw [at_least_iff] at above newer
  refine ⟨Float32.le_of_rank_le defined' defined above, ?_⟩
  rcases Int.lt_or_eq_of_le above with higher | same
  · exact Or.inl higher
  · exact Or.inr ⟨Float32.rank_injective same.symm, newer (Int.le_of_eq same.symm)⟩

theorem relevant_rows_first (least : Float32) :
    ((weights.rerank hits).filter fun row => least ≤ row.relevance) <+: weights.rerank hits := by
  rw [filter_eq_take_while]
  · exact List.takeWhile_prefix _
  · apply (rows_descend weights hits).imp
    intro a b below passes
    rw [decide_eq_true_eq] at passes ⊢
    exact Float32.le_trans passes below.1

end

theorem limit_of_valid {request : SearchRequest} (valid : request.validate = .ok ()) :
    0 < request.limit := by
  apply Nat.pos_of_ne_zero
  intro zero
  simp only [SearchRequest.validate, SearchRequest.fault?, zero, if_true] at valid
  split at valid
  next fault some => cases valid
  next none =>
    split at none
    next blank => cases none
    next filled => cases none

namespace Federation

/-- A search that succeeds has taken all of its steps. -/
theorem steps_of_search {federation : Federation} {request : SearchRequest}
    {response : SearchResponse} (success : federation.search request = .ok response) :
    ∃ members query gathered, federation.select request = .ok members ∧
      federation.parse request.query = .ok query ∧
      federation.dispatch members query request = .ok gathered ∧
      response = federation.response members request gathered := by
  unfold search at success
  obtain ⟨_, -, success⟩ := bind_eq_ok.mp success
  obtain ⟨members, selected, success⟩ := bind_eq_ok.mp success
  obtain ⟨_, -, success⟩ := bind_eq_ok.mp success
  obtain ⟨query, read, success⟩ := bind_eq_ok.mp success
  obtain ⟨gathered, dispatched, success⟩ := bind_eq_ok.mp success
  exact ⟨members, query, gathered, selected, read, dispatched, (Except.ok.inj success).symm⟩

theorem response_of_search {federation : Federation} {request : SearchRequest}
    {response : SearchResponse} (success : federation.search request = .ok response) :
    ∃ members gathered, response = federation.response members request gathered := by
  obtain ⟨members, _, gathered, -, -, -, same⟩ := steps_of_search success
  exact ⟨members, gathered, same⟩

/-- Whatever nodes return, the responses to a valid request keep the contract. -/
theorem responses_keep_contract (federation : Federation) (request : SearchRequest)
    (valid : request.validate = .ok ()) :
    (∀ members gathered,
      KeepsContract request
        ((federation.weights members request).rerank (gathered.outcomes.flatMap (·.hits)))
        (rankedResults (federation.weights members request) request gathered.outcomes)
        fun offset => federation.response members { request with offset } gathered) ∧
    ∀ response, federation.search request = .ok response →
      ∃ members gathered, response = federation.response members request gathered := by
  refine ⟨fun members gathered => ?_, fun response => response_of_search⟩
  let ranking := (federation.weights members request).rerank (gathered.outcomes.flatMap (·.hits))
  let rows := rankedResults (federation.weights members request) request gathered.outcomes
  have leading : rows <+: ranking := relevant_rows_first _ _ request.minRelevance
  have pages := pages_join rows request.limit
  have inside (offset : Nat) : (page { request with offset } rows).Sublist rows :=
    (List.take_sublist _ _).trans (List.drop_sublist _ _)
  have ranked (offset : Nat) := (inside offset).trans leading.sublist
  constructor
  case distinct =>
    intro offset
    exact (RankingWeights.rerank_distinct _ _).sublist ((ranked offset).map _)
  case ordered =>
    intro offset
    exact (rows_descend _ _).sublist (ranked offset)
  case relevance =>
    intro offset row member
    have below := row_le_one _ _ ((ranked offset).subset member)
    have passes := (List.mem_filter.mp ((inside offset).subset member)).2
    exact ⟨of_decide_eq_true passes, below, (Float32.le_iff.mp below).1⟩
  case leading => exact leading
  case qualifying =>
    intro row member
    simp [rankedResults, member]
  case total => exact fun offset => rfl
  case length =>
    intro offset
    simp [response, page]
  case pages => exact pages
  case complete =>
    intro count enough
    have size := Nat.le_mul_of_pos_right count (limit_of_valid valid)
    exact (pages count).trans (List.take_of_length_le (Nat.le_trans enough size))

/-- Hits with an infinite, an undefined and a negative score. -/
def extremeOutcome : NodeOutcome where
  node := "alpha"
  hits := [⟨.plain "first" "Rust" ⟨0, 0⟩, "alpha", "default", none, 1 / 0⟩,
    ⟨.plain "second" "Rust" ⟨0, 0⟩, "alpha", "default", none, 0 / 0⟩,
    ⟨.plain "third" "Rust" ⟨0, 0⟩, "alpha", "default", none, -1⟩]
  warnings := []

theorem extreme_scores_keep_contract :
    (SearchRequest.forQuery "rust").validate = .ok () ∧
      KeepsContract (.forQuery "rust")
        (((new .standard).weights [] (.forQuery "rust")).rerank extremeOutcome.hits)
        (rankedResults ((new .standard).weights [] (.forQuery "rust")) (.forQuery "rust")
          [extremeOutcome])
        fun offset => (new .standard).response [] { SearchRequest.forQuery "rust" with offset }
          ⟨[extremeOutcome], []⟩ :=
  ⟨rfl, (responses_keep_contract (new .standard) (.forQuery "rust") rfl).1 []
    ⟨[extremeOutcome], []⟩⟩

end Federation

end FederatedSearch
