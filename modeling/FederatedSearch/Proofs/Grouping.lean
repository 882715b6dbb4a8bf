import FederatedSearch.Ranking.Reranking
import Mathlib.Data.List.Basic
import Mathlib.Data.List.Induction

/-!
Hits in groups. One pass over the hits puts each into the group of its record, so that every
record that hits are about has one group, which holds its hits in order, and the groups stand
in the order in which their records first appear.
-/

namespace FederatedSearch

variable {Score : Type}

/-- The ids of the records that hits are about, in the order of first appearance. -/
def recordIds (hits : List (IndexHit Score)) : List String :=
  (hits.map (·.record.id)).eraseDups

def hitsOf (hits : List (IndexHit Score)) (id : String) : List (IndexHit Score) :=
  hits.filter (·.record.id == id)

/-- Where a record first appears among hits. -/
def firstAppearance (hits : List (IndexHit Score)) (id : String) : Nat :=
  (hits.map (·.record.id)).idxOf id

theorem mem_record_ids {hits : List (IndexHit Score)} {id : String} :
    id ∈ recordIds hits ↔ id ∈ hits.map (·.record.id) :=
  List.mem_eraseDups

section

variable {α : Type} [BEq α] [LawfulBEq α]

theorem erase_dups_append_one (items : List α) (item : α) :
    (items ++ [item]).eraseDups =
      if item ∈ items then items.eraseDups else items.eraseDups ++ [item] := by
  rw [List.eraseDups_append]
  by_cases known : item ∈ items <;> simp [List.removeAll, known, List.eraseDups_cons]

theorem erase_dups_nodup (items : List α) : items.eraseDups.Nodup := by
  induction items using List.reverseRecOn with
  | nil => exact List.nodup_nil
  | append_singleton items item ih =>
      rw [erase_dups_append_one]
      by_cases known : item ∈ items
      · rw [if_pos known]
        exact ih
      · rw [if_neg known, List.nodup_append]
        refine ⟨ih, List.pairwise_singleton _ _, ?_⟩
        intro other member last isLast same
        rw [List.mem_singleton.mp isLast] at same
        exact known (same ▸ List.mem_eraseDups.mp member)

theorem erase_dups_filter_ascend (items : List α) (kept : α → Bool) :
    (items.filter kept).eraseDups.Pairwise fun a b => items.idxOf a < items.idxOf b := by
  induction items using List.reverseRecOn with
  | nil => exact List.Pairwise.nil
  | append_singleton items item ih =>
      have mem_of {other : α} (member : other ∈ (items.filter kept).eraseDups) : other ∈ items :=
        (List.mem_filter.mp (List.mem_eraseDups.mp member)).1
      have same {other : α} (member : other ∈ (items.filter kept).eraseDups) :
          (items ++ [item]).idxOf other = items.idxOf other := by
        rw [List.idxOf_append, if_pos (mem_of member)]
      have earlier : (items.filter kept).eraseDups.Pairwise fun a b =>
          (items ++ [item]).idxOf a < (items ++ [item]).idxOf b :=
        ih.imp_of_mem fun first second below => by
          rw [same first, same second]
          exact below
      by_cases keeps : kept item = true
      · rw [List.filter_append, List.filter_cons_of_pos keeps, List.filter_nil,
          erase_dups_append_one]
        by_cases known : item ∈ items.filter kept
        · rw [if_pos known]
          exact earlier
        · rw [if_neg known, List.pairwise_append]
          refine ⟨earlier, List.pairwise_singleton _ _, ?_⟩
          intro other member last isLast
          cases List.mem_singleton.mp isLast
          have inside := List.idxOf_lt_length_of_mem (mem_of member)
          have behind : item ∉ items := fun among => known (List.mem_filter.mpr ⟨among, keeps⟩)
          rw [same member, List.idxOf_append, if_neg behind]
          omega
      · rw [List.filter_append, List.filter_cons_of_neg keeps, List.filter_nil, List.append_nil]
        exact earlier

end

theorem record_ids_known {seen : List (IndexHit Score)} {hit : IndexHit Score}
    (known : hit.record.id ∈ recordIds seen) : recordIds (seen ++ [hit]) = recordIds seen := by
  rw [recordIds, List.map_append, List.map_singleton, erase_dups_append_one,
    if_pos (mem_record_ids.mp known), ← recordIds]

theorem record_ids_new {seen : List (IndexHit Score)} {hit : IndexHit Score}
    (new : hit.record.id ∉ recordIds seen) :
    recordIds (seen ++ [hit]) = recordIds seen ++ [hit.record.id] := by
  rw [recordIds, List.map_append, List.map_singleton, erase_dups_append_one,
    if_neg (mt mem_record_ids.mpr new), ← recordIds]

theorem record_ids_ascend (hits : List (IndexHit Score)) :
    (recordIds hits).Pairwise fun a b => firstAppearance hits a < firstAppearance hits b := by
  have ascending := erase_dups_filter_ascend (hits.map (·.record.id)) fun _ => true
  rw [List.filter_true] at ascending
  exact ascending

theorem record_ids_nodup (hits : List (IndexHit Score)) : (recordIds hits).Nodup :=
  erase_dups_nodup _

theorem hits_of_append (seen : List (IndexHit Score)) (hit : IndexHit Score) (id : String) :
    hitsOf (seen ++ [hit]) id =
      if hit.record.id = id then hitsOf seen id ++ [hit] else hitsOf seen id := by
  rw [hitsOf, List.filter_append, ← hitsOf]
  by_cases same : hit.record.id = id <;> simp [same]

theorem hits_of_new {seen : List (IndexHit Score)} {id : String} (new : id ∉ recordIds seen) :
    hitsOf seen id = [] := by
  apply List.filter_eq_nil_iff.mpr
  intro hit member same
  apply new
  rw [← beq_iff_eq.mp same]
  exact mem_record_ids.mpr (List.mem_map_of_mem member)

theorem hits_of_filled {hits : List (IndexHit Score)} {id : String} (member : id ∈ recordIds hits) :
    hitsOf hits id ≠ [] := by
  obtain ⟨hit, among, same⟩ := List.mem_map.mp (mem_record_ids.mp member)
  exact List.ne_nil_of_mem (List.mem_filter.mpr ⟨among, beq_iff_eq.mpr same⟩)

namespace HitGroups

structure Groups (seen : List (IndexHit Score)) (grouped : HitGroups Score) : Prop where
  positions : grouped.positions = (recordIds seen).zipIdx
  groups : grouped.groups = (recordIds seen).map (hitsOf seen)

theorem find_position {ids : List String} {start : Nat} {id : String} :
    Document.find? id (ids.zipIdx start) =
      if id ∈ ids then some (start + ids.idxOf id) else none := by
  induction ids generalizing start with
  | nil => rfl
  | cons first rest ih =>
      rw [List.zipIdx_cons, Document.find?, ih]
      by_cases same : first = id
      · subst same
        simp
      · have further : (first :: rest).idxOf id = rest.idxOf id + 1 :=
          List.idxOf_cons_ne rest same
        by_cases member : id ∈ rest
        · simp only [same, if_false, member, if_true, List.mem_cons, or_true, further,
            Option.some.injEq]
          omega
        · simp [same, Ne.symm same, member]

theorem empty_groups : Groups [] (empty : HitGroups Score) := ⟨rfl, rfl⟩

theorem add_groups {seen : List (IndexHit Score)} {grouped : HitGroups Score}
    (right : Groups seen grouped) (hit : IndexHit Score) :
    Groups (seen ++ [hit]) (grouped.add hit) := by
  unfold add
  rw [right.positions, find_position]
  by_cases known : hit.record.id ∈ recordIds seen
  · have same := record_ids_known known
    rw [if_pos known, Nat.zero_add]
    refine ⟨by rw [same], ?_⟩
    -- Only the group at the position of the record's id is about the record.
    simp only [right.groups, same]
    apply List.ext_getElem?
    intro position
    rw [List.getElem?_modify, List.getElem?_map, List.getElem?_map]
    cases found : (recordIds seen)[position]? with
    | none => rfl
    | some id =>
        have own : (recordIds seen).idxOf hit.record.id = position ↔ hit.record.id = id := by
          obtain ⟨inside, here⟩ := List.getElem?_eq_some_iff.mp found
          constructor
          · rintro rfl
            rw [← here, List.getElem_idxOf]
          · rintro rfl
            rw [← here]
            exact (record_ids_nodup seen).idxOf_getElem position inside
        simp only [Option.map_some, Option.map_eq_map, hits_of_append, own]
  · have further := record_ids_new known
    rw [if_neg known]
    refine ⟨?_, ?_⟩
    · simp [further, List.zipIdx_append, right.groups]
    · simp only [right.groups, further, List.map_append, List.map_singleton]
      refine congrArg₂ (· ++ ·) (List.map_congr_left fun id member => ?_) ?_
      · have other : hit.record.id ≠ id := fun same => known (same ▸ member)
        rw [hits_of_append, if_neg other]
      · rw [hits_of_append, if_pos rfl, hits_of_new known, List.nil_append]

/-- What one pass over the hits makes of them. -/
theorem groups_of_hits (hits : List (IndexHit Score)) :
    (ofHits hits).groups = (recordIds hits).map (hitsOf hits) := by
  have right : Groups hits (ofHits hits) := by
    induction hits using List.reverseRecOn with
    | nil => exact empty_groups
    | append_singleton seen hit ih =>
        rw [ofHits, List.foldl_append]
        exact add_groups ih hit
  exact right.groups

end HitGroups

end FederatedSearch
