import FederatedSearch.Ranking.Hit
import FederatedSearch.Settings.Basic
import Mathlib.Data.List.Nodup

/-!
Addresses of results. The qualified id of a result leads back to its record at its node if
the id of the node is one that can stand before a colon. Settings are not asked for such ids:
of a node with any other id the addresses are refused, or lead to another node.
-/

namespace FederatedSearch

namespace QualifiedId

/-- The text can stand as the node part of a qualified id. -/
def IsNodeName (text : String) : Prop :=
  text ≠ "" ∧ ∀ c ∈ text.toList, isNodeChar c = true

instance (text : String) : Decidable (IsNodeName text) :=
  decidable_of_iff (text ≠ "" ∧ text.toList.all isNodeChar = true) (by simp [IsNodeName])

theorem split_at_first_colon {before : List Char} (plain : ':' ∉ before) (rest : List Char) :
    split? (before ++ ':' :: rest) = some (before, rest) := by
  have noColon : ∀ c ∈ before, (c != ':') = true := by
    intro c member
    rw [bne_iff_ne]
    rintro rfl
    exact plain member
  rw [split?, List.dropWhile_append_of_pos noColon, List.takeWhile_append_of_pos noColon]
  simp

theorem colon_is_no_node_char : isNodeChar ':' = false := by decide

theorem node_name_has_no_colon {text : String} (name : IsNodeName text) : ':' ∉ text.toList := by
  intro member
  have accepted := name.2 ':' member
  rw [colon_is_no_node_char] at accepted
  cases accepted

theorem parse_at_first_colon {before rest : List Char} (plain : ':' ∉ before)
    (filled : rest ≠ []) {text : String} (parts : text.toList = before ++ ':' :: rest) :
    parse text = if IsNodeName (String.ofList before) then
        .ok ⟨String.ofList before, String.ofList rest⟩
      else .error (.invalidNodePart none text) := by
  have checked : (!before.isEmpty && before.all isNodeChar && !rest.isEmpty) = true ↔
      IsNodeName (String.ofList before) := by
    simp [IsNodeName, filled, String.ofList_eq_empty_iff]
  rw [parse, parts, split_at_first_colon plain]
  simp only [checked]

theorem write_to_list (id : QualifiedId) :
    id.write.toList = id.node.toList ++ ':' :: id.record.toList := by
  simp [write]

theorem filled_to_list {text : String} (filled : text ≠ "") : text.toList ≠ [] := by
  simpa using filled

theorem parse_write {id : QualifiedId} (name : IsNodeName id.node) (filled : id.record ≠ "") :
    parse id.write = .ok id := by
  rw [parse_at_first_colon (node_name_has_no_colon name) (filled_to_list filled) (write_to_list id)]
  simp only [String.ofList_toList, if_pos name]

/-- An address whose first part cannot stand before a colon is refused, or it is an address at
the node that is named before its first colon. -/
theorem misread_write {id : QualifiedId} (other : ¬IsNodeName id.node) (filled : id.record ≠ "") :
    parse id.write = .error (.invalidNodePart none id.write) ∨
      ∃ node rest, id.node = node ++ ":" ++ rest ∧ IsNodeName node ∧
        parse id.write = .ok ⟨node, rest ++ ":" ++ id.record⟩ := by
  -- The text is split at its first colon, which stands in the node part if that has one.
  by_cases colon : ':' ∈ id.node.toList
  · obtain ⟨before, rest, parts, plain⟩ := List.eq_append_cons_of_mem colon
    have written : id.write.toList = before ++ ':' :: (rest ++ ':' :: id.record.toList) := by
      rw [write_to_list, parts, List.append_assoc, List.cons_append]
    rw [parse_at_first_colon plain (by simp) written]
    by_cases name : IsNodeName (String.ofList before)
    · refine Or.inr ⟨String.ofList before, String.ofList rest, ?_, name, ?_⟩
      · apply String.toList_injective
        simp [parts]
      · rw [if_pos name]
        simp [String.append_assoc]
    · exact Or.inl (if_neg name)
  · rw [parse_at_first_colon colon (filled_to_list filled) (write_to_list id)]
    rw [String.ofList_toList]
    exact Or.inl (if_neg other)

theorem parse_write_iff {id : QualifiedId} (filled : id.record ≠ "") :
    parse id.write = .ok id ↔ IsNodeName id.node := by
  refine ⟨fun parsed => ?_, fun name => parse_write name filled⟩
  by_contra other
  rcases misread_write other filled with refused | ⟨node, rest, parts, _, read⟩
  · cases refused.symm.trans parsed
  · have same : node = id.node :=
      congrArg QualifiedId.node (Except.ok.inj (read.symm.trans parsed))
    have lengths := congrArg (·.toList.length) (same.trans parts)
    simp at lengths

end QualifiedId

theorem Catalog.find_of_mem {α : Type} (catalog : Catalog α) {entry : String × α}
    (member : entry ∈ catalog.entries) : catalog.find? entry.1 = some entry.2 := by
  have sought : (catalog.entries.find? (·.1 == entry.1)).isSome = true :=
    List.find?_isSome.mpr ⟨entry, member, beq_self_eq_true _⟩
  obtain ⟨first, found⟩ := Option.isSome_iff_exists.mp sought
  have same : first.1 = entry.1 := by simpa using List.find?_some found
  have first_eq : first = entry :=
    List.inj_on_of_nodup_map catalog.nodup_names (List.mem_of_find?_eq_some found) member same
  rw [Catalog.find?, found, first_eq]
  rfl

theorem Catalog.mem_of_find {α : Type} {catalog : Catalog α} {name : String} {value : α}
    (found : catalog.find? name = some value) : (name, value) ∈ catalog.entries := by
  obtain ⟨entry, first, rfl⟩ := Option.map_eq_some_iff.mp found
  have same : entry.1 = name := by simpa using List.find?_some first
  rw [← same]
  exact List.mem_of_find?_eq_some first

theorem faultless_of_valid {settings : Settings} (valid : settings.validate = .ok ()) :
    settings.fault? = none := by
  rw [Settings.validate] at valid
  cases fault : settings.fault? with
  | none => rfl
  | some fault =>
      rw [fault] at valid
      cases valid

theorem faultless_nodes {settings : Settings} (faultless : settings.fault? = none) :
    ∀ entry ∈ settings.nodes.entries, entry.2.fault? entry.1 = none := by
  rw [Settings.fault?] at faultless
  split at faultless
  · cases faultless
  · split at faultless
    · cases faultless
    · exact List.findSome?_eq_none_iff.mp faultless

theorem own_ids_of_valid {settings : Settings} (valid : settings.validate = .ok ()) :
    ∀ entry ∈ settings.nodes.entries, entry.1 = entry.2.id := by
  intro entry member
  have faultless := faultless_nodes (faultless_of_valid valid) entry member
  by_contra misnamed
  rw [NodeSettings.fault?, if_pos misnamed] at faultless
  cases faultless

/-- Settings with one node are valid whatever the id of the node is. -/
theorem any_node_id_is_valid (search : SearchSettings) (sound : search.fault? = none)
    (logLevel id : String) :
    (Settings.withNode ⟨logLevel, search, .empty⟩ (.forId id)).validate = .ok () := by
  have faultless : (Settings.withNode ⟨logLevel, search, .empty⟩ (.forId id)).fault? = none := by
    simp [Settings.fault?, Settings.withNode, sound, Catalog.insert, Catalog.empty, insertEntry,
      Catalog.isEmpty, NodeSettings.fault?, NodeSettings.forId, indexFault?]
  rw [Settings.validate, faultless]

section

variable {Score : Type} {settings : Settings} {entry : String × NodeSettings}
  {result : SearchResult Score}

theorem node_of_address (valid : settings.validate = .ok ())
    (member : entry ∈ settings.nodes.entries) (here : result.node = entry.2.id) :
    settings.nodes.find? result.qualifiedId.node = some entry.2 := by
  have own : result.qualifiedId.node = entry.1 :=
    here.trans (own_ids_of_valid valid entry member).symm
  rw [own]
  exact settings.nodes.find_of_mem member

/-- An address that is not read back leads to another node than the one it was made for. -/
theorem strays_of_misread {id : QualifiedId} (other : ¬QualifiedId.IsNodeName id.node)
    (filled : id.record ≠ "") :
    QualifiedId.parse id.write = .error (.invalidNodePart none id.write) ∨
      ∃ elsewhere, QualifiedId.parse id.write = .ok elsewhere ∧ elsewhere.node ≠ id.node := by
  rcases QualifiedId.misread_write other filled with refused | ⟨node, rest, -, name, read⟩
  · exact .inl refused
  · refine .inr ⟨_, read, ?_⟩
    rintro rfl
    exact other name

/-- The address of a result has the node of the result under its first part. It is read back as
the address it is if and only if the id of the node can stand before a colon, and is otherwise
refused or read as an address at another node. -/
theorem result_address_read_back_iff (valid : settings.validate = .ok ())
    (member : entry ∈ settings.nodes.entries) (here : result.node = entry.2.id)
    (filled : result.record.id ≠ "") :
    settings.nodes.find? result.qualifiedId.node = some entry.2 ∧
    (QualifiedId.parse result.qualifiedId.write = .ok ⟨entry.2.id, result.record.id⟩ ↔
      QualifiedId.IsNodeName entry.2.id) ∧
    (¬QualifiedId.IsNodeName entry.2.id →
      QualifiedId.parse result.qualifiedId.write =
          .error (.invalidNodePart none result.qualifiedId.write) ∨
        ∃ elsewhere, QualifiedId.parse result.qualifiedId.write = .ok elsewhere ∧
          elsewhere.node ≠ entry.2.id) := by
  have parts : result.qualifiedId = ⟨entry.2.id, result.record.id⟩ := by
    rw [SearchResult.qualifiedId, here]
  refine ⟨node_of_address valid member here, ?_, fun other => ?_⟩
  · rw [parts]
    exact QualifiedId.parse_write_iff filled
  · rw [parts]
    exact strays_of_misread other filled

end

def onlyNode (id : String) : Settings := Settings.standard.withNode (.forId id)

def noteAt (node : String) : SearchResult Float32 :=
  ⟨.plain "note:1" "milk" ⟨0, 0⟩, node, 1⟩

theorem standard_search_is_sound : SearchSettings.standard.fault? = none := by decide +kernel

theorem note_at_work_is_addressed :
    (onlyNode "work").validate = .ok () ∧
    ("work", NodeSettings.forId "work") ∈ (onlyNode "work").nodes.entries ∧
    (noteAt "work").node = "work" ∧ (noteAt "work").record.id ≠ "" ∧
    QualifiedId.parse "work:note:1" = .ok ⟨"work", "note:1"⟩ := by
  have valid : (onlyNode "work").validate = .ok () :=
    any_node_id_is_valid _ standard_search_is_sound _ _
  have member : ("work", NodeSettings.forId "work") ∈ (onlyNode "work").nodes.entries :=
    List.mem_singleton.mpr rfl
  have filled : (noteAt "work").record.id ≠ "" := by decide
  have read := (result_address_read_back_iff valid member rfl filled).2.1.mpr (by decide)
  exact ⟨valid, member, rfl, filled, read⟩

/-- Of two nodes that settings may have, the first has addresses that are refused, and the
second has addresses that lead to a node named `work`. -/
theorem note_at_office_is_not_addressed :
    (onlyNode "büro").validate = .ok () ∧
    QualifiedId.parse (noteAt "büro").qualifiedId.write =
      .error (.invalidNodePart none "büro:note:1") ∧
    (onlyNode "work:mail").validate = .ok () ∧
    QualifiedId.parse (noteAt "work:mail").qualifiedId.write = .ok ⟨"work", "mail:note:1"⟩ := by
  refine ⟨any_node_id_is_valid _ standard_search_is_sound _ _, ?_,
    any_node_id_is_valid _ standard_search_is_sound _ _, ?_⟩
  · decide
  · decide

end FederatedSearch
