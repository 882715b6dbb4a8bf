import FederatedSearch.Proofs.Addresses

/-!
The form of addresses. A text is read as an address if and only if a filled name of ASCII letters,
digits, hyphens and underscores stands before its first colon, and some text behind it. What is
read is the address that the text is written as. Any other text is refused as it stands.
-/

namespace FederatedSearch.QualifiedId

def IsNameLetter (c : Char) : Prop :=
  ('a' ≤ c ∧ c ≤ 'z') ∨ ('A' ≤ c ∧ c ≤ 'Z') ∨ ('0' ≤ c ∧ c ≤ '9') ∨ c = '-' ∨ c = '_'

/-- A node name and the id of a record, which may have colons of its own. -/
structure IsAddress (node record : String) : Prop where
  named : node ≠ ""
  letters : ∀ c ∈ node.toList, IsNameLetter c
  filled : record ≠ ""

theorem node_char_iff {c : Char} : isNodeChar c = true ↔ IsNameLetter c := by
  have upper : c.isUpper = decide ('A' ≤ c ∧ c ≤ 'Z') := rfl
  have lower : c.isLower = (decide ('a' ≤ c) && decide (c ≤ 'z')) := rfl
  have digit : c.isDigit = (decide ('0' ≤ c) && decide (c ≤ '9')) := rfl
  have checked : isNodeChar c =
    (((c.isUpper || c.isLower) || c.isDigit) || c == '-' || c == '_') := rfl
  rw [checked, upper, lower, digit, IsNameLetter]
  simp only [Bool.or_eq_true, Bool.and_eq_true, decide_eq_true_eq, beq_iff_eq]
  tauto

theorem node_name_iff {text : String} :
    IsNodeName text ↔ text ≠ "" ∧ ∀ c ∈ text.toList, IsNameLetter c := by
  simp only [IsNodeName, node_char_iff]

theorem joined_of_split {text node record : List Char} (parts : split? text = some (node, record)) :
    text = node ++ ':' :: record := by
  have whole := List.takeWhile_append_dropWhile (p := (· != ':')) (l := text)
  rw [split?] at parts
  split at parts
  next => cases parts
  next colon rest separated =>
    have stop : colon = ':' := by
      have found := List.head?_dropWhile_not (· != ':') text
      rw [separated] at found
      simpa using found
    rw [separated, stop] at whole
    cases parts
    exact whole.symm

theorem parse_ok_iff {text : String} {id : QualifiedId} :
    parse text = .ok id ↔ IsAddress id.node id.record ∧ id.write = text := by
  constructor
  · intro parsed
    rw [parse] at parsed
    split at parsed
    next node record parts =>
      split at parsed
      next checked =>
        have joined := joined_of_split parts
        simp only [Bool.and_eq_true, Bool.not_eq_true', List.isEmpty_eq_false_iff] at checked
        obtain ⟨⟨named, letters⟩, filled⟩ := checked
        cases parsed
        constructor
        · constructor
          · simpa using named
          · intro c member
            apply node_char_iff.mp
            apply List.all_eq_true.mp letters
            simpa using member
          · simpa using filled
        · apply String.toList_injective
          rw [write_to_list, joined, String.toList_ofList, String.toList_ofList]
      next => cases parsed
    next => cases parsed
  · rintro ⟨address, rfl⟩
    exact parse_write (node_name_iff.mpr ⟨address.named, address.letters⟩) address.filled

theorem parse_cases (text : String) :
    (∃ id, parse text = .ok id) ∨ parse text = .error (.invalidNodePart none text) := by
  rw [parse]
  split
  · split <;> simp
  · simp

theorem parse_succeeds_iff {text : String} : (∃ id, parse text = .ok id) ↔
    ∃ node record, IsAddress node record ∧ text = node ++ ":" ++ record := by
  simp only [parse_ok_iff]
  constructor
  · rintro ⟨id, address, rfl⟩
    exact ⟨id.node, id.record, address, rfl⟩
  · rintro ⟨node, record, address, rfl⟩
    exact ⟨⟨node, record⟩, address, rfl⟩

/-- Exactly the texts of the form of addresses are read, and those as what they are written as.
The error of the others has the text. Written and read again, an address stays what it is. -/
theorem addresses_are_read_exactly (text : String) (id : QualifiedId) :
    ((∃ read, parse text = .ok read) ↔
      ∃ node record, IsAddress node record ∧ text = node ++ ":" ++ record) ∧
    (parse text = .ok id ↔ IsAddress id.node id.record ∧ id.write = text) ∧
    (parse text = .error (.invalidNodePart none text) ↔
      ¬∃ node record, IsAddress node record ∧ text = node ++ ":" ++ record) ∧
    (parse id.write = .ok id ↔ IsAddress id.node id.record) := by
  have refused : parse text = .error (.invalidNodePart none text) ↔
      ¬∃ node record, IsAddress node record ∧ text = node ++ ":" ++ record := by
    rw [← parse_succeeds_iff]
    rcases parse_cases text with ⟨read, parsed⟩ | failed
    · simp [parsed]
    · simp [failed]
  refine ⟨parse_succeeds_iff, parse_ok_iff, refused, ?_⟩
  rw [parse_ok_iff, and_iff_left rfl]

/-- Only the first colon parts an address. -/
example : parse "work:doc:part-2" = .ok ⟨"work", "doc:part-2"⟩ := by decide

end FederatedSearch.QualifiedId
