import FederatedSearch.Proofs.SpelledTexts
import FederatedSearch.Query.Field

/-!
Paths to fields. A path is read in two ways: a reference that is made of it looks for a metadata
entry at its very beginning, and a reference that keeps it as it is written is resolved later,
when the white space around it is left aside. The two lead to the same field, unless white space
stands behind a metadata key, which only the first one takes for a part of the key.

The key is cut out of the path where it begins in the lower-case copy of the path. No letters but
those of ASCII lower-case to `metadata`, so that the bytes of the copy and of the path go together
up to the key.
-/

namespace FederatedSearch

open FederatedSearch.Text

namespace Text

def byteLength (text : List Char) : Nat := (text.map Char.utf8Size).sum

def fromByte? : List Char → Nat → Option (List Char)
  | text, 0 => some text
  | [], _ + 1 => none
  | c :: rest, offset + 1 =>
      if c.utf8Size ≤ offset + 1 then fromByte? rest (offset + 1 - c.utf8Size) else none

theorem from_byte_append (front back : List Char) :
    fromByte? (front ++ back) (byteLength front) = some back := by
  induction front with
  | nil => exact fromByte?.eq_1 back
  | cons c rest induction =>
      have size := c.utf8Size_pos
      have length : byteLength (c :: rest) = c.utf8Size + byteLength rest := rfl
      obtain ⟨others, split⟩ : ∃ others, c.utf8Size + byteLength rest = others + 1 :=
        ⟨c.utf8Size + byteLength rest - 1, by omega⟩
      have behind : others + 1 - c.utf8Size = byteLength rest := by omega
      rw [length, split, List.cons_append, fromByte?, if_pos (by omega), behind, induction]

theorem byte_length_ascii {text : List Char} (ascii : ∀ c ∈ text, c.toNat < 0x80) :
    byteLength text = text.length := by
  induction text with
  | nil => rfl
  | cons c rest induction =>
      have size := ascii_cases (fun c => c.utf8Size = 1) (by decide) (ascii c List.mem_cons_self)
      rw [byteLength, List.map_cons, List.sum_cons, size, List.length_cons, ← byteLength,
        induction fun d among => ascii d (List.mem_cons_of_mem c among), Nat.add_comm]

end Text

namespace FieldRef

/-- The reference that keeps a path as it is written and says nothing about it. -/
def asWritten (path : String) : FieldRef := ⟨path, false, none⟩

def spelledKey? (path : List Char) : Option (List Char) :=
  if sameIgnoringAsciiCase (path.take metadataStart.length) metadataStart then
    some (path.drop metadataStart.length)
  else none

/-- The reference that a path stands for is one to a metadata entry, and white space stands at
the end of the path. -/
def IsRagged (path : String) : Prop :=
  (keyOfPath? path).isSome = true ∧ ∃ c ∈ path.toList.getLast?, isBlank c = true

instance (path : String) : Decidable (IsRagged path) :=
  decidable_of_iff
    ((keyOfPath? path).isSome = true ∧ path.toList.getLast?.any isBlank = true)
    (and_congr_right fun _ => Option.any_eq_true ..)

/-- The paths differ at most in the case of letters A to Z, and not in a metadata key. -/
structure SpelledAlike (path other : String) : Prop where
  letters : path.toList.map Char.toLower = other.toList.map Char.toLower
  key : spelledKey? (trimStart path.toList) = spelledKey? (trimStart other.toList)

/-- At which byte of a trimmed path its metadata key is taken to begin, if there is one: behind the
name and the point in the lower-case copy of the path. -/
def keyOffset? (path : String) : Option Nat :=
  let folded := lower (trim path.toList)
  let name := folded.takeWhile (· != '.')
  if name = "metadata".toList ∧ (folded.dropWhile (· != '.')).tail ≠ [] then
    some (byteLength name + 1)
  else none

section

variable {start key path : List Char}

/-- `metadata.` is free of k and i, to which characters outside ASCII lower-case as well. -/
theorem start_letters : ∀ c ∈ metadataStart, c.toNat < 0x80 ∧ c ≠ 'k' ∧ c ≠ 'i' := by
  simp [metadataStart]

theorem start_length (spelled : start.map Char.toLower = metadataStart) :
    start.length = metadataStart.length := by
  rw [← spelled, List.length_map]

theorem start_in_ascii (spelled : start.map Char.toLower = metadataStart) :
    ∀ c ∈ start, c.toNat < 0x80 := by
  intro c among
  by_contra wide
  have lowered : c.toLower ∈ metadataStart := spelled ▸ List.mem_map_of_mem among
  rw [lower_of_wide wide] at lowered
  exact wide (start_letters c lowered).1

theorem start_filled (spelled : start.map Char.toLower = metadataStart) :
    ∀ c ∈ start, isBlank c = false := by
  intro c among
  have lowered : c.toLower ∈ metadataStart := spelled ▸ List.mem_map_of_mem among
  have filled : ∀ d ∈ metadataStart, isBlank d = false := by
    have none : metadataStart.any isBlank = false := by decide
    simpa using none
  rw [← blank_lower]
  exact filled _ lowered

theorem spelled_key_iff :
    spelledKey? path = some key ↔
      ∃ start, path = start ++ key ∧ start.map Char.toLower = metadataStart := by
  have folded : metadataStart.map Char.toLower = metadataStart := by decide
  rw [spelledKey?, sameIgnoringAsciiCase, folded]
  constructor
  · intro found
    split at found
    next spelled =>
      cases found
      exact ⟨_, (List.take_append_drop _ path).symm, beq_iff_eq.mp spelled⟩
    next => cases found
  · rintro ⟨start, rfl, spelled⟩
    have length := start_length spelled
    rw [← length, List.take_left, List.drop_left, spelled, beq_self_eq_true, if_pos rfl]

theorem key_of_path_eq (path : String) :
    keyOfPath? path = (spelledKey? path.toList).bind fun key =>
      if key = [] then none else some (String.ofList key) := by
  simp only [keyOfPath?, spelledKey?]
  cases sameIgnoringAsciiCase (path.toList.take metadataStart.length) metadataStart with
  | false => rfl
  | true => cases path.toList.drop metadataStart.length <;> rfl

theorem key_of_path_iff {path key : String} :
    keyOfPath? path = some key ↔ key.toList ≠ [] ∧
      ∃ start, path.toList = start ++ key.toList ∧ start.map Char.toLower = metadataStart := by
  rw [key_of_path_eq, ← spelled_key_iff, Option.bind_eq_some_iff]
  constructor
  · rintro ⟨letters, found, made⟩
    split at made
    next => cases made
    next filled =>
      cases made
      rw [String.toList_ofList]
      exact ⟨filled, found⟩
  · rintro ⟨filled, found⟩
    exact ⟨key.toList, found, by rw [if_neg filled, String.ofList_toList]⟩

theorem trim_start_of_entry (spelled : start.map Char.toLower = metadataStart)
    (key : List Char) : trimStart (start ++ key) = start ++ key := by
  cases start with
  | nil => cases spelled
  | cons c rest =>
      have filled := start_filled spelled c List.mem_cons_self
      exact List.dropWhile_cons_of_neg (by rw [filled]; exact Bool.false_ne_true)

theorem trim_end_of_entry (spelled : start.map Char.toLower = metadataStart)
    (key : List Char) : trimEnd (start ++ key) = start ++ trimEnd key := by
  have some : start ≠ [] := by
    rintro rfl
    cases spelled
  apply trim_end_append
  refine ⟨start.getLast some, List.getLast?_eq_some_getLast some, ?_⟩
  exact start_filled spelled _ (List.getLast_mem some)

/-- A trimmed path leads to an entry if it does but for the white space before it, and its key
ends where the white space behind it begins. -/
theorem spelled_key_trim (path : List Char) :
    spelledKey? (trim path) = (spelledKey? (trimStart path)).map trimEnd := by
  cases found : spelledKey? (trimStart path) with
  | some key =>
      obtain ⟨start, whole, spelled⟩ := spelled_key_iff.mp found
      rw [trim, whole, trim_end_of_entry spelled]
      exact spelled_key_iff.mpr ⟨start, rfl, spelled⟩
  | none =>
      rw [Option.map_none, Option.eq_none_iff_forall_ne_some]
      intro key trimmed
      obtain ⟨start, whole, spelled⟩ := spelled_key_iff.mp trimmed
      have cut : trim path <+: trimStart path :=
        List.reverse_suffix.mp (by
          rw [trim, trimEnd, List.reverse_reverse]
          exact List.dropWhile_suffix _)
      obtain ⟨blanks, whole'⟩ := cut
      rw [whole, List.append_assoc] at whole'
      rw [spelled_key_iff.mpr ⟨start, whole'.symm, spelled⟩] at found
      cases found

end

end FieldRef

namespace RecordField

open FederatedSearch.FieldRef

theorem named_without_point {name : String} {field : RecordField}
    (named : named? name = some field) : '.' ∉ name.toList := by
  unfold named? at named
  split at named
  all_goals first
    | decide
    | cases named

theorem no_entry_has_name {name key : String} : named? name ≠ some (.metadata (some key)) := by
  unfold named?
  split
  all_goals simp

theorem no_name_with_point {folded : List Char} (point : '.' ∈ folded) :
    named? (String.ofList folded) = none := by
  cases named : named? (String.ofList folded) with
  | none => rfl
  | some field =>
      have without := named_without_point named
      rw [String.toList_ofList] at without
      exact absurd point without

section

variable {start key spelled : List Char}

theorem lower_of_entry (spelled : start.map Char.toLower = metadataStart) (key : List Char) :
    lower (start ++ key) = metadataStart ++ lowerAfter (start.reverse ++ []) key := by
  rw [lower, lower_after_ascii_append (start_in_ascii spelled), spelled]

/-- A text has to begin with `metadata.` itself for its lower-case copy to do so. -/
theorem entry_of_lower {rest : List Char} (folded : lower spelled = metadataStart ++ rest) :
    ∃ key, spelledKey? spelled = some key := by
  obtain ⟨start, key, whole, -, begun, -⟩ := front_of_lower start_letters folded
  exact ⟨key, spelled_key_iff.mpr ⟨start, whole, begun⟩⟩

theorem take_to_point (rest : List Char) :
    (metadataStart ++ rest).takeWhile (· != '.') = "metadata".toList := by
  simp [metadataStart]

theorem drop_to_point (rest : List Char) :
    (metadataStart ++ rest).dropWhile (· != '.') = '.' :: rest := by
  simp [metadataStart]

end

theorem point_of_rest {folded rest : List Char} {point : Char}
    (behind : folded.dropWhile (· != '.') = point :: rest) : point = '.' := by
  have isPoint := List.head?_dropWhile_not (· != '.') folded
  rw [behind] at isPoint
  simpa using isPoint

theorem folded_of_name {folded rest : List Char} {point : Char}
    (name : folded.takeWhile (· != '.') = "metadata".toList)
    (behind : folded.dropWhile (· != '.') = point :: rest) : folded = metadataStart ++ rest := by
  have split := List.takeWhile_append_dropWhile (p := (· != '.')) (l := folded)
  rw [name, behind, point_of_rest behind] at split
  exact split.symm

theorem of_path_of_entry {path : String} {start key : List Char}
    (whole : trim path.toList = start ++ key) (spelled : start.map Char.toLower = metadataStart)
    (filled : key ≠ []) : ofPath path = .ok (.metadata (some (String.ofList key))) := by
  have behind : lowerAfter (start.reverse ++ []) key ≠ [] := mt lower_after_eq_nil_iff.mp filled
  have rest : (start ++ key).drop metadataStart.length = key := by
    rw [← start_length spelled, List.drop_left]
  simp only [ofPath]
  rw [whole, lower_of_entry spelled, drop_to_point, take_to_point]
  simp only [true_and, if_pos behind, rest]

/-- A plain path leads to the entry whose key stands in it once it is trimmed, or else to the
field with that name. -/
theorem of_path_eq (path : String) :
    (ofPath path).toOption = ((keyOfPath? (trimmed path)).map fun key => .metadata (some key)).or
      (named? (lowered (trimmed path))) := by
  rw [key_of_path_eq, lowered, trimmed_to_list]
  cases found : spelledKey? (trim path.toList) with
  | some key =>
      obtain ⟨start, whole, spelled⟩ := spelled_key_iff.mp found
      rw [Option.bind_some]
      by_cases filled : key ≠ []
      · rw [of_path_of_entry whole spelled filled, if_neg filled]
        rfl
      · have nothing : key = [] := not_not.mp filled
        have alone : lower (trim path.toList) = metadataStart ++ [] := by
          rw [whole, nothing, lower_of_entry spelled, lowerAfter]
        have point : '.' ∈ lower (trim path.toList) := by
          rw [alone]
          decide
        rw [no_name_with_point point, nothing, if_pos rfl]
        simp only [ofPath]
        rw [alone, drop_to_point]
        rfl
  | none =>
      rw [Option.bind_none, Option.map_none, Option.none_or]
      simp only [ofPath]
      split
      next whole =>
        cases named? (String.ofList (lower (trim path.toList))) <;> rfl
      next point rest whole =>
        have among : '.' ∈ lower (trim path.toList) := by
          have suffix := List.dropWhile_suffix (l := lower (trim path.toList)) (· != '.')
          rw [whole, point_of_rest whole] at suffix
          exact suffix.subset List.mem_cons_self
        rw [no_name_with_point among, if_neg]
        · rfl
        · rintro ⟨name, -⟩
          obtain ⟨key, found'⟩ := entry_of_lower (folded_of_name name whole)
          rw [found] at found'
          cases found'

theorem resolve_of_path (path : String) :
    (resolve (.ofPath path)).toOption = match keyOfPath? path with
      | some key => some (.metadata (some key))
      | none => (ofPath path).toOption := by
  cases found : keyOfPath? path with
  | none =>
      simp only [resolve, FieldRef.ofPath, found, Option.isSome_none, Bool.false_eq_true, if_false]
  | some key =>
      have filled : key ≠ "" := by
        rintro rfl
        exact (key_of_path_iff.mp found).1 rfl
      simp only [resolve, FieldRef.ofPath, found, Option.isSome_some, if_true, if_neg filled]
      rfl

theorem resolve_as_written (path : String) : resolve (.asWritten path) = ofPath path :=
  if_neg Bool.false_ne_true

theorem of_path_of_key {path key : String} (found : keyOfPath? path = some key) :
    (ofPath path).toOption =
      if trimEnd key.toList = [] then none
      else some (.metadata (some (String.ofList (trimEnd key.toList)))) := by
  obtain ⟨-, start, whole, spelled⟩ := key_of_path_iff.mp found
  have trimmedPath : trim path.toList = start ++ trimEnd key.toList := by
    rw [trim, whole, trim_start_of_entry spelled, trim_end_of_entry spelled]
  have trimmedKey : spelledKey? (trim path.toList) = some (trimEnd key.toList) :=
    spelled_key_iff.mpr ⟨start, trimmedPath, spelled⟩
  have point : '.' ∈ lower (trim path.toList) := by
    rw [trimmedPath, lower_of_entry spelled]
    exact List.mem_append_left _ (by decide)
  rw [of_path_eq, key_of_path_eq, lowered, trimmed_to_list, trimmedKey, no_name_with_point point,
    Option.bind_some, Option.or_none]
  split <;> rfl

/-- The two readings of a path differ just if white space stands behind the key of an entry. -/
theorem resolves_alike_iff (path : String) :
    (resolve (.ofPath path)).toOption = (resolve (.asWritten path)).toOption ↔
      ¬ IsRagged path := by
  rw [resolve_of_path, resolve_as_written, IsRagged]
  cases found : keyOfPath? path with
  | none => simp
  | some key =>
      obtain ⟨filled, start, whole, -⟩ := key_of_path_iff.mp found
      have last : path.toList.getLast? = key.toList.getLast? := by
        rw [whole, List.getLast?_append, List.getLast?_eq_some_getLast filled, Option.some_or]
      have same : some (.metadata (some key)) = (ofPath path).toOption ↔
          trimEnd key.toList = key.toList := by
        rw [of_path_of_key found]
        constructor
        · intro same
          split at same
          next => cases same
          next =>
            have keys : key = String.ofList (trimEnd key.toList) := by simpa using same
            rw [String.ext_iff, String.toList_ofList] at keys
            exact keys.symm
        · intro kept
          rw [kept, if_neg filled, String.ofList_toList]
      have blank : (∃ c ∈ key.toList.getLast?, isBlank c = true) ↔
          ¬ ∀ c ∈ key.toList.getLast?, isBlank c = false := by
        simp
      rw [last, blank, ← trim_end_eq_self_iff, Option.isSome_some, eq_self, true_and, not_not]
      exact same

section

variable {before after : String}

theorem of_path_surrounded (blankBefore : isBlankText before = true) (path : String)
    (blankAfter : isBlankText after = true) :
    (ofPath (before ++ path ++ after)).toOption = (ofPath path).toOption := by
  have same : trimmed (before ++ path ++ after) = trimmed path := by
    rw [trimmed, trimmed, String.toList_append, String.toList_append,
      trim_of_surrounded (List.all_eq_true.mp blankBefore) _ (List.all_eq_true.mp blankAfter)]
  rw [of_path_eq, of_path_eq, same]

/-- What is put around a ragged path, so that it stays ragged, becomes part of the key. -/
theorem ragged_surrounded {path : String} (blankBefore : isBlankText before = true)
    {key other : String} (found : keyOfPath? path = some key)
    (surrounded : keyOfPath? (before ++ path ++ after) = some other) :
    before = "" ∧ other = key ++ after := by
  obtain ⟨-, start, whole, spelled⟩ := key_of_path_iff.mp found
  obtain ⟨-, start', whole', spelled'⟩ := key_of_path_iff.mp surrounded
  rw [String.toList_append, String.toList_append, whole, List.append_assoc] at whole'
  have none : before = "" := by
    rw [← String.toList_eq_nil_iff]
    cases front : before.toList with
    | nil => rfl
    | cons c rest =>
        cases start' with
        | nil => cases spelled'
        | cons d others =>
            rw [front, List.cons_append, List.cons_append, List.cons_eq_cons] at whole'
            have filled := start_filled spelled' d List.mem_cons_self
            have blank : isBlank c = true :=
              List.all_eq_true.mp blankBefore c (front ▸ List.mem_cons_self)
            rw [whole'.1, filled] at blank
            cases blank
  subst none
  have sameLength : start.length = start'.length := by
    rw [start_length spelled, start_length spelled']
  rw [String.toList_empty, List.nil_append, List.append_assoc] at whole'
  have behind := (List.append_inj whole' sameLength).2
  exact ⟨rfl, String.ext_iff.mpr (by rw [String.toList_append, behind])⟩

/-- White space around a path makes a difference to its reference if it makes a ragged path of it
or of a ragged path another one. -/
theorem resolve_surrounded_iff (blankBefore : isBlankText before = true) (path : String)
    (blankAfter : isBlankText after = true) :
    (resolve (.ofPath (before ++ path ++ after))).toOption =
        (resolve (.ofPath path)).toOption ↔
      before ++ path ++ after = path ∨
        ¬ IsRagged path ∧ ¬ IsRagged (before ++ path ++ after) := by
  have plain := of_path_surrounded blankBefore path blankAfter
  have own := resolves_alike_iff path
  have padded := resolves_alike_iff (before ++ path ++ after)
  rw [resolve_as_written] at own padded
  constructor
  · intro same
    by_cases ragged : IsRagged path
    · by_cases stays : IsRagged (before ++ path ++ after)
      · left
        obtain ⟨key, found⟩ := Option.isSome_iff_exists.mp ragged.1
        obtain ⟨other, found'⟩ := Option.isSome_iff_exists.mp stays.1
        obtain ⟨rfl, longer⟩ := ragged_surrounded blankBefore found found'
        rw [resolve_of_path, resolve_of_path, found, found'] at same
        have keys : key ++ after = key := by
          rw [← longer]
          simpa using same
        have nothing : after = "" := by simpa using keys
        rw [nothing, String.empty_append, String.append_empty]
      · rw [same, plain] at padded
        exact absurd ragged (own.mp (padded.mpr stays))
    · right
      refine ⟨ragged, ?_⟩
      rw [← padded, same, plain]
      exact own.mpr ragged
  · rintro (same | ⟨smooth, stays⟩)
    · rw [same]
    · rw [padded.mpr stays, plain, own.mpr smooth]

end

section

variable {path other : String}

theorem of_path_spelled (same : SpelledAlike path other) :
    (ofPath path).toOption = (ofPath other).toOption := by
  have letters : (trim path.toList).map Char.toLower = (trim other.toList).map Char.toLower := by
    rw [← trim_lower, ← trim_lower, same.letters]
  simp only [of_path_eq, key_of_path_eq, lowered, trimmed_to_list, spelled_key_trim, same.key,
    lower_of_same_letters letters]

/-- A path that begins with `metadata.` is as long as every other spelling of it, so that no white
space can stand before `metadata.` in one of them. -/
theorem key_of_spelled {key : String} (same : SpelledAlike path other)
    (found : keyOfPath? path = some key) : keyOfPath? other = some key := by
  obtain ⟨filled, start, whole, spelled⟩ := key_of_path_iff.mp found
  have begins : spelledKey? (trimStart other.toList) = some key.toList := by
    rw [← same.key, whole, trim_start_of_entry spelled]
    exact spelled_key_iff.mpr ⟨start, rfl, spelled⟩
  obtain ⟨start', whole', spelled'⟩ := spelled_key_iff.mp begins
  have sameLength : (trimStart other.toList).length = other.toList.length := by
    have lengths := congrArg List.length same.letters
    rw [List.length_map, List.length_map] at lengths
    rw [← lengths, whole, whole', List.length_append, List.length_append, start_length spelled,
      start_length spelled']
  have none : trimStart other.toList = other.toList :=
    (List.dropWhile_suffix isBlank).eq_of_length sameLength
  exact key_of_path_iff.mpr ⟨filled, start', by rw [← none, whole'], spelled'⟩

theorem resolve_spelled (same : SpelledAlike path other) :
    (resolve (.ofPath path)).toOption = (resolve (.ofPath other)).toOption := by
  have keys : keyOfPath? path = keyOfPath? other := by
    apply Option.ext
    intro key
    exact ⟨key_of_spelled same, key_of_spelled ⟨same.letters.symm, same.key.symm⟩⟩
  rw [resolve_of_path, resolve_of_path, keys, of_path_spelled same]

end

/-- Where the lower-case copy of a trimmed path has the key of an entry, a character of the path
itself begins, and the key with it. -/
theorem key_at_offset {path : String} {offset : Nat} (found : keyOffset? path = some offset) :
    ∃ key, fromByte? (trim path.toList) offset = some key ∧
      ofPath path = .ok (.metadata (some (String.ofList key))) := by
  simp only [keyOffset?] at found
  split at found
  next entry =>
    obtain ⟨name, further⟩ := entry
    cases found
    cases behind : (lower (trim path.toList)).dropWhile (· != '.') with
    | nil => exact absurd (by rw [behind, List.tail_nil]) further
    | cons point rest =>
        rw [behind, List.tail_cons] at further
        obtain ⟨start, key, whole, ascii, spelled, lowered⟩ :=
          front_of_lower start_letters (folded_of_name name behind)
        have filled : key ≠ [] := by
          rintro rfl
          exact further lowered.symm
        have size : byteLength "metadata".toList + 1 = byteLength start := by
          rw [byte_length_ascii ascii, start_length spelled]
          rfl
        refine ⟨key, ?_, of_path_of_entry whole spelled filled⟩
        rw [name, size, whole, from_byte_append]
  next => cases found

theorem key_offset_of_entry {path key : String}
    (entry : ofPath path = .ok (.metadata (some key))) : (keyOffset? path).isSome = true := by
  simp only [ofPath] at entry
  split at entry
  next =>
    split at entry
    next field named =>
      cases entry
      exact absurd named no_entry_has_name
    next => cases entry
  next point rest behind =>
    split at entry
    next condition =>
      simp only [keyOffset?]
      rw [if_pos ⟨condition.1, by rw [behind, List.tail_cons]; exact condition.2⟩]
      rfl
    next => cases entry

/-- A path means the same however it is read, but for white space behind a metadata key. -/
theorem field_path_reads_alike_iff (path : String) :
    ((resolve (.ofPath path)).toOption = (resolve (.asWritten path)).toOption ↔
      ¬ IsRagged path) ∧
    ((∃ key, resolve (.asWritten path) = .ok (.metadata (some key))) →
      (keyOffset? path).isSome = true) ∧
    (∀ offset, keyOffset? path = some offset →
      ∃ key, fromByte? (trim path.toList) offset = some key ∧
        resolve (.asWritten path) = .ok (.metadata (some (String.ofList key)))) ∧
    (∀ before after, isBlankText before = true → isBlankText after = true →
      (resolve (.asWritten (before ++ path ++ after))).toOption =
        (resolve (.asWritten path)).toOption ∧
      ((resolve (.ofPath (before ++ path ++ after))).toOption =
          (resolve (.ofPath path)).toOption ↔
        before ++ path ++ after = path ∨
          ¬ IsRagged path ∧ ¬ IsRagged (before ++ path ++ after))) ∧
    (∀ other, SpelledAlike path other →
      (resolve (.asWritten path)).toOption = (resolve (.asWritten other)).toOption ∧
      (resolve (.ofPath path)).toOption = (resolve (.ofPath other)).toOption) := by
  refine ⟨resolves_alike_iff path, ?_, ?_, ?_, ?_⟩
  · rintro ⟨key, entry⟩
    rw [resolve_as_written] at entry
    exact key_offset_of_entry entry
  · intro offset found
    rw [resolve_as_written]
    exact key_at_offset found
  · intro before after blankBefore blankAfter
    rw [resolve_as_written, resolve_as_written]
    exact ⟨of_path_surrounded blankBefore path blankAfter,
      resolve_surrounded_iff blankBefore path blankAfter⟩
  · intro other same
    rw [resolve_as_written, resolve_as_written]
    exact ⟨of_path_spelled same, resolve_spelled same⟩

theorem priority_path_reads_alike :
    isBlankText " " = true ∧ isBlankText "" = true ∧
      SpelledAlike "metadata.Priority" "MetaData.Priority" ∧
      keyOffset? "metadata.Priority" = some 9 ∧
      (resolve (.ofPath " metadata.Priority")).toOption =
        (resolve (.ofPath "metadata.Priority")).toOption ∧
      (resolve (.ofPath "metadata.Priority")).toOption =
        (resolve (.ofPath "MetaData.Priority")).toOption := by
  have spelled : SpelledAlike "metadata.Priority" "MetaData.Priority" := ⟨by decide, by decide⟩
  obtain ⟨-, -, -, surrounded, letters⟩ := field_path_reads_alike_iff "metadata.Priority"
  refine ⟨by decide, by decide, spelled, by decide +kernel, ?_, (letters _ spelled).2⟩
  refine (surrounded " " "" (by decide) (by decide)).2.mpr (Or.inr ⟨?_, ?_⟩)
  · decide
  · decide

/-- A blank behind the key belongs to it if a reference is made of the path, and to nothing if the
path is resolved as it is written. -/
theorem trailing_blank_joins_key :
    (resolve (.ofPath "metadata.k")).toOption = some (.metadata (some "k")) ∧
      (resolve (.ofPath "metadata.k ")).toOption = some (.metadata (some "k ")) ∧
      (resolve (.asWritten "metadata.k ")).toOption = some (.metadata (some "k")) ∧
      (resolve (.ofPath "metadata.k ")).toOption ≠
        (resolve (.asWritten "metadata.k ")).toOption := by
  refine ⟨?_, ?_, ?_, ?_⟩ <;> decide +kernel

end RecordField

end FederatedSearch
