import FederatedSearch.Proofs.PlainTexts

/-!
Texts up to the white space around them and the case of the letters A to Z. Trimming leaves the
white space aside, and lower-casing the case, whatever other letters the text has; and a text
that begins with ASCII letters once it is lower-cased begins with them as it is spelled.
-/

namespace FederatedSearch.Text

section

variable {before text after front back : List Char}

theorem trim_start_of_blanks (blank : ∀ c ∈ before, isBlank c = true) (text : List Char) :
    trimStart (before ++ text) = trimStart text :=
  List.dropWhile_append_of_pos blank

theorem trim_end_of_blanks (text : List Char) (blank : ∀ c ∈ after, isBlank c = true) :
    trimEnd (text ++ after) = trimEnd text := by
  have reversed : ∀ c ∈ after.reverse, isBlank c = true :=
    fun c among => blank c (List.mem_reverse.mp among)
  rw [trimEnd, trimEnd, List.reverse_append, trim_start_of_blanks reversed]

theorem trim_of_surrounded (blankBefore : ∀ c ∈ before, isBlank c = true) (text : List Char)
    (blankAfter : ∀ c ∈ after, isBlank c = true) : trim (before ++ text ++ after) = trim text := by
  have none : trimStart after = [] := List.dropWhile_eq_nil_iff.mpr blankAfter
  rw [trim, trim, List.append_assoc, trim_start_of_blanks blankBefore, trimStart,
    List.dropWhile_append]
  split
  next allBlank =>
    rw [← trimStart, none, trimStart, List.isEmpty_iff.mp allBlank]
  next =>
    exact trim_end_of_blanks _ blankAfter

theorem trim_end_append (filled : ∃ c ∈ front.getLast?, isBlank c = false) (back : List Char) :
    trimEnd (front ++ back) = front ++ trimEnd back := by
  obtain ⟨c, last, filled⟩ := filled
  obtain ⟨others, rfl⟩ := List.getLast?_eq_some_iff.mp last
  have kept : trimStart (c :: others.reverse) = c :: others.reverse :=
    List.dropWhile_cons_of_neg (by rw [filled]; exact Bool.false_ne_true)
  rw [trimEnd, trimEnd, List.reverse_append, trimStart, List.dropWhile_append, ← trimStart]
  split
  next allBlank =>
    rw [List.isEmpty_iff.mp allBlank, List.reverse_append, List.reverse_singleton,
      List.singleton_append, ← trimStart, kept]
    simp
  next => simp [trimStart]

theorem trim_end_eq_self_iff :
    trimEnd text = text ↔ ∀ c ∈ text.getLast?, isBlank c = false := by
  constructor
  · intro kept c last
    have reversed : trimStart text.reverse = text.reverse := by
      rw [← List.reverse_inj, List.reverse_reverse]
      exact kept
    have first := List.head?_dropWhile_not isBlank text.reverse
    rw [← trimStart, reversed, List.head?_reverse, Option.mem_def.mp last] at first
    exact first
  · intro filled
    cases last : text.getLast? with
    | none =>
        rw [List.getLast?_eq_none_iff.mp last]
        rfl
    | some c =>
        have kept := trim_end_append ⟨c, last, filled c last⟩ []
        have none : trimEnd [] = [] := rfl
        rwa [none, List.append_nil] at kept

end

section

theorem blank_lower (c : Char) : isBlank c.toLower = isBlank c := by
  by_cases ascii : c.toNat < 0x80
  · exact ascii_cases (fun c => isBlank c.toLower = isBlank c) (by decide) ascii
  · rw [lower_of_wide ascii]

theorem trim_start_lower (text : List Char) :
    trimStart (text.map Char.toLower) = (trimStart text).map Char.toLower := by
  rw [trimStart, trimStart, List.dropWhile_map]
  exact congrArg (List.map Char.toLower <| List.dropWhile · text) (funext blank_lower)

theorem trim_lower (text : List Char) :
    trim (text.map Char.toLower) = (trim text).map Char.toLower := by
  rw [trim, trim, trim_start_lower, trimEnd, trimEnd, ← List.map_reverse, trim_start_lower,
    List.map_reverse]

theorem in_ranges_ascii (ranges : List (Nat × Nat)) {c : Char} (ascii : c.toNat < 0x80) :
    inRanges ranges c = inRanges (ranges.filter fun range => range.1 < 0x80) c := by
  have within : ∀ range : Nat × Nat, (range.1 ≤ c.toNat && c.toNat ≤ range.2) =
      (decide (range.1 < 0x80) && (decide (range.1 ≤ c.toNat) && decide (c.toNat ≤ range.2))) := by
    intro range
    by_cases begun : range.1 ≤ c.toNat
    · have narrow : range.1 < 0x80 := by omega
      simp [narrow]
    · simp [begun]
  rw [inRanges, inRanges, List.any_filter]
  exact congrArg ranges.any (funext within)

theorem in_ranges_lower {ranges narrow : List (Nat × Nat)}
    (inAscii : ranges.filter (fun range => range.1 < 0x80) = narrow)
    (each : ∀ code < 0x80, inRanges narrow (Char.ofNat code).toLower =
      inRanges narrow (Char.ofNat code)) (c : Char) :
    inRanges ranges c.toLower = inRanges ranges c := by
  by_cases ascii : c.toNat < 0x80
  · have lowered := ascii_cases (fun c => c.toLower.toNat < 0x80) (by decide) ascii
    rw [in_ranges_ascii ranges ascii, in_ranges_ascii ranges lowered, inAscii]
    exact ascii_cases (fun c => inRanges narrow c.toLower = inRanges narrow c) each ascii
  · rw [lower_of_wide ascii]

theorem cased_lower (c : Char) : isCased c.toLower = isCased c := by
  have letters : casedRanges.filter (fun range => range.1 < 0x80) =
      [(0x41, 0x5A), (0x61, 0x7A)] := by decide +kernel
  exact in_ranges_lower letters (by decide) c

theorem case_ignorable_lower (c : Char) : isCaseIgnorable c.toLower = isCaseIgnorable c := by
  have marks : caseIgnorableRanges.filter (fun range => range.1 < 0x80) =
      [(0x27, 0x27), (0x2E, 0x2E), (0x3A, 0x3A), (0x5E, 0x5E), (0x60, 0x60)] := by decide +kernel
  exact in_ranges_lower marks (by decide) c

theorem continues_word_lower (text : List Char) :
    continuesWord (text.map Char.toLower) = continuesWord text := by
  have ignorable : isCaseIgnorable ∘ Char.toLower = isCaseIgnorable := funext case_ignorable_lower
  rw [continuesWord, continuesWord, List.dropWhile_map, ignorable]
  cases text.dropWhile isCaseIgnorable with
  | nil => rfl
  | cons c rest => exact cased_lower c

theorem lower_sigma_lower (before after : List Char) :
    lowerSigma (before.map Char.toLower) (after.map Char.toLower) = lowerSigma before after := by
  rw [lowerSigma, lowerSigma, continues_word_lower, continues_word_lower]

/-- The form of a capital sigma depends on which letters stand around it, but not on their case. -/
theorem lower_after_lower (before text : List Char) :
    lowerAfter (before.map Char.toLower) (text.map Char.toLower) = lowerAfter before text := by
  induction text generalizing before with
  | nil => rfl
  | cons c rest induction =>
      have others := induction (c :: before)
      rw [List.map_cons] at others
      rw [List.map_cons, lowerAfter, lowerAfter, others, lower_sigma_lower]
      by_cases ascii : c.toNat < 0x80
      · have noSigma := ascii_cases (fun c => c ≠ 'Σ' ∧ c.toLower ≠ 'Σ') (by decide) ascii
        have same := ascii_cases (fun c => lowerChar c.toLower = lowerChar c) (by decide) ascii
        rw [if_neg noSigma.1, if_neg noSigma.2, same]
      · rw [lower_of_wide ascii]

/-- Texts that differ in the case of the letters A to Z only are lower-cased alike. -/
theorem lower_of_same_letters {text other : List Char}
    (same : text.map Char.toLower = other.map Char.toLower) : lower text = lower other := by
  have unspelled (text : List Char) : lower (text.map Char.toLower) = lower text :=
    lower_after_lower [] text
  rw [← unspelled text, ← unspelled other, same]

end

section

variable {front back before : List Char}

theorem lower_after_ascii_append (ascii : ∀ c ∈ front, c.toNat < 0x80) (before back : List Char) :
    lowerAfter before (front ++ back) =
      front.map Char.toLower ++ lowerAfter (front.reverse ++ before) back := by
  induction front generalizing before with
  | nil => rfl
  | cons c rest induction =>
      have first : c.toNat < 0x80 := ascii c List.mem_cons_self
      have noSigma := ascii_cases (fun c => c ≠ 'Σ') (by decide) first
      rw [List.cons_append, lowerAfter, if_neg noSigma, lowerChar, if_pos first,
        induction (fun d among => ascii d (List.mem_cons_of_mem c among)), List.reverse_cons,
        List.append_assoc]
      rfl

/-- Lower-casing makes something of every character, and of one beyond ASCII nothing that begins
with an ASCII letter other than k and i. -/
theorem lowered_first (before : List Char) (c : Char) (rest : List Char) :
    ∃ first others,
      (if c = 'Σ' then [lowerSigma before rest] else lowerChar c) = first :: others ∧
        (0x80 ≤ c.toNat → 0x80 ≤ first.toNat ∨ first = 'k' ∨ first = 'i') := by
  by_cases sigma : c = 'Σ'
  · refine ⟨_, [], if_pos sigma, fun _ => Or.inl ?_⟩
    rw [lowerSigma]
    split <;> decide
  · rw [if_neg sigma, lowerChar]
    by_cases ascii : c.toNat < 0x80
    · exact ⟨_, [], if_pos ascii, fun wide => absurd ascii (Nat.not_lt.mpr wide)⟩
    · rw [if_neg ascii]
      by_cases dotted : c = 'İ'
      · exact ⟨_, _, if_pos dotted, fun _ => Or.inr (Or.inr rfl)⟩
      · refine ⟨_, [], if_neg dotted, fun wide => ?_⟩
        rcases simple_lower_wide wide with stays | kelvin
        · exact Or.inl stays
        · exact Or.inr (Or.inl kelvin)

theorem lower_after_eq_nil_iff {text : List Char} : lowerAfter before text = [] ↔ text = [] := by
  cases text with
  | nil => exact ⟨fun _ => rfl, fun _ => rfl⟩
  | cons c rest =>
      obtain ⟨first, others, made, -⟩ := lowered_first before c rest
      rw [lowerAfter, made]
      simp

/-- What a text begins with in lower case, it begins with as it is spelled. -/
theorem front_of_lower {plain rest text : List Char}
    (ascii : ∀ c ∈ plain, c.toNat < 0x80 ∧ c ≠ 'k' ∧ c ≠ 'i')
    (same : lowerAfter before text = plain ++ rest) :
    ∃ front back, text = front ++ back ∧ (∀ c ∈ front, c.toNat < 0x80) ∧
      front.map Char.toLower = plain ∧ lowerAfter (front.reverse ++ before) back = rest := by
  induction plain generalizing text before with
  | nil => exact ⟨[], text, rfl, fun _ among => absurd among List.not_mem_nil, rfl, same⟩
  | cons p plain induction =>
      obtain ⟨⟨narrow, notKelvin, notDotted⟩, others⟩ := List.forall_mem_cons.mp ascii
      cases text with
      | nil => cases same
      | cons c text =>
          obtain ⟨first, further, made, wideFirst⟩ := lowered_first before c text
          have begun := same
          rw [lowerAfter, made, List.cons_append, List.cons_append, List.cons_eq_cons] at begun
          obtain ⟨rfl, -⟩ := begun
          have asciiHere : c.toNat < 0x80 := by
            by_contra wide
            rcases wideFirst (Nat.le_of_not_lt wide) with stays | kelvin | dotted
            · omega
            · exact notKelvin kelvin
            · exact notDotted dotted
          have here : ∀ d ∈ [c], d.toNat < 0x80 := by simpa using asciiHere
          have split := lower_after_ascii_append here before text
          rw [List.singleton_append, same, List.map_singleton, List.cons_append,
            List.singleton_append, List.cons_eq_cons] at split
          obtain ⟨front, back, rfl, inAscii, spelled, behind⟩ := induction others split.2.symm
          refine ⟨c :: front, back, rfl, List.forall_mem_cons.mpr ⟨asciiHere, inAscii⟩, ?_, ?_⟩
          · rw [List.map_cons, spelled, ← split.1]
          · rw [← behind, List.reverse_cons, List.append_assoc]
            rfl

end

end FederatedSearch.Text
