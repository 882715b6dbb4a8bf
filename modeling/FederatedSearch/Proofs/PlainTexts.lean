import FederatedSearch.Decimal.Notation
import FederatedSearch.Decimal.Reading
import FederatedSearch.Proofs.QueryReading
import FederatedSearch.Text.Casing
import FederatedSearch.Time.Reading
import FederatedSearch.Time.Writing
import Mathlib.Algebra.Ring.Nat

/-!
Plain texts: digits, signs and points between them. Digits stand for the number that they were
written for. A text that differs from a plain one by case only consists of the same characters,
up to the case of the letters A to Z; the Kelvin sign, whose lower-case form is the letter k, is
the only letter beyond them that could be mistaken for one.
-/

namespace FederatedSearch.Text

def CaseRun.staysWide (run : CaseRun) : Bool :=
  0x80 ≤ run.target &&
    (run.target + (run.last - run.first) < 0xD800 ||
      0xDFFF < run.target && run.target + (run.last - run.first) < 0x110000)

def CaseRun.isKelvin (run : CaseRun) : Bool :=
  run.first == 0x212A && run.last == 0x212A && run.target == 'k'.toNat

theorem wide_runs : lowerRuns.all (fun run =>
    run.last < 0x80 || run.isKelvin || run.staysWide) = true := by
  decide +kernel

theorem to_nat_of_valid {n : Nat} (valid : n.isValidChar) : (Char.ofNat n).toNat = n := by
  have code : Char.ofNat n = Char.ofNatAux n valid := dif_pos valid
  rw [code]
  rfl

theorem simple_lower_wide {c : Char} (wide : 0x80 ≤ c.toNat) :
    0x80 ≤ (simpleLower c).toNat ∨ simpleLower c = 'k' := by
  rw [simpleLower]
  split
  next run found =>
    have within := List.find?_some found
    have checked := List.all_eq_true.mp wide_runs run (List.mem_of_find?_eq_some found)
    simp only [Bool.and_eq_true, decide_eq_true_eq] at within
    simp only [Bool.or_eq_true, decide_eq_true_eq, or_assoc] at checked
    split
    next mapped =>
      rcases checked with narrow | kelvin | stays
      · omega
      · right
        simp only [CaseRun.isKelvin, Bool.and_eq_true, beq_iff_eq] at kelvin
        have alone : run.target + (c.toNat - run.first) = 'k'.toNat := by omega
        rw [alone]
        rfl
      · left
        simp only [CaseRun.staysWide, Bool.and_eq_true, Bool.or_eq_true, decide_eq_true_eq] at stays
        have valid : (run.target + (c.toNat - run.first)).isValidChar := by
          unfold Nat.isValidChar
          omega
        rw [to_nat_of_valid valid]
        omega
    next kept => exact .inl wide
  next => exact .inl wide

/-- Whatever is lower-cased to a plain text without the letter k is in ASCII itself. -/
theorem ascii_of_lower {plain text : List Char} (before : List Char)
    (ascii : ∀ c ∈ plain, c.toNat < 0x80 ∧ c ≠ 'k') (same : lowerAfter before text = plain) :
    ∀ c ∈ text, c.toNat < 0x80 := by
  induction text generalizing before plain with
  | nil => exact fun _ among => absurd among List.not_mem_nil
  | cons c rest induction =>
      rw [lowerAfter] at same
      have front : ∀ d ∈ (if c = 'Σ' then [lowerSigma before rest] else lowerChar c),
          d.toNat < 0x80 ∧ d ≠ 'k' :=
        fun d among => ascii d (same ▸ List.mem_append_left _ among)
      rw [List.forall_mem_cons]
      constructor
      · by_contra wide
        by_cases sigma : c = 'Σ'
        · rw [if_pos sigma, List.forall_mem_singleton, lowerSigma] at front
          revert front
          split <;> decide
        · rw [if_neg sigma, lowerChar, if_neg wide] at front
          by_cases dotted : c = 'İ'
          · rw [if_pos dotted, List.forall_mem_cons, List.forall_mem_singleton] at front
            exact absurd front.2.1 (by decide)
          · rw [if_neg dotted, List.forall_mem_singleton] at front
            rcases simple_lower_wide (not_lt.mp wide) with stays | kelvin
            · omega
            · exact front.2 kelvin
      · apply induction (c :: before) _ rfl
        exact fun d among => ascii d (same ▸ List.mem_append_right _ among)

/-- What holds of the first 128 characters one by one holds of all characters of ASCII. -/
theorem ascii_cases (Holds : Char → Prop) (each : ∀ code < 0x80, Holds (Char.ofNat code)) {c : Char}
    (ascii : c.toNat < 0x80) : Holds c :=
  Char.ofNat_toNat c ▸ each c.toNat ascii

theorem letters_of_lower {plain text : List Char}
    (ascii : ∀ c ∈ plain, c.toNat < 0x80 ∧ c.toLower ≠ 'k') (same : lower text = lower plain) :
    text.map Char.toLower = plain.map Char.toLower := by
  rw [lower_ascii fun c among => (ascii c among).1] at same
  have folded : ∀ c ∈ plain.map Char.toLower, c.toNat < 0x80 ∧ c ≠ 'k' := by
    intro d among
    obtain ⟨c, inPlain, rfl⟩ := List.mem_map.mp among
    refine ⟨?_, (ascii c inPlain).2⟩
    exact ascii_cases (fun c => c.toLower.toNat < 0x80) (by decide) (ascii c inPlain).1
  rw [← same, lower_ascii (ascii_of_lower [] folded same)]

def isUncased (c : Char) : Bool := !c.isUpper && !c.isLower

theorem lower_of_wide {c : Char} (wide : ¬ c.toNat < 0x80) : c.toLower = c := by
  have notUpper : ¬ (c.val ≥ 'A'.val ∧ c.val ≤ 'Z'.val) := by
    intro upper
    exact wide (Nat.lt_of_le_of_lt (UInt32.le_iff_toNat_le.mp upper.2) (by decide))
  exact dif_neg notUpper

theorem lower_uncased {c : Char} (uncased : isUncased c = true) : c.toLower = c := by
  by_cases ascii : c.toNat < 0x80
  · exact ascii_cases (fun c => isUncased c = true → c.toLower = c) (by decide) ascii uncased
  · exact lower_of_wide ascii

theorem uncased_of_lower {c : Char} (uncased : isUncased c.toLower = true) : c.toLower = c := by
  by_cases ascii : c.toNat < 0x80
  · apply ascii_cases (fun c => isUncased c.toLower = true → c.toLower = c) _ ascii uncased
    decide
  · exact lower_of_wide ascii

/-- A text without letters differs from no other one by case only. -/
theorem uncased_text {plain text : List Char} (uncased : ∀ c ∈ plain, isUncased c = true)
    (same : text.map Char.toLower = plain.map Char.toLower) : text = plain := by
  have kept : plain.map Char.toLower = plain :=
    (List.map_congr_left fun c among => lower_uncased (uncased c among)).trans (List.map_id plain)
  rw [kept] at same
  calc text = text.map Char.toLower := by
        refine ((List.map_congr_left fun c among => ?_).trans (List.map_id text)).symm
        exact uncased_of_lower (uncased _ (same ▸ List.mem_map_of_mem among))
    _ = plain := same

theorem trim_of_no_blank {text : List Char} (filled : ∀ c ∈ text, isBlank c = false) :
    trim text = text := by
  by_cases none : text = []
  · rw [none]
    rfl
  · exact Index.trim_of_filled
      ⟨text.head none, List.head?_eq_some_head none, filled _ (List.head_mem none)⟩
      ⟨text.getLast none, List.getLast?_eq_some_getLast none, filled _ (List.getLast_mem none)⟩

theorem lower_blank {c : Char} (blank : isBlank c = true) : c.toLower = c := by
  by_cases ascii : c.toNat < 0x80
  · exact ascii_cases (fun c => isBlank c = true → c.toLower = c) (by decide) ascii blank
  · exact lower_of_wide ascii

/-- A spelling of a plain text has no blanks if the text has none. -/
theorem no_blank_of_lower {plain text : List Char}
    (filled : ∀ c ∈ plain, c.toNat < 0x80 ∧ isBlank c = false)
    (same : text.map Char.toLower = plain.map Char.toLower) : ∀ c ∈ text, isBlank c = false := by
  intro c among
  rw [← Bool.not_eq_true]
  intro blank
  obtain ⟨d, inPlain, lowered⟩ := List.mem_map.mp (same ▸ List.mem_map_of_mem among)
  rw [lower_blank blank] at lowered
  have kept := ascii_cases (fun d => isBlank d = false → isBlank d.toLower = false) (by decide)
    (filled d inPlain).1 (filled d inPlain).2
  rw [lowered, blank] at kept
  cases kept

/-- A character that is no letter k, and no blank either. -/
def isPlain (c : Char) : Bool := c.toNat < 0x80 && c.toLower != 'k' && !isBlank c

theorem spelled_plainly {plain text : List Char} (isPlain : ∀ c ∈ plain, isPlain c = true)
    (same : lower text = lower plain) :
    text.map Char.toLower = plain.map Char.toLower ∧ trim text = text := by
  have parts : ∀ c ∈ plain, (c.toNat < 0x80 ∧ c.toLower ≠ 'k') ∧ isBlank c = false := by
    intro c among
    have isPlain := isPlain c among
    rwa [Text.isPlain, Bool.and_eq_true, Bool.and_eq_true, decide_eq_true_eq, bne_iff_ne,
      Bool.not_eq_true'] at isPlain
  have letters := letters_of_lower (fun c among => (parts c among).1) same
  have filled := no_blank_of_lower (fun c among => ⟨(parts c among).1.1, (parts c among).2⟩) letters
  exact ⟨letters, trim_of_no_blank filled⟩

end FederatedSearch.Text

namespace FederatedSearch.Decimal

open FederatedSearch.Text

theorem digits_value_eq (digits : List Char) : digitsValue digits = Nat.ofDigitChars 10 digits 0 :=
  rfl

@[simp] theorem digits_value_to_digits (n : Nat) : digitsValue (Nat.toDigits 10 n) = n :=
  Nat.ofDigitChars_ten_toDigits

@[simp] theorem digits_value_zeros_append (count : Nat) (digits : List Char) :
    digitsValue (zeros count ++ digits) = digitsValue digits := by
  rw [digits_value_eq, Nat.ofDigitChars_append, zeros, Nat.ofDigitChars_replicate_zero,
    Nat.mul_zero, digits_value_eq]

@[simp] theorem digits_value_append_zeros (digits : List Char) (count : Nat) :
    digitsValue (digits ++ zeros count) = digitsValue digits * 10 ^ count := by
  rw [digits_value_eq, Nat.ofDigitChars_append, zeros, Nat.ofDigitChars_replicate_zero,
    digits_value_eq, Nat.mul_comm]

def AllDigits (digits : List Char) : Prop := ∀ c ∈ digits, c.isDigit = true

theorem AllDigits.append {first second : List Char} (digits : AllDigits first)
    (digits' : AllDigits second) : AllDigits (first ++ second) := by
  intro c among
  rcases List.mem_append.mp among with inFirst | inSecond
  · exact digits c inFirst
  · exact digits' c inSecond

theorem to_digits_digits (n : Nat) : AllDigits (Nat.toDigits 10 n) := fun _ among =>
  Nat.isDigit_of_mem_toDigits (by decide) (by decide) among

theorem zeros_digits (count : Nat) : AllDigits (zeros count) := by
  intro c among
  rw [List.eq_of_mem_replicate among]
  rfl

theorem digit_code {c : Char} (digit : c.isDigit = true) : 48 ≤ c.toNat ∧ c.toNat ≤ 57 := by
  simp only [Char.isDigit, Bool.and_eq_true, decide_eq_true_eq, ge_iff_le,
    UInt32.le_iff_toNat_le] at digit
  exact digit

theorem ascii_of_digit {c : Char} (digit : c.isDigit = true) : c.toNat < 0x80 := by
  have := digit_code digit
  omega

theorem uncased_of_digit {c : Char} (digit : c.isDigit = true) : isUncased c = true :=
  ascii_cases (fun c => c.isDigit = true → isUncased c = true) (by decide) (ascii_of_digit digit)
    digit

theorem plain_of_digit {c : Char} (digit : c.isDigit = true) : isPlain c = true := by
  have ascii := ascii_of_digit digit
  apply ascii_cases (fun c => c.isDigit = true → isPlain c = true) _ ascii digit
  decide

theorem take_digits {digits rest : List Char} (all : AllDigits digits)
    (ends : ∀ c ∈ rest.head?, c.isDigit = false) :
    takeDigits (digits ++ rest) = (digits, rest) := by
  rw [takeDigits, List.takeWhile_append_of_pos all, List.dropWhile_append_of_pos all]
  cases rest with
  | nil => simp
  | cons c rest =>
      have stops : ¬c.isDigit = true := by simp [ends c rfl]
      rw [List.takeWhile_cons_of_neg stops, List.dropWhile_cons_of_neg stops, List.append_nil]

theorem digits_value_cons (c : Char) (digits : List Char) :
    digitsValue (c :: digits) = 10 ^ digits.length * digitValue c + digitsValue digits := by
  rw [digits_value_eq, Nat.ofDigitChars_cons, Nat.ofDigitChars_eq_ofDigitChars_zero, Nat.mul_zero,
    Nat.zero_add]
  rfl

theorem digits_value_lt {digits : List Char} (all : AllDigits digits) :
    digitsValue digits < 10 ^ digits.length := by
  induction digits with
  | nil => exact Nat.one_pos
  | cons c rest induction =>
      have digit := digit_code (all c List.mem_cons_self)
      have few : digitValue c ≤ 9 := by
        have zero : '0'.toNat = 48 := rfl
        rw [digitValue, zero]
        omega
      have below := induction fun d among => all d (List.mem_cons_of_mem c among)
      have scaled := Nat.mul_le_mul_left (10 ^ rest.length) few
      rw [digits_value_cons, List.length_cons, Nat.pow_succ]
      omega

theorem to_digits_length_le_iff {n places : Nat} (some : 0 < places) :
    (Nat.toDigits 10 n).length ≤ places ↔ n < 10 ^ places :=
  Nat.length_toDigits_le_iff (by decide) some

theorem no_leading_zero {n : Nat} (positive : 0 < n) (rest : List Char) :
    Nat.toDigits 10 n ≠ '0' :: rest := by
  intro leading
  have value := digits_value_to_digits n
  have all := to_digits_digits n
  rw [leading] at value all
  have short : digitsValue rest = n := by
    rw [← value]
    exact (digits_value_zeros_append 1 rest).symm
  have below := digits_value_lt fun c among => all c (List.mem_cons_of_mem '0' among)
  rw [short] at below
  cases rest with
  | nil =>
      rw [List.length_nil, Nat.pow_zero] at below
      omega
  | cons c rest =>
      have fits := (to_digits_length_le_iff (Nat.succ_pos rest.length)).mpr below
      rw [leading, List.length_cons, List.length_cons] at fits
      omega

end FederatedSearch.Decimal
