import FederatedSearch.Proofs.RealInstants

/-!
Instants as texts. The text of an instant reads back as the instant, in either case, if the year
has four digits. A year that is written with its sign is not of the internet format, and what is
read as a date alone leaves the time of day behind; such a text is no point in time.
-/

namespace FederatedSearch.Time

open FederatedSearch.Decimal FederatedSearch.Text

/-- The year of the instant has four digits. -/
def Instant.IsCommon (t : Instant) : Prop := 0 ≤ t.date.year ∧ t.date.year ≤ 9999

instance (t : Instant) : Decidable t.IsCommon :=
  inferInstanceAs (Decidable (0 ≤ t.date.year ∧ t.date.year ≤ 9999))

section

variable {Value Result : Type} {text rest : List Char}

/-- A reader goes on where the one before it has stopped. -/
theorem read_next {reader : Reader Value} {next : Value → Reader Result} {value : Value}
    (front : reader text = some (value, rest)) : (reader >>= next) text = next value rest := by
  change (reader text >>= fun read => next read.1 read.2) = _
  rw [front]
  rfl

theorem read_none {reader : Reader Value} {next : Value → Reader Result}
    (front : reader text = none) : (reader >>= next) text = none := by
  change (reader text >>= fun read => next read.1 read.2) = _
  rw [front]
  rfl

end

section

variable {run rest : List Char} {least : Nat}

theorem read_digits (all : AllDigits run) (enough : least ≤ run.length)
    (ends : ∀ c ∈ rest.head?, c.isDigit = false) :
    digits least none (run ++ rest) = some (run, rest) := by
  have front : (run ++ rest).takeWhile Char.isDigit = run :=
    congrArg Prod.fst (take_digits all ends)
  rw [digits, front, if_neg (Nat.not_lt.mpr enough), List.drop_left]

theorem read_digits_bounded (all : AllDigits run) (enough : least ≤ run.length) :
    digits least (some run.length) (run ++ rest) = some (run, rest) := by
  have front : ((run ++ rest).takeWhile Char.isDigit).take run.length = run := by
    rw [List.takeWhile_append_of_pos all, List.take_left]
  simp only [digits, front, if_neg (Nat.not_lt.mpr enough), List.drop_left]

end

section

variable {width n : Nat} {rest : List Char}

theorem padded_digits (width n : Nat) : AllDigits (padded width n) :=
  (zeros_digits _).append (to_digits_digits n)

theorem padded_value (width n : Nat) : decimalValue (padded width n) = n := by
  change digitsValue (zeros _ ++ Nat.toDigits 10 n) = n
  rw [digits_value_zeros_append, digits_value_to_digits]

theorem width_le_padded (width n : Nat) : width ≤ (padded width n).length := by
  rw [padded, List.length_append, List.length_replicate]
  omega

theorem padded_length (filled : 0 < width) (fits : n < 10 ^ width) :
    (padded width n).length = width := by
  have short := (to_digits_length_le_iff filled).mpr fits
  rw [padded, List.length_append, List.length_replicate]
  omega

theorem read_padded {least : Nat} (enough : least ≤ width) (filled : 0 < width)
    (fits : n < 10 ^ width) :
    number least (some width) (padded width n ++ rest) = some (n, rest) := by
  have length := padded_length filled fits
  have read := @read_digits_bounded _ rest least (padded_digits width n) (enough.trans length.ge)
  rw [length] at read
  rw [number, read_next read, padded_value]
  rfl

theorem read_padded_fraction (filled : 0 < width) (short : width ≤ 9) (fits : n < 10 ^ width)
    (ends : ∀ c ∈ rest.head?, c.isDigit = false) :
    fraction ('.' :: padded width n ++ rest) = some (n * 10 ^ (9 - width), rest) := by
  have length := padded_length filled fits
  have read := @read_digits _ rest 1 (padded_digits width n) (filled.trans_eq length.symm) ends
  have value : decimalValue ((padded width n).take 9 ++
      List.replicate (9 - (padded width n).length) '0') = n * 10 ^ (9 - width) := by
    rw [List.take_of_length_le (length.trans_le short), length]
    calc decimalValue (padded width n ++ zeros (9 - width))
        = decimalValue (padded width n) * 10 ^ (9 - width) := digits_value_append_zeros _ _
      _ = n * 10 ^ (9 - width) := by rw [padded_value]
  rw [List.cons_append, fraction, read, Option.map_some]
  exact congrArg (fun whole => some (whole, rest)) value

end

theorem read_fraction {nanosecond : Nat} (short : nanosecond < 1000000000) {rest : List Char}
    (ends : ∀ c ∈ rest.head?, c.isDigit = false ∧ c ≠ '.') :
    fraction (writeFraction nanosecond ++ rest) = some (nanosecond, rest) := by
  have noDigit : ∀ c ∈ rest.head?, c.isDigit = false := fun c first => (ends c first).1
  unfold writeFraction
  split
  next none =>
    subst none
    rw [List.nil_append]
    unfold fraction
    split
    next => exact absurd rfl (ends '.' rfl).2
    next => rfl
  next some =>
    split
    next millis =>
      rw [read_padded_fraction (by decide) (by decide) (by omega) noDigit]
      have whole : nanosecond / 1000000 * 10 ^ (9 - 3) = nanosecond := by omega
      rw [whole]
    next =>
      split
      next micros =>
        rw [read_padded_fraction (by decide) (by decide) (by omega) noDigit]
        have whole : nanosecond / 1000 * 10 ^ (9 - 6) = nanosecond := by omega
        rw [whole]
      next nanos =>
        rw [read_padded_fraction (by decide) (by decide) (by omega) noDigit]
        have whole : nanosecond * 10 ^ (9 - 9) = nanosecond := by omega
        rw [whole]

def Instant.separatedBy (t : Instant) (separator : Char) : List Char :=
  writeDate t.date ++ separator :: (writeClock t.clock ++ ['+', '0', '0', ':', '0', '0'])

theorem numeric_eq (t : Instant) : t.numeric.toList = t.separatedBy 'T' := by
  rw [Instant.numeric, String.toList_ofList, Instant.dateTime, Instant.separatedBy,
    List.append_assoc, List.cons_append]

theorem read_one {admitted : List Char} {c : Char} (among : c ∈ admitted) (rest : List Char) :
    oneOf admitted (c :: rest) = some (c, rest) := by
  rw [oneOf, if_pos (List.contains_iff_mem.mpr among)]

theorem read_hyphen (rest : List Char) : hyphen ('-' :: rest) = some ((), rest) := rfl

theorem read_colon (rest : List Char) : colon (':' :: rest) = some ((), rest) := rfl

theorem read_greenwich : offset colon ['+', '0', '0', ':', '0', '0'] = some (0, []) := by
  decide

theorem days_in_month_le (year : Int) (month : Nat) : daysInMonth year month ≤ 31 := by
  unfold daysInMonth
  split
  · split <;> decide
  · split <;> decide

theorem CivilDate.two_digits {date : CivilDate} (dated : date.exists = true) :
    date.month < 10 ^ 2 ∧ date.day < 10 ^ 2 := by
  simp only [CivilDate.exists, Bool.and_eq_true, decide_eq_true_eq] at dated
  have most := days_in_month_le date.year date.month
  omega

theorem ClockTime.two_digits {time : ClockTime} (timed : time.exists = true) :
    time.hour < 10 ^ 2 ∧ time.minute < 10 ^ 2 ∧ time.second < 10 ^ 2 := by
  simp only [ClockTime.exists, Bool.and_eq_true, decide_eq_true_eq] at timed
  omega

section

variable {t : Instant} {separator : Char}

theorem separated_eq (t : Instant) (separator : Char) : t.separatedBy separator =
    writeYear t.date.year ++ '-' :: (padded 2 t.date.month ++ '-' ::
      (padded 2 t.date.day ++ separator :: (padded 2 t.clock.hour ++ ':' ::
        (padded 2 t.clock.minute ++ ':' :: (padded 2 t.clock.second ++
          (writeFraction t.clock.nanosecond ++ ['+', '0', '0', ':', '0', '0'])))))) := by
  rw [Instant.separatedBy, writeDate, writeClock]
  simp only [List.append_assoc, List.cons_append]

/-- With four digits for the year the text is of the internet format. -/
theorem read_common (real : t.IsReal) (common : t.IsCommon)
    (among : separator ∈ ['T', 't', ' ']) :
    strictTimestamp (t.separatedBy separator) = some (some t, []) := by
  obtain ⟨least, most⟩ := common
  have whole := of_date_and_clock real
  obtain ⟨month, day⟩ := CivilDate.two_digits real.dated
  obtain ⟨hour, minute, second⟩ := ClockTime.two_digits (clock_parts real).1
  have year : t.date.year.natAbs < 10 ^ 4 := by omega
  have positive : (t.date.year.natAbs : Int) = t.date.year := Int.natAbs_of_nonneg least
  have nanosecond : t.clock.nanosecond < 1000000000 := by
    have within := real.within
    simp only [Instant.clock]
    split <;> omega
  have written : writeYear t.date.year = padded 4 t.date.year.natAbs := if_pos ⟨least, most⟩
  have plus : ∀ c ∈ ['+', '0', '0', ':', '0', '0'].head?, c.isDigit = false ∧ c ≠ '.' := by
    rintro c ⟨⟩
    decide
  rw [separated_eq, written, strictTimestamp,
    read_next (read_padded (by decide) (by decide) year), read_next (read_hyphen _),
    read_next (read_padded (by decide) (by decide) month), read_next (read_hyphen _),
    read_next (read_padded (by decide) (by decide) day), read_next (read_one among _),
    read_next (read_padded (by decide) (by decide) hour), read_next (read_colon _),
    read_next (read_padded (by decide) (by decide) minute), read_next (read_colon _),
    read_next (read_padded (by decide) (by decide) second),
    read_next (read_fraction nanosecond plus), read_next read_greenwich, positive]
  exact congrArg (fun read => some (read, [])) whole

theorem uncommon_year {year : Int} (uncommon : ¬ (0 ≤ year ∧ year ≤ 9999)) :
    ∃ sign ∈ ['+', '-'], writeYear year = sign :: padded 4 year.natAbs := by
  rw [writeYear, if_neg uncommon]
  split
  · exact ⟨'-', by decide, rfl⟩
  · exact ⟨'+', by decide, rfl⟩

theorem skip_none {text : List Char} (filled : ∃ c ∈ text.head?, isBlank c = false) :
    skipBlanks text = some ((), text) := by
  obtain ⟨c, first, filled⟩ := filled
  obtain ⟨rest, rfl⟩ := List.head?_eq_some_iff.mp first
  change some ((), trimStart (c :: rest)) = _
  rw [trimStart, List.dropWhile_cons_of_neg (by rw [filled]; decide)]

theorem skip_before_padded {width : Nat} (filled : 0 < width) (n : Nat) (rest : List Char) :
    skipBlanks (padded width n ++ rest) = some ((), padded width n ++ rest) := by
  have all := padded_digits width n
  have length := width_le_padded width n
  cases digits : padded width n with
  | nil =>
    rw [digits, List.length_nil] at length
    omega
  | cons c others =>
    have plain := plain_of_digit (all c (digits ▸ List.mem_cons_self))
    simp only [isPlain, Bool.and_eq_true, Bool.not_eq_true'] at plain
    exact skip_none ⟨c, rfl, plain.2⟩

theorem read_signed_year {sign : Char} (among : sign ∈ ['+', '-']) (n : Nat) (rest : List Char) :
    signedYear (sign :: padded 4 n ++ '-' :: rest) =
      some (if sign = '-' then -(n : Int) else n, '-' :: rest) := by
  have digits := @read_digits _ ('-' :: rest) 1 (padded_digits 4 n)
    ((by decide : 1 ≤ 4).trans (width_le_padded 4 n)) (by simp)
  have read : number 1 none (padded 4 n ++ '-' :: rest) = some (n, '-' :: rest) := by
    rw [number, read_next digits, padded_value]
    rfl
  simp only [List.mem_cons, List.not_mem_nil, or_false] at among
  rcases among with rfl | rfl
  · rw [List.cons_append, signedYear, read]
    rfl
  · rw [List.cons_append, signedYear, read]
    rfl

/-- With a sign the year is not of the internet format, and the date is all that is read. -/
theorem read_uncommon (real : t.IsReal) (uncommon : ¬ t.IsCommon) :
    readAll strictTimestamp (t.separatedBy separator) = none ∧
      readAll midnight (t.separatedBy separator) = none := by
  obtain ⟨sign, among, written⟩ := uncommon_year uncommon
  obtain ⟨month, day⟩ := CivilDate.two_digits real.dated
  have noDigit : ∀ sign ∈ ['+', '-'], sign.isDigit = false ∧ isBlank sign = false := by
    rw [List.forall_mem_cons, List.forall_mem_singleton]
    decide
  rw [separated_eq, written]
  constructor
  · have unsigned (rest : List Char) : number 4 (some 4) (sign :: rest) = none := by
      apply read_none
      simp [digits, (noDigit sign among).1]
    rw [readAll, strictTimestamp, List.cons_append, read_none (unsigned _)]
  · rw [readAll, midnight, List.cons_append,
      read_next (skip_none ⟨sign, rfl, (noDigit sign among).2⟩), ← List.cons_append,
      read_next (read_signed_year among _ _),
      read_next (read_hyphen _), read_next (skip_before_padded (by decide) _ _),
      read_next (read_padded (by decide) (by decide) month), read_next (read_hyphen _),
      read_next (skip_before_padded (by decide) _ _),
      read_next (read_padded (by decide) (by decide) day)]
    rfl

end

theorem separator_of_lower {c : Char} (same : c.toLower = 'T'.toLower) : c ∈ ['T', 't', ' '] := by
  by_cases ascii : c.toNat < 0x80
  · apply ascii_cases (fun c => c.toLower = 'T'.toLower → c ∈ ['T', 't', ' ']) _ ascii same
    decide
  · rw [lower_of_wide ascii] at same
    subst same
    decide

/-- A character that is spelled in one way only. -/
def isMark (c : Char) : Bool := isPlain c && isUncased c

theorem padded_marks (width n : Nat) : ∀ c ∈ padded width n, isMark c = true := by
  intro c among
  have digit := padded_digits width n c among
  rw [isMark, plain_of_digit digit, uncased_of_digit digit]
  rfl

theorem date_marks (date : CivilDate) : ∀ c ∈ writeDate date, isMark c = true := by
  have year : ∀ c ∈ writeYear date.year, isMark c = true := by
    unfold writeYear
    split
    · exact padded_marks 4 _
    · rw [List.forall_mem_cons]
      exact ⟨by split <;> decide, padded_marks 4 _⟩
  simp only [writeDate, List.forall_mem_append, List.forall_mem_cons]
  exact ⟨⟨year, by decide, padded_marks 2 _⟩, by decide, padded_marks 2 _⟩

theorem clock_marks (time : ClockTime) : ∀ c ∈ writeClock time, isMark c = true := by
  have point {text : List Char} (all : ∀ c ∈ text, isMark c = true) :
      ∀ c ∈ '.' :: text, isMark c = true := List.forall_mem_cons.mpr ⟨by decide, all⟩
  have fraction : ∀ c ∈ writeFraction time.nanosecond, isMark c = true := by
    unfold writeFraction
    split
    · exact fun c among => absurd among List.not_mem_nil
    · split
      · exact point (padded_marks 3 _)
      · split
        · exact point (padded_marks 6 _)
        · exact point (padded_marks 9 _)
  simp only [writeClock, List.forall_mem_append, List.forall_mem_cons]
  exact ⟨⟨⟨padded_marks 2 _, by decide, padded_marks 2 _⟩, by decide, padded_marks 2 _⟩, fraction⟩

/-- A text that is spelled like an instant, whose letter may be of either case. -/
theorem spelled_separated {t : Instant} {text : List Char}
    (spelled : lower text = lower t.numeric.toList) :
    ∃ separator ∈ ['T', 't', ' '], text = t.separatedBy separator ∧ trim text = text := by
  have front := date_marks t.date
  have back : ∀ c ∈ writeClock t.clock ++ ['+', '0', '0', ':', '0', '0'], isMark c = true :=
    List.forall_mem_append.mpr ⟨clock_marks t.clock, List.all_eq_true.mp rfl⟩
  simp only [isMark, Bool.and_eq_true] at front back
  have plain : ∀ c ∈ t.separatedBy 'T', isPlain c = true := by
    rw [Instant.separatedBy, List.forall_mem_append, List.forall_mem_cons]
    exact ⟨fun c among => (front c among).1, by decide, fun c among => (back c among).1⟩
  rw [numeric_eq] at spelled
  obtain ⟨letters, kept⟩ := spelled_plainly plain spelled
  rw [Instant.separatedBy, List.map_append, List.map_cons, List.map_eq_append_iff] at letters
  obtain ⟨date, others, rfl, dated, rest⟩ := letters
  obtain ⟨separator, clock, rfl, letter, timed⟩ := List.map_eq_cons_iff.mp rest
  refine ⟨separator, separator_of_lower letter, ?_, kept⟩
  rw [uncased_text (fun c among => (front c among).2) dated,
    uncased_text (fun c among => (back c among).2) timed, Instant.separatedBy]

/-- A text that is spelled like an instant reads as the instant if its year has four digits, and
as none otherwise. -/
theorem spelled_instant_reads {t : Instant} (real : t.IsReal) {text : String}
    (spelled : lowered text = lowered t.numeric) :
    instantOfText? text = if t.IsCommon then some t else none := by
  have same : lower text.toList = lower t.numeric.toList := by
    rw [← lowered_to_list, ← lowered_to_list, spelled]
  obtain ⟨separator, among, separated, kept⟩ := spelled_separated same
  have read : (trimmed text).toList = t.separatedBy separator := by
    rw [trimmed_to_list, kept, separated]
  split
  next common =>
    have strict : strict? (trimmed text) = some t := by
      rw [strict?, read, readAll, read_common real common among]
    simp only [instantOfText?, strict]
  next uncommon =>
    obtain ⟨strict, date⟩ := @read_uncommon t separator real uncommon
    simp only [instantOfText?, strict?, date?, read, strict, date]

end FederatedSearch.Time
