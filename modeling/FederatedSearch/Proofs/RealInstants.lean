import FederatedSearch.Proofs.CivilDates
import FederatedSearch.Proofs.PlainTexts
import FederatedSearch.Query.Compilation

/-!
Points in time. Whatever is read as an instant is a point in time that is kept, and such a point
is made up of its date and its time of day.
-/

namespace FederatedSearch.Time

open FederatedSearch.Decimal FederatedSearch.Text

/-- A point in time that is kept: a leap second carries on the last second of a minute. -/
structure Instant.IsReal (t : Instant) : Prop where
  kept : isYearInRange t.date.year = true
  within : t.nanosecond < 2000000000
  leap : 1000000000 ≤ t.nanosecond → t.second % 60 = 59

theorem Instant.IsReal.dated {t : Instant} (real : t.IsReal) : t.date.exists = true :=
  exists_of_day_number real.kept

/-- The time of day stands for the second of the day, at which a leap second is held. -/
theorem clock_parts {t : Instant} (real : t.IsReal) :
    t.clock.exists = true ∧
      t.clock.hour * 3600 + t.clock.minute * 60 +
        (if t.clock.second == 60 then 59 else t.clock.second) = (t.second % 86400).toNat ∧
      (t.clock.nanosecond + if t.clock.second == 60 then 1000000000 else 0) = t.nanosecond := by
  have leap := real.leap
  by_cases leaping : 1000000000 ≤ t.nanosecond
  · have last : (t.second % 86400).toNat % 60 = 59 := by
      have ends := leap leaping
      omega
    simp only [ClockTime.exists, Instant.clock, leaping, last, if_true, Nat.reduceAdd,
      beq_self_eq_true, Bool.and_eq_true, decide_eq_true_eq]
    omega
  · have short : ((t.second % 86400).toNat % 60 == 60) = false := by
      rw [beq_eq_false_iff_ne]
      omega
    simp only [ClockTime.exists, Instant.clock, leaping, Bool.false_eq_true, if_false,
      Nat.add_zero, short, Bool.and_eq_true, decide_eq_true_eq]
    omega

theorem of_date_and_clock {t : Instant} (real : t.IsReal) :
    Instant.of? t.date t.clock 0 = some t := by
  have dated := real.dated
  have number : t.date.dayNumber = t.second / 86400 := day_number_of_day_number _
  obtain ⟨timed, ofDay, nanosecond⟩ := clock_parts real
  have second : t.date.dayNumber * 86400 + t.clock.hour * 3600 + t.clock.minute * 60 +
      (if t.clock.second == 60 then 59 else t.clock.second : Nat) - 0 = t.second := by
    rw [number]
    omega
  unfold Instant.of?
  rw [dated, timed, if_pos (by decide)]
  simp only [nanosecond, second]
  exact if_pos real.kept

theorem of_is_real {date : CivilDate} {clock : ClockTime} {offset : Int} {t : Instant}
    (short : clock.nanosecond < 1000000000) (minutes : offset % 60 = 0)
    (found : Instant.of? date clock offset = some t) : t.IsReal := by
  unfold Instant.of? at found
  rw [Option.ite_none_right_eq_some] at found
  obtain ⟨-, found⟩ := found
  simp only [Option.ite_none_right_eq_some, Option.some.injEq] at found
  obtain ⟨kept, rfl⟩ := found
  refine ⟨kept, ?_, ?_⟩
  · change clock.nanosecond + (if (clock.second == 60) = true then 1000000000 else 0) < 2000000000
    split <;> omega
  · intro leaping
    cases leap : clock.second == 60 with
    | true =>
        simp only [if_true]
        omega
    | false =>
        simp only [leap, Bool.false_eq_true, if_false] at leaping
        omega

def Reads {Value : Type} (reader : Reader Value) (Holds : Value → Prop) : Prop :=
  ∀ text value rest, reader text = some (value, rest) → Holds value

section

variable {Value Result : Type} {reader : Reader Value} {next : Value → Reader Result}
  {Holds : Value → Prop} {Done : Result → Prop}

theorem Reads.bind (front : Reads reader Holds)
    (back : ∀ value, Holds value → Reads (next value) Done) : Reads (reader >>= next) Done := by
  intro text result rest read
  change (reader text >>= fun found => next found.1 found.2) = _ at read
  obtain ⟨⟨value, after⟩, first, second⟩ := Option.bind_eq_some_iff.mp read
  exact back value (front text value after first) after result rest second

theorem reads_next (back : ∀ value, Reads (next value) Done) : Reads (reader >>= next) Done := by
  have front : Reads reader fun _ => True := fun _ _ _ _ => trivial
  exact front.bind fun value _ => back value

theorem reads_pure {result : Result} (done : Done result) : Reads (pure result) Done := by
  rintro text _ rest ⟨⟩
  exact done

end

theorem digits_read (least : Nat) (most : Option Nat) : Reads (digits least most) AllDigits := by
  intro text run rest read
  have front : AllDigits (text.takeWhile Char.isDigit) := fun _ => List.mem_takeWhile_imp
  simp only [digits, Option.ite_none_left_eq_some, Option.some.injEq, Prod.mk.injEq] at read
  obtain ⟨-, rfl, -⟩ := read
  cases most with
  | none => exact front
  | some bound => exact fun c among => front c (List.mem_of_mem_take among)

theorem fraction_reads : Reads fraction (· < 1000000000) := by
  intro text nanosecond rest read
  unfold fraction at read
  split at read
  next after =>
    obtain ⟨⟨run, rest'⟩, first, found⟩ := Option.map_eq_some_iff.mp read
    rw [Prod.mk.injEq] at found
    have all : AllDigits (run.take 9 ++ zeros (9 - run.length)) := by
      apply AllDigits.append ?_ (zeros_digits _)
      exact fun c among => digits_read 1 none after run rest' first c (List.mem_of_mem_take among)
    have nine : (run.take 9 ++ zeros (9 - run.length)).length = 9 := by
      rw [List.length_append, List.length_take, zeros, List.length_replicate]
      omega
    have below := digits_value_lt all
    rw [nine] at below
    rw [← found.1]
    exact below
  next =>
    cases read
    decide

theorem numeric_offset_reads (separator : Reader Unit) :
    Reads (numericOffset separator) (· % 60 = 0) := by
  unfold numericOffset
  refine reads_next fun sign => ?_
  refine reads_next fun hours => ?_
  refine reads_next fun _ => ?_
  refine reads_next fun minutes => ?_
  have whole : Reads (pure (if sign = '+' then ((hours * 3600 + minutes * 60 : Nat) : Int)
      else -((hours * 3600 + minutes * 60 : Nat) : Int))) (· % 60 = 0) := by
    apply reads_pure
    split <;> omega
  dsimp only
  split
  · exact reads_next fun _ => whole
  · exact whole

theorem offset_reads (separator : Reader Unit) : Reads (offset separator) (· % 60 = 0) := by
  intro text seconds rest read
  unfold offset at read
  split at read
  · cases read
    rfl
  · cases read
    rfl
  · exact numeric_offset_reads separator text seconds rest read

theorem lenient_offset_reads : Reads lenientOffset (· % 60 = 0) := by
  intro text seconds rest read
  rw [lenientOffset] at read
  split at read
  · cases read
    rfl
  · exact offset_reads skipColonsAndBlanks text seconds rest read

/-- What is read is an instant only if it is real. -/
def IsRealIfAny (found : Option Instant) : Prop := ∀ t, found = some t → t.IsReal

theorem lenient_reads : Reads lenientTimestamp IsRealIfAny := by
  unfold lenientTimestamp
  -- The date and the time of day may be anything; the fraction and the offset are what they are.
  iterate 21 refine reads_next fun _ => ?_
  refine fraction_reads.bind fun nanosecond short => ?_
  refine reads_next fun _ => ?_
  refine lenient_offset_reads.bind fun offset minutes => ?_
  refine reads_next fun _ => ?_
  refine reads_pure fun t found => ?_
  exact of_is_real short minutes found

theorem strict_reads : Reads strictTimestamp IsRealIfAny := by
  unfold strictTimestamp
  iterate 11 refine reads_next fun _ => ?_
  refine fraction_reads.bind fun nanosecond short => ?_
  refine (offset_reads colon).bind fun offset minutes => ?_
  refine reads_pure fun t found => ?_
  exact of_is_real short minutes found

theorem midnight_reads : Reads midnight IsRealIfAny := by
  unfold midnight
  iterate 8 refine reads_next fun _ => ?_
  refine reads_pure fun t found => ?_
  exact of_is_real (by decide) (by decide) found

theorem read_all_real {reader : Reader (Option Instant)} (reads : Reads reader IsRealIfAny)
    {text : List Char} : IsRealIfAny (readAll reader text) := by
  intro t found
  unfold readAll at found
  split at found
  next result read => exact reads text result [] read t found
  next => cases found

theorem instant_of_text_real (text : String) : IsRealIfAny (instantOfText? text) := by
  intro t found
  unfold instantOfText? at found
  simp only at found
  split at found
  next strict =>
    cases found
    exact read_all_real strict_reads t strict
  next => exact read_all_real midnight_reads t found

/-- A document has no other instants than points in time. -/
theorem decoded_instant_real {document : Document} {t : Instant}
    (decoded : Literal.decode? document = some (.instant t)) : t.IsReal := by
  cases document with
  | text value =>
      simp only [Literal.decode?, Option.some.injEq] at decoded
      split at decoded
      next found =>
        cases decoded
        exact read_all_real lenient_reads t found
      next => cases decoded
  | list items =>
      rw [Literal.decode?, Option.map_eq_some_iff] at decoded
      obtain ⟨_, _, different⟩ := decoded
      cases different
  | null | bool | number | table => cases decoded

end FederatedSearch.Time
