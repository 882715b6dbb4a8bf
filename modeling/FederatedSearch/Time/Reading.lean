import FederatedSearch.Text.Blank
import FederatedSearch.Time.Instant

/-!
Reading timestamps. `lenient?` allows white space between the parts of a timestamp,
one-digit parts and years of any length; `strict?` reads the internet format
digit by digit; `date?` reads a date alone, standing for its midnight in Greenwich.
-/

namespace FederatedSearch.Time

open FederatedSearch.Text

abbrev Reader := StateT (List Char) Option

def decimalValue (digits : List Char) : Nat :=
  digits.foldl (fun value c => 10 * value + (c.toNat - '0'.toNat)) 0

def skipBlanks : Reader Unit := modify trimStart

def oneOf (admitted : List Char) : Reader Char := fun text =>
  match text with
  | c :: rest => if admitted.contains c then some (c, rest) else none
  | [] => none

/-- All digits at the front, but no more than `most`, and no fewer than `least`. -/
def digits (least : Nat) (most : Option Nat) : Reader (List Char) := fun text =>
  let run := text.takeWhile Char.isDigit
  let taken := match most with
    | some bound => run.take bound
    | none => run
  if taken.length < least then none else some (taken, text.drop taken.length)

def number (least : Nat) (most : Option Nat) : Reader Nat := do
  return decimalValue (← digits least most)

/-- A year: with a sign any number of digits, without one at most four. -/
def signedYear : Reader Int := fun text =>
  match text with
  | '-' :: rest => (number 1 none rest).map fun (year, after) => (-(year : Int), after)
  | '+' :: rest => (number 1 none rest).map fun (year, after) => ((year : Int), after)
  | _ => (number 1 (some 4) text).map fun (year, after) => ((year : Int), after)

/-- A fraction of a second in nanoseconds; digits from the tenth on are dropped. -/
def fraction : Reader Nat := fun text =>
  match text with
  | '.' :: rest =>
      (digits 1 none rest).map fun (run, after) =>
        (decimalValue (run.take 9 ++ List.replicate (9 - run.length) '0'), after)
  | _ => some (0, text)

def numericOffset (separator : Reader Unit) : Reader Int := do
  let sign ← oneOf ['+', '-', '−']
  let hours ← number 2 (some 2)
  separator
  let minutes ← number 2 (some 2)
  if 59 < minutes then failure
  let seconds : Int := (hours * 3600 + minutes * 60 : Nat)
  return if sign = '+' then seconds else -seconds

/-- `Z` in either case, or a numeric offset. -/
def offset (separator : Reader Unit) : Reader Int := fun text =>
  match text with
  | 'Z' :: rest | 'z' :: rest => some (0, rest)
  | _ => numericOffset separator text

def skipColonsAndBlanks : Reader Unit :=
  modify fun text => text.dropWhile fun c => c == ':' || isBlank c

def lenientOffset : Reader Int := fun text =>
  if (text.take 3).map Char.toLower = ['u', 't', 'c'] then some (0, text.drop 3)
  else offset skipColonsAndBlanks text

def colon : Reader Unit := do let _ ← oneOf [':']

def hyphen : Reader Unit := do let _ ← oneOf ['-']

def lenientTimestamp : Reader (Option Instant) := do
  skipBlanks
  let year ← signedYear
  skipBlanks; hyphen; skipBlanks
  let month ← number 1 (some 2)
  skipBlanks; hyphen; skipBlanks
  let day ← number 1 (some 2)
  let _ ← oneOf ['T', 't', ' ']
  skipBlanks
  let hour ← number 1 (some 2)
  skipBlanks; colon; skipBlanks
  let minute ← number 1 (some 2)
  skipBlanks; colon; skipBlanks
  let second ← number 1 (some 2)
  let nanosecond ← fraction
  skipBlanks
  let offset ← lenientOffset
  skipBlanks
  return Instant.of? ⟨year, month, day⟩ ⟨hour, minute, second, nanosecond⟩ offset

def strictTimestamp : Reader (Option Instant) := do
  let year ← number 4 (some 4)
  hyphen
  let month ← number 2 (some 2)
  hyphen
  let day ← number 2 (some 2)
  let _ ← oneOf ['T', 't', ' ']
  let hour ← number 2 (some 2)
  colon
  let minute ← number 2 (some 2)
  colon
  let second ← number 2 (some 2)
  let nanosecond ← fraction
  let offset ← offset colon
  return Instant.of? ⟨year, month, day⟩ ⟨hour, minute, second, nanosecond⟩ offset

def midnight : Reader (Option Instant) := do
  skipBlanks
  let year ← signedYear
  hyphen; skipBlanks
  let month ← number 1 (some 2)
  hyphen; skipBlanks
  let day ← number 1 (some 2)
  return Instant.of? ⟨year, month, day⟩ ⟨0, 0, 0, 0⟩ 0

def readAll (reader : Reader (Option Instant)) (text : List Char) : Option Instant :=
  match reader text with
  | some (result, []) => result
  | _ => none

def lenient? (s : String) : Option Instant := readAll lenientTimestamp s.toList

def strict? (s : String) : Option Instant := readAll strictTimestamp s.toList

def date? (s : String) : Option Instant := readAll midnight s.toList

end FederatedSearch.Time
