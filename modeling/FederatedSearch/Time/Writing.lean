import FederatedSearch.Time.Instant

/-!
Timestamps as text, in the internet format with the time of Greenwich. The fraction
has no digits, or the fewest of 3, 6 and 9 that are exact. A year outside 0 to 9999
is written with its sign.
-/

namespace FederatedSearch.Time

def padded (width n : Nat) : List Char :=
  let digits := Nat.toDigits 10 n
  List.replicate (width - digits.length) '0' ++ digits

def writeYear (year : Int) : List Char :=
  if 0 ≤ year ∧ year ≤ 9999 then padded 4 year.natAbs
  else (if year < 0 then '-' else '+') :: padded 4 year.natAbs

def writeFraction (nanosecond : Nat) : List Char :=
  if nanosecond = 0 then []
  else if nanosecond % 1000000 = 0 then '.' :: padded 3 (nanosecond / 1000000)
  else if nanosecond % 1000 = 0 then '.' :: padded 6 (nanosecond / 1000)
  else '.' :: padded 9 nanosecond

def writeDate (date : CivilDate) : List Char :=
  writeYear date.year ++ '-' :: padded 2 date.month ++ '-' :: padded 2 date.day

def writeClock (time : ClockTime) : List Char :=
  padded 2 time.hour ++ ':' :: padded 2 time.minute ++ ':' :: padded 2 time.second ++
    writeFraction time.nanosecond

def Instant.dateTime (t : Instant) : List Char := writeDate t.date ++ 'T' :: writeClock t.clock

def Instant.zulu (t : Instant) : String := String.ofList (t.dateTime ++ ['Z'])

def Instant.numeric (t : Instant) : String :=
  String.ofList (t.dateTime ++ ['+', '0', '0', ':', '0', '0'])

end FederatedSearch.Time
