import Conduit.Condition.Token

/-!
# Instants

An instant is a point of time to the nanosecond. It is read from a date, a time of day and an
offset, with blanks allowed between their parts, and written in universal time. A leap second is the
second before it with a thousand million nanoseconds more.
-/

namespace Conduit

open Condition (byteSize)
open Text

/-- A number of seconds since the start of 1970 and of nanoseconds after it. -/
structure Instant where
  seconds : Int
  nanos : Nat
  deriving DecidableEq

/-- Why a text is no instant. -/
inductive InstantError where
  | outOfRange
  | impossible
  | invalid
  | tooShort
  | tooLong

def InstantError.message : InstantError → String
  | outOfRange => "input is out of range"
  | impossible => "no possible date and time matching input"
  | invalid => "input contains invalid characters"
  | tooShort => "premature end of input"
  | tooLong => "trailing input"

namespace Instant

/-! ## The calendar -/

def isLeapYear (year : Int) : Bool := year % 4 == 0 && (year % 100 != 0 || year % 400 == 0)

def daysInMonth (year : Int) (month : Nat) : Nat :=
  if month = 2 then (if isLeapYear year then 29 else 28)
  else if month = 4 ∨ month = 6 ∨ month = 9 ∨ month = 11 then 30
  else 31

/-- The days from the start of 1970 to a date. Years are counted from March, so that a leap day is
the last day of its year. -/
def daysOfDate (year : Int) (month day : Nat) : Int :=
  let y := if month ≤ 2 then year - 1 else year
  let m : Int := if month ≤ 2 then month + 9 else (month : Int) - 3
  365 * y + y / 4 - y / 100 + y / 400 + (153 * m + 2) / 5 + (day - 1) - 719468

def dateOfDays (days : Int) : Int × Nat × Nat :=
  let z := days + 719468
  let era := z / 146097
  let d := z % 146097
  let y := (d - d / 1460 + d / 36524 - d / 146096) / 365
  let inYear := d - (365 * y + y / 4 - y / 100)
  let m := (5 * inYear + 2) / 153
  let day := inYear - (153 * m + 2) / 5 + 1
  let month := if m < 10 then m + 3 else m - 9
  (y + era * 400 + (if month ≤ 2 then 1 else 0), month.toNat, day.toNat)

def firstYear : Int := -262143

def lastYear : Int := 262142

def isInCalendar (seconds : Int) : Bool :=
  decide (daysOfDate firstYear 1 1 * 86400 ≤ seconds) &&
    decide (seconds < daysOfDate (lastYear + 1) 1 1 * 86400)

/-! ## Reading -/

abbrev Scan (α : Type) := List Char → Except InstantError (α × List Char)

def skipBlanks (text : List Char) : List Char := text.dropWhile isBlank

/-- A number of one to `most` digits. -/
def number (most : Nat) : Scan Nat := fun text =>
  let digits := (text.takeWhile isDigit).take most
  if digits.isEmpty then .error (if text.isEmpty then .tooShort else .invalid)
  else
    let n := digitsValue digits
    if Nat.pow 2 63 ≤ n then .error .outOfRange else .ok (n, text.drop digits.length)

/-- A number within bounds, blanks before it. -/
def bounded (low high : Nat) : Scan Nat := fun text => do
  let (n, rest) ← number 2 (skipBlanks text)
  if n < low ∨ high < n then .error .outOfRange else .ok (n, rest)

def mark (c : Char) (text : List Char) : Except InstantError (List Char) :=
  match skipBlanks text with
  | [] => .error .tooShort
  | x :: rest => if x = c then .ok rest else .error .invalid

/-- A year of four digits, or of any number of them behind a sign. -/
def year : Scan Int := fun text =>
  match skipBlanks text with
  | '-' :: rest => do
    let (n, rest) ← number rest.length rest
    if Nat.pow 2 31 < n then .error .outOfRange else .ok (-n, rest)
  | '+' :: rest => do
    let (n, rest) ← number rest.length rest
    if Nat.pow 2 31 ≤ n then .error .outOfRange else .ok (n, rest)
  | text => do
    let (n, rest) ← number 4 text
    .ok (n, rest)

/-- The nanoseconds behind a point, of which digits after the ninth are left out. -/
def fraction : Scan Nat
  | '.' :: text => do
    let (n, rest) ← number 9 text
    -- Fewer digits than nine stand for the leading ones.
    .ok (n * Nat.pow 10 (9 - (text.length - rest.length)), rest.dropWhile isDigit)
  | text => .ok (0, text)

/-- Two digits, of which the first is below `limit`. -/
def pair (limit : Nat) : Scan Nat := fun text =>
  if byteSize text < 2 then .error .tooShort
  else
    match text with
    | a :: b :: rest =>
      if isDigit a && isDigit b then
        if digitValue a < limit then .ok (digitValue a * 10 + digitValue b, rest)
        else .error .outOfRange
      else .error .invalid
    | _ => .error .invalid

def offset : Scan Int := fun text =>
  let lower := (text.take 3).map fun c => if c.toNat < 128 then c.toLower else c
  if lower = ['u', 't', 'c'] then .ok (0, text.drop 3)
  else
    match text with
    | [] => .error .tooShort
    | c :: rest =>
      if c = 'Z' ∨ c = 'z' then .ok (0, rest)
      else if c = '+' ∨ c = '-' ∨ c = '\u2212' then do
        let (hours, rest) ← pair 10 rest
        let (minutes, rest) ← pair 6 (rest.dropWhile fun x => x == ':' || isBlank x)
        let seconds : Int := hours * 3600 + minutes * 60
        .ok (if c = '+' then seconds else -seconds, rest)
      else .error .invalid

def read (text : String) : Except InstantError Instant := do
  let (y, rest) ← year text.toList
  let rest ← mark '-' rest
  let (month, rest) ← bounded 1 12 rest
  let rest ← mark '-' rest
  let (day, rest) ← bounded 1 31 rest
  let rest ← match rest with
    | [] => .error .tooShort
    | c :: rest => if c = 't' ∨ c = 'T' ∨ c = ' ' then .ok rest else .error .invalid
  let (hour, rest) ← bounded 0 23 rest
  let rest ← mark ':' rest
  let (minute, rest) ← bounded 0 59 rest
  let rest ← mark ':' rest
  let (second, rest) ← bounded 0 60 rest
  let (nanos, rest) ← fraction rest
  let (shift, rest) ← offset (skipBlanks rest)
  if !(skipBlanks rest).isEmpty then .error .tooLong
  else if y < firstYear ∨ lastYear < y ∨ daysInMonth y month < day ∨ 86400 ≤ shift.natAbs then
    .error .outOfRange
  else
    -- A leap second is kept as further nanoseconds of the second before it.
    let leap := second = 60
    let clock : Int := hour * 3600 + minute * 60 + (if leap then 59 else second)
    let seconds := daysOfDate y month day * 86400 + clock - shift
    if isInCalendar seconds then
      .ok ⟨seconds, if leap then nanos + Nat.pow 10 9 else nanos⟩
    else .error .impossible

/-! ## Writing -/

def padded (width n : Nat) : String :=
  let digits := Nat.toDigits 10 n
  String.ofList (List.replicate (width - digits.length) '0' ++ digits)

/-- The nanoseconds behind a point in three, six or nine digits, nothing for none. -/
def fractionText (nanos : Nat) : String :=
  if nanos = 0 then ""
  else if nanos % Nat.pow 10 6 = 0 then "." ++ padded 3 (nanos / Nat.pow 10 6)
  else if nanos % Nat.pow 10 3 = 0 then "." ++ padded 6 (nanos / Nat.pow 10 3)
  else "." ++ padded 9 nanos

/-- A year in four digits, or with a sign if it needs more or is negative. -/
def yearText (y : Int) : String :=
  if 0 ≤ y ∧ y ≤ 9999 then padded 4 y.toNat
  else (if y < 0 then "-" else "+") ++ padded 4 y.natAbs

def text (t : Instant) : String :=
  let (y, month, day) := dateOfDays (t.seconds / 86400)
  let clock := (t.seconds % 86400).toNat
  let leap := Nat.pow 10 9 ≤ t.nanos
  let second := clock % 60 + (if leap then 1 else 0)
  yearText y ++ "-" ++ padded 2 month ++ "-" ++ padded 2 day ++ "T" ++
    padded 2 (clock / 3600) ++ ":" ++ padded 2 (clock / 60 % 60) ++ ":" ++ padded 2 second ++
    fractionText (if leap then t.nanos - Nat.pow 10 9 else t.nanos) ++ "Z"

example : dateOfDays (daysOfDate 2024 2 29) = (2024, 2, 29) := by decide +kernel

example : (read "2024-02-29T12:34:56.5+02:00").toOption.map text =
    some "2024-02-29T10:34:56.500Z" := by decide +kernel

end Instant

end Conduit
