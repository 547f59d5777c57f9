import FeatureTrials.Decimal.Literal
import FeatureTrials.Text.Blank
import FeatureTrials.Time.Instant

/-!
# Timestamps

An instant is written as a date and a time of day in UTC with as many digits after the second as
are needed, in groups of three: `2024-03-01T12:00:00.500Z`. Reading is more tolerant: any offset
from UTC, a blank instead of the `T`, blanks around the parts of the date, shorter numbers, and any
number of digits after the second, of which nine count. The second `60` is a leap second, which any
minute may have.
-/

namespace FeatureTrials.Instant

/-! ## Writing -/

/-- A number with leading zeros up to a width. -/
def padded (width n : Nat) : List Char :=
  let ds := Nat.toDigits 10 n
  List.replicate (width - ds.length) '0' ++ ds

/-- The year, with a sign when it does not have four digits. -/
def yearText (year : Int) : List Char :=
  if 0 ≤ year ∧ year ≤ 9999 then padded 4 year.toNat
  else (if year < 0 then '-' else '+') :: padded 4 year.natAbs

/-- The fraction of a second in the fewest groups of three digits. -/
def fractionText (nanos : Nat) : List Char :=
  if nanos = 0 then []
  else if nanos % 1000000 = 0 then '.' :: padded 3 (nanos / 1000000)
  else if nanos % 1000 = 0 then '.' :: padded 6 (nanos / 1000)
  else '.' :: padded 9 nanos

/-- The date of an instant. -/
def dateText (t : Instant) : List Char :=
  let date := Date.ofDays t.days
  yearText date.year ++ '-' :: padded 2 date.month.toNat ++ '-' :: padded 2 date.day.toNat

/-- The time of day of an instant. -/
def timeText (t : Instant) : List Char :=
  let second := t.secondOfDay % 60 + t.nanos / 1000000000
  padded 2 (t.secondOfDay / 3600) ++ ':' :: padded 2 (t.secondOfDay / 60 % 60) ++
    ':' :: padded 2 second ++ fractionText (t.nanos % 1000000000)

/-- The timestamp of an instant. -/
def text (t : Instant) : String :=
  String.ofList (t.dateText ++ 'T' :: t.timeText ++ ['Z'])

/-- An instant inside a message: `2024-03-01 12:00:00 UTC`. -/
def display (t : Instant) : String :=
  String.ofList (t.dateText ++ ' ' :: t.timeText ++ [' ', 'U', 'T', 'C'])

/-! ## Reading -/

/-- A number of at least one and at most `width` digits. -/
def takeNat (width : Nat) (cs : List Char) : Option (Nat × List Char) :=
  let ds := (cs.take width).takeWhile Char.isDigit
  if ds.isEmpty then none else some (Decimal.ofDigits ds, cs.drop ds.length)

/-- A number behind blanks. -/
def takePart (width : Nat) (cs : List Char) : Option (Nat × List Char) :=
  takeNat width (Text.trimStart cs)

/-- A given character. -/
def takeMark (mark : Char) : List Char → Option (List Char)
  | c :: rest => if c = mark then some rest else none
  | [] => none

/-- A year: up to four digits, or any number of them behind a sign. -/
def takeYear (cs : List Char) : Option (Int × List Char) :=
  match Text.trimStart cs with
  | '-' :: rest => (takeNat rest.length rest).map fun (n, rest) => (-(n : Int), rest)
  | '+' :: rest => (takeNat rest.length rest).map fun (n, rest) => ((n : Int), rest)
  | cs => (takeNat 4 cs).map fun (n, rest) => ((n : Int), rest)

/-- The date at the start of a text. -/
def takeDate (cs : List Char) : Option (Date × List Char) := do
  let (year, cs) ← takeYear cs
  let cs ← takeMark '-' (Text.trimStart cs)
  let (month, cs) ← takePart 2 cs
  let cs ← takeMark '-' (Text.trimStart cs)
  let (day, cs) ← takePart 2 cs
  some (⟨year, month, day⟩, cs)

/-- The fraction of a second in nanoseconds, digits past the ninth ignored. -/
def takeFraction : List Char → Option (Nat × List Char)
  | '.' :: rest =>
    let ds := rest.takeWhile Char.isDigit
    let kept := ds.take 9
    if ds.isEmpty then none
    else some (Decimal.ofDigits kept * Nat.pow 10 (9 - kept.length), rest.dropWhile Char.isDigit)
  | cs => some (0, cs)

/-- The time of day at the start of a text: a second of the day and the nanoseconds since it
began. -/
def takeTime (cs : List Char) : Option ((Nat × Nat) × List Char) := do
  let (hour, cs) ← takePart 2 cs
  let cs ← takeMark ':' (Text.trimStart cs)
  let (minute, cs) ← takePart 2 cs
  let cs ← takeMark ':' (Text.trimStart cs)
  let (second, cs) ← takePart 2 cs
  let (fraction, cs) ← takeFraction cs
  if hour < 24 ∧ minute < 60 ∧ second ≤ 60 then
    let leap := second / 60
    some (((hour * 60 + minute) * 60 + second - leap, leap * 1000000000 + fraction), cs)
  else none

/-- Two digits. -/
def takeTwo : List Char → Option (Nat × List Char)
  | a :: b :: rest =>
    if a.isDigit && b.isDigit then some (Decimal.ofDigits [a, b], rest) else none
  | _ => none

/-- Hours and minutes of an offset, in seconds. -/
def takeOffsetTime (cs : List Char) : Option (Nat × List Char) := do
  let (hours, cs) ← takeTwo cs
  let (minutes, cs) ← takeTwo (cs.dropWhile fun c => c = ':' || Text.isBlank c)
  if hours < 24 ∧ minutes < 60 then some (hours * 3600 + minutes * 60, cs) else none

/-- The offset from UTC at the start of a text, in seconds. -/
def takeOffset (cs : List Char) : Option (Int × List Char) :=
  match Text.trimStart cs with
  | 'Z' :: rest | 'z' :: rest => some (0, rest)
  | '+' :: rest => (takeOffsetTime rest).map fun (n, rest) => ((n : Int), rest)
  | '-' :: rest | '−' :: rest => (takeOffsetTime rest).map fun (n, rest) => (-(n : Int), rest)
  | u :: t :: c :: rest =>
    if u.toLower = 'u' ∧ t.toLower = 't' ∧ c.toLower = 'c' then some (0, rest) else none
  | _ => none

/-- Reads a timestamp. -/
def ofText? (s : String) : Option Instant := do
  let (date, cs) ← takeDate s.toList
  let cs ← match cs with
    | 'T' :: rest | 't' :: rest | ' ' :: rest => some rest
    | _ => none
  let ((second, nanos), cs) ← takeTime cs
  let (offset, cs) ← takeOffset cs
  if (Text.trimStart cs).isEmpty && date.exists? then
    (ofSecond? (date.toDays * 86400 + second - offset) nanos).bind told?
  else none

end FeatureTrials.Instant
