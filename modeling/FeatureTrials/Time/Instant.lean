import FeatureTrials.Time.Calendar

/-!
# Instants and spans

An instant is a second of the calendar, counted from the beginning of 1970, with the nanoseconds
since it began; a span is a length of time. Adding or subtracting a span fails when the result
leaves the years -262143 to 262142, or when the span is longer than `2 ^ 63 - 1` milliseconds.

A minute may end with a leap second. It has no number of its own: it is the second half of the
minute's last second, which then lasts twice as long. Instants are ordered by the second and then
by the nanoseconds, so a leap second lies between the two seconds around it.
-/

namespace FeatureTrials

/-- The nanoseconds of a second. -/
def nanosPerSecond : Int := 1000000000

/-- A length of time. -/
structure Span where
  nanos : Nat
  deriving DecidableEq, Repr

namespace Span

/-- Whole seconds. -/
def ofSeconds (n : Nat) : Span := ⟨n * 1000000000⟩

/-- Whole minutes. -/
def ofMinutes (n : Nat) : Span := ofSeconds (n * 60)

/-- Whole hours. -/
def ofHours (n : Nat) : Span := ofSeconds (n * 3600)

/-- Whole days. -/
def ofDays (n : Nat) : Span := ofHours (n * 24)

/-- Whole milliseconds. -/
def ofMillis (n : Nat) : Span := ⟨n * 1000000⟩

/-- No time at all. -/
def isZero (d : Span) : Bool := d.nanos = 0

/-- The nearest number of whole seconds, a half rounded up. -/
def seconds (d : Span) : Nat := (d.nanos + 500000000) / 1000000000

/-- Short enough to be added to an instant. -/
def isAddable (d : Span) : Bool := d.nanos ≤ 0x7FFFFFFFFFFFFFFF * 1000000

@[simp] theorem seconds_ofSeconds (n : Nat) : (ofSeconds n).seconds = n := by
  simp only [ofSeconds, seconds]
  omega

end Span

/-- A point in time. -/
structure Instant where
  second : Int
  nanos : Nat
  /-- only the last second of a minute may be followed by a leap second -/
  nanos_lt : nanos < 1000000000 ∨ (second % 60 = 59 ∧ nanos < 2000000000)
  deriving DecidableEq, Repr

namespace Instant

/-- The instant of a second and the nanoseconds since it began, if it has so many. -/
def ofSecond? (second : Int) (nanos : Nat) : Option Instant :=
  if h : nanos < 1000000000 ∨ (second % 60 = 59 ∧ nanos < 2000000000) then
    some ⟨second, nanos, h⟩
  else none

/-- The instant a count of nanoseconds after the beginning of 1970, on a clock without leap
seconds. -/
def ofNanos (n : Int) : Instant where
  second := n / nanosPerSecond
  nanos := (n % nanosPerSecond).toNat
  nanos_lt := by
    left
    simp only [nanosPerSecond]
    omega

/-- The nanoseconds since the beginning of 1970 on a clock without leap seconds; a leap second has
the count of the second behind it. -/
def count (t : Instant) : Int := t.second * nanosPerSecond + t.nanos

@[simp] theorem count_ofNanos (n : Int) : (ofNanos n).count = n := by
  simp only [count, ofNanos, nanosPerSecond]
  omega

/-- The instant is in a leap second. -/
abbrev IsLeap (t : Instant) : Prop := 1000000000 ≤ t.nanos

/-- The day of an instant. -/
def days (t : Instant) : Int := t.second / 86400

/-- The second of the day. -/
def secondOfDay (t : Instant) : Nat := (t.second % 86400).toNat

instance : LT Instant :=
  ⟨fun a b => a.second < b.second ∨ (a.second = b.second ∧ a.nanos < b.nanos)⟩

instance : LE Instant :=
  ⟨fun a b => a.second < b.second ∨ (a.second = b.second ∧ a.nanos ≤ b.nanos)⟩

instance (a b : Instant) : Decidable (a < b) :=
  inferInstanceAs (Decidable (a.second < b.second ∨ (a.second = b.second ∧ a.nanos < b.nanos)))

instance (a b : Instant) : Decidable (a ≤ b) :=
  inferInstanceAs (Decidable (a.second < b.second ∨ (a.second = b.second ∧ a.nanos ≤ b.nanos)))

theorem le_iff {a b : Instant} :
    a ≤ b ↔ a.second < b.second ∨ (a.second = b.second ∧ a.nanos ≤ b.nanos) :=
  Iff.rfl

theorem le_refl (t : Instant) : t ≤ t := .inr ⟨rfl, Nat.le_refl _⟩

theorem le_trans {a b c : Instant} (hab : a ≤ b) (hbc : b ≤ c) : a ≤ c := by
  rw [le_iff] at hab hbc ⊢
  omega

/-- The instant, if it lies in the years that can be told. -/
def told? (t : Instant) : Option Instant :=
  if (Date.mk (-262143) 1 1).toDays ≤ t.days ∧ t.days < (Date.mk 262143 1 1).toDays then some t
  else none

/-- The instant a span later. A span that leads out of a leap second is counted from the second
before the leap second. -/
def later (t : Instant) (d : Span) : Instant :=
  if leap : t.IsLeap then
    if inside : t.nanos + d.nanos < 2000000000 then
      { t with nanos := t.nanos + d.nanos, nanos_lt := by have := t.nanos_lt; omega }
    else ofNanos (t.count - nanosPerSecond + d.nanos)
  else ofNanos (t.count + d.nanos)

/-- The instant a span earlier. A span that leads out of a leap second is counted from the second
behind the leap second. -/
def earlier (t : Instant) (d : Span) : Instant :=
  if inside : 1000000000 + d.nanos ≤ t.nanos then
    { t with nanos := t.nanos - d.nanos, nanos_lt := by have := t.nanos_lt; omega }
  else ofNanos (t.count - d.nanos)

/-- The instant a span later, if it can be told. -/
def add? (t : Instant) (d : Span) : Option Instant :=
  if d.isAddable then (t.later d).told? else none

/-- The instant a span earlier, if it can be told. -/
def sub? (t : Instant) (d : Span) : Option Instant :=
  if d.isAddable then (t.earlier d).told? else none

/-- The nanoseconds that a leap second adds to the time between two instants: it counts when the
other instant has a later time of day. -/
def leapBetween (start stop : Instant) : Int :=
  if start.secondOfDay < stop.secondOfDay then if start.IsLeap then nanosPerSecond else 0
  else if stop.secondOfDay < start.secondOfDay then if stop.IsLeap then -nanosPerSecond else 0
  else 0

/-- The time from one instant to a later one. -/
def until? (start stop : Instant) : Option Span :=
  let nanos := stop.count - start.count + leapBetween start stop
  if 0 ≤ nanos then some ⟨nanos.toNat⟩ else none

/-- The count of nanoseconds fits 64 bits. -/
def isShort (t : Instant) : Bool := -0x8000000000000000 ≤ t.count && t.count < 0x8000000000000000

/-- The beginning of the hour; an instant whose count does not fit 64 bits stands for itself. -/
def hour (t : Instant) : Instant :=
  if t.isShort then t.earlier ⟨(t.count % (3600 * nanosPerSecond)).toNat⟩ else t

end Instant

end FeatureTrials
