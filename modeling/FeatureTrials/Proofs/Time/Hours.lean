import FeatureTrials.Proofs.Time.Order

/-!
# The hours that instants belong to

An instant whose count fits 64 bits is truncated to the beginning of its hour, with one exception: a
leap second at the end of an hour has the count of the next hour already, and so it is an hour of
its own, which begins with the leap second. Any other instant stands for itself
(`Instant.hour_eq_iff_covers`).

* `Instant.IsOnTheHour` — the beginning of an hour of the clock.
* `Instant.EndsHour` — within a leap second at the end of an hour.
* `Instant.Covers` — what happens at an instant is counted in an hour.
-/

namespace FeatureTrials.Instant

/-- The beginning of an hour of the clock. -/
def IsOnTheHour (t : Instant) : Prop := t.second % 3600 = 0 ∧ t.nanos = 0

/-- Within a leap second at the end of an hour. -/
def EndsHour (t : Instant) : Prop := t.second % 3600 = 3599 ∧ t.IsLeap

instance (t : Instant) : Decidable t.IsOnTheHour :=
  inferInstanceAs (Decidable (t.second % 3600 = 0 ∧ t.nanos = 0))

instance (t : Instant) : Decidable t.EndsHour :=
  inferInstanceAs (Decidable (t.second % 3600 = 3599 ∧ t.IsLeap))

/-- What happens at an instant is counted in the hour with a beginning. A leap second at the end of
an hour of the clock is an hour of its own, and so is every instant whose count does not fit. -/
def Covers (start t : Instant) : Prop :=
  if t.isShort = false then start = t
  else if t.EndsHour then start.second = t.second ∧ start.nanos = 1000000000
  else start.IsOnTheHour ∧ start.second ≤ t.second ∧ t.second < start.second + 3600

instance (start t : Instant) : Decidable (start.Covers t) :=
  inferInstanceAs (Decidable (if t.isShort = false then _ else if t.EndsHour then _ else _))

variable {t start : Instant}

/-- A leap second at the end of an hour is truncated to its own beginning. -/
theorem hour_of_endsHour (short : t.isShort = true) (ends : t.EndsHour) :
    t.hour.second = t.second ∧ t.hour.nanos = 1000000000 := by
  obtain ⟨hsecond, hleap⟩ := ends
  have hlower : 1000000000 ≤ t.nanos := hleap
  have hnanos := t.nanos_lt
  have hrest : (t.count % (3600 * nanosPerSecond)).toNat = t.nanos - 1000000000 := by
    simp only [count, nanosPerSecond]
    omega
  have hinside : 1000000000 + (t.nanos - 1000000000) ≤ t.nanos := by omega
  rw [hour, if_pos short, hrest, earlier, dif_pos hinside]
  exact ⟨rfl, Nat.sub_sub_self hlower⟩

/-- Every other instant is truncated to the beginning of the hour of the clock. -/
theorem hour_of_not_endsHour (short : t.isShort = true) (inside : ¬ t.EndsHour) :
    t.hour.second = t.second - t.second % 3600 ∧ t.hour.nanos = 0 := by
  have hnanos := t.nanos_lt
  have hends : ¬ (t.second % 3600 = 3599 ∧ 1000000000 ≤ t.nanos) := inside
  have hrest : t.count % (3600 * nanosPerSecond) =
      t.count - (t.second - t.second % 3600) * nanosPerSecond := by
    simp only [count, nanosPerSecond]
    omega
  have hnonneg : 0 ≤ t.count % (3600 * nanosPerSecond) := by
    simp only [nanosPerSecond]
    omega
  have hout : ¬ 1000000000 + (t.count % (3600 * nanosPerSecond)).toNat ≤ t.nanos := by
    rw [hrest]
    simp only [count, nanosPerSecond]
    omega
  rw [hour, if_pos short, earlier, dif_neg hout, Int.toNat_of_nonneg hnonneg, hrest]
  simp only [ofNanos, nanosPerSecond]
  omega

/-- The hours that instants are truncated to are those they are counted in. -/
theorem hour_eq_iff_covers : t.hour = start ↔ start.Covers t := by
  have hext : t.hour = start ↔ t.hour.second = start.second ∧ t.hour.nanos = start.nanos := by
    cases t.hour
    cases start
    simp
  rw [Covers]
  cases short : t.isShort with
  | false =>
    rw [hour, if_neg (ne_true_of_eq_false short), if_pos rfl]
    exact eq_comm
  | true =>
    rw [hext, if_neg (Bool.noConfusion : ¬ true = false)]
    by_cases ends : t.EndsHour
    · obtain ⟨hsecond, hnanos⟩ := hour_of_endsHour short ends
      rw [if_pos ends, hsecond, hnanos]
      omega
    · obtain ⟨hsecond, hnanos⟩ := hour_of_not_endsHour short ends
      rw [if_neg ends, hsecond, hnanos, IsOnTheHour]
      omega

/-- The hours are those of the clock, but for a leap second at the end of one and for instants whose
count does not fit. -/
theorem isOnTheHour_hour (t : Instant) :
    t.hour.IsOnTheHour ∨ (t.hour.EndsHour ∧ t.hour.nanos = 1000000000) ∨
      t.hour.isShort = false := by
  cases short : t.isShort with
  | false =>
    rw [hour, if_neg (ne_true_of_eq_false short)]
    exact .inr (.inr short)
  | true =>
    by_cases ends : t.EndsHour
    · obtain ⟨hsecond, hnanos⟩ := hour_of_endsHour short ends
      exact .inr (.inl ⟨⟨hsecond ▸ ends.1, Nat.le_of_eq hnanos.symm⟩, hnanos⟩)
    · obtain ⟨hsecond, hnanos⟩ := hour_of_not_endsHour short ends
      refine .inl ⟨?_, hnanos⟩
      rw [hsecond]
      omega

end FeatureTrials.Instant
