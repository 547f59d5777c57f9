import FeatureTrials.Time.Instant

/-!
# The order of instants

Instants are linearly ordered. The order is that of their counts but for leap seconds, which have
the counts of the seconds behind them. So taking the same span off two instants keeps their order
when their counts have the same order (`Instant.earlier_le_earlier`). Adding a span that is not zero
always leads to a later instant (`Instant.lt_of_add?`).
-/

namespace FeatureTrials.Instant

variable {a b c : Instant}

theorem lt_iff : a < b ↔ a.second < b.second ∨ (a.second = b.second ∧ a.nanos < b.nanos) :=
  Iff.rfl

theorem lt_irrefl (t : Instant) : ¬ t < t := by
  rw [lt_iff]
  omega

theorem lt_trans (hab : a < b) (hbc : b < c) : a < c := by
  rw [lt_iff] at hab hbc ⊢
  omega

theorem not_lt : ¬ a < b ↔ b ≤ a := by
  rw [lt_iff, le_iff]
  omega

theorem lt_of_le_of_lt (hab : a ≤ b) (hbc : b < c) : a < c := by
  rw [le_iff] at hab
  rw [lt_iff] at hbc ⊢
  omega

theorem ne_of_lt (h : a < b) : a ≠ b :=
  fun heq => lt_irrefl b (heq ▸ h)

/-- Of two different instants one is earlier. -/
theorem lt_of_not_lt_of_ne (hlt : ¬ a < b) (hne : a ≠ b) : b < a := by
  have hle : b ≤ a := not_lt.mp hlt
  rw [le_iff] at hle
  rw [lt_iff]
  rcases hle with hle | ⟨hsecond, hnanos⟩
  · exact .inl hle
  · refine .inr ⟨hsecond, Nat.lt_of_le_of_ne hnanos fun heq => hne ?_⟩
    cases a
    cases b
    simp_all

/-! ## Earlier instants -/

variable {d : Span}

/-- An instant that is not in a leap second has no greater count than those behind it. -/
theorem count_le_count (hle : a ≤ b) (regular : ¬ a.IsLeap) : a.count ≤ b.count := by
  have hnanos : ¬ 1000000000 ≤ a.nanos := regular
  rw [le_iff] at hle
  simp only [count, nanosPerSecond]
  omega

theorem le_ofNanos_iff {n : Int} :
    a ≤ ofNanos n ↔ a.second < n / 1000000000 ∨
      (a.second = n / 1000000000 ∧ (a.nanos : Int) ≤ n % 1000000000) := by
  rw [le_iff]
  simp only [ofNanos, nanosPerSecond]
  omega

theorem ofNanos_le_iff {n : Int} :
    ofNanos n ≤ a ↔ n / 1000000000 < a.second ∨
      (n / 1000000000 = a.second ∧ n % 1000000000 ≤ (a.nanos : Int)) := by
  rw [le_iff]
  simp only [ofNanos, nanosPerSecond]
  omega

/-- Taking a span off does not lead to a later instant. -/
theorem earlier_le (t : Instant) (d : Span) : t.earlier d ≤ t := by
  rw [earlier]
  split
  · exact .inr ⟨rfl, Nat.sub_le _ _⟩
  · have hnanos := t.nanos_lt
    rw [ofNanos_le_iff]
    simp only [count, nanosPerSecond]
    omega

/-- Taking the same span off keeps the order of instants whose counts have the same order. -/
theorem earlier_le_earlier (hle : a ≤ b) (hcount : a.count ≤ b.count) :
    a.earlier d ≤ b.earlier d := by
  have ha := a.nanos_lt
  have hb := b.nanos_lt
  rw [le_iff] at hle
  simp only [count, nanosPerSecond] at hcount
  rw [earlier, earlier]
  split <;> split
  · rw [le_iff]
    dsimp only
    omega
  · rw [le_ofNanos_iff]
    simp only [count, nanosPerSecond]
    omega
  · rw [ofNanos_le_iff]
    simp only [count, nanosPerSecond]
    omega
  · rw [le_ofNanos_iff]
    simp only [ofNanos, count, nanosPerSecond]
    omega

/-! ## Later instants -/

/-- A span that is not zero leads to a later instant. -/
theorem lt_later (hspan : d.isZero = false) (t : Instant) : t < t.later d := by
  have hpos : d.nanos ≠ 0 := of_decide_eq_false hspan
  have hnanos := t.nanos_lt
  rw [later]
  split
  · next leap =>
    have hleap : 1000000000 ≤ t.nanos := leap
    split
    · refine .inr ⟨rfl, ?_⟩
      dsimp only
      omega
    · rw [lt_iff]
      simp only [ofNanos, count, nanosPerSecond]
      omega
  · rw [lt_iff]
    simp only [ofNanos, count, nanosPerSecond]
    omega

/-! ## Instants that can be told -/

theorem days_le_days (hle : a ≤ b) : a.days ≤ b.days := by
  rw [le_iff] at hle
  simp only [days]
  omega

/-- What lies between two instants that can be told can be told. -/
theorem told?_of_le_of_le (hab : a ≤ b) (hbc : b ≤ c) (ha : a.told? = some a)
    (hc : c.told? = some c) : b.told? = some b := by
  have hdays := days_le_days hab
  have hdays' := days_le_days hbc
  obtain ⟨ha, -⟩ := Option.ite_none_right_eq_some.mp ha
  obtain ⟨hc, -⟩ := Option.ite_none_right_eq_some.mp hc
  exact if_pos ⟨Int.le_trans ha.1 hdays, Int.lt_of_le_of_lt hdays' hc.2⟩

theorem told?_eq_some_iff : a.told? = some b ↔ a = b ∧ b.told? = some b := by
  constructor
  · intro h
    obtain ⟨-, heq⟩ := Option.ite_none_right_eq_some.mp h
    cases heq
    exact ⟨rfl, h⟩
  · rintro ⟨rfl, h⟩
    exact h

theorem lt_of_add? (hspan : d.isZero = false) (hadd : a.add? d = some b) : a < b := by
  rw [add?] at hadd
  obtain ⟨-, hlater⟩ := Option.ite_none_right_eq_some.mp hadd
  obtain ⟨rfl, -⟩ := told?_eq_some_iff.mp hlater
  exact lt_later hspan a

/-- A later instant allows to take a span off when an earlier one does. -/
theorem sub?_le_sub? (hle : a ≤ b) (hcount : a.count ≤ b.count) (told : b.told? = some b)
    (hsub : a.sub? d = some c) : ∃ c', b.sub? d = some c' ∧ c ≤ c' := by
  rw [sub?] at hsub
  obtain ⟨addable, hearlier⟩ := Option.ite_none_right_eq_some.mp hsub
  obtain ⟨rfl, hc⟩ := told?_eq_some_iff.mp hearlier
  have hmono : a.earlier d ≤ b.earlier d := earlier_le_earlier hle hcount
  refine ⟨b.earlier d, ?_, hmono⟩
  rw [sub?, if_pos addable]
  exact told?_of_le_of_le hmono (earlier_le b d) hc told

end FeatureTrials.Instant
