import FeatureTrials.Analytics.Basic
import FeatureTrials.Proofs.Time.Order

/-!
# What a cleanup drops

A cleanup drops the events that happened no later than the retention before it, and keeps the others
in their order. So two cleanups in a row drop what the one with the later cutoff drops. The later
reading of the clock has the later cutoff, but for one case: taking the retention off counts back
from the second behind a leap second when it leads out of it, and may end up behind the cutoff of a
reading just after the leap second.
-/

namespace FeatureTrials

namespace EventLog

variable (log : EventLog) (cutoff : Instant)

@[simp] theorem exposures_after :
    (log.after cutoff).exposures.toList = log.exposures.toList.filter (cutoff < ·.time) :=
  Array.toList_filter

@[simp] theorem conversions_after :
    (log.after cutoff).conversions.toList = log.conversions.toList.filter (cutoff < ·.time) :=
  Array.toList_filter

@[simp] theorem evaluations_after :
    (log.after cutoff).evaluations.toList = log.evaluations.toList.filter (cutoff < ·.time) :=
  Array.toList_filter

/-- The number of events up to an instant. -/
def expiredSize : Nat :=
  log.exposures.toList.countP (·.time ≤ cutoff) + log.conversions.toList.countP (·.time ≤ cutoff) +
    log.evaluations.toList.countP (·.time ≤ cutoff)

theorem size_eq_length :
    log.size =
      log.exposures.toList.length + log.conversions.toList.length + log.evaluations.toList.length :=
  rfl

/-- An event is dropped or it is left. -/
theorem length_filter_add_countP {α : Type} (time : α → Instant) (l : List α) :
    (l.filter fun a => cutoff < time a).length + l.countP (fun a => time a ≤ cutoff) =
      l.length := by
  rw [← List.countP_eq_length_filter, List.length_eq_countP_add_countP fun a => cutoff < time a]
  simp only [decide_eq_true_eq, Instant.not_lt]

theorem size_after_add_expiredSize :
    (log.after cutoff).size + log.expiredSize cutoff = log.size := by
  have hexposures := length_filter_add_countP cutoff Exposure.time log.exposures.toList
  have hconversions := length_filter_add_countP cutoff Conversion.time log.conversions.toList
  have hevaluations := length_filter_add_countP cutoff Evaluation.time log.evaluations.toList
  rw [size_eq_length, size_eq_length, exposures_after, conversions_after, evaluations_after,
    expiredSize]
  omega

theorem size_sub_size_after : log.size - (log.after cutoff).size = log.expiredSize cutoff := by
  have := log.size_after_add_expiredSize cutoff
  omega

/-- A log is determined by its lists of events. -/
theorem ext_toList {other : EventLog}
    (hexposures : log.exposures.toList = other.exposures.toList)
    (hconversions : log.conversions.toList = other.conversions.toList)
    (hevaluations : log.evaluations.toList = other.evaluations.toList) : log = other := by
  cases log
  cases other
  rw [mk.injEq]
  exact ⟨Array.toList_inj.mp hexposures, Array.toList_inj.mp hconversions,
    Array.toList_inj.mp hevaluations⟩

variable {cutoff} {before : Instant}

/-- Of two cutoffs the later one decides, in whatever order they are applied. -/
theorem after_after (hle : before ≤ cutoff) :
    (log.after before).after cutoff = log.after cutoff ∧
      (log.after cutoff).after before = log.after cutoff := by
  have hboth : ∀ t : Instant, cutoff < t → before < t := fun t ht =>
    Instant.lt_of_le_of_lt hle ht
  have hand : ∀ t : Instant,
      (decide (cutoff < t) && decide (before < t)) = decide (cutoff < t) := by
    intro t
    rw [← Bool.decide_and, decide_eq_decide]
    exact and_iff_left_of_imp (hboth t)
  constructor <;> apply ext_toList _ <;>
    simp only [exposures_after, conversions_after, evaluations_after, List.filter_filter,
      Bool.and_comm (decide (before < _)), hand]

end EventLog

namespace Analytics

variable {a : Analytics} {now earlier later cutoff : Instant}

theorem cleanup_of_cutoff (h : a.cutoff? now = some cutoff) :
    a.cleanup now = { a with log := a.log.after cutoff } := by
  rw [cleanup, h]

theorem cleanup_of_no_cutoff (h : a.cutoff? now = none) : a.cleanup now = a := by
  rw [cleanup, h]

theorem expired_of_cutoff (h : a.cutoff? now = some cutoff) :
    a.expired now = a.log.expiredSize cutoff := by
  rw [expired, cleanup_of_cutoff h]
  exact a.log.size_sub_size_after cutoff

theorem expired_of_no_cutoff (h : a.cutoff? now = none) : a.expired now = 0 := by
  rw [expired, cleanup_of_no_cutoff h, Nat.sub_self]

/-- A cleanup does not change how long events are retained. -/
@[simp] theorem retention_cleanup : (a.cleanup now).retention = a.retention := by
  rw [cleanup]
  split <;> rfl

theorem cutoff?_cleanup : (a.cleanup now).cutoff? later = a.cutoff? later := by
  rw [cutoff?, retention_cleanup, cutoff?]

/-- What a cleanup counts and what it leaves are all events. -/
theorem size_cleanup_add_expired (a : Analytics) (now : Instant) :
    (a.cleanup now).log.size + a.expired now = a.log.size := by
  cases h : a.cutoff? now with
  | none => rw [cleanup_of_no_cutoff h, expired_of_no_cutoff h, Nat.add_zero]
  | some cutoff =>
    rw [cleanup_of_cutoff h, expired_of_cutoff h]
    exact a.log.size_after_add_expiredSize cutoff

/-- Where a cleanup at the earlier reading has a cutoff, the later one has one that is no
earlier. -/
def Precedes (a : Analytics) (earlier later : Instant) : Prop :=
  ∀ cutoff, a.cutoff? earlier = some cutoff →
    ∃ cutoff', a.cutoff? later = some cutoff' ∧ cutoff ≤ cutoff'

theorem precedes_of_le (hle : earlier ≤ later) (hcount : earlier.count ≤ later.count)
    (told : later.told? = some later) : a.Precedes earlier later :=
  fun _ => Instant.sub?_le_sub? hle hcount told

/-- Two cleanups in a row, in either order, are the one with the later cutoff. -/
theorem Precedes.cleanup_cleanup (precedes : a.Precedes earlier later) :
    (a.cleanup earlier).cleanup later = a.cleanup later ∧
      (a.cleanup later).cleanup earlier = a.cleanup later := by
  cases h : a.cutoff? earlier with
  | none =>
    have hlate : (a.cleanup later).cutoff? earlier = none := cutoff?_cleanup.trans h
    rw [cleanup_of_no_cutoff h, cleanup_of_no_cutoff hlate]
    exact ⟨rfl, rfl⟩
  | some cutoff =>
    obtain ⟨cutoff', h', hle⟩ := precedes cutoff h
    have hlate : (a.cleanup later).cutoff? earlier = some cutoff := cutoff?_cleanup.trans h
    have hearly : (a.cleanup earlier).cutoff? later = some cutoff' := cutoff?_cleanup.trans h'
    obtain ⟨hfirst, hsecond⟩ := a.log.after_after hle
    rw [cleanup_of_cutoff hearly, cleanup_of_cutoff hlate, cleanup_of_cutoff h,
      cleanup_of_cutoff h']
    exact ⟨by rw [hfirst], by rw [hsecond]⟩

/-- The events that two cleanups in a row drop are those that the one with the later cutoff
drops. -/
theorem Precedes.expired_add_expired (precedes : a.Precedes earlier later) :
    a.expired earlier + (a.cleanup earlier).expired later = a.expired later ∧
      a.expired later + (a.cleanup later).expired earlier = a.expired later := by
  obtain ⟨hfirst, hsecond⟩ := precedes.cleanup_cleanup
  have hearlier := a.size_cleanup_add_expired earlier
  have hlater := a.size_cleanup_add_expired later
  have hthen := (a.cleanup earlier).size_cleanup_add_expired later
  have hback := (a.cleanup later).size_cleanup_add_expired earlier
  rw [hfirst] at hthen
  rw [hsecond] at hback
  omega

end Analytics

end FeatureTrials
