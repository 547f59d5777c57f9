import Mathlib.Order.Bounds.Defs
import FeatureTrials.Proofs.Rollout.Transparency
import FeatureTrials.Proofs.Time.Order

/-!
# The timetable of a rollout

Counted from the committed position, every stage begins when the one before it has run its full
duration. This timetable does not depend on when somebody looks: at any instant a rollout stands at
the first stage that holds it there, since the instant the timetable gives, and that is what is
committed. So no delay of the monitor shifts a later stage.

* `Strategy.beginning?` — the timetable.
* `Strategy.Holds` — a stage lets nobody past at an instant.
* `Progress.stands_at_first_holding` — the main result.
-/

namespace FeatureTrials

namespace Strategy

/-- When a stage begins, if the stages from a position on run one after the other, each for its full
duration. There is no such instant for the stages before the position, nor behind a stage whose end
cannot be told. -/
def beginning? (strategy : Strategy) (since : Position) : Nat → Option Instant
  | 0 => if since.index = 0 then some since.startedAt else none
  | index + 1 =>
    if since.index = index + 1 then some since.startedAt
    else do
      let start ← strategy.beginning? since index
      let stage ← strategy.stages[index]?
      start.add? stage.duration

/-- A stage holds a rollout at an instant: it is the last one, or it does not complete on its own,
or it has no duration, or it ends later (or at no instant that can be told). -/
def Holds (strategy : Strategy) (since : Position) (now : Instant) (index : Nat) : Prop :=
  index + 1 = strategy.stages.length ∨
    ∃ stage, strategy.stages[index]? = some stage ∧
      (stage.autoAdvance = false ∨ stage.duration.isZero = true ∨
        ∀ start stop, strategy.beginning? since index = some start →
          start.add? stage.duration = some stop → now < stop)

variable {strategy : Strategy} {since position : Position} {stage : Stage}

theorem beginning?_self (strategy : Strategy) (since : Position) :
    strategy.beginning? since since.index = some since.startedAt := by
  cases h : since.index with
  | zero => rw [beginning?, if_pos h]
  | succ index => rw [beginning?, if_pos h]

/-- Behind the position, a stage begins when the one before it ends. -/
theorem beginning?_succ {index : Nat} (hle : since.index ≤ index) {start stop : Instant}
    (hstart : strategy.beginning? since index = some start)
    (hstage : strategy.stages[index]? = some stage)
    (hstop : start.add? stage.duration = some stop) :
    strategy.beginning? since (index + 1) = some stop := by
  have hne : since.index ≠ index + 1 := by omega
  rw [beginning?, if_neg hne, hstart, hstage]
  exact hstop

/-- Of the stages before the last one, those hold that have not elapsed. -/
theorem holds_iff_elapsedBy_eq_none (now : Instant)
    (hstage : strategy.stages[position.index]? = some stage)
    (hlast : position.index + 1 ≠ strategy.stages.length)
    (hstart : strategy.beginning? since position.index = some position.startedAt) :
    strategy.Holds since now position.index ↔ stage.elapsedBy position.startedAt now = none := by
  constructor
  · rintro (heq | ⟨other, hother, hholds⟩)
    · exact absurd heq hlast
    · rw [hstage] at hother
      cases hother
      rw [Option.eq_none_iff_forall_ne_some]
      intro stop helapsed
      obtain ⟨hauto, hspan, hstop, hle⟩ := Stage.elapsedBy_eq_some_iff.mp helapsed
      rcases hholds with hmanual | hzero | hlater
      · exact absurd (hauto.symm.trans hmanual) (by decide)
      · exact absurd (hspan.symm.trans hzero) (by decide)
      · exact Instant.not_lt.mpr hle (hlater _ _ hstart hstop)
  · intro hnone
    refine .inr ⟨stage, hstage, ?_⟩
    cases hauto : stage.autoAdvance with
    | false => exact .inl rfl
    | true =>
      cases hspan : stage.duration.isZero with
      | true => exact .inr (.inl rfl)
      | false =>
        refine .inr (.inr fun start stop hstart' hstop => ?_)
        rw [hstart] at hstart'
        cases hstart'
        refine Decidable.byContradiction fun hlt => ?_
        have helapsed := Stage.elapsedBy_eq_some_iff.mpr
          ⟨hauto, hspan, hstop, Instant.not_lt.mp hlt⟩
        rw [hnone] at helapsed
        cases helapsed

end Strategy

/-! ## The walk along the timetable -/

/-- A position is the first one behind another whose stage holds, and it is reached in time. -/
structure Position.Leads (strategy : Strategy) (since : Position) (now : Instant)
    (position reached : Position) : Prop where
  index_le : position.index ≤ reached.index
  holds : strategy.Holds since now reached.index
  passed : ∀ index, position.index ≤ index → index < reached.index →
    ¬ strategy.Holds since now index
  begins : strategy.beginning? since reached.index = some reached.startedAt

namespace Position

variable {strategy : Strategy} {since position next reached : Position} {now : Instant}

theorem Leads.here (holds : strategy.Holds since now position.index)
    (hstart : strategy.beginning? since position.index = some position.startedAt) :
    Leads strategy since now position position where
  index_le := Nat.le_refl _
  holds := holds
  passed := fun _ hfrom hto => absurd hto (Nat.not_lt.mpr hfrom)
  begins := hstart

theorem Leads.further (hpast : ¬ strategy.Holds since now position.index)
    (hnext : next.index = position.index + 1) (leads : Leads strategy since now next reached) :
    Leads strategy since now position reached where
  index_le := by
    have hle := leads.index_le
    omega
  holds := leads.holds
  passed := by
    intro index hfrom hto
    rcases Nat.eq_or_lt_of_le hfrom with rfl | hlt
    · exact hpast
    · exact leads.passed index (by omega) hto
  begins := leads.begins

/-- The walk over the elapsed stages leads to the first stage that holds. -/
theorem leads_settle (now : Instant) {stages : List Stage} (nonempty : stages ≠ [])
    (hdrop : strategy.stages.drop position.index = stages) (hle : since.index ≤ position.index)
    (hstart : strategy.beginning? since position.index = some position.startedAt) :
    Leads strategy since now position (position.settle now stages) := by
  induction stages generalizing position with
  | nil => exact absurd rfl nonempty
  | cons stage rest ih =>
    have hlength := congrArg List.length hdrop
    rw [List.length_drop, List.length_cons] at hlength
    have hstage : strategy.stages[position.index]? = some stage := by
      rw [← List.head?_drop, hdrop]
      rfl
    have hrest : strategy.stages.drop (position.index + 1) = rest := by
      rw [← List.tail_drop, hdrop]
      rfl
    cases rest with
    | nil =>
      rw [settle_singleton]
      refine .here (.inl ?_) hstart
      rw [List.length_nil] at hlength
      omega
    | cons next rest =>
      rw [List.length_cons] at hlength
      have hlast : position.index + 1 ≠ strategy.stages.length := by omega
      have hholds := Strategy.holds_iff_elapsedBy_eq_none now hstage hlast hstart
      cases helapsed : stage.elapsedBy position.startedAt now with
      | none =>
        rw [settle_of_not_elapsed _ helapsed]
        exact .here (hholds.mpr helapsed) hstart
      | some stop =>
        rw [settle_of_elapsed next rest helapsed]
        obtain ⟨-, -, hstop, -⟩ := Stage.elapsedBy_eq_some_iff.mp helapsed
        have hpast : ¬ strategy.Holds since now position.index := by
          rw [hholds, helapsed]
          exact Option.some_ne_none stop
        have hnext := Strategy.beginning?_succ hle hstart hstage hstop
        exact .further hpast rfl
          (ih (List.cons_ne_nil _ _) hrest (Nat.le_succ_of_le hle) hnext)

end Position

namespace Progress

variable {strategy : Strategy} {progress : Progress}

/-- **A rollout stands at the first stage that holds it**, from the committed one on, unless it is
paused or rolled back. A tick commits that stage, and that it began when the timetable says. -/
theorem stands_at_first_holding (inRange : progress.stageIndex < strategy.stages.length)
    (unpaused : progress.paused = false) (kept : progress.rolledBack = false) (now : Instant) :
    let since : Position := ⟨progress.stageIndex, progress.stageStartedAt⟩
    ∃ index stage start,
      IsLeast {j | progress.stageIndex ≤ j ∧ strategy.Holds since now j} index ∧
      strategy.stages[index]? = some stage ∧ progress.activeStage? strategy now = some stage ∧
      strategy.beginning? since index = some start ∧
      progress.tick strategy now =
        { progress with stageIndex := index, stageStartedAt := start } := by
  intro since
  have hcommitted : progress.committed strategy = since := by
    rw [committed, Nat.min_eq_left (by omega)]
  have hresolve : progress.resolve strategy now =
      since.settle now (strategy.stages.drop since.index) := by
    rw [resolve_of_active strategy (by rw [unpaused, kept]; rfl), hcommitted]
  have nonempty : strategy.stages.drop since.index ≠ [] := by
    rw [Ne, List.drop_eq_nil_iff, Nat.not_le]
    exact inRange
  have leads : Position.Leads strategy since now since (progress.resolve strategy now) := by
    rw [hresolve]
    exact Position.leads_settle now nonempty rfl (Nat.le_refl _)
      (Strategy.beginning?_self strategy since)
  have stages : strategy.stages ≠ [] := List.length_pos_iff.mp (Nat.zero_lt_of_lt inRange)
  have hstage := List.getElem?_eq_getElem (resolve_index_lt stages progress now)
  refine ⟨_, _, _, ⟨⟨leads.index_le, leads.holds⟩, ?_⟩, hstage, hstage, leads.begins, rfl⟩
  rintro index ⟨hfrom, hholds⟩
  exact Nat.not_lt.mp fun hlt => leads.passed index hfrom hlt hholds

/-! ### A rollout nobody has looked at for days

The second stage of the gradual strategy has begun after 30 hours and runs for 48. Nobody looks
until 100 hours have passed; the third stage is then 22 hours old. -/

/-- The rollout as it has been committed. -/
def unwatched : Progress :=
  { start (atHour 0) with stageIndex := 1, stageStartedAt := atHour 30 }

theorem stands_at_first_holding_gradual :
    unwatched.stageIndex < Strategy.gradual.stages.length ∧ unwatched.paused = false ∧
      unwatched.rolledBack = false ∧
      IsLeast {j | 1 ≤ j ∧ Strategy.gradual.Holds ⟨1, atHour 30⟩ (atHour 100) j} 2 ∧
      Strategy.gradual.beginning? ⟨1, atHour 30⟩ 2 = some (atHour 78) ∧
      unwatched.tick .gradual (atHour 100) =
        { unwatched with stageIndex := 2, stageStartedAt := atHour 78 } := by
  have inRange : unwatched.stageIndex < Strategy.gradual.stages.length := by decide
  have hticked : unwatched.tick .gradual (atHour 100) =
      { unwatched with stageIndex := 2, stageStartedAt := atHour 78 } := by decide
  obtain ⟨index, stage, start, hleast, -, -, hbegins, htick⟩ :=
    stands_at_first_holding inRange rfl rfl (atHour 100)
  obtain ⟨-, hindex, hstart, -⟩ := Progress.mk.inj (htick.symm.trans hticked)
  cases hindex
  cases hstart
  exact ⟨inRange, rfl, rfl, hleast, hbegins, hticked⟩

end Progress

end FeatureTrials
