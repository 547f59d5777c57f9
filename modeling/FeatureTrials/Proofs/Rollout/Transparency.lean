import FeatureTrials.Proofs.Rollout.Resolve
import FeatureTrials.Rollout.Defaults

/-!
# Watching a rollout does not change it

A monitor commits elapsed stages from time to time and raises alerts. How often it does so, or
whether it does at all, cannot be told from what operators do and from what users get.

* `Progress.Step`, `Progress.after`, `Progress.answers` — the steps of a rollout as values, and a
  run of them.
* `Thinned` — a run from which some of the monitor's steps are left out.
* `AgreesFrom` — two progresses that nobody can tell apart from an instant on. Every step keeps it,
  and a step of the monitor on one side only keeps it too; this is the simulation behind
* `Progress.transparent` — the main result.
-/

namespace FeatureTrials

namespace Progress

/-! ## Steps and runs -/

/-- What can happen to the progress of a rollout. -/
inductive Step where
  | tick
  | advance
  | pause
  | resume
  | rollback
  /-- the action of a failed safety check -/
  | apply (action : SafetyAction)
  deriving DecidableEq, Repr

/-- A step that only watches: the monitor commits what has elapsed, or raises an alert. -/
def Step.isWatch : Step → Bool
  | .tick => true
  | .apply .alert => true
  | _ => false

/-- The progress after a step. -/
def after (progress : Progress) (strategy : Strategy) (now : Instant) : Step → Progress
  | .tick => progress.tick strategy now
  | .advance => progress.advance strategy now
  | .pause => progress.pause strategy now
  | .resume => progress.resume now
  | .rollback => progress.rollback strategy now
  | .apply action => progress.apply action strategy now

/-- The answer to a step: an operator who advances a rollout is told whether it moved. -/
def answer? (progress : Progress) (strategy : Strategy) (now : Instant) : Step → Option Bool
  | .advance => some (progress.advances strategy now)
  | _ => none

/-- The progress after a run of steps, each at its reading of the clock. -/
def afterAll (strategy : Strategy) : Progress → List (Instant × Step) → Progress
  | progress, [] => progress
  | progress, (now, step) :: rest => afterAll strategy (progress.after strategy now step) rest

/-- The answers to a run of steps. -/
def answers (strategy : Strategy) : Progress → List (Instant × Step) → List Bool
  | _, [] => []
  | progress, (now, step) :: rest =>
    (progress.answer? strategy now step).toList ++
      answers strategy (progress.after strategy now step) rest

/-- Every step leaves the committed stage among the stages of the strategy. -/
theorem stageIndex_after_lt {strategy : Strategy} {progress : Progress}
    (inRange : progress.stageIndex < strategy.stages.length) (now : Instant) (step : Step) :
    (progress.after strategy now step).stageIndex < strategy.stages.length := by
  have stages : strategy.stages ≠ [] := List.length_pos_iff.mp (Nat.zero_lt_of_lt inRange)
  have ticked := resolve_index_lt stages progress now
  cases step with
  | tick => exact ticked
  | advance =>
    rw [after, advance]
    split
    · next hadvance =>
      simp only [canAdvance, Bool.and_eq_true, decide_eq_true_eq] at hadvance
      exact hadvance.2
    · exact ticked
  | pause => exact ticked
  | resume =>
    rw [after, resume]
    split
    · exact inRange
    · exact inRange
  | rollback => exact ticked
  | apply action =>
    cases action with
    | alert => exact inRange
    | pause => exact ticked
    | rollback => exact ticked

/-- A run from which some of the steps that only watch are left out. -/
inductive Thinned : List (Instant × Step) → List (Instant × Step) → Prop where
  | nil : Thinned [] []
  | keep {steps fewer : List (Instant × Step)} (now : Instant) (step : Step) :
      Thinned steps fewer → Thinned ((now, step) :: steps) ((now, step) :: fewer)
  | leaveOut {steps fewer : List (Instant × Step)} (now : Instant) {step : Step} :
      step.isWatch = true → Thinned steps fewer → Thinned ((now, step) :: steps) fewer

/-! ## The simulation -/

/-- Two progresses that agree from an instant on: they have the same flags, and at every later
instant the same stage is active, since the same instant. The committed positions may differ. -/
structure AgreesFrom (strategy : Strategy) (since : Instant) (p q : Progress) : Prop where
  startedAt : p.startedAt = q.startedAt
  paused : p.paused = q.paused
  rolledBack : p.rolledBack = q.rolledBack
  resolve : ∀ t, since ≤ t → p.resolve strategy t = q.resolve strategy t

variable {strategy : Strategy} {since now later : Instant} {p q : Progress}

theorem AgreesFrom.refl (strategy : Strategy) (since : Instant) (p : Progress) :
    AgreesFrom strategy since p p :=
  ⟨rfl, rfl, rfl, fun _ _ => rfl⟩

theorem AgreesFrom.mono (h : AgreesFrom strategy since p q) (hle : since ≤ later) :
    AgreesFrom strategy later p q :=
  ⟨h.startedAt, h.paused, h.rolledBack, fun t ht => h.resolve t (Instant.le_trans hle ht)⟩

/-- Committing what has elapsed makes agreeing progresses equal. -/
theorem AgreesFrom.tick_eq (h : AgreesFrom strategy now p q) :
    p.tick strategy now = q.tick strategy now := by
  obtain ⟨hstarted, hpaused, hrolled, hresolve⟩ := h
  rw [tick, tick, hresolve now (Instant.le_refl now), hstarted, hpaused, hrolled]

/-- A step that only watches, on one side only, keeps the agreement. -/
theorem AgreesFrom.watch_left (h : AgreesFrom strategy now p q) {step : Step}
    (hwatch : step.isWatch = true) : AgreesFrom strategy now (p.after strategy now step) q := by
  cases step with
  | tick =>
    refine ⟨h.startedAt, h.paused, h.rolledBack, fun t ht => ?_⟩
    rw [after, resolve_tick strategy ht]
    exact h.resolve t ht
  | apply action =>
    cases action with
    | alert => exact h
    | pause => cases hwatch
    | rollback => cases hwatch
  | advance => cases hwatch
  | pause => cases hwatch
  | resume => cases hwatch
  | rollback => cases hwatch

/-- Two paused progresses that agree are on the same stage. -/
theorem AgreesFrom.committed_eq (h : AgreesFrom strategy now p q) (hp : p.paused = true) :
    p.committed strategy = q.committed strategy := by
  have hq : q.paused = true := h.paused.symm.trans hp
  have hresolve := h.resolve now (Instant.le_refl now)
  rwa [resolve_of_frozen strategy (by rw [hp, Bool.true_or]),
    resolve_of_frozen strategy (by rw [hq, Bool.true_or])] at hresolve

/-- Lifting a pause keeps the agreement: both sides begin the same stage anew. -/
theorem AgreesFrom.resume (h : AgreesFrom strategy now p q) :
    AgreesFrom strategy now (p.resume now) (q.resume now) := by
  cases hp : p.paused with
  | false =>
    have hq : q.paused = false := h.paused.symm.trans hp
    rw [Progress.resume, Progress.resume, hp, hq]
    exact h
  | true =>
    have hq : q.paused = true := h.paused.symm.trans hp
    have hindex : min p.stageIndex (strategy.stages.length - 1) =
        min q.stageIndex (strategy.stages.length - 1) :=
      congrArg Position.index (h.committed_eq hp)
    rw [Progress.resume, Progress.resume, if_pos hp, if_pos hq]
    refine ⟨h.startedAt, rfl, h.rolledBack, fun t _ => ?_⟩
    simp only [Progress.resolve, hindex, h.rolledBack]

/-- A step on both sides keeps the agreement and is answered the same. -/
theorem AgreesFrom.step (h : AgreesFrom strategy now p q) (step : Step) :
    AgreesFrom strategy now (p.after strategy now step) (q.after strategy now step) ∧
      p.answer? strategy now step = q.answer? strategy now step := by
  -- all steps but lifting a pause and alerts begin by committing, which makes the sides equal
  have htick := h.tick_eq
  cases step with
  | tick => simp only [after, answer?, htick, AgreesFrom.refl, and_self]
  | advance => simp only [after, answer?, advance, advances, htick, AgreesFrom.refl, and_self]
  | pause => simp only [after, answer?, pause, htick, AgreesFrom.refl, and_self]
  | resume => exact ⟨h.resume, rfl⟩
  | rollback => simp only [after, answer?, rollback, htick, AgreesFrom.refl, and_self]
  | apply action =>
    cases action with
    | alert => exact ⟨h, rfl⟩
    | pause => simp only [after, answer?, apply, pause, htick, AgreesFrom.refl, and_self]
    | rollback => simp only [after, answer?, apply, rollback, htick, AgreesFrom.refl, and_self]

/-- A step that only watches is not answered. -/
theorem answer?_of_isWatch {step : Step} (h : step.isWatch = true) (p : Progress)
    (strategy : Strategy) (now : Instant) : p.answer? strategy now step = none := by
  cases step with
  | advance => cases h
  | tick | pause | resume | rollback | apply _ => rfl

/-- The time of the last step of a run that begins at an instant. -/
def lastTime : Instant → List (Instant × Step) → Instant
  | since, [] => since
  | _, (now, _) :: rest => lastTime now rest

theorem lastTime_le {steps : List (Instant × Step)} {since t : Instant} (hsince : since ≤ t)
    (h : ∀ s ∈ steps, s.1 ≤ t) : lastTime since steps ≤ t := by
  induction steps generalizing since with
  | nil => exact hsince
  | cons s rest ih =>
    exact ih (h s List.mem_cons_self) fun s hs => h s (List.mem_cons_of_mem _ hs)

/-- A run and a thinned one from agreeing progresses are answered the same and end in progresses
that agree from the last step on. -/
theorem AgreesFrom.run {steps fewer : List (Instant × Step)} (thinned : Thinned steps fewer) :
    ∀ {since : Instant} {p q : Progress}, AgreesFrom strategy since p q →
      (∀ s ∈ steps, since ≤ s.1) → (steps.Pairwise fun a b => a.1 ≤ b.1) →
      answers strategy p steps = answers strategy q fewer ∧
        AgreesFrom strategy (lastTime since steps) (afterAll strategy p steps)
          (afterAll strategy q fewer) := by
  induction thinned with
  | nil =>
    intro since p q h _ _
    exact ⟨rfl, h⟩
  | keep now step _ ih =>
    intro since p q h hsince hordered
    obtain ⟨hfirst, hrest⟩ := List.pairwise_cons.mp hordered
    obtain ⟨hstep, hanswer⟩ := (h.mono (hsince _ List.mem_cons_self)).step step
    obtain ⟨hanswers, hend⟩ := ih hstep hfirst hrest
    refine ⟨?_, hend⟩
    rw [answers, answers, hanswer, hanswers]
  | leaveOut now hwatch _ ih =>
    intro since p q h hsince hordered
    obtain ⟨hfirst, hrest⟩ := List.pairwise_cons.mp hordered
    have hleft := (h.mono (hsince _ List.mem_cons_self)).watch_left hwatch
    obtain ⟨hanswers, hend⟩ := ih hleft hfirst hrest
    refine ⟨?_, hend⟩
    rw [answers, answer?_of_isWatch hwatch, Option.toList_none, List.nil_append]
    exact hanswers

/-- Progresses that agree have the same active stage. -/
theorem AgreesFrom.activeStage?_eq (h : AgreesFrom strategy now p q) :
    p.activeStage? strategy now = q.activeStage? strategy now := by
  rw [activeStage?, activeStage?, h.resolve now (Instant.le_refl now)]

/-- Progresses that agree reach the same users. -/
theorem AgreesFrom.reaches_eq (h : AgreesFrom strategy now p q) (user : User) :
    p.reaches strategy user now = q.reaches strategy user now := by
  rw [reaches, reaches, h.rolledBack, h.activeStage?_eq]

/-- **Watching is transparent.** Leaving out steps that only watch from a run whose times never
decrease changes no answer to an advance and neither flag, and from the last step on the same stage
is active and the same users are reached. -/
theorem transparent (strategy : Strategy) (progress : Progress)
    {steps fewer : List (Instant × Step)} (thinned : Thinned steps fewer)
    (ordered : steps.Pairwise fun a b => a.1 ≤ b.1) :
    let watched := afterAll strategy progress steps
    let unwatched := afterAll strategy progress fewer
    answers strategy progress steps = answers strategy progress fewer ∧
      watched.paused = unwatched.paused ∧ watched.rolledBack = unwatched.rolledBack ∧
      ∀ t, (∀ s ∈ steps, s.1 ≤ t) →
        watched.activeStage? strategy t = unwatched.activeStage? strategy t ∧
        ∀ user, watched.reaches strategy user t = unwatched.reaches strategy user t := by
  cases steps with
  | nil =>
    cases thinned
    exact ⟨rfl, rfl, rfl, fun _ _ => ⟨rfl, fun _ => rfl⟩⟩
  | cons first rest =>
    have hfirst : ∀ s ∈ first :: rest, first.1 ≤ s.1 := by
      intro s hs
      rcases List.mem_cons.mp hs with rfl | hs
      · exact Instant.le_refl s.1
      · exact (List.pairwise_cons.mp ordered).1 s hs
    obtain ⟨hanswers, hend⟩ :=
      (AgreesFrom.refl strategy first.1 progress).run thinned hfirst ordered
    refine ⟨hanswers, hend.paused, hend.rolledBack, fun t ht => ?_⟩
    have hagrees := hend.mono (lastTime_le (ht first List.mem_cons_self) ht)
    exact ⟨hagrees.activeStage?_eq, hagrees.reaches_eq⟩

/-! ### A rollout of the gradual strategy

The operator moves on twice, with a pause in between that falls into the third stage, and is told
at the end that there is no further stage. The monitor commits the second stage before the operator
does, looks while the rollout is paused, and raises an alert. -/

/-- A whole number of hours after the beginning of 1970. -/
def atHour (n : Nat) : Instant := ⟨n * 3600, 0, .inl (by decide)⟩

/-- The steps of the operator among those of the monitor. -/
def watchedSteps : List (Instant × Step) :=
  [(atHour 30, .tick), (atHour 31, .apply .alert), (atHour 40, .advance), (atHour 100, .pause),
    (atHour 130, .tick), (atHour 140, .resume), (atHour 200, .advance), (atHour 300, .advance)]

/-- The steps of the operator. -/
def unwatchedSteps : List (Instant × Step) :=
  [(atHour 40, .advance), (atHour 100, .pause), (atHour 140, .resume), (atHour 200, .advance),
    (atHour 300, .advance)]

theorem transparent_gradual :
    Thinned watchedSteps unwatchedSteps ∧ (watchedSteps.Pairwise fun a b => a.1 ≤ b.1) ∧
      answers .gradual (start (atHour 0)) unwatchedSteps = [true, true, false] ∧
      ∀ user, ∀ t, (∀ s ∈ watchedSteps, s.1 ≤ t) →
        (afterAll .gradual (start (atHour 0)) watchedSteps).reaches .gradual user t =
          (afterAll .gradual (start (atHour 0)) unwatchedSteps).reaches .gradual user t := by
  have hthinned : Thinned watchedSteps unwatchedSteps :=
    .leaveOut _ rfl <| .leaveOut _ rfl <| .keep _ _ <| .keep _ _ <| .leaveOut _ rfl <|
      .keep _ _ <| .keep _ _ <| .keep _ _ .nil
  have hordered : watchedSteps.Pairwise fun a b => a.1 ≤ b.1 := by decide
  obtain ⟨hanswers, -, -, hlater⟩ :=
    transparent .gradual (start (atHour 0)) hthinned hordered
  refine ⟨hthinned, hordered, hanswers.symm.trans ?_, fun user t ht => (hlater t ht).2 user⟩
  decide

end Progress

end FeatureTrials
