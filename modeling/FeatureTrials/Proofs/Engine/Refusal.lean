import FeatureTrials.Proofs.Engine.InPlace

/-!
# A refusal leaves nothing behind

Work in place may be refused after it has written. On an engine in order no operation is: the writes
that precede a check either change nothing when the check fails, as when something is taken out that
is not there, or the check cannot fail, as when a rollout that was moved on is asked for its stage.
So every operation in place comes to taking over the answer of the engine as a whole
(`Request.work_eq`), and a refusal leaves everything as it was.
-/

namespace FeatureTrials

variable {service : Service} {now : Instant} {id : String} {e : Experiment}

namespace Service

@[simp] theorem settle_ok {α : Type} (outcome : Outcome α) :
    service.settle (.ok outcome) = (.ok outcome.answer, service.after outcome) := rfl

@[simp] theorem settle_error {α : Type} (failure : Failure) :
    service.settle (.error failure : Except Failure (Outcome α)) = (.error failure, service) := rfl

end Service

namespace Work

variable {α β : Type}

@[simp] theorem ite_apply (c : Prop) [Decidable c] (first second : Work α) :
    (if c then first else second) service = if c then first service else second service := by
  split <;> rfl

/-- An edit of an experiment that is there. -/
theorem edit_of_get? (stored : service.engine.experiments.get? id = some e)
    (change : Experiment → Experiment) :
    edit id change service = (.ok (), service.withExperiment id (change e)) := by
  simp [edit, stored]

/-- Edits of one experiment add up. -/
@[simp] theorem edit_withExperiment (change : Experiment → Experiment) :
    edit id change (service.withExperiment id e) =
      (.ok (), service.withExperiment id (change e)) := by
  simp [edit, Service.withExperiment, Engine.withExperiments, Table.get?_insert_self,
    Table.insert_insert]

/-- An answer may be given another form on the way. -/
theorem map_eq {work : Work α} {done : Except Failure (Outcome α)} (f : α → β)
    (h : work service = service.settle done) :
    (work >>= fun a => pure (f a)) service = service.settle (done.map (·.map f)) := by
  cases done with
  | error failure => simp [h, Except.map]
  | ok outcome =>
    simp only [bind_apply, h, Service.settle_ok, pure_apply, Except.map]
    rfl

theorem look_bind (next : Engine → Work β) :
    (look >>= next) service = next service.engine service := rfl

/-- Work that begins with a check comes to a chain of checks if what follows does. -/
theorem demand_bind_eq {checked : Except Failure α} {next : α → Work β}
    {rest : α → Except Failure (Outcome β)}
    (h : ∀ a, checked = .ok a → next a service = service.settle (rest a)) :
    (demand checked >>= next) service = service.settle (checked >>= rest) := by
  cases checked with
  | error failure => rfl
  | ok a => exact h a rfl

/-! ## Flags and segments -/

theorem upsertFlag_eq (flag : Flag) :
    upsertFlag flag service = service.settle (service.engine.upsertFlag flag) := by
  refine demand_bind_eq fun _ _ => ?_
  simp [Service.after]

/-- Taking out a flag that is not there changes nothing. -/
theorem deleteFlag_eq (key : String) :
    deleteFlag key service = service.settle (service.engine.deleteFlag key) := by
  cases stored : service.engine.flags.get? key with
  | none =>
    have unchanged := Table.erase_of_get? stored
    simp [deleteFlag, Engine.deleteFlag, Engine.find, stored, unchanged]
  | some flag => simp [deleteFlag, Engine.deleteFlag, Engine.find, stored, Service.after]

theorem createSegment_eq (segment : Segment) :
    createSegment segment service = service.settle (service.engine.createSegment segment) := by
  refine demand_bind_eq fun _ _ => ?_
  rw [look_bind]
  refine demand_bind_eq fun _ _ => ?_
  simp [Service.after]

/-- Taking out a segment that is not there changes nothing. -/
theorem deleteSegment_eq (id : String) :
    deleteSegment id service = service.settle (service.engine.deleteSegment id) := by
  cases stored : service.engine.segments.get? id with
  | none =>
    have unchanged := Table.erase_of_get? stored
    simp [deleteSegment, Engine.deleteSegment, Engine.segment, Engine.find, stored, unchanged]
  | some segment =>
    simp [deleteSegment, Engine.deleteSegment, Engine.segment, Engine.find, stored, Service.after]

theorem isMember_apply (id : String) (user : User) :
    isMember id user service = (service.engine.isMember id user, service) := by
  cases hsegment : service.engine.segment id with
  | error failure => simp [isMember, Engine.isMember, hsegment]
  | ok segment => simp [isMember, Engine.isMember, hsegment]

/-! ## Experiments -/

theorem createExperiment_eq (e : Experiment) :
    createExperiment e service = service.settle (service.engine.createExperiment e) := by
  refine demand_bind_eq fun _ _ => ?_
  refine demand_bind_eq fun _ _ => ?_
  rw [look_bind]
  refine demand_bind_eq fun _ _ => ?_
  simp [Service.after, Engine.withExperiments]

/-- Five comparisons one after the other find the first frozen part that differs. -/
theorem amend_of_get? {current update : Experiment}
    (stored : service.engine.experiments.get? update.id = some current) :
    amend current update service =
      match current.frozenDifference? update with
      | some field => (.error (.frozen update.id field), service)
      | none =>
        (.ok (), service.withExperiment update.id
          { current with description := update.description, endTime := update.endTime }) := by
  cases variants : current.variants != update.variants with
  | true => simp [amend, Experiment.frozenDifference?, variants]
  | false =>
    cases traffic : current.trafficPercent != update.trafficPercent with
    | true => simp [amend, Experiment.frozenDifference?, variants, traffic]
    | false =>
      cases rules : current.targetingRules != update.targetingRules with
      | true => simp [amend, Experiment.frozenDifference?, variants, traffic, rules]
      | false =>
        cases segments : current.segments != update.segments with
        | true => simp [amend, Experiment.frozenDifference?, variants, traffic, rules, segments]
        | false =>
          cases flagKey : current.flagKey != update.flagKey with
          | true =>
            simp [amend, Experiment.frozenDifference?, variants, traffic, rules, segments, flagKey]
          | false =>
            simp [amend, Experiment.frozenDifference?, variants, traffic, rules, segments, flagKey,
              edit_of_get? stored]

theorem redefine_of_get? {current update : Experiment}
    (stored : service.engine.experiments.get? update.id = some current) :
    redefine update service =
      match check update.violation? with
      | .error failure => (.error failure, service)
      | .ok _ =>
        (.ok (), service.withExperiment update.id
          { update with status := current.status, results := some .initial }) := by
  cases hvalid : check update.violation? with
  | error failure => simp [redefine, hvalid]
  | ok _ => simp [redefine, hvalid, edit_of_get? stored]

/-- The writes of a change add up to the experiment after the change. -/
theorem writeUpdate_of_get? {current update : Experiment}
    (stored : service.engine.experiments.get? update.id = some current) :
    writeUpdate current update service =
      match current.updated update with
      | .error failure => (.error failure, service)
      | .ok changed => (.ok (), service.withExperiment update.id changed) := by
  rw [writeUpdate, Experiment.updated]
  cases status : current.status with
  | draft =>
    dsimp only
    rw [redefine_of_get? stored, status]
    cases check update.violation? <;> rfl
  | scheduled =>
    dsimp only
    rw [redefine_of_get? stored, status]
    cases check update.violation? <;> rfl
  | running =>
    dsimp only
    rw [amend_of_get? stored, status]
    cases current.frozenDifference? update <;> rfl
  | paused =>
    dsimp only
    rw [amend_of_get? stored, status]
    cases current.frozenDifference? update <;> rfl
  | completed => rfl
  | archived => rfl

theorem updateExperiment_eq (update : Experiment) :
    updateExperiment update service = service.settle (service.engine.updateExperiment update) := by
  rw [updateExperiment, look_bind]
  refine demand_bind_eq fun current hfind => ?_
  have hwrite := writeUpdate_of_get? (Engine.find_eq_ok.mp hfind)
  cases hupdated : current.updated update with
  | error failure => simp [hwrite, hupdated]
  | ok changed =>
    simp [hwrite, hupdated, Service.after, Service.withExperiment, Engine.withExperiments]

/-- The writes of a move add up to the experiment after the move. -/
theorem writeMove_of_get? (stored : service.engine.experiments.get? id = some e) (move : Move)
    (compare : Experiment → Results) :
    writeMove id move compare now service =
      (.ok (), service.withExperiment id (e.moved move compare now)) := by
  cases move <;>
    simp [writeMove, edit_of_get? stored, Experiment.moved, Experiment.completedAt] <;> rfl

/-- The samples that are taken before a move are the ones its results are compared by. -/
theorem moved_samplesFor (hid : e.id = id) (engine : Engine) (move : Move) (now : Instant) :
    e.moved move (·.compare (samplesFor move id engine) engine.config.significance
      engine.config.minSampleSize now) now = e.moved move (engine.compare · now) now := by
  subst hid
  cases move <;>
    simp only [Experiment.moved, Experiment.completedAt, samplesFor, Engine.compare]

theorem moveExperiment_eq (keyed : service.engine.Keyed) (id : String) (move : Move) :
    moveExperiment id move now service =
      service.settle (service.engine.moveExperiment id move now) := by
  rw [moveExperiment, look_bind]
  refine demand_bind_eq fun e hfind => ?_
  have stored := Engine.find_eq_ok.mp hfind
  cases allowed : move.allowedFrom e.status with
  | false => simp
  | true =>
    -- the samples are those of the id that was asked for, which is the id of the experiment
    have hmoved := moved_samplesFor (keyed stored) service.engine move now
    simp [writeMove_of_get? stored, hmoved, Service.after, Service.withExperiment,
      Engine.withExperiments]

theorem experimentResults_apply (keyed : service.engine.Keyed) (id : String) :
    experimentResults id now service = (service.engine.experimentResults id now, service) := by
  cases hfind : service.engine.experiment id with
  | error failure => simp [experimentResults, Engine.experimentResults, hfind]
  | ok e =>
    have hid := keyed (Engine.find_eq_ok.mp hfind)
    simp [experimentResults, Engine.experimentResults, Engine.compare, hfind, hid]

/-! ## Rollouts -/

theorem registerStrategy_eq (strategy : Strategy) :
    registerStrategy strategy now service =
      service.settle (service.engine.registerStrategy strategy now) := by
  refine demand_bind_eq fun _ _ => ?_
  simp [Service.after]

/-- The stage of a rollout that has been moved on is always found. -/
theorem advanceRollout_eq (wellFormed : service.engine.WellFormed) (id : String) :
    advanceRollout id now service = service.settle (service.engine.advanceRollout id now) := by
  cases stored : service.engine.rollouts.get? id with
  | none =>
    have hfind : service.engine.rollout id = .error (.notFound .rolloutStrategy id) :=
      Engine.find_of_missing stored
    simp [advanceRollout, stepRollout, Engine.advanceRollout, hfind]
  | some rollout =>
    have hfind : service.engine.rollout id = .ok rollout := Engine.find_of_get? stored
    -- the look-up behind the write cannot fail
    have hstage := List.getElem?_eq_getElem (wellFormed.findsStages stored now).advanced
    cases moves : rollout.progress.advances rollout.strategy now with
    | true =>
      simp [advanceRollout, stepRollout, Engine.advanceRollout, hfind, hstage, moves,
        Progress.after, Service.after]
    | false =>
      simp [advanceRollout, stepRollout, Engine.advanceRollout, hfind, hstage, moves,
        Progress.after, Service.after]

/-- The other steps by hand differ in the step and in what operators are told. -/
theorem controlRollout_eq (id : String) (step : Progress.Step) (notice : Notice) :
    controlRollout id step notice now service =
      service.settle (do
        let rollout ← service.engine.rollout id
        return { engine := service.engine.withProgress id rollout
                   (rollout.progress.after rollout.strategy now step)
                 answer := ()
                 notices := [notice] }) := by
  cases hfind : service.engine.rollout id with
  | error failure => simp [controlRollout, stepRollout, hfind]
  | ok rollout => simp [controlRollout, stepRollout, hfind, Service.after]

/-! ## Conversions -/

theorem recordConversion_eq (experimentId variantId user kind : String) (value : Float) :
    recordConversion experimentId variantId user kind value now service =
      service.settle
        (service.engine.recordConversion experimentId variantId user kind value now) := by
  rw [recordConversion, look_bind]
  refine demand_bind_eq fun e _ => ?_
  cases hvariant : e.variant? variantId with
  | none => simp
  | some v =>
    by_cases hvalue : 0.0 < value
    · simp [hvalue, Service.after]
    · simp [hvalue, Service.after]

end Work

/-! ## Everything that can be refused -/

/-- An operation in place comes to taking over what the engine makes of it as a whole. -/
theorem Operation.work_eq (wellFormed : service.engine.WellFormed) (now : Instant)
    (operation : Operation) :
    operation.work now service = service.settle (service.engine.perform now operation) := by
  have keyed := wellFormed.keyed
  cases operation with
  | upsertFlag flag => exact Work.map_eq _ (Work.upsertFlag_eq flag)
  | deleteFlag key => exact Work.map_eq _ (Work.deleteFlag_eq key)
  | createSegment segment => exact Work.map_eq _ (Work.createSegment_eq segment)
  | deleteSegment id => exact Work.map_eq _ (Work.deleteSegment_eq id)
  | createExperiment e => exact Work.map_eq _ (Work.createExperiment_eq e)
  | updateExperiment update => exact Work.map_eq _ (Work.updateExperiment_eq update)
  | scheduleExperiment id startTime =>
    exact Work.map_eq _ (Work.moveExperiment_eq keyed id (.schedule startTime))
  | startExperiment id => exact Work.map_eq _ (Work.moveExperiment_eq keyed id .start)
  | pauseExperiment id => exact Work.map_eq _ (Work.moveExperiment_eq keyed id .pause)
  | resumeExperiment id => exact Work.map_eq _ (Work.moveExperiment_eq keyed id .resume)
  | stopExperiment id => exact Work.map_eq _ (Work.moveExperiment_eq keyed id .stop)
  | archiveExperiment id => exact Work.map_eq _ (Work.moveExperiment_eq keyed id .archive)
  | registerStrategy strategy => exact Work.map_eq _ (Work.registerStrategy_eq strategy)
  | advanceRollout id => exact Work.map_eq _ (Work.advanceRollout_eq wellFormed id)
  | pauseRollout id => exact Work.map_eq _ (Work.controlRollout_eq id .pause _)
  | resumeRollout id => exact Work.map_eq _ (Work.controlRollout_eq id .resume _)
  | rollBack id => exact Work.map_eq _ (Work.controlRollout_eq id .rollback _)
  | recordConversion experimentId variantId user kind value =>
    exact Work.map_eq _ (Work.recordConversion_eq experimentId variantId user kind value)
  | evaluate flagKey user default => rfl
  | monitorExperiments => rfl
  | monitorRollouts metrics => rfl
  | processAnalytics => rfl
  | cleanupAnalytics => rfl

/-- A question leaves everything as it is, whether it is answered or not. -/
theorem Work.ask_eq {α : Type} {work : Work α} {answer : Except Failure α} (f : α → Reply)
    (h : work service = (answer, service)) :
    (work >>= fun a => pure (f a)) service =
      service.settle (answer.map fun a => { engine := service.engine, answer := f a }) := by
  cases answer with
  | error failure => simp [h, Except.map]
  | ok a => simp [h, Except.map, Service.after]

/-- A request in place comes to taking over the answer of the engine as a whole. -/
theorem Request.work_eq (wellFormed : service.engine.WellFormed) (now : Instant)
    (request : Request) :
    request.work now service = service.settle (service.engine.respond now request) := by
  cases request with
  | perform operation => exact Work.map_eq _ (operation.work_eq wellFormed now)
  | results id => exact Work.ask_eq _ (Work.experimentResults_apply wellFormed.keyed id)
  | membership id user => exact Work.ask_eq _ (Work.isMember_apply id user)

/-! ## Refusals do not depend on the clock -/

/-- Whether a chain of checks is passed does not depend on what comes after it. -/
theorem refused_of_refused {ε α β γ : Type} {x : Except ε α} {f : α → β} {g : α → γ} {e : ε}
    (refused : (x >>= fun a => pure (f a)) = .error e) :
    (x >>= fun a => pure (g a)) = .error e := by
  cases x with
  | error _ => simpa using refused
  | ok a => simp at refused

namespace Engine

variable {engine : Engine} {operation : Operation} {failure : Failure}

theorem moveExperiment_refused {move : Move}
    (refused : engine.moveExperiment id move now = .error failure) (later : Instant) :
    engine.moveExperiment id move later = .error failure := by
  cases stored : engine.experiments.get? id with
  | none =>
    rw [moveExperiment_of_missing stored] at refused ⊢
    exact refused
  | some e =>
    cases allowed : move.allowedFrom e.status with
    | false =>
      rw [moveExperiment_of_refused stored allowed] at refused ⊢
      exact refused
    | true =>
      rw [moveExperiment_of_allowed stored allowed] at refused
      cases refused

theorem perform_refused_of_move? {move : Move} (asked : operation.move? = some (id, move))
    (refused : engine.perform now operation = .error failure) (later : Instant) :
    engine.perform later operation = .error failure := by
  rw [perform_of_move? asked] at refused ⊢
  exact map_eq_error.mpr (moveExperiment_refused (map_eq_error.mp refused) later)

/-- A rollout that is there is always moved on. -/
theorem advanceRollout_refused (wellFormed : engine.WellFormed)
    (refused : engine.advanceRollout id now = .error failure) (later : Instant) :
    engine.advanceRollout id later = .error failure := by
  cases stored : engine.rollouts.get? id with
  | none =>
    have hfind : engine.rollout id = .error (.notFound .rolloutStrategy id) :=
      find_of_missing stored
    simpa [advanceRollout, hfind] using refused
  | some rollout =>
    obtain ⟨outcome, answered, -⟩ := (wellFormed.findsStages stored now).answered
    rw [answered] at refused
    cases refused

theorem recordConversion_refused {experimentId variantId user kind : String} {value : Float}
    (refused : engine.recordConversion experimentId variantId user kind value now =
      .error failure) (later : Instant) :
    engine.recordConversion experimentId variantId user kind value later = .error failure := by
  cases hfind : find engine.experiments .experiment experimentId with
  | error missing => simpa [recordConversion, hfind] using refused
  | ok e =>
    cases hvariant : e.variant? variantId with
    | none => simpa [recordConversion, hfind, hvariant] using refused
    | some v => simp [recordConversion, hfind, hvariant] at refused

/-- What is refused once is refused, for the same reason, at every reading of the clock. -/
theorem perform_refused (wellFormed : engine.WellFormed)
    (refused : engine.perform now operation = .error failure) (later : Instant) :
    engine.perform later operation = .error failure := by
  cases operation with
  | upsertFlag | deleteFlag | createSegment | deleteSegment | createExperiment
  | updateExperiment => exact refused
  | scheduleExperiment | startExperiment | pauseExperiment | resumeExperiment | stopExperiment
  | archiveExperiment => exact perform_refused_of_move? rfl refused later
  | registerStrategy | pauseRollout | resumeRollout | rollBack =>
    exact map_eq_error.mpr (refused_of_refused (map_eq_error.mp refused))
  | advanceRollout =>
    exact map_eq_error.mpr (advanceRollout_refused wellFormed (map_eq_error.mp refused) later)
  | recordConversion =>
    exact map_eq_error.mpr (recordConversion_refused (map_eq_error.mp refused) later)
  | evaluate | monitorExperiments | monitorRollouts | processAnalytics | cleanupAnalytics =>
    cases refused

theorem respond_refused (wellFormed : engine.WellFormed) {request : Request}
    (refused : engine.respond now request = .error failure) (later : Instant) :
    engine.respond later request = .error failure := by
  cases request with
  | perform =>
    exact map_eq_error.mpr (perform_refused wellFormed (map_eq_error.mp refused) later)
  | results => exact map_eq_error.mpr (refused_of_refused (map_eq_error.mp refused))
  | membership => exact refused

end Engine

/-! ## Refusals are atomic -/

/-- **A refusal is atomic.** Whatever has been done to an engine, a request that is refused in place
leaves nothing behind: all registries, the progress of all rollouts and the analytics are as before,
operators and the metrics have been told nothing, and the same request is refused again for the same
reason. This is also what becomes of the engine that takes requests as a whole. -/
theorem Request.refusal_atomic {request : Request} {failure : Failure} {left : Service}
    (reachable : Engine.Reachable service.engine)
    (refused : request.work now service = (.error failure, left)) :
    left = service ∧
      service.engine.respond now request = .error failure ∧
      (∀ operation, request = .perform operation →
        service.engine.step now operation = service.engine) ∧
      ∀ later, request.work later left = (.error failure, left) := by
  have wellFormed := reachable.wellFormed
  have hwork := request.work_eq wellFormed now
  rw [refused] at hwork
  cases hrespond : service.engine.respond now request with
  | ok outcome =>
    rw [hrespond] at hwork
    simp at hwork
  | error reason =>
    rw [hrespond] at hwork
    simp at hwork
    obtain ⟨rfl, rfl⟩ := hwork
    refine ⟨rfl, rfl, ?_, ?_⟩
    · rintro operation rfl
      have hperform := map_eq_error.mp hrespond
      rw [Engine.step, hperform]
    · intro later
      rw [request.work_eq wellFormed later, Engine.respond_refused wellFormed hrespond later]
      rfl

/-! ### A change that is refused at the last comparison

A running comparison is to have another description, no end, and another flag. All but the flag
would be taken. -/

namespace Engine

/-- A service in which the comparison is running. -/
def coloursService : Service :=
  { engine := (Engine.standard (.ofNanos 0)).engine.run (coloursRun.take 2)
    notices := [.experimentMoved "colours" .start] }

/-- The comparison bound to another flag. -/
def reboundColours : Experiment :=
  { colours with description := "Which colour sells", endTime := none, flagKey := some "shade" }

theorem refusal_atomic_colours :
    Reachable coloursService.engine ∧
      (Request.perform (.updateExperiment reboundColours)).work (.ofNanos 3) coloursService =
        (.error (.frozen "colours" .flagKey), coloursService) ∧
      coloursService.engine.step (.ofNanos 3) (.updateExperiment reboundColours) =
        coloursService.engine ∧
      (Request.perform (.updateExperiment reboundColours)).work (.ofNanos 4) coloursService =
        (.error (.frozen "colours" .flagKey), coloursService) := by
  have reachable : Reachable coloursService.engine := (Reachable.constructed (.standard _)).run _
  have refused : (Request.perform (.updateExperiment reboundColours)).work (.ofNanos 3)
      coloursService = (.error (.frozen "colours" .flagKey), coloursService) := rfl
  obtain ⟨-, -, hstep, hagain⟩ := Request.refusal_atomic reachable refused
  exact ⟨reachable, refused, hstep _ rfl, hagain (.ofNanos 4)⟩

end Engine

end FeatureTrials
