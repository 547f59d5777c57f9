import FeatureTrials.Engine.Sweep
import FeatureTrials.Proofs.Engine.Success

/-!
# A sweep treats every experiment by itself

A sweep reads off which experiments are due and which are live, and then moves them one after the
other, each move on the engine that the moves before it have left. Still it comes to the same as
treating every experiment by itself (`engine_monitorExperiments`): no id is met twice, an
experiment that is due is not live, and results depend on the analytics and the configuration
alone, which a sweep leaves as they are. For the same reason the answer names exactly the
experiments that were due, and the live ones that are completed (`answer_monitorExperiments`).

* `Engine.Keyed` — every experiment is registered under its own id.
* `Engine.swept` — what a sweep makes of one experiment.
* `Engine.completes` — a sweep completes a live experiment.
-/

namespace FeatureTrials.Engine

/-- Every experiment is registered under its own id. -/
def Keyed (engine : Engine) : Prop :=
  ∀ ⦃id e⦄, engine.experiments.get? id = some e → e.id = id

/-- What the review of a live experiment makes of it. -/
def reviewed (engine : Engine) (now : Instant) (e : Experiment) : Experiment :=
  if e.isExpired now then e.moved .expire (engine.compare · now) now
  else if e.isRunning then
    if engine.isConclusive (engine.compare e now) then e.moved .stop (engine.compare · now) now
    else { e with results := some (engine.compare e now) }
  else e

/-- The review of a live experiment completes it. -/
def completes (engine : Engine) (now : Instant) (e : Experiment) : Bool :=
  e.isExpired now || (e.isRunning && engine.isConclusive (engine.compare e now))

/-- The experiment is scheduled and its time to start has come. -/
def isStartable (now : Instant) (e : Experiment) : Bool :=
  e.status = .scheduled && e.isDue now

/-- What a sweep makes of an experiment. -/
def swept (engine : Engine) (now : Instant) (e : Experiment) : Experiment :=
  if isStartable now e then e.moved .start (engine.compare · now) now
  else if e.isLive then engine.reviewed now e
  else e

/-- The answer of a sweep with one more experiment started. -/
def noteStarted (sweep : ExperimentSweep) (id : String) : ExperimentSweep :=
  { sweep with started := sweep.started ++ [id] }

/-- The answer of a sweep after one more review. -/
def noteReviewed (engine : Engine) (now : Instant) (sweep : ExperimentSweep) (e : Experiment) :
    ExperimentSweep :=
  if engine.completes now e then { sweep with completed := sweep.completed ++ [e.id] } else sweep

variable {engine : Engine} {now : Instant} {e : Experiment}

/-! ## One experiment of an engine -/

theorem startDue_of_scheduled {soFar : Outcome ExperimentSweep} {id : String}
    (stored : soFar.engine.experiments.get? id = some e) (scheduled : e.status = .scheduled) :
    ExperimentSweep.startDue now soFar id =
      { engine := soFar.engine.withExperiments
          (soFar.engine.experiments.insert id
            (e.moved .start (soFar.engine.compare · now) now))
        answer := { soFar.answer with started := soFar.answer.started ++ [id] }
        notices := soFar.notices ++ [.experimentMoved id .start] } := by
  have allowed : Move.start.allowedFrom e.status = true := by rw [scheduled]; rfl
  rw [ExperimentSweep.startDue, moveExperiment_of_allowed stored allowed]
  rfl

theorem complete_of_allowed {soFar : Outcome ExperimentSweep} {id : String} {move : Move}
    (stored : soFar.engine.experiments.get? id = some e)
    (allowed : move.allowedFrom e.status = true) :
    ExperimentSweep.complete now soFar id move =
      { engine := soFar.engine.withExperiments
          (soFar.engine.experiments.insert id (e.moved move (soFar.engine.compare · now) now))
        answer := { soFar.answer with completed := soFar.answer.completed ++ [id] }
        notices := soFar.notices ++ [.experimentMoved id move.attempt] } := by
  rw [ExperimentSweep.complete, moveExperiment_of_allowed stored allowed]

theorem keepResults_of_running {id : String} (results : Results)
    (stored : engine.experiments.get? id = some e) (running : e.status = .running) :
    engine.keepResults id results =
      engine.withExperiments
        (engine.experiments.insert id { e with results := some results }) := by
  have hrunning : e.isRunning = true := decide_eq_true running
  rw [keepResults, stored, Option.filter_some, if_pos hrunning]
  rfl

/-- A stop after interim results have been kept puts the results at the stop in their place. -/
theorem complete_stop_of_kept {soFar : Outcome ExperimentSweep} {id : String} {results : Results}
    {notices : List Notice} (running : e.status = .running) :
    ExperimentSweep.complete now
        { soFar with
          engine := soFar.engine.withExperiments
            (soFar.engine.experiments.insert id { e with results := some results })
          notices } id .stop =
      { engine := soFar.engine.withExperiments
          (soFar.engine.experiments.insert id
            (e.moved .stop (soFar.engine.compare · now) now))
        answer := { soFar.answer with completed := soFar.answer.completed ++ [id] }
        notices := notices ++ [.experimentMoved id .stop] } := by
  have hstored := Table.get?_insert_self soFar.engine.experiments id
    { e with results := some results }
  have allowed : Move.stop.allowedFrom e.status = true := by rw [running]; rfl
  refine (complete_of_allowed (e := { e with results := some results }) hstored allowed).trans ?_
  simp only [withExperiments, Table.insert_insert]
  rfl

/-- The review of a live experiment that is as it was when the sweep began. -/
theorem review_of_get? (now : Instant) {soFar : Outcome ExperimentSweep} (live : e.isLive = true)
    (stored : soFar.engine.experiments.get? e.id = some e) :
    (ExperimentSweep.review now soFar e).engine =
        soFar.engine.withExperiments
          (soFar.engine.experiments.insert e.id (soFar.engine.reviewed now e)) ∧
      (ExperimentSweep.review now soFar e).answer =
        soFar.engine.noteReviewed now soFar.answer e := by
  rw [ExperimentSweep.review, reviewed, noteReviewed, completes]
  cases expired : e.isExpired now with
  | true =>
    have allowed : Move.expire.allowedFrom e.status = true := by
      rcases Experiment.isLive_iff.mp live with status | status <;> rw [status] <;> rfl
    rw [if_pos rfl, if_pos rfl, complete_of_allowed stored allowed]
    exact ⟨rfl, rfl⟩
  | false =>
    rw [if_neg Bool.false_ne_true, if_neg Bool.false_ne_true]
    cases running : e.isRunning with
    | false =>
      rw [if_neg Bool.false_ne_true, if_neg Bool.false_ne_true, Table.insert_of_get? stored]
      exact ⟨rfl, rfl⟩
    | true =>
      have status : e.status = .running := of_decide_eq_true running
      have hkept := keepResults_of_running (soFar.engine.compare e now) stored status
      rw [if_pos rfl, if_pos rfl]
      simp only [hkept]
      cases conclusive : soFar.engine.isConclusive (soFar.engine.compare e now) with
      | false => exact ⟨rfl, rfl⟩
      | true =>
        rw [if_pos rfl, if_pos rfl, complete_stop_of_kept status]
        exact ⟨rfl, rfl⟩

/-! ## One experiment, after others have been swept -/

theorem startDue_after {soFar : Outcome ExperimentSweep} {table : Table Experiment} {id : String}
    (hengine : soFar.engine = engine.withExperiments table) (stored : table.get? id = some e)
    (scheduled : e.status = .scheduled) :
    (ExperimentSweep.startDue now soFar id).engine =
        engine.withExperiments (table.insert id (e.moved .start (engine.compare · now) now)) ∧
      (ExperimentSweep.startDue now soFar id).answer = noteStarted soFar.answer id := by
  have hstored : soFar.engine.experiments.get? id = some e := by
    rw [hengine]
    exact stored
  rw [startDue_of_scheduled hstored scheduled, hengine]
  exact ⟨rfl, rfl⟩

theorem review_after {soFar : Outcome ExperimentSweep} {table : Table Experiment}
    (hengine : soFar.engine = engine.withExperiments table) (stored : table.get? e.id = some e)
    (live : e.isLive = true) :
    (ExperimentSweep.review now soFar e).engine =
        engine.withExperiments (table.insert e.id (engine.reviewed now e)) ∧
      (ExperimentSweep.review now soFar e).answer = engine.noteReviewed now soFar.answer e := by
  have hstored : soFar.engine.experiments.get? e.id = some e := by
    rw [hengine]
    exact stored
  have hreview := review_of_get? now live hstored
  rw [hengine] at hreview
  exact hreview

/-! ## A pass over all of them -/

/-- A pass over items of which each touches its own experiment alone, and does so whatever has
happened to the others, does the same to all of them at once. -/
theorem foldl_each {β : Type} {pass : Outcome ExperimentSweep → β → Outcome ExperimentSweep}
    {note : ExperimentSweep → β → ExperimentSweep} (key : β → String)
    {change : Experiment → Experiment} {meets : β → Experiment → Prop}
    (step : ∀ soFar table b e, soFar.engine = engine.withExperiments table →
      table.get? (key b) = some e → meets b e →
      (pass soFar b).engine = engine.withExperiments (table.insert (key b) (change e)) ∧
        (pass soFar b).answer = note soFar.answer b) :
    ∀ (items : List β) (table : Table Experiment) (soFar : Outcome ExperimentSweep),
      soFar.engine = engine.withExperiments table → (items.map key).Nodup →
      (∀ b ∈ items, ∃ e, table.get? (key b) = some e ∧ meets b e) →
      (items.foldl pass soFar).engine =
          engine.withExperiments
            (table.map fun id e => if id ∈ items.map key then change e else e) ∧
        (items.foldl pass soFar).answer = items.foldl note soFar.answer := by
  intro items
  induction items with
  | nil =>
    intro table soFar hengine _ _
    have same : (table.map fun id e => if id ∈ ([] : List β).map key then change e else e) =
        table := by
      refine Table.ext_get? fun name => ?_
      rw [Table.get?_map]
      cases table.get? name <;> rfl
    rw [same]
    exact ⟨hengine, rfl⟩
  | cons b rest ih =>
    intro table soFar hengine hnodup hmeets
    obtain ⟨hfresh, hrest⟩ := List.nodup_cons.mp hnodup
    obtain ⟨e, hstored, hmeet⟩ := hmeets b List.mem_cons_self
    obtain ⟨hstep, hnote⟩ := step soFar table b e hengine hstored hmeet
    -- the items that are left find their experiments as they were
    have hleft : ∀ c ∈ rest, ∃ e', (table.insert (key b) (change e)).get? (key c) = some e' ∧
        meets c e' := by
      intro c hc
      have hne : key c ≠ key b := fun heq => hfresh (heq ▸ List.mem_map_of_mem hc)
      rw [Table.get?_insert_of_ne _ _ hne]
      exact hmeets c (List.mem_cons_of_mem _ hc)
    obtain ⟨hengines, hanswers⟩ := ih _ _ hstep hrest hleft
    rw [List.foldl_cons, List.foldl_cons, hengines, hanswers, hnote]
    refine ⟨congrArg engine.withExperiments (Table.ext_get? fun name => ?_), rfl⟩
    rw [Table.get?_map, Table.get?_map, Table.get?_insert, List.map_cons]
    by_cases hname : name = key b
    · subst hname
      rw [if_pos rfl, hstored, Option.map_some, Option.map_some, if_neg hfresh,
        if_pos List.mem_cons_self]
    · rw [if_neg hname]
      simp only [List.mem_cons, hname, false_or]

theorem foldl_noteStarted (ids : List String) :
    ∀ sweep, ids.foldl noteStarted sweep = { sweep with started := sweep.started ++ ids } := by
  induction ids with
  | nil => simp
  | cons id rest ih => simp [noteStarted, ih]

theorem foldl_noteReviewed (live : List Experiment) :
    ∀ sweep, live.foldl (engine.noteReviewed now) sweep =
      { sweep with
        completed := sweep.completed ++ (live.filter (engine.completes now)).map (·.id) } := by
  induction live with
  | nil => simp
  | cons e rest ih =>
    intro sweep
    cases completed : engine.completes now e <;> simp [noteReviewed, completed, ih]

/-! ## The sweep -/

theorem Keyed.ids (keyed : engine.Keyed) :
    engine.experiments.values.map (·.id) = engine.experiments.names := by
  rw [Table.values, Table.names, List.map_map]
  exact List.map_congr_left fun entry hmem => keyed (Table.mem_entries_iff.mp hmem)

theorem Keyed.mem_values_iff (keyed : engine.Keyed) :
    e ∈ engine.experiments.values ↔ engine.experiments.get? e.id = some e := by
  rw [Table.mem_values_iff]
  constructor
  · rintro ⟨id, hstored⟩
    rw [keyed hstored]
    exact hstored
  · intro hstored
    exact ⟨e.id, hstored⟩

/-- The ids of the experiments that pass a test come in strictly increasing order. -/
theorem Keyed.increasing_filter (keyed : engine.Keyed) (test : Experiment → Bool) :
    ((engine.experiments.values.filter test).map (·.id)).Pairwise (· < ·) := by
  have hsub : ((engine.experiments.values.filter test).map (·.id)).Sublist
      engine.experiments.names := by
    rw [← keyed.ids]
    exact List.filter_sublist.map _
  exact engine.experiments.names_increasing.sublist hsub

theorem Keyed.nodup_filter (keyed : engine.Keyed) (test : Experiment → Bool) :
    ((engine.experiments.values.filter test).map (·.id)).Nodup :=
  (keyed.increasing_filter test).imp String.ne_of_lt

/-- An id is among them when its experiment passes the test. -/
theorem Keyed.exists_mem_filter_iff (keyed : engine.Keyed) {test : Experiment → Bool}
    {id : String} : id ∈ (engine.experiments.values.filter test).map (·.id) ↔
      ∃ e, engine.experiments.get? id = some e ∧ test e = true := by
  rw [List.mem_map]
  constructor
  · rintro ⟨e, hmem, rfl⟩
    obtain ⟨hvalue, htest⟩ := List.mem_filter.mp hmem
    exact ⟨e, keyed.mem_values_iff.mp hvalue, htest⟩
  · rintro ⟨e, stored, htest⟩
    have hid := keyed stored
    refine ⟨e, List.mem_filter.mpr ⟨keyed.mem_values_iff.mpr ?_, htest⟩, hid⟩
    rw [hid]
    exact stored

theorem Keyed.mem_filter_iff (keyed : engine.Keyed) {test : Experiment → Bool} {id : String}
    (stored : engine.experiments.get? id = some e) :
    id ∈ (engine.experiments.values.filter test).map (·.id) ↔ test e = true := by
  rw [keyed.exists_mem_filter_iff]
  simp [stored]

/-- The first pass of a sweep starts the experiments that are due. -/
theorem startAll (keyed : engine.Keyed) (now : Instant) :
    ((engine.dueIds now).foldl (ExperimentSweep.startDue now) { engine, answer := {} }).engine =
        engine.withExperiments
          (engine.experiments.map fun id e =>
            if id ∈ engine.dueIds now then e.moved .start (engine.compare · now) now else e) ∧
      ((engine.dueIds now).foldl (ExperimentSweep.startDue now) { engine, answer := {} }).answer =
        { started := engine.dueIds now } := by
  have due : ∀ id ∈ engine.dueIds now,
      ∃ e, engine.experiments.get? id = some e ∧ e.status = .scheduled := by
    intro id hid
    obtain ⟨e, hmem, rfl⟩ := List.mem_map.mp hid
    obtain ⟨hvalue, hdue⟩ := List.mem_filter.mp hmem
    exact ⟨e, keyed.mem_values_iff.mp hvalue, of_decide_eq_true (Bool.and_eq_true_iff.mp hdue).1⟩
  have hnodup : ((engine.dueIds now).map fun id => id).Nodup := by
    rw [List.map_id']
    exact keyed.nodup_filter _
  have step : ∀ soFar table id e, soFar.engine = engine.withExperiments table →
      table.get? id = some e → e.status = .scheduled →
      (ExperimentSweep.startDue now soFar id).engine =
          engine.withExperiments (table.insert id (e.moved .start (engine.compare · now) now)) ∧
        (ExperimentSweep.startDue now soFar id).answer = noteStarted soFar.answer id :=
    fun _ _ _ _ => startDue_after
  obtain ⟨hengine, hanswer⟩ := foldl_each (fun id => id) step (engine.dueIds now)
    engine.experiments { engine, answer := {} } rfl hnodup (by simpa only using due)
  rw [List.map_id'] at hengine
  rw [foldl_noteStarted] at hanswer
  exact ⟨hengine, hanswer⟩

/-- What is live is not due. -/
theorem Keyed.not_mem_dueIds (keyed : engine.Keyed) {id : String}
    (stored : engine.experiments.get? id = some e) (live : e.isLive = true) :
    id ∉ engine.dueIds now := by
  intro hdue
  have hscheduled := (Bool.and_eq_true_iff.mp ((keyed.mem_filter_iff stored).mp hdue)).1
  rcases Experiment.isLive_iff.mp live with status | status <;>
    · rw [status] at hscheduled
      cases hscheduled

/-- Both passes of a sweep, one after the other. -/
theorem monitorExperiments_passes (keyed : engine.Keyed)
    (enabled : engine.config.experimentationEnabled = true) (now : Instant) :
    (engine.monitorExperiments now).engine =
        engine.withExperiments
          ((engine.experiments.map fun id e =>
              if id ∈ engine.dueIds now then e.moved .start (engine.compare · now) now else e).map
            fun id e =>
              if id ∈ engine.liveExperiments.map (·.id) then engine.reviewed now e else e) ∧
      (engine.monitorExperiments now).answer =
        { started := engine.dueIds now
          completed := (engine.liveExperiments.filter (engine.completes now)).map (·.id) } := by
  obtain ⟨hstarted, hanswer⟩ := startAll keyed now
  -- the second pass finds the live experiments as they were before the first one
  have live : ∀ b ∈ engine.liveExperiments,
      ∃ e, (engine.experiments.map fun id e =>
          if id ∈ engine.dueIds now then e.moved .start (engine.compare · now) now else e).get?
            b.id = some e ∧ e = b ∧ b.isLive = true := by
    intro b hb
    obtain ⟨hvalue, hlive⟩ := List.mem_filter.mp hb
    have hstored := keyed.mem_values_iff.mp hvalue
    refine ⟨b, ?_, rfl, hlive⟩
    rw [Table.get?_map, hstored, Option.map_some, if_neg (keyed.not_mem_dueIds hstored hlive)]
  have step : ∀ soFar table b e, soFar.engine = engine.withExperiments table →
      table.get? b.id = some e → e = b ∧ b.isLive = true →
      (ExperimentSweep.review now soFar b).engine =
          engine.withExperiments (table.insert b.id (engine.reviewed now e)) ∧
        (ExperimentSweep.review now soFar b).answer = engine.noteReviewed now soFar.answer b := by
    rintro soFar table b e hengine hstored ⟨rfl, hlive⟩
    exact review_after hengine hstored hlive
  obtain ⟨hengine, hreviewed⟩ := foldl_each (·.id) step engine.liveExperiments _ _ hstarted
    (keyed.nodup_filter _) live
  rw [foldl_noteReviewed, hanswer] at hreviewed
  rw [monitorExperiments, if_pos enabled]
  exact ⟨hengine, hreviewed⟩

/-- A sweep makes of every experiment what it makes of it by itself, and nothing else. -/
theorem engine_monitorExperiments (keyed : engine.Keyed)
    (enabled : engine.config.experimentationEnabled = true) :
    (engine.monitorExperiments now).engine =
      engine.withExperiments (engine.experiments.map fun _ e => engine.swept now e) := by
  obtain ⟨hengine, -⟩ := monitorExperiments_passes keyed enabled now
  rw [hengine]
  refine congrArg engine.withExperiments (Table.ext_get? fun id => ?_)
  rw [Table.get?_map, Table.get?_map, Table.get?_map]
  cases stored : engine.experiments.get? id with
  | none => rfl
  | some e =>
    have hdue : id ∈ engine.dueIds now ↔ isStartable now e = true := keyed.mem_filter_iff stored
    have hlive : id ∈ engine.liveExperiments.map (·.id) ↔ e.isLive = true :=
      keyed.mem_filter_iff stored
    simp only [Option.map_some, hdue, hlive, swept]
    cases live : e.isLive with
    | true =>
      have hnotDue : isStartable now e = false :=
        Bool.eq_false_iff.mpr fun h => keyed.not_mem_dueIds stored live (hdue.mpr h)
      simp only [hnotDue, Bool.false_eq_true, if_false]
    | false => simp only [Bool.false_eq_true, if_false]

/-- A sweep names the experiments that were due, and the live ones that it completes. -/
theorem answer_monitorExperiments (keyed : engine.Keyed)
    (enabled : engine.config.experimentationEnabled = true) :
    (engine.monitorExperiments now).answer =
      { started := engine.dueIds now
        completed := (engine.liveExperiments.filter (engine.completes now)).map (·.id) } :=
  (monitorExperiments_passes keyed enabled now).2

/-- As long as experimentation is off, a sweep does nothing. -/
theorem engine_monitorExperiments_of_disabled
    (disabled : engine.config.experimentationEnabled = false) :
    (engine.monitorExperiments now).engine = engine := by
  rw [monitorExperiments, disabled]
  rfl

end FeatureTrials.Engine
