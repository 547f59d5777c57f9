import FeatureTrials.Proofs.Engine.Registration
import FeatureTrials.Proofs.Engine.Registries
import FeatureTrials.Proofs.Text.Bytes

/-!
# Who decides an answer

An answer is decided by the first of several layers that has something to say: the experiment in the
lead, the registry of flags, the rollout, and at last the flag. `Decided` states this as a relation
that speaks of registrations and not of look-ups, and an evaluation answers what has been decided
(`Keyed.evaluate_eq_iff`). The order in which definitions were registered plays no part, and a sweep
that only watches changes nothing.

* `Leads` — the running experiment that has the say about a flag.
* `Serves` — a variant of it is served to a user.
* `Excludes` — the rollout of a flag leaves a user out.
* `Decided` — the answer.
-/

namespace FeatureTrials.Engine

variable {engine : Engine} {flagKey : String} {user : User} {default : FlagValue} {now : Instant}
  {e : Experiment} {v : Variant} {json : Json} {flag : Flag} {strategyId : String}
  {detail : Detail FlagValue}

/-! ## The layers -/

/-- Of the running experiments that are bound to a flag, the one whose id has the least bytes. -/
structure Leads (engine : Engine) (flagKey : String) (e : Experiment) : Prop where
  stored : engine.experiments.get? e.id = some e
  running : e.status = .running
  bound : e.flagKey = some flagKey
  least : ∀ id other, engine.experiments.get? id = some other → other.status = .running →
    other.flagKey = some flagKey → Text.bytes e.id ≤ Text.bytes id

/-- The experiment in the lead assigns a user a variant that declares a value. -/
structure Serves (engine : Engine) (flagKey : String) (user : User) (e : Experiment) (v : Variant)
    (json : Json) : Prop where
  enabled : engine.config.experimentationEnabled = true
  leads : engine.Leads flagKey e
  assigned : e.assign engine.segments engine.config.segmentationEnabled user = some v
  declared : v.config.get? "value" = some json

/-- The strategy that a flag names, or else the configured one, is registered and does not reach a
user. -/
structure Excludes (engine : Engine) (flag : Flag) (user : User) (now : Instant)
    (strategyId : String) : Prop where
  named : flag.rolloutStrategy = some strategyId ∨
    flag.rolloutStrategy = none ∧ engine.config.defaultStrategy = some strategyId
  withheld : engine.reaches strategyId user now = .ok false

/-- The answer for a user. -/
inductive Decided (engine : Engine) (flagKey : String) (user : User) (default : FlagValue)
    (now : Instant) : Detail FlagValue → Prop
  | experiment {e : Experiment} {v : Variant} {json : Json} :
      engine.Serves flagKey user e v json →
      Decided engine flagKey user default now
        { value := .ofAny json, variantId := some v.id, reason := .experiment e.id v.id }
  | flagNotFound :
      (∀ e v json, ¬ engine.Serves flagKey user e v json) →
      engine.flags.get? flagKey = none →
      Decided engine flagKey user default now
        { value := default, reason := .error .flagNotFound }
  | excluded {flag : Flag} {strategyId : String} :
      (∀ e v json, ¬ engine.Serves flagKey user e v json) →
      engine.flags.get? flagKey = some flag → engine.Excludes flag user now strategyId →
      Decided engine flagKey user default now
        { value := default, reason := .rolloutExcluded strategyId }
  | off {flag : Flag} :
      (∀ e v json, ¬ engine.Serves flagKey user e v json) →
      engine.flags.get? flagKey = some flag →
      (∀ strategyId, ¬ engine.Excludes flag user now strategyId) → flag.on = false →
      Decided engine flagKey user default now
        { value := flag.offValue.getD default, reason := .off }
  | fallthrough {flag : Flag} :
      (∀ e v json, ¬ engine.Serves flagKey user e v json) →
      engine.flags.get? flagKey = some flag →
      (∀ strategyId, ¬ engine.Excludes flag user now strategyId) → flag.on = true →
      Decided engine flagKey user default now { value := flag.value, reason := .fallthrough }

/-! ## The experiment in the lead -/

/-- The experiments come in increasing order of their ids. -/
theorem Keyed.values_increasing (keyed : engine.Keyed) :
    engine.experiments.values.Pairwise fun e other => e.id < other.id := by
  have hnames := engine.experiments.names_increasing
  rw [← keyed.ids] at hnames
  exact List.pairwise_map.mp hnames

theorem Leads.unique {other : Experiment} (first : engine.Leads flagKey e)
    (second : engine.Leads flagKey other) : e = other := by
  have hle := first.least _ _ second.stored second.running second.bound
  have hge := second.least _ _ first.stored first.running first.bound
  have hid : e.id = other.id :=
    String.le_antisymm (Text.bytes_le_iff.mp hle) (Text.bytes_le_iff.mp hge)
  have hstored := first.stored
  rw [hid, second.stored] at hstored
  exact (Option.some.inj hstored).symm

/-- The first running experiment that is bound to the flag is in the lead. -/
theorem Keyed.leads_of_experimentFor? (keyed : engine.Keyed)
    (h : engine.experimentFor? flagKey = some e) : engine.Leads flagKey e := by
  obtain ⟨hbound, before, behind, hvalues, hnone⟩ := List.find?_eq_some_iff_append.mp h
  simp [Experiment.isRunning, Experiment.affectsFlag] at hbound
  have hmem : e ∈ engine.experiments.values := by simp [hvalues]
  refine
    { stored := keyed.mem_values_iff.mp hmem
      running := hbound.1
      bound := hbound.2
      least := ?_ }
  intro id other stored running bound
  have hother : other ∈ engine.experiments.values := Table.mem_values_iff.mpr ⟨id, stored⟩
  have increasing := keyed.values_increasing
  rw [← keyed stored, Text.bytes_le_iff]
  rw [hvalues] at hother increasing
  -- what comes before it has been passed over, and what comes behind it has a larger id
  rcases List.mem_append.mp hother with hbefore | hbehind
  · have hpassed := hnone other hbefore
    simp [Experiment.isRunning, Experiment.affectsFlag, running, bound] at hpassed
  · rcases List.mem_cons.mp hbehind with rfl | hbehind
    · exact String.le_refl other.id
    · have hpair := (List.pairwise_append.mp increasing).2.1
      exact String.not_lt.mp (String.lt_asymm ((List.pairwise_cons.mp hpair).1 other hbehind))

theorem Keyed.experimentFor?_eq_some_iff (keyed : engine.Keyed) :
    engine.experimentFor? flagKey = some e ↔ engine.Leads flagKey e := by
  refine ⟨keyed.leads_of_experimentFor?, fun leads => ?_⟩
  cases hfound : engine.experimentFor? flagKey with
  | some found => rw [(keyed.leads_of_experimentFor? hfound).unique leads]
  | none =>
    have hmem := keyed.mem_values_iff.mpr leads.stored
    have hpassed := List.find?_eq_none.mp hfound e hmem
    simp [Experiment.isRunning, Experiment.affectsFlag, leads.running, leads.bound] at hpassed

/-- However the registry is walked through, the bound experiment with the least id is found. -/
theorem Keyed.minOn?_eq_experimentFor? (keyed : engine.Keyed) {order : List Experiment}
    (perm : order.Perm engine.experiments.values) :
    (order.filter fun e => e.isRunning && e.affectsFlag flagKey).minOn?
      (fun e => Text.bytes e.id) = engine.experimentFor? flagKey := by
  -- nothing else is used of the order than which experiments are in it
  have hmem : ∀ e, e ∈ order.filter (fun e => e.isRunning && e.affectsFlag flagKey) ↔
      e ∈ engine.experiments.values ∧ e.status = .running ∧ e.flagKey = some flagKey := by
    intro e
    simp [List.mem_filter, perm.mem_iff, Experiment.isRunning, Experiment.affectsFlag]
  generalize order.filter (fun e => e.isRunning && e.affectsFlag flagKey) = bound at hmem
  by_cases hbound : bound = []
  · subst hbound
    cases hfound : engine.experimentFor? flagKey with
    | none => rfl
    | some e =>
      have leads := keyed.leads_of_experimentFor? hfound
      have hnil := (hmem e).mpr ⟨keyed.mem_values_iff.mpr leads.stored, leads.running, leads.bound⟩
      cases hnil
  · rw [List.minOn?_eq_some_minOn hbound]
    have hfirst := List.minOn_mem (f := fun e : Experiment => Text.bytes e.id) (h := hbound)
    obtain ⟨hvalue, running, hflag⟩ := (hmem _).mp hfirst
    refine (keyed.experimentFor?_eq_some_iff.mpr
      { stored := keyed.mem_values_iff.mp hvalue, running, bound := hflag, least := ?_ }).symm
    intro id other stored running bound
    have hother := (hmem other).mpr ⟨Table.mem_values_iff.mpr ⟨id, stored⟩, running, bound⟩
    have hle := List.apply_minOn_le_of_mem (f := fun e => Text.bytes e.id) hother
    rw [keyed stored] at hle
    exact hle

/-! ## An answer by an experiment -/

/-- Who is served a variant is assigned it, with the value it declares. -/
theorem Serves.assignment?_eq (keyed : engine.Keyed)
    (serves : engine.Serves flagKey user e v json) :
    engine.assignment? flagKey user = some ⟨e.id, v.id, some (.ofAny json)⟩ := by
  have hlead := keyed.experimentFor?_eq_some_iff.mpr serves.leads
  simp [assignment?, serves.enabled, hlead, serves.assigned, Variant.value?, Variant.valueName,
    serves.declared]

/-- Who is assigned a variant with a value is served it. -/
theorem Keyed.serves_of_assignment? (keyed : engine.Keyed) {experimentId variantId : String}
    {value : FlagValue}
    (h : engine.assignment? flagKey user = some ⟨experimentId, variantId, some value⟩) :
    ∃ e v json, engine.Serves flagKey user e v json := by
  cases enabled : engine.config.experimentationEnabled with
  | false => simp [assignment?, enabled] at h
  | true =>
    simp [assignment?, enabled, Option.bind_eq_some_iff] at h
    obtain ⟨e, hlead, v, assigned, -, -, hvalue⟩ := h
    obtain ⟨json, declared, -⟩ := Option.map_eq_some_iff.mp hvalue
    exact ⟨e, v, json, enabled, keyed.experimentFor?_eq_some_iff.mp hlead, assigned, declared⟩

theorem Serves.detail_eq (keyed : engine.Keyed) (serves : engine.Serves flagKey user e v json) :
    engine.detail flagKey user default now =
      { value := .ofAny json, variantId := some v.id, reason := .experiment e.id v.id } := by
  rw [detail, serves.assignment?_eq keyed]
  rfl

/-- Who is served no variant is answered without experiments. -/
theorem Keyed.detail_of_not_serves (keyed : engine.Keyed)
    (unserved : ∀ e v json, ¬ engine.Serves flagKey user e v json) :
    engine.detail flagKey user default now = engine.baseDetail flagKey user default now := by
  rw [detail]
  unfold detailOf
  split
  · next experimentId variantId value hassignment =>
    obtain ⟨e, v, json, serves⟩ := keyed.serves_of_assignment? hassignment
    exact absurd serves (unserved e v json)
  · rfl

/-! ## An answer without experiments -/

theorem reaches_eq_ok_iff {reached : Bool} :
    engine.reaches strategyId user now = .ok reached ↔
      ∃ rollout, engine.rollouts.get? strategyId = some rollout ∧
        rollout.progress.reaches rollout.strategy user now = reached := by
  cases stored : engine.rollouts.get? strategyId with
  | none => simp [reaches, rollout, find, stored]
  | some rollout => simp [reaches, Engine.rollout, find, stored]

theorem orElse_defaultStrategy_iff :
    (flag.rolloutStrategy <|> engine.config.defaultStrategy) = some strategyId ↔
      flag.rolloutStrategy = some strategyId ∨
        flag.rolloutStrategy = none ∧ engine.config.defaultStrategy = some strategyId := by
  cases flag.rolloutStrategy <;> simp

/-- The gate of a flag keeps out whom its rollout excludes. -/
theorem gate_eq_excluded_iff :
    engine.gate flag user now = .excluded strategyId ↔
      engine.Excludes flag user now strategyId := by
  rw [gate]
  constructor
  · intro h
    split at h
    · cases h
    · next hnamed =>
      split at h
      · cases h
      · next rollout stored =>
        split at h
        · cases h
        · next withheld =>
          cases h
          exact ⟨orElse_defaultStrategy_iff.mp hnamed,
            reaches_eq_ok_iff.mpr ⟨rollout, stored, by simpa using withheld⟩⟩
  · rintro ⟨named, withheld⟩
    obtain ⟨rollout, stored, hreaches⟩ := reaches_eq_ok_iff.mp withheld
    simp [orElse_defaultStrategy_iff.mpr named, stored, hreaches]

theorem baseDetail_of_excludes (stored : engine.flags.get? flagKey = some flag)
    (excludes : engine.Excludes flag user now strategyId) :
    engine.baseDetail flagKey user default now =
      { value := default, reason := .rolloutExcluded strategyId } := by
  simp only [baseDetail, stored, gate_eq_excluded_iff.mpr excludes]
  rfl

theorem baseDetail_of_not_excludes (stored : engine.flags.get? flagKey = some flag)
    (admitted : ∀ strategyId, ¬ engine.Excludes flag user now strategyId) :
    engine.baseDetail flagKey user default now = flag.evaluate default := by
  simp only [baseDetail, stored]
  split
  · next strategyId hgate => exact absurd (gate_eq_excluded_iff.mp hgate) (admitted strategyId)
  · rfl

/-! ## The answer -/

/-- An evaluation is answered by what has been decided. -/
theorem Decided.detail_eq (keyed : engine.Keyed)
    (decided : engine.Decided flagKey user default now detail) :
    engine.detail flagKey user default now = detail := by
  cases decided with
  | experiment serves => exact serves.detail_eq keyed
  | flagNotFound unserved missing =>
    rw [keyed.detail_of_not_serves unserved, baseDetail, missing]
    rfl
  | excluded unserved stored excludes =>
    rw [keyed.detail_of_not_serves unserved, baseDetail_of_excludes stored excludes]
  | off unserved stored admitted off =>
    rw [keyed.detail_of_not_serves unserved, baseDetail_of_not_excludes stored admitted,
      Flag.evaluate, off]
    rfl
  | fallthrough unserved stored admitted on =>
    rw [keyed.detail_of_not_serves unserved, baseDetail_of_not_excludes stored admitted,
      Flag.evaluate, on]
    rfl

/-- There is always an answer that has been decided. -/
theorem Keyed.decided (keyed : engine.Keyed) :
    engine.Decided flagKey user default now (engine.detail flagKey user default now) := by
  by_cases served : ∃ e v json, engine.Serves flagKey user e v json
  · obtain ⟨e, v, json, serves⟩ := served
    rw [serves.detail_eq keyed]
    exact .experiment serves
  · have unserved : ∀ e v json, ¬ engine.Serves flagKey user e v json :=
      fun e v json serves => served ⟨e, v, json, serves⟩
    rw [keyed.detail_of_not_serves unserved]
    cases stored : engine.flags.get? flagKey with
    | none =>
      rw [baseDetail, stored]
      exact .flagNotFound unserved stored
    | some flag =>
      by_cases excluded : ∃ strategyId, engine.Excludes flag user now strategyId
      · obtain ⟨strategyId, excludes⟩ := excluded
        rw [baseDetail_of_excludes stored excludes]
        exact .excluded unserved stored excludes
      · have admitted : ∀ strategyId, ¬ engine.Excludes flag user now strategyId :=
          fun strategyId excludes => excluded ⟨strategyId, excludes⟩
        rw [baseDetail_of_not_excludes stored admitted, Flag.evaluate]
        cases on : flag.on with
        | true => exact .fallthrough unserved stored admitted on
        | false => exact .off unserved stored admitted on

/-- An evaluation answers what has been decided, and nothing else has been decided. -/
theorem Keyed.evaluate_eq_iff (keyed : engine.Keyed) :
    (engine.evaluate flagKey user default now).answer = detail ↔
      engine.Decided flagKey user default now detail := by
  have hanswer : (engine.evaluate flagKey user default now).answer =
      engine.detail flagKey user default now := rfl
  rw [hanswer]
  constructor
  · rintro rfl
    exact keyed.decided
  · intro decided
    exact decided.detail_eq keyed

/-- A variant is named exactly when an experiment has decided, and then it is the one in the
reason. -/
theorem Decided.variantId_eq_some_iff (decided : engine.Decided flagKey user default now detail)
    (variantId : String) :
    detail.variantId = some variantId ↔
      ∃ experimentId, detail.reason = .experiment experimentId variantId := by
  cases decided <;> simp

/-! ## A sweep that only watches -/

/-- No safety check of a rollout that is on its way fails. -/
def ChecksPass (engine : Engine) (metrics : Metrics) : Prop :=
  ∀ id rollout, engine.rollouts.get? id = some rollout → rollout.isActive = true →
    rollout.strategy.failedChecks metrics = []

variable {metrics : Metrics} {earlier : Instant}

/-- A sweep without failed checks commits what has elapsed. -/
theorem ChecksPass.progress_step (pass : engine.ChecksPass metrics) {id : String}
    {rollout : Rollout} (stored : engine.rollouts.get? id = some rollout) :
    (rollout.step metrics earlier).progress =
      rollout.progress.after rollout.strategy earlier .tick := by
  rw [Rollout.step]
  cases active : rollout.isActive with
  | false => rfl
  | true =>
    simp only [pass id rollout stored active]
    rfl

/-- Nobody can tell from the gate of a flag whether such a sweep has taken place before. -/
theorem ChecksPass.gate_monitorRollouts (pass : engine.ChecksPass metrics) (hle : earlier ≤ now)
    (flag : Flag) (user : User) :
    (engine.monitorRollouts metrics earlier).engine.gate flag user now =
      engine.gate flag user now := by
  have hconfig : (engine.monitorRollouts metrics earlier).engine.config = engine.config := rfl
  rw [gate, gate, hconfig, rollouts_monitorRollouts]
  split
  · rfl
  · next strategyId _ =>
    rw [Table.get?_map]
    cases stored : engine.rollouts.get? strategyId with
    | none => rfl
    | some rollout =>
      have hsame := Progress.AgreesFrom.refl rollout.strategy earlier rollout.progress
      have watches : Progress.Step.tick.isWatch = true := rfl
      have hreaches := ((hsame.watch_left watches).mono hle).reaches_eq user
      simp only [Option.map_some, pass.progress_step stored, hreaches]

theorem ChecksPass.answer_monitorRollouts (pass : engine.ChecksPass metrics) (hle : earlier ≤ now) :
    ((engine.monitorRollouts metrics earlier).engine.evaluate flagKey user default now).answer =
      (engine.evaluate flagKey user default now).answer := by
  -- what a sweep of rollouts leaves alone
  have hassignment : (engine.monitorRollouts metrics earlier).engine.assignment? flagKey user =
      engine.assignment? flagKey user := rfl
  have hflags : (engine.monitorRollouts metrics earlier).engine.flags = engine.flags := rfl
  have hbase : (engine.monitorRollouts metrics earlier).engine.baseDetail flagKey user default now =
      engine.baseDetail flagKey user default now := by
    simp only [baseDetail, hflags, pass.gate_monitorRollouts hle]
  simp only [evaluate, hassignment, detailOf, hbase]

/-! ## Evaluation in layers -/

/-- **Evaluation is layered.** In whatever engine operations have led to, an evaluation answers what
the layers decide in their order: the experiment in the lead, the registry, the rollout, the flag. A
variant is named exactly when an experiment decides. The answer does not depend on the order in
which definitions were registered, nor on the order in which a registry is walked through, and
sweeps of the rollouts beforehand do not change it unless a check fails. -/
theorem evaluation_in_layers (reachable : Reachable engine) (flagKey : String) (user : User)
    (default : FlagValue) (now : Instant) :
    (∀ detail, (engine.evaluate flagKey user default now).answer = detail ↔
      engine.Decided flagKey user default now detail) ∧
    (∀ variantId, (engine.evaluate flagKey user default now).answer.variantId = some variantId ↔
      ∃ experimentId, (engine.evaluate flagKey user default now).answer.reason =
        .experiment experimentId variantId) ∧
    (∀ registrations reordered rest, registrations.Perm reordered →
      (registrations.map fun r : Instant × Registration => r.2.target).Nodup →
      (((engine.registered registrations).run rest).evaluate flagKey user default now).answer =
        (((engine.registered reordered).run rest).evaluate flagKey user default now).answer) ∧
    (∀ order : List Experiment, order.Perm engine.experiments.values →
      (order.filter fun e => e.isRunning && e.affectsFlag flagKey).minOn?
        (fun e => Text.bytes e.id) = engine.experimentFor? flagKey) ∧
    (∀ metrics earlier, engine.ChecksPass metrics → earlier ≤ now →
      ((engine.step earlier (.monitorRollouts metrics)).evaluate flagKey user default now).answer =
        (engine.evaluate flagKey user default now).answer) := by
  have keyed := reachable.keyed
  refine ⟨?_, ?_, ?_, ?_, ?_⟩
  · intro detail
    exact keyed.evaluate_eq_iff
  · intro variantId
    have decided := keyed.evaluate_eq_iff.mp
      (rfl : (engine.evaluate flagKey user default now).answer = _)
    exact decided.variantId_eq_some_iff variantId
  · intro registrations reordered rest perm distinct
    rw [registered_perm perm distinct]
  · intro order perm
    exact keyed.minOn?_eq_experimentFor? perm
  · intro metrics earlier pass hle
    exact pass.answer_monitorRollouts hle

/-! ### Two experiments on one flag

The flag is behind a rollout, which is swept before it is evaluated. The experiment registered first
is not the one in the lead. -/

/-- Another experiment with the flag of the comparison. -/
def accents : Experiment :=
  { id := "accents", name := "Accents", flagKey := some "colour"
    variants := [(Variant.named "warm" 1.0).withValue (.str "red"),
      (Variant.named "cool" 1.0).withValue (.str "navy")] }

/-- The definitions in the order of their registration. -/
def colourRegistrations : List (Instant × Registration) :=
  [(.ofNanos 1, .ofExperiment colours), (.ofNanos 2, .ofExperiment accents),
    (.ofNanos 3, .ofFlag
      { key := "colour", value := .ofAny (.str "grey"),
        rolloutStrategy := some "canary_deployment" })]

/-- What is done with them. -/
def colourStarts : List (Instant × Operation) :=
  [(.ofNanos 4, .startExperiment "colours"), (.ofNanos 5, .startExperiment "accents")]

/-- The engine with both experiments running. -/
def colourEngine : Engine :=
  ((Engine.standard (.ofNanos 0)).engine.registered colourRegistrations).run colourStarts

/-- The answer of an engine for a user. -/
def colourAnswer (engine : Engine) : Detail FlagValue :=
  (engine.evaluate "colour" { id := "ann" } (.ofAny (.str "white")) (.ofNanos 7)).answer

theorem evaluation_in_layers_colour :
    Reachable colourEngine ∧
      (colourAnswer colourEngine).variantId = some "cool" ∧
      (∃ experimentId, (colourAnswer colourEngine).reason = .experiment experimentId "cool") ∧
      colourEngine.Decided "colour" { id := "ann" } (.ofAny (.str "white")) (.ofNanos 7)
        (colourAnswer colourEngine) ∧
      colourAnswer (((Engine.standard (.ofNanos 0)).engine.registered
        colourRegistrations.reverse).run colourStarts) = colourAnswer colourEngine ∧
      colourAnswer (colourEngine.step (.ofNanos 6) (.monitorRollouts fun _ _ _ => none)) =
        colourAnswer colourEngine := by
  have constructed : Reachable (Engine.standard (.ofNanos 0)).engine := .constructed (.standard _)
  have reachable : Reachable colourEngine := (constructed.run _).run _
  have cool : (colourAnswer colourEngine).variantId = some "cool" := by decide +kernel
  have distinct : (colourRegistrations.map (·.2.target)).Nodup := by decide
  have pass : colourEngine.ChecksPass fun _ _ _ => none := by
    intro _ rollout _ _
    simp [Strategy.failedChecks, Strategy.failure?]
  obtain ⟨-, -, hreordered, -, -⟩ := evaluation_in_layers constructed "colour" { id := "ann" }
    (.ofAny (.str "white")) (.ofNanos 7)
  obtain ⟨hdecided, hvariant, -, -, hswept⟩ := evaluation_in_layers reachable "colour"
    { id := "ann" } (.ofAny (.str "white")) (.ofNanos 7)
  have hreverse := hreordered _ _ colourStarts (List.reverse_perm colourRegistrations).symm distinct
  exact ⟨reachable, cool, (hvariant "cool").mp cool, (hdecided _).mp rfl, hreverse.symm,
    hswept _ (.ofNanos 6) pass (by decide)⟩

end FeatureTrials.Engine
