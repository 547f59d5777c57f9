import FeatureTrials.Engine.Definitions

/-!
# When operations succeed

An operation that can be refused is a chain of checks followed by its outcome. Such a chain succeeds
exactly when every check passes (`bind_eq_ok`, `check_eq_ok`, `find_eq_ok`, `requireFree_eq_ok`).
From this, for every operation on experiments: when it succeeds, and what it leaves behind.
-/

namespace FeatureTrials

/-! ## Chains of checks -/

@[simp] theorem ok_bind {ε α β : Type} (a : α) (f : α → Except ε β) :
    ((.ok a : Except ε α) >>= f) = f a := rfl

@[simp] theorem error_bind {ε α β : Type} (e : ε) (f : α → Except ε β) :
    ((.error e : Except ε α) >>= f) = .error e := rfl

@[simp] theorem pure_eq_ok {ε α : Type} (a : α) : (pure a : Except ε α) = .ok a := rfl

@[simp] theorem throw_eq_error {ε α : Type} (e : ε) : (throw e : Except ε α) = .error e := rfl

theorem bind_eq_ok {ε α β : Type} {x : Except ε α} {f : α → Except ε β} {r : β} :
    (x >>= f) = .ok r ↔ ∃ a, x = .ok a ∧ f a = .ok r := by
  cases x with
  | error e => simp only [bind, Except.bind, reduceCtorEq, false_and, exists_false]
  | ok a => simp only [bind, Except.bind, Except.ok.injEq, exists_eq_left']

theorem map_eq_ok {ε α β : Type} {x : Except ε α} {f : α → β} {r : β} :
    x.map f = .ok r ↔ ∃ a, x = .ok a ∧ f a = r := by
  cases x with
  | error e => simp only [Except.map, reduceCtorEq, false_and, exists_false]
  | ok a => simp only [Except.map, Except.ok.injEq, exists_eq_left']

theorem map_eq_error {ε α β : Type} {x : Except ε α} {f : α → β} {e : ε} :
    x.map f = .error e ↔ x = .error e := by
  cases x with
  | error e => simp [Except.map]
  | ok a => simp [Except.map]

theorem check_eq_ok {violation : Option Violation} {u : Unit} :
    check violation = .ok u ↔ violation = none := by
  cases violation <;> simp only [check, reduceCtorEq]

namespace Engine

theorem find_of_get? {α : Type} {table : Table α} {entity : Entity} {id : String} {value : α}
    (stored : table.get? id = some value) : find table entity id = .ok value := by
  rw [find, stored]

theorem find_of_missing {α : Type} {table : Table α} {entity : Entity} {id : String}
    (missing : table.get? id = none) : find table entity id = .error (.notFound entity id) := by
  rw [find, missing]

theorem find_eq_ok {α : Type} {table : Table α} {entity : Entity} {id : String} {value : α} :
    find table entity id = .ok value ↔ table.get? id = some value := by
  unfold find
  cases table.get? id <;> simp only [reduceCtorEq, Except.ok.injEq, Option.some.injEq]

theorem requireFree_eq_ok {α : Type} {table : Table α} {entity : Entity} {id : String} {u : Unit} :
    requireFree table entity id = .ok u ↔ table.get? id = none := by
  unfold requireFree Table.contains
  cases table.get? id <;>
    simp only [Option.isSome_none, Option.isSome_some, Bool.false_eq_true, if_false, if_true,
      reduceCtorEq]

/-! ## Operations on experiments -/

/-- The engine with another table of experiments. -/
def withExperiments (engine : Engine) (experiments : Table Experiment) : Engine :=
  { engine with experiments }

variable {engine : Engine} {now : Instant} {id : String} {e : Experiment} {move : Move}

theorem initialStatusViolation?_eq_none {status : Status} :
    initialStatusViolation? status = none ↔ status = .draft ∨ status = .scheduled := by
  unfold initialStatusViolation?
  split <;> simp_all

/-- An experiment is created when its definition is valid, it is a draft or scheduled, and its id is
free. -/
theorem createExperiment_eq_ok {outcome : Outcome Unit}
    (h : engine.createExperiment e = .ok outcome) :
    e.violation? = none ∧ (e.status = .draft ∨ e.status = .scheduled) ∧
      engine.experiments.get? e.id = none ∧
      outcome.engine = engine.withExperiments
        (engine.experiments.insert e.id { e with results := some .initial }) := by
  obtain ⟨_, hvalid, h⟩ := bind_eq_ok.mp h
  obtain ⟨_, hstatus, h⟩ := bind_eq_ok.mp h
  obtain ⟨_, hfree, h⟩ := bind_eq_ok.mp h
  cases h
  exact ⟨check_eq_ok.mp hvalid, initialStatusViolation?_eq_none.mp (check_eq_ok.mp hstatus),
    requireFree_eq_ok.mp hfree, rfl⟩

/-- Before it starts an experiment takes a valid definition as a whole, and while it is live one
that does not differ in a frozen part. -/
theorem updated_eq_ok {current update changed : Experiment}
    (h : current.updated update = .ok changed) :
    ((current.status = .draft ∨ current.status = .scheduled) ∧ update.violation? = none ∧
        changed = { update with status := current.status, results := some .initial }) ∨
      (current.isLive = true ∧ current.frozenDifference? update = none ∧
        changed =
          { current with description := update.description, endTime := update.endTime }) := by
  rw [Experiment.updated] at h
  split at h
  · next hstatus =>
    obtain ⟨_, hvalid, h⟩ := bind_eq_ok.mp h
    cases h
    exact .inl ⟨.inl hstatus, check_eq_ok.mp hvalid, by rw [hstatus]⟩
  · next hstatus =>
    obtain ⟨_, hvalid, h⟩ := bind_eq_ok.mp h
    cases h
    exact .inl ⟨.inr hstatus, check_eq_ok.mp hvalid, by rw [hstatus]⟩
  · next hstatus =>
    split at h
    · cases h
    · next hsame =>
      cases h
      exact .inr ⟨Experiment.isLive_iff.mpr (.inl hstatus), hsame, rfl⟩
  · next hstatus =>
    split at h
    · cases h
    · next hsame =>
      cases h
      exact .inr ⟨Experiment.isLive_iff.mpr (.inr hstatus), hsame, rfl⟩
  · cases h

/-- A definition is changed when there is an experiment with its id that takes the change. -/
theorem updateExperiment_eq_ok {outcome : Outcome Unit}
    (h : engine.updateExperiment e = .ok outcome) :
    ∃ current changed, engine.experiments.get? e.id = some current ∧
      current.updated e = .ok changed ∧
      outcome.engine = engine.withExperiments (engine.experiments.insert e.id changed) := by
  obtain ⟨current, hfind, h⟩ := bind_eq_ok.mp h
  obtain ⟨changed, hupdated, h⟩ := bind_eq_ok.mp h
  cases h
  exact ⟨current, changed, find_eq_ok.mp hfind, hupdated, rfl⟩

/-- An experiment takes a move that its status allows. -/
theorem moveExperiment_of_allowed (stored : engine.experiments.get? id = some e)
    (allowed : move.allowedFrom e.status = true) :
    engine.moveExperiment id move now =
      .ok { engine := engine.withExperiments
              (engine.experiments.insert id (e.moved move (engine.compare · now) now))
            answer := ()
            notices := [.experimentMoved id move.attempt] } := by
  simp only [moveExperiment, experiment, find, stored, bind, Except.bind, allowed, if_true]
  rfl

/-- A move that the status does not allow is refused. -/
theorem moveExperiment_of_refused (stored : engine.experiments.get? id = some e)
    (refused : move.allowedFrom e.status = false) :
    engine.moveExperiment id move now = .error (.wrongStatus id e.status move.attempt) := by
  simp only [moveExperiment, experiment, find, stored, bind, Except.bind, refused,
    Bool.false_eq_true, if_false]
  rfl

/-- Nothing is moved where there is nothing. -/
theorem moveExperiment_of_missing (missing : engine.experiments.get? id = none) :
    engine.moveExperiment id move now = .error (.notFound .experiment id) := by
  simp only [moveExperiment, experiment, find, missing, bind, Except.bind]

/-- A move succeeds only for an experiment that is there and allows it. -/
theorem moveExperiment_eq_ok {outcome : Outcome Unit}
    (h : engine.moveExperiment id move now = .ok outcome) :
    ∃ e, engine.experiments.get? id = some e ∧ move.allowedFrom e.status = true ∧
      outcome.engine = engine.withExperiments
        (engine.experiments.insert id (e.moved move (engine.compare · now) now)) := by
  cases stored : engine.experiments.get? id with
  | none =>
    rw [moveExperiment_of_missing stored] at h
    cases h
  | some e =>
    cases allowed : move.allowedFrom e.status with
    | false =>
      rw [moveExperiment_of_refused stored allowed] at h
      cases h
    | true =>
      rw [moveExperiment_of_allowed stored allowed] at h
      cases h
      exact ⟨e, rfl, allowed, rfl⟩

end Engine

end FeatureTrials
