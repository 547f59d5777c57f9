import FeatureTrials.Engine.Operation
import FeatureTrials.Proofs.Engine.Success
import Mathlib.Data.List.Nodup

/-!
# Registering in any order

Flags, segments, experiments and strategies are registered under their own names. Whether one is
accepted depends on its definition and on what stands under its own name, never on the rest of the
registry. So definitions with different names can be registered in any order, and nobody can tell
afterwards which came first (`Engine.run_perm`).

* `Registration` — a definition to be registered, and the name it goes under.
* `Table.offer` — a value that is put in if the table accepts it.
-/

namespace FeatureTrials

/-! ## Offers to a table -/

namespace Table

variable {α : Type}

/-- Gives a name a value, if it is accepted in place of what the name has. -/
def offer (t : Table α) (name : String) (value : α) (accepts : Option α → Bool) : Table α :=
  if accepts (t.get? name) then t.insert name value else t

theorem get?_offer_of_ne (t : Table α) {name other : String} (h : other ≠ name) (value : α)
    (accepts : Option α → Bool) : (t.offer name value accepts).get? other = t.get? other := by
  unfold offer
  split
  · exact get?_insert_of_ne t value h
  · rfl

/-- Offers under different names can be made in either order. -/
theorem offer_comm (t : Table α) {name other : String} (h : name ≠ other) (value another : α)
    (accepts takes : Option α → Bool) :
    (t.offer name value accepts).offer other another takes =
      (t.offer other another takes).offer name value accepts := by
  rw [offer, get?_offer_of_ne t h.symm]
  conv => rhs; rw [offer, get?_offer_of_ne t h]
  unfold offer
  split
  · split
    · exact insert_comm t h value another
    · rfl
  · rfl

end Table

/-! ## Registrations -/

/-- A definition to be registered. -/
inductive Registration where
  | ofFlag (flag : Flag)
  | ofSegment (segment : Segment)
  | ofExperiment (experiment : Experiment)
  | ofStrategy (strategy : Strategy)

namespace Registration

/-- The operation that registers a definition. -/
def operation : Registration → Operation
  | .ofFlag flag => .upsertFlag flag
  | .ofSegment segment => .createSegment segment
  | .ofExperiment experiment => .createExperiment experiment
  | .ofStrategy strategy => .registerStrategy strategy

/-- The registry of a definition and the name it goes under. -/
def target : Registration → Entity × String
  | .ofFlag flag => (.flag, flag.key)
  | .ofSegment segment => (.segment, segment.id)
  | .ofExperiment experiment => (.experiment, experiment.id)
  | .ofStrategy strategy => (.rolloutStrategy, strategy.id)

end Registration

namespace Engine

variable {engine : Engine} {now later : Instant}

/-- The engine with a definition offered to its registry. Flags and strategies replace what they
find under their name; segments and experiments do not. -/
def offered (engine : Engine) (now : Instant) : Registration → Engine
  | .ofFlag flag =>
    { engine with flags := engine.flags.offer flag.key flag fun _ => flag.violation?.isNone }
  | .ofSegment segment =>
    { engine with
      segments := engine.segments.offer segment.id segment fun taken =>
        segment.violation?.isNone && taken.isNone }
  | .ofExperiment e =>
    { engine with
      experiments := engine.experiments.offer e.id { e with results := some .initial } fun taken =>
        e.violation?.isNone && (initialStatusViolation? e.status).isNone && taken.isNone }
  | .ofStrategy strategy =>
    { engine with
      rollouts := engine.rollouts.offer strategy.id ⟨strategy, .start now⟩ fun _ =>
        strategy.violation?.isNone }

/-- To register a definition is to offer it to its registry. -/
theorem step_operation (now : Instant) (registration : Registration) :
    engine.step now registration.operation = engine.offered now registration := by
  cases registration with
  | ofFlag flag =>
    rw [Registration.operation, step, perform, upsertFlag, offered, Table.offer]
    cases flag.violation? <;> rfl
  | ofSegment segment =>
    rw [Registration.operation, step, perform, createSegment, offered, Table.offer, requireFree,
      Table.contains]
    cases segment.violation? with
    | some violation => rfl
    | none => cases stored : engine.segments.get? segment.id <;> simp <;> rfl
  | ofExperiment e =>
    rw [Registration.operation, step, perform, createExperiment, offered, Table.offer, requireFree,
      Table.contains]
    cases e.violation? with
    | some violation => rfl
    | none =>
      cases initialStatusViolation? e.status with
      | some violation => rfl
      | none => cases stored : engine.experiments.get? e.id <;> simp <;> rfl
  | ofStrategy strategy =>
    rw [Registration.operation, step, perform, registerStrategy, offered, Table.offer]
    cases strategy.violation? <;> rfl

/-- Two definitions with different names can be registered in either order. -/
theorem offered_comm {first second : Registration} (h : first.target ≠ second.target) :
    (engine.offered now first).offered later second =
      (engine.offered later second).offered now first := by
  cases first with
  | ofFlag flag =>
    cases second with
    | ofFlag other =>
      have hne : flag.key ≠ other.key := fun heq => h (congrArg (Prod.mk Entity.flag) heq)
      simp only [offered, Table.offer_comm engine.flags hne]
    | _ => rfl
  | ofSegment segment =>
    cases second with
    | ofSegment other =>
      have hne : segment.id ≠ other.id := fun heq => h (congrArg (Prod.mk Entity.segment) heq)
      simp only [offered, Table.offer_comm engine.segments hne]
    | _ => rfl
  | ofExperiment e =>
    cases second with
    | ofExperiment other =>
      have hne : e.id ≠ other.id := fun heq => h (congrArg (Prod.mk Entity.experiment) heq)
      simp only [offered, Table.offer_comm engine.experiments hne]
    | _ => rfl
  | ofStrategy strategy =>
    cases second with
    | ofStrategy other =>
      have hne : strategy.id ≠ other.id :=
        fun heq => h (congrArg (Prod.mk Entity.rolloutStrategy) heq)
      simp only [offered, Table.offer_comm engine.rollouts hne]
    | _ => rfl

/-- The engine after some registrations, each at its reading of the clock. -/
def registered (engine : Engine) (registrations : List (Instant × Registration)) : Engine :=
  engine.run (registrations.map fun (now, registration) => (now, registration.operation))

/-- Definitions with different names can be registered in any order. -/
theorem registered_perm {registrations reordered : List (Instant × Registration)}
    (perm : registrations.Perm reordered)
    (distinct : (registrations.map (·.2.target)).Nodup) :
    engine.registered registrations = engine.registered reordered := by
  rw [registered, registered, run, run, List.foldl_map, List.foldl_map]
  refine perm.foldl_eq' ?_ engine
  rintro ⟨now, first⟩ hfirst ⟨later, second⟩ hsecond between
  simp only [step_operation]
  -- the only definition with the same target is the same one
  by_cases htarget : first.target = second.target
  · have heq := List.inj_on_of_nodup_map distinct hfirst hsecond htarget
    cases heq
    rfl
  · exact offered_comm htarget

end Engine

end FeatureTrials
