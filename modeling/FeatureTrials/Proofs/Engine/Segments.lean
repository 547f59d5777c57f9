import FeatureTrials.Proofs.Engine.Noninterference
import FeatureTrials.Proofs.Engine.Success
import FeatureTrials.Proofs.Experiment.Assignment

/-!
# What segments change

Removing a segment matters to its members alone, and so does creating one. With the segment a member
may be let into an experiment that keeps them out without it; nobody who is in an experiment is ever
moved to another variant of it.

* `Engine.withSegment` — an engine with one segment more.
* `Engine.EvaluatesLike` — two engines evaluate a flag for a user alike.
* `Engine.WidenedBy` — all that one segment more can change.
* `Engine.widenedBy_withSegment` — one segment more changes nothing else.
* `Engine.segments_local` — the main result.
-/

namespace FeatureTrials

variable {id flagKey : String} {segment : Segment} {user : User}

/-! ## One segment more in an experiment -/

namespace Experiment

variable {e : Experiment} {registered : Table Segment} {enabled : Bool}

/-- Of the listed segments, one more lets in its members, however often it is listed. -/
theorem any_registered_insert (free : registered.get? id = none) (listed : List String) :
    (listed.filterMap (registered.insert id segment).get?).any (·.contains user) =
      ((listed.filterMap registered.get?).any (·.contains user) ||
        (listed.contains id && segment.contains user)) := by
  induction listed with
  | nil => rfl
  | cons name listed ih =>
    -- under the free id nothing was found before, and under every other one the same is found
    by_cases hname : name = id
    · subst hname
      rw [List.filterMap_cons_some (Table.get?_insert_self registered name segment),
        List.filterMap_cons_none free, List.any_cons, ih, List.contains_cons, beq_self_eq_true,
        Bool.true_or, Bool.true_and]
      cases segment.contains user <;> simp
    · have hother : (id == name) = false := beq_eq_false_iff_ne.mpr (Ne.symm hname)
      have hget := Table.get?_insert_of_ne registered segment hname
      rw [List.contains_cons, hother, Bool.false_or]
      cases hregistered : registered.get? name with
      | none =>
        rw [hregistered] at hget
        rw [List.filterMap_cons_none hget, List.filterMap_cons_none hregistered, ih]
      | some found =>
        rw [hregistered] at hget
        rw [List.filterMap_cons_some hget, List.filterMap_cons_some hregistered, List.any_cons,
          List.any_cons, ih, Bool.or_assoc]

/-- One segment more lets in those of its members who were kept out by the segments, if it is
listed. -/
theorem segmentsAdmit_insert (free : registered.get? id = none) :
    e.segmentsAdmit (registered.insert id segment) enabled user =
      (e.segmentsAdmit registered enabled user ||
        (e.segments.contains id && segment.contains user)) := by
  rw [segmentsAdmit, segmentsAdmit, any_registered_insert free, Bool.or_assoc, Bool.or_assoc,
    Bool.or_assoc]

/-- Nobody is let in anew by a segment they are not in, or that is not listed, or when segments are
switched off. -/
theorem segmentsAdmit_insert_of_idle (free : registered.get? id = none)
    (idle : enabled = true → id ∈ e.segments → segment.contains user = false) :
    e.segmentsAdmit (registered.insert id segment) enabled user =
      e.segmentsAdmit registered enabled user := by
  cases enabled with
  | false => rfl
  | true =>
    rw [segmentsAdmit_insert free]
    by_cases listed : id ∈ e.segments
    · rw [idle rfl listed, Bool.and_false, Bool.or_false]
    · rw [List.contains_eq_mem, decide_eq_false listed, Bool.false_and, Bool.or_false]

theorem assign_insert_of_idle (free : registered.get? id = none)
    (idle : enabled = true → id ∈ e.segments → segment.contains user = false) :
    e.assign (registered.insert id segment) enabled user = e.assign registered enabled user := by
  rw [assign, assign, admits, admits, segmentsAdmit_insert_of_idle free idle]

/-- Who takes part keeps their variant when there is one segment more. -/
theorem assign_insert_of_some {v : Variant} (free : registered.get? id = none)
    (assigned : e.assign registered enabled user = some v) :
    e.assign (registered.insert id segment) enabled user = some v := by
  obtain ⟨admitted, picked⟩ := assign_eq_some.mp assigned
  refine assign_eq_some.mpr ⟨?_, picked⟩
  simp only [admits, Bool.and_eq_true] at admitted ⊢
  obtain ⟨⟨targeted, inSegment⟩, inTraffic⟩ := admitted
  refine ⟨⟨targeted, ?_⟩, inTraffic⟩
  rw [segmentsAdmit_insert free, inSegment, Bool.true_or]

end Experiment

/-! ## One segment more in an engine -/

namespace Engine

variable {engine : Engine} {default : FlagValue} {now : Instant}

/-- The engine with one segment more. -/
def withSegment (engine : Engine) (id : String) (segment : Segment) : Engine :=
  { engine with segments := engine.segments.insert id segment }

/-- The engine with one segment less. -/
def withoutSegment (engine : Engine) (id : String) : Engine :=
  { engine with segments := engine.segments.erase id }

/-- A running experiment that is bound to a flag lists a segment, and segments are looked at. -/
def Consults (engine : Engine) (flagKey id : String) : Prop :=
  engine.config.segmentationEnabled = true ∧
    ∃ e ∈ engine.experiments.values,
      e.isRunning = true ∧ e.affectsFlag flagKey = true ∧ id ∈ e.segments

/-- An evaluation assigns a user the same variant on both engines, and gives the same answer, with
the same on record and the same told. -/
structure EvaluatesLike (engine other : Engine) (flagKey : String) (user : User)
    (default : FlagValue) (now : Instant) : Prop where
  assignment? : engine.assignment? flagKey user = other.assignment? flagKey user
  answer : (engine.evaluate flagKey user default now).answer =
    (other.evaluate flagKey user default now).answer
  analytics : (engine.evaluate flagKey user default now).engine.analytics =
    (other.evaluate flagKey user default now).engine.analytics
  notices : (engine.evaluate flagKey user default now).notices =
    (other.evaluate flagKey user default now).notices
  signals : (engine.evaluate flagKey user default now).signals =
    (other.evaluate flagKey user default now).signals

/-- A segment lets a user into the experiment in the lead who is kept out of it without. -/
structure LetsIn (narrow wide : Engine) (flagKey : String) (user : User) : Prop where
  without : narrow.assignment? flagKey user = none
  within : (wide.assignment? flagKey user).isSome = true
  /-- without a variant the rollout and the flag decide, the same on both engines -/
  fallback : ∀ default now, (narrow.evaluate flagKey user default now).answer =
    wide.baseDetail flagKey user default now

/-- All that one segment more can change, of two engines of which the wide one has it. -/
structure WidenedBy (id : String) (segment : Segment) (narrow wide : Engine) : Prop where
  /-- the engines differ in the segment alone -/
  wide_eq : wide = narrow.withSegment id segment
  /-- nothing for users who are not in the segment -/
  outside : ∀ flagKey user, segment.contains user = false →
    ∀ default now, narrow.EvaluatesLike wide flagKey user default now
  /-- for its members nothing, unless they are assigned a variant because of it and none without -/
  inside : ∀ flagKey user, (∀ default now, narrow.EvaluatesLike wide flagKey user default now) ∨
    narrow.LetsIn wide flagKey user
  /-- nothing for anyone where no experiment looks at the segment -/
  unused : ∀ flagKey, ¬ wide.Consults flagKey id →
    ∀ user default now, narrow.EvaluatesLike wide flagKey user default now

@[simp] theorem experimentFor?_withSegment :
    (engine.withSegment id segment).experimentFor? flagKey = engine.experimentFor? flagKey := rfl

@[simp] theorem detailOf_withSegment (assignment : Option Assignment) :
    (engine.withSegment id segment).detailOf assignment flagKey user default now =
      engine.detailOf assignment flagKey user default now := rfl

@[simp] theorem gateNotices_withSegment :
    (engine.withSegment id segment).gateNotices flagKey user now =
      engine.gateNotices flagKey user now := rfl

@[simp] theorem analytics_withSegment :
    (engine.withSegment id segment).analytics = engine.analytics := rfl

@[simp] theorem recordExposure_withSegment (assignment : Assignment) :
    (engine.withSegment id segment).recordExposure assignment user now =
      (engine.recordExposure assignment user now).withSegment id segment := by
  unfold recordExposure withSegment
  dsimp only
  split <;> rfl

@[simp] theorem recordEvaluation_withSegment (detail : Detail FlagValue) :
    (engine.withSegment id segment).recordEvaluation flagKey user detail default now =
      (engine.recordEvaluation flagKey user detail default now).withSegment id segment := by
  unfold recordEvaluation withSegment
  dsimp only
  split <;> rfl

/-- Evaluations look at segments only where a variant is assigned. -/
theorem evaluate_withSegment
    (same : (engine.withSegment id segment).assignment? flagKey user =
      engine.assignment? flagKey user) :
    (engine.withSegment id segment).evaluate flagKey user default now =
      { engine.evaluate flagKey user default now with
        engine := (engine.evaluate flagKey user default now).engine.withSegment id segment } := by
  simp only [evaluate, same, detailOf_withSegment, gateNotices_withSegment]
  cases engine.assignment? flagKey user with
  | none => simp
  | some assignment => simp

theorem evaluatesLike_withSegment
    (same : (engine.withSegment id segment).assignment? flagKey user =
      engine.assignment? flagKey user) :
    engine.EvaluatesLike (engine.withSegment id segment) flagKey user default now := by
  constructor
  · rw [same]
  · rw [evaluate_withSegment same]
  · rw [evaluate_withSegment same, analytics_withSegment]
  · rw [evaluate_withSegment same]
  · rw [evaluate_withSegment same]

/-- Nobody is assigned anything else because of a segment they are not in, or that is not looked
at. -/
theorem assignment?_withSegment_of_idle (free : engine.segments.get? id = none)
    (idle : engine.Consults flagKey id → segment.contains user = false) :
    (engine.withSegment id segment).assignment? flagKey user =
      engine.assignment? flagKey user := by
  unfold assignment?
  -- which experiment is in the lead has nothing to do with segments, only whom it lets in
  rw [experimentFor?_withSegment]
  cases found : engine.experimentFor? flagKey with
  | none => rfl
  | some e =>
    have bound := List.find?_some found
    rw [Bool.and_eq_true] at bound
    have hassign : e.assign (engine.segments.insert id segment) engine.config.segmentationEnabled
        user = e.assign engine.segments engine.config.segmentationEnabled user := by
      refine Experiment.assign_insert_of_idle free fun enabled listed => idle ⟨enabled, e, ?_⟩
      exact ⟨List.mem_of_find?_eq_some found, bound.1, bound.2, listed⟩
    simp only [withSegment, Option.bind_some, hassign]

/-- Who is assigned a variant keeps it when there is one segment more. -/
theorem assignment?_withSegment_of_some {assignment : Assignment}
    (free : engine.segments.get? id = none)
    (assigned : engine.assignment? flagKey user = some assignment) :
    (engine.withSegment id segment).assignment? flagKey user = some assignment := by
  unfold assignment? at assigned ⊢
  rw [experimentFor?_withSegment]
  split at assigned
  · next enabled =>
    obtain ⟨e, found, hmap⟩ := Option.bind_eq_some_iff.mp assigned
    obtain ⟨v, hassign, rfl⟩ := Option.map_eq_some_iff.mp hmap
    have hkept : e.assign (engine.segments.insert id segment) engine.config.segmentationEnabled
        user = some v := Experiment.assign_insert_of_some free hassign
    simp only [withSegment, enabled, if_true, found, Option.bind_some, hkept, Option.map_some]
  · cases assigned

/-- One segment more under a free id changes nothing but who of its members is let in. -/
theorem widenedBy_withSegment (free : engine.segments.get? id = none) :
    WidenedBy id segment engine (engine.withSegment id segment) where
  wide_eq := rfl
  outside flagKey user excluded default now :=
    evaluatesLike_withSegment (assignment?_withSegment_of_idle free fun _ => excluded)
  inside flagKey user := by
    cases assigned : engine.assignment? flagKey user with
    | some assignment =>
      left
      intro default now
      apply evaluatesLike_withSegment
      rw [assigned, assignment?_withSegment_of_some free assigned]
    | none =>
      cases widened : (engine.withSegment id segment).assignment? flagKey user with
      | none =>
        left
        intro default now
        apply evaluatesLike_withSegment
        rw [assigned, widened]
      | some assignment =>
        right
        refine ⟨assigned, by rw [widened, Option.isSome_some], fun default now => ?_⟩
        simp only [evaluate, assigned]
        rfl
  unused flagKey unconsulted user default now :=
    evaluatesLike_withSegment
      (assignment?_withSegment_of_idle free fun consulted => (unconsulted consulted).elim)

/-! ## Removing and creating segments -/

/-- A segment that is there is removed. -/
theorem deleteSegment_of_get? (stored : engine.segments.get? id = some segment) :
    engine.deleteSegment id =
      .ok { engine := engine.withoutSegment id
            answer := segment
            notices := [.segmentDeleted id] } := by
  have found : engine.segment id = .ok segment := find_of_get? stored
  rw [deleteSegment, found]
  rfl

/-- A valid segment is created under a free id. -/
theorem createSegment_of_free (valid : segment.violation? = none)
    (free : engine.segments.get? segment.id = none) :
    engine.createSegment segment =
      .ok { engine := engine.withSegment segment.id segment
            answer := ()
            notices := [.segmentCreated segment.id] } := by
  have checked : check segment.violation? = .ok () := check_eq_ok.mpr valid
  have unused : requireFree engine.segments .segment segment.id = .ok () :=
    requireFree_eq_ok.mpr free
  rw [createSegment, checked, unused]
  rfl

/-- A removed segment would make the engine the old one again. -/
theorem withSegment_withoutSegment (stored : engine.segments.get? id = some segment) :
    (engine.withoutSegment id).withSegment id segment = engine := by
  rw [withSegment, withoutSegment, Table.insert_erase_of_get? stored]

theorem segments_withoutSegment (engine : Engine) (id : String) :
    (engine.withoutSegment id).segments.get? id = none := by
  rw [withoutSegment, Table.get?_erase, if_pos rfl]

/-- **Segments matter to their members alone.** A registered segment can be removed, and a valid one
created under a free id. Users who are not in it are evaluated as before. A member can lose the
variant they are assigned when it is removed, and gain one when it is created, but is never moved
from one variant to another. And where no running experiment that is bound to the flag lists the
segment, or segments are switched off, nothing changes for anyone. -/
theorem segments_local (engine : Engine) :
    (∀ id segment, engine.segments.get? id = some segment →
      ∃ outcome, engine.deleteSegment id = .ok outcome ∧ outcome.answer = segment ∧
        WidenedBy id segment outcome.engine engine) ∧
    (∀ segment, segment.violation? = none → engine.segments.get? segment.id = none →
      ∃ outcome, engine.createSegment segment = .ok outcome ∧
        WidenedBy segment.id segment engine outcome.engine) := by
  constructor
  · intro id segment stored
    refine ⟨_, deleteSegment_of_get? stored, rfl, ?_⟩
    have widened : WidenedBy id segment (engine.withoutSegment id)
        ((engine.withoutSegment id).withSegment id segment) :=
      widenedBy_withSegment (engine.segments_withoutSegment id)
    rwa [withSegment_withoutSegment stored] at widened
  · intro segment valid free
    exact ⟨_, createSegment_of_free valid free, widenedBy_withSegment free⟩

/-! ### A comparison for the members of two segments

The offers are compared among the premium users of one country and the members of another segment,
which has not been created yet. -/

/-- The other segment that the comparison lists, with everybody in it. -/
def everybody : Segment :=
  { id := "nobody", name := "Everybody", createdAt := .ofNanos 3, updatedAt := .ofNanos 3 }

/-- A user who pays nothing. -/
def visitor : User := { id := "bob", country := some "BR" }

theorem segments_local_offers :
    (∃ premium outcome, offersEngine.segments.get? "premium_users" = some premium ∧
      premium.contains customer = true ∧
      (offersEngine.assignment? "offer" customer).isSome = true ∧
      offersEngine.deleteSegment "premium_users" = .ok outcome ∧
      outcome.engine.assignment? "offer" customer = none ∧
      WidenedBy "premium_users" premium outcome.engine offersEngine) ∧
    everybody.violation? = none ∧ offersEngine.segments.get? "nobody" = none ∧
    (∃ outcome, offersEngine.createSegment everybody = .ok outcome ∧
      offersEngine.assignment? "offer" visitor = none ∧
      (outcome.engine.assignment? "offer" visitor).isSome = true ∧
      WidenedBy "nobody" everybody offersEngine outcome.engine) := by
  obtain ⟨removing, creating⟩ := segments_local offersEngine
  have free : offersEngine.segments.get? "nobody" = none :=
    Option.isNone_iff_eq_none.mp (by decide +kernel)
  have valid : everybody.violation? = none := by decide
  refine ⟨?_, valid, free, ?_⟩
  · have registered : (offersEngine.segments.get? "premium_users").isSome = true := by
      decide +kernel
    obtain ⟨premium, stored⟩ := Option.isSome_iff_exists.mp registered
    have member :
        (offersEngine.segments.get? "premium_users").all (·.contains customer) = true := by
      decide +kernel
    rw [stored] at member
    obtain ⟨outcome, deleted, -, widened⟩ := removing "premium_users" premium stored
    refine ⟨premium, outcome, stored, member, by decide +kernel, deleted, ?_, widened⟩
    have lost : ((offersEngine.withoutSegment "premium_users").assignment? "offer"
        customer).isNone = true := by
      decide +kernel
    rw [deleteSegment_of_get? stored] at deleted
    cases deleted
    exact Option.isNone_iff_eq_none.mp lost
  · obtain ⟨outcome, created, widened⟩ := creating everybody valid free
    refine ⟨outcome, created, Option.isNone_iff_eq_none.mp (by decide +kernel), ?_, widened⟩
    rw [createSegment_of_free valid free] at created
    cases created
    decide +kernel

end Engine

end FeatureTrials
