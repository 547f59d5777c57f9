import FeatureTrials.Experiment.Validity
import FeatureTrials.Proofs.Decimal.Operations

/-!
# The first constraint that is violated

A definition is checked at one point after another: its id, its name, how many variants it has, the
traffic share, the variants in their order, the sum of the weights, and how many controls there are.
Of a variant the id is looked at before the weight. What is reported is the violation at the first
point where a constraint is broken, and nothing is reported of a definition that satisfies them all.

* `Checkpoint` — the points, and their order.
* `Experiment.IsValid` — what is asked of a definition.
* `Experiment.Breaks` — the constraints that are broken, each at its point.
* `Experiment.reports_first_violation` — the main result.
-/

namespace FeatureTrials

open Decimal

/-! ## Points of a definition -/

/-- A point at which a definition is checked. -/
inductive Checkpoint where
  | id
  | name
  | variantCount
  | traffic
  /-- the id of the variant at an index, which none before it may have -/
  | variantId (index : ℕ)
  /-- the weight of the variant at an index -/
  | variantWeight (index : ℕ)
  | totalWeight
  | controls

namespace Checkpoint

/-- The stage of a point; all points of the variants are at one stage. -/
def stage : Checkpoint → ℕ
  | .id => 0
  | .name => 1
  | .variantCount => 2
  | .traffic => 3
  | .variantId _ => 4
  | .variantWeight _ => 4
  | .totalWeight => 5
  | .controls => 6

/-- The step of a point within its stage; every variant takes two steps. -/
def step : Checkpoint → ℕ
  | .variantId index => 2 * index
  | .variantWeight index => 2 * index + 1
  | _ => 0

/-- A point comes no later than another one. -/
instance : LE Checkpoint where
  le point other :=
    point.stage < other.stage ∨ point.stage = other.stage ∧ point.step ≤ other.step

variable {point other : Checkpoint}

theorem le_iff : point ≤ other ↔
    point.stage < other.stage ∨ point.stage = other.stage ∧ point.step ≤ other.step :=
  Iff.rfl

/-- The first step of a stage comes before all points of this stage and of later ones. -/
theorem le_of_stage_le (hstep : point.step = 0) (h : point.stage ≤ other.stage) :
    point ≤ other := by
  rw [le_iff]
  omega

/-- The steps of a stage are even at the ids and odd at the weights, so they tell points apart. -/
theorem eq_of_stage_eq (hstage : point.stage = other.stage) (hstep : point.step = other.step) :
    point = other := by
  cases point <;> cases other <;> simp [stage, step] at hstage hstep ⊢ <;> omega

theorem le_antisymm (h : point ≤ other) (h' : other ≤ point) : point = other := by
  rw [le_iff] at h h'
  have hstage : point.stage = other.stage := by omega
  have hstep : point.step = other.step := by omega
  exact eq_of_stage_eq hstage hstep

end Checkpoint

/-! ## Weights -/

namespace Share

variable {sum : Float} {weights : List Float}

theorem exactly_zero : Exactly 0 (0 : Float).toModel.unpack := constants_exactly.2.1

theorem atLeast_foldl (hsum : AtLeast 0 sum) (hweights : ∀ weight ∈ weights, AtLeast 0 weight) :
    AtLeast 0 (weights.foldl (· + ·) sum) := by
  induction weights generalizing sum with
  | nil => exact hsum
  | cons weight weights ih =>
    obtain ⟨hweight, hrest⟩ := List.forall_mem_cons.mp hweights
    exact ih ((hsum.add hweight).mono (by simp)) hrest

theorem atLeast_total (hweights : ∀ weight ∈ weights, AtLeast 0 weight) :
    AtLeast 0 (Share.total weights) := by
  cases weights with
  | nil => exact exactly_zero.atLeast
  | cons weight weights =>
    obtain ⟨hweight, hrest⟩ := List.forall_mem_cons.mp hweights
    exact atLeast_foldl hweight hrest

end Share

namespace Variant

/-- The weight is negative or no number. -/
def HasBadWeight (v : Variant) : Prop := v.weight < 0.0 ∨ v.weight.isNaN = true

instance (v : Variant) : Decidable v.HasBadWeight :=
  inferInstanceAs (Decidable (v.weight < 0.0 ∨ v.weight.isNaN = true))

theorem atLeast_weight {v : Variant} (h : ¬ v.HasBadWeight) : AtLeast 0 v.weight := by
  obtain ⟨hnonneg, hnumber⟩ := not_or.mp h
  exact atLeast_zero hnonneg (Bool.eq_false_of_not_eq_true hnumber)

end Variant

namespace Experiment

/-! ## Constraints -/

/-- All constraints on a definition are satisfied. -/
structure IsValid (e : Experiment) : Prop where
  id_ne : e.id ≠ ""
  name_ne : e.name ≠ ""
  two_variants : 2 ≤ e.variants.length
  traffic_percent : 0.0 ≤ e.trafficPercent ∧ e.trafficPercent ≤ 100.0
  distinct_ids : (e.variants.map (·.id)).Nodup
  weights : ∀ v ∈ e.variants, ¬ v.HasBadWeight
  total_pos : 0.0 < e.totalWeight
  one_control : e.variants.Pairwise fun v w => ¬ (v.isControl = true ∧ w.isControl = true)

/-- A constraint that is broken, the point at which it is, and what is reported of it. -/
inductive Breaks (e : Experiment) : Checkpoint → Violation → Prop
  | id (missing : e.id = "") : Breaks e .id .missingExperimentId
  | name (missing : e.name = "") : Breaks e .name .missingExperimentName
  | variantCount (few : e.variants.length < 2) :
    Breaks e .variantCount (.tooFewVariants e.variants.length)
  | traffic (out : ¬ (0.0 ≤ e.trafficPercent ∧ e.trafficPercent ≤ 100.0)) :
    Breaks e .traffic (.trafficOutOfRange e.trafficPercent)
  | variantId {index : ℕ} {v : Variant} (declared : e.variants[index]? = some v)
    (repeated : v.id ∈ (e.variants.take index).map (·.id)) :
    Breaks e (.variantId index) (.duplicateVariant v.id)
  | variantWeight {index : ℕ} {v : Variant} (declared : e.variants[index]? = some v)
    (bad : v.HasBadWeight) : Breaks e (.variantWeight index) (.negativeWeight v.id)
  | totalWeight (zero : ¬ 0.0 < e.totalWeight) : Breaks e .totalWeight .zeroTotalWeight
  | controls
    (several : ¬ e.variants.Pairwise fun v w => ¬ (v.isControl = true ∧ w.isControl = true)) :
    Breaks e .controls (.multipleControls e.controlCount)

/-- A constraint that is broken at a point, and no other one at a point before. -/
structure BreaksFirst (e : Experiment) (point : Checkpoint) (violation : Violation) : Prop where
  breaks : e.Breaks point violation
  first : ∀ other violation, e.Breaks other violation → point ≤ other

variable {e : Experiment} {point other : Checkpoint} {violation reported : Violation}

/-- At every point only one thing can be reported. -/
theorem Breaks.unique (h : e.Breaks point violation) (h' : e.Breaks point reported) :
    violation = reported := by
  cases h with
  | variantId declared _ =>
    cases h' with
    | variantId declared' _ =>
      cases declared.symm.trans declared'
      rfl
  | variantWeight declared _ =>
    cases h' with
    | variantWeight declared' _ =>
      cases declared.symm.trans declared'
      rfl
  | _ =>
    cases h'
    rfl

theorem BreaksFirst.unique (h : e.BreaksFirst point violation) (h' : e.BreaksFirst other reported) :
    violation = reported := by
  have hpoint : point = other :=
    Checkpoint.le_antisymm (h.first _ _ h'.breaks) (h'.first _ _ h.breaks)
  subst hpoint
  exact h.breaks.unique h'.breaks

/-! ## The variants -/

section Variants

variable {seen : List String} {variants before after : List Variant} {v : Variant}

theorem variantViolation?_cons (seen : List String) (v : Variant) (rest : List Variant) :
    variantViolation? seen (v :: rest) =
      if v.id ∈ seen then some (.duplicateVariant v.id)
      else if v.HasBadWeight then some (.negativeWeight v.id)
      else variantViolation? (v.id :: seen) rest := by
  have hseen : seen.contains v.id = decide (v.id ∈ seen) := List.contains_eq_mem _ _
  have hbad : (decide (v.weight < 0.0) || v.weight.isNaN) = decide v.HasBadWeight := by
    rw [Bool.eq_iff_iff, Bool.or_eq_true, decide_eq_true_iff, decide_eq_true_iff,
      Variant.HasBadWeight]
  rw [variantViolation?, hseen, hbad]
  simp only [decide_eq_true_eq]

/-- No variant is objected to when no id is repeated and every weight is one. -/
theorem variantViolation?_eq_none_iff :
    variantViolation? seen variants = none ↔
      (variants.map (·.id)).Nodup ∧ (∀ v ∈ variants, v.id ∉ seen) ∧
        ∀ v ∈ variants, ¬ v.HasBadWeight := by
  induction variants generalizing seen with
  | nil => simp [variantViolation?]
  | cons v rest ih =>
    rw [variantViolation?_cons, List.map_cons, List.nodup_cons, List.forall_mem_cons,
      List.forall_mem_cons]
    by_cases hseen : v.id ∈ seen
    · simp [hseen]
    · by_cases hbad : v.HasBadWeight
      · simp [hseen, hbad]
      · -- the ids of the rest are new to the one before them and to those seen earlier
        have hnew : (∀ w ∈ rest, w.id ∉ v.id :: seen) ↔
            v.id ∉ rest.map (·.id) ∧ ∀ w ∈ rest, w.id ∉ seen := by
          simp only [List.mem_cons, not_or, List.mem_map, not_exists, not_and, forall_and]
        rw [if_neg hseen, if_neg hbad, ih, hnew]
        tauto

/-- The variant that is objected to is the first one that repeats an id or has a bad weight. -/
theorem exists_of_variantViolation? (h : variantViolation? seen variants = some violation) :
    ∃ before v after, variants = before ++ v :: after ∧ variantViolation? seen before = none ∧
      (v.id ∈ seen ++ before.map (·.id) ∧ violation = .duplicateVariant v.id ∨
        v.id ∉ seen ++ before.map (·.id) ∧ v.HasBadWeight ∧ violation = .negativeWeight v.id) := by
  induction variants generalizing seen with
  | nil => cases h
  | cons v rest ih =>
    rw [variantViolation?_cons] at h
    split at h
    · next hseen =>
      cases h
      exact ⟨[], v, rest, rfl, rfl, .inl ⟨List.mem_append_left _ hseen, rfl⟩⟩
    · next hseen =>
      split at h
      · next hbad =>
        cases h
        exact ⟨[], v, rest, rfl, rfl, .inr ⟨by simpa using hseen, hbad, rfl⟩⟩
      · next hbad =>
        obtain ⟨before, w, after, rfl, hbefore, hw⟩ := ih h
        refine ⟨v :: before, w, after, rfl, ?_, ?_⟩
        · rw [variantViolation?_cons, if_neg hseen, if_neg hbad]
          exact hbefore
        · have hperm : (seen ++ (v :: before).map (·.id)).Perm
              (v.id :: seen ++ before.map (·.id)) :=
            List.perm_middle
          rwa [hperm.mem_iff]

/-- A broken constraint on the variants is not on one of those that nothing is objected to. -/
theorem Breaks.length_le (h : e.Breaks point violation) (hstage : point.stage = 4)
    (hvariants : e.variants = before ++ after) (hbefore : variantViolation? [] before = none) :
    2 * before.length ≤ point.step := by
  obtain ⟨hnodup, -, hweights⟩ := variantViolation?_eq_none_iff.mp hbefore
  by_contra hlt
  cases h with
  | @variantId index v declared repeated =>
    have hindex : index < before.length := by
      simp only [Checkpoint.step] at hlt
      omega
    rw [hvariants, List.getElem?_append_left hindex] at declared
    rw [hvariants, List.take_append_of_le_length hindex.le, List.map_take] at repeated
    have hlater : v.id ∈ (before.map (·.id)).drop index := by
      refine List.mem_of_getElem? (i := 0) ?_
      rw [List.getElem?_drop, Nat.add_zero, List.getElem?_map, declared, Option.map_some]
    exact List.disjoint_take_drop hnodup le_rfl repeated hlater
  | @variantWeight index v declared bad =>
    have hindex : index < before.length := by
      simp only [Checkpoint.step] at hlt
      omega
    rw [hvariants, List.getElem?_append_left hindex] at declared
    exact hweights v (List.mem_of_getElem? declared) bad
  | _ => cases hstage

end Variants

/-! ## The other constraints -/

theorem isPercentage_iff {x : Float} : isPercentage x = true ↔ 0.0 ≤ x ∧ x ≤ 100.0 := by
  rw [isPercentage, Bool.and_eq_true, decide_eq_true_iff, decide_eq_true_iff]

/-- At most one of several is marked if no two of them are. -/
theorem countP_le_one_iff {α : Type} {p : α → Bool} {l : List α} :
    l.countP p ≤ 1 ↔ l.Pairwise fun a b => ¬ (p a = true ∧ p b = true) := by
  induction l with
  | nil => simp
  | cons a rest ih =>
    rw [List.pairwise_cons, ← ih]
    by_cases ha : p a = true
    · have hnone : rest.countP p = 0 ↔ ∀ b ∈ rest, ¬ (p a = true ∧ p b = true) := by
        simp [List.countP_eq_zero, ha]
      rw [List.countP_cons_of_pos ha, ← hnone]
      omega
    · simp [ha]

/-- The sum of weights is a number, so it is positive or not. -/
theorem totalWeight_le_iff (hweights : ∀ v ∈ e.variants, ¬ v.HasBadWeight) :
    e.totalWeight ≤ 0.0 ↔ ¬ 0.0 < e.totalWeight := by
  have hatLeast : ∀ weight ∈ e.variants.map (·.weight), AtLeast 0 weight := by
    intro weight hweight
    obtain ⟨v, hv, rfl⟩ := List.mem_map.mp hweight
    exact Variant.atLeast_weight (hweights v hv)
  have hnumber : e.totalWeight.isNaN = false := (Share.atLeast_total hatLeast).number
  constructor
  · exact not_lt_of_le
  · intro hpos
    exact (le_or_gt hnumber (zero_exactly).number).resolve_right hpos

/-! ## One stage after another -/

/-- Something is wrong with the definition at a stage. -/
def BrokenAt (e : Experiment) : ℕ → Prop
  | 0 => e.id = ""
  | 1 => e.name = ""
  | 2 => e.variants.length < 2
  | 3 => ¬ (0.0 ≤ e.trafficPercent ∧ e.trafficPercent ≤ 100.0)
  | 4 => variantViolation? [] e.variants ≠ none
  | 5 => ¬ 0.0 < e.totalWeight
  | 6 => ¬ e.variants.Pairwise fun v w => ¬ (v.isControl = true ∧ w.isControl = true)
  | _ => False

theorem Breaks.brokenAt (breaks : e.Breaks point violation) : e.BrokenAt point.stage := by
  have hlength (hstage : point.stage = 4) (hvariants : variantViolation? [] e.variants = none) :
      2 * e.variants.length ≤ point.step :=
    breaks.length_le hstage (List.append_nil _).symm hvariants
  cases breaks with
  | id missing => exact missing
  | name missing => exact missing
  | variantCount few => exact few
  | traffic out => exact out
  | variantId declared _ =>
    intro hvariants
    have hindex := (List.getElem?_eq_some_iff.mp declared).1
    have hle := hlength rfl hvariants
    simp only [Checkpoint.step] at hle
    omega
  | variantWeight declared bad =>
    intro hvariants
    exact (variantViolation?_eq_none_iff.mp hvariants).2.2 _ (List.mem_of_getElem? declared) bad
  | totalWeight zero => exact zero
  | controls several => exact several

/-- Nothing is wrong at the stages before one. -/
def SoundBefore (e : Experiment) (n : ℕ) : Prop := ∀ m < n, ¬ e.BrokenAt m

variable {n : ℕ}

theorem soundBefore_zero (e : Experiment) : e.SoundBefore 0 :=
  fun _ hlt => absurd hlt (Nat.not_lt_zero _)

theorem SoundBefore.succ (sound : e.SoundBefore n) (h : ¬ e.BrokenAt n) : e.SoundBefore (n + 1) :=
  Nat.forall_lt_succ_right.mpr ⟨sound, h⟩

theorem SoundBefore.le_stage (sound : e.SoundBefore n) (breaks : e.Breaks point violation) :
    n ≤ point.stage :=
  Nat.not_lt.mp fun hlt => sound _ hlt breaks.brokenAt

/-- What is broken at a stage with one step comes first when nothing is wrong before. -/
theorem SoundBefore.breaksFirst (sound : e.SoundBefore point.stage) (hstep : point.step = 0)
    (breaks : e.Breaks point violation) : e.BreaksFirst point violation where
  breaks := breaks
  first _ _ h := Checkpoint.le_of_stage_le hstep (sound.le_stage h)

/-- The first broken constraint on the variants is the one that is reported. -/
theorem SoundBefore.breaksFirst_variants (sound : e.SoundBefore 4)
    (h : variantViolation? [] e.variants = some violation) :
    ∃ point, e.BreaksFirst point violation := by
  obtain ⟨before, v, after, hvariants, hbefore, hv⟩ := exists_of_variantViolation? h
  have declared : e.variants[before.length]? = some v := by
    rw [hvariants, List.getElem?_append_right le_rfl, Nat.sub_self]
    rfl
  have htake : e.variants.take before.length = before := by
    rw [hvariants, List.take_left]
  rw [List.nil_append] at hv
  rcases hv with ⟨hrepeated, rfl⟩ | ⟨hnew, hbad, rfl⟩
  · refine ⟨.variantId before.length, .variantId declared (by rwa [htake]), ?_⟩
    intro other reported breaks
    rcases (sound.le_stage breaks).lt_or_eq with hlater | hstage
    · exact .inl hlater
    · exact .inr ⟨hstage, breaks.length_le hstage.symm hvariants hbefore⟩
  · refine ⟨.variantWeight before.length, .variantWeight declared hbad, ?_⟩
    intro other reported breaks
    rcases (sound.le_stage breaks).lt_or_eq with hlater | hstage
    · exact .inl hlater
    · refine .inr ⟨hstage, ?_⟩
      have hle := breaks.length_le hstage.symm hvariants hbefore
      cases breaks with
      | @variantId index w declared' repeated =>
        -- the id of the same variant is new, so the one that repeats an id is a later one
        rcases eq_or_ne index before.length with rfl | hne
        · cases declared.symm.trans declared'
          rw [htake] at repeated
          exact absurd repeated hnew
        · simp only [Checkpoint.step] at hle ⊢
          omega
      | variantWeight declared' bad =>
        simp only [Checkpoint.step] at hle ⊢
        omega
      | _ => cases hstage

/-! ## What is reported -/

theorem isValid_of_sound (sound : e.SoundBefore 7) : e.IsValid := by
  have hvariants : variantViolation? [] e.variants = none := not_not.mp (sound 4 (by decide))
  obtain ⟨hnodup, -, hweights⟩ := variantViolation?_eq_none_iff.mp hvariants
  exact {
    id_ne := sound 0 (by decide)
    name_ne := sound 1 (by decide)
    two_variants := Nat.not_lt.mp (sound 2 (by decide))
    traffic_percent := not_not.mp (sound 3 (by decide))
    distinct_ids := hnodup
    weights := hweights
    total_pos := not_not.mp (sound 5 (by decide))
    one_control := not_not.mp (sound 6 (by decide)) }

theorem IsValid.not_brokenAt (valid : e.IsValid) (n : ℕ) : ¬ e.BrokenAt n := by
  match n with
  | 0 => exact valid.id_ne
  | 1 => exact valid.name_ne
  | 2 => exact Nat.not_lt.mpr valid.two_variants
  | 3 => exact not_not.mpr valid.traffic_percent
  | 4 =>
    exact not_not.mpr (variantViolation?_eq_none_iff.mpr
      ⟨valid.distinct_ids, fun _ _ => List.not_mem_nil, valid.weights⟩)
  | 5 => exact not_not.mpr valid.total_pos
  | 6 => exact not_not.mpr valid.one_control
  | _ + 7 => exact not_false

/-- What a report says of a definition: that it is valid, or what is broken first. -/
def Tells (e : Experiment) : Option Violation → Prop
  | none => e.IsValid
  | some violation => ∃ point, e.BreaksFirst point violation

/-- What is reported of the weights and controls, where nothing is wrong with the variants one by
one. -/
theorem SoundBefore.tells_totals (sound : e.SoundBefore 5) :
    e.Tells (if e.totalWeight ≤ 0.0 then some .zeroTotalWeight
      else if e.controlCount > 1 then some (.multipleControls e.controlCount) else none) := by
  have hvariants : variantViolation? [] e.variants = none := not_not.mp (sound 4 (by decide))
  have htotal := totalWeight_le_iff (variantViolation?_eq_none_iff.mp hvariants).2.2
  split
  · next hzero => exact ⟨.totalWeight, sound.breaksFirst rfl (.totalWeight (htotal.mp hzero))⟩
  · next hzero =>
    have sound' := sound.succ fun hnot => hzero (htotal.mpr hnot)
    split
    · next hseveral =>
      refine ⟨.controls, sound'.breaksFirst rfl (.controls fun hpairwise => ?_)⟩
      exact Nat.not_le.mpr hseveral (countP_le_one_iff.mpr hpairwise)
    · next hone =>
      refine isValid_of_sound (sound'.succ (not_not.mpr ?_))
      exact countP_le_one_iff.mp (Nat.not_lt.mp hone)

/-- A report is that of the first stage at which something is wrong. -/
theorem tells_violation? (e : Experiment) : e.Tells e.violation? := by
  -- the checks are gone through in their order; what they have ruled out so far is in `sound`
  rw [violation?]
  have sound := soundBefore_zero e
  split
  · next hid => exact ⟨.id, sound.breaksFirst rfl (.id hid)⟩
  next hid =>
  replace sound := sound.succ hid
  split
  · next hname => exact ⟨.name, sound.breaksFirst rfl (.name hname)⟩
  next hname =>
  replace sound := sound.succ hname
  split
  · next hcount => exact ⟨.variantCount, sound.breaksFirst rfl (.variantCount hcount)⟩
  next hcount =>
  replace sound := sound.succ hcount
  split
  · next hout =>
    rw [Bool.not_eq_true', ← Bool.not_eq_true, isPercentage_iff] at hout
    exact ⟨.traffic, sound.breaksFirst rfl (.traffic hout)⟩
  next hin =>
  rw [Bool.not_eq_true', Bool.not_eq_false, isPercentage_iff] at hin
  replace sound := sound.succ (not_not.mpr hin)
  split
  · next violation hvariants => exact sound.breaksFirst_variants hvariants
  · next hvariants => exact (sound.succ (not_not.mpr hvariants)).tells_totals

/-- A valid definition is not objected to, and any other one is. -/
theorem violation?_eq_none_iff : e.violation? = none ↔ e.IsValid := by
  have tells := tells_violation? e
  cases hreport : e.violation? with
  | none =>
    rw [hreport] at tells
    exact iff_of_true rfl tells
  | some violation =>
    rw [hreport] at tells
    obtain ⟨point, breaksFirst⟩ := tells
    exact iff_of_false nofun fun valid => valid.not_brokenAt _ breaksFirst.breaks.brokenAt

/-- What is reported is what is broken first. -/
theorem violation?_eq_some_iff :
    e.violation? = some violation ↔ ∃ point, e.BreaksFirst point violation := by
  have tells := tells_violation? e
  constructor
  · intro hreport
    rwa [hreport] at tells
  · rintro ⟨point, breaksFirst⟩
    cases hreport : e.violation? with
    | none =>
      have valid := violation?_eq_none_iff.mp hreport
      exact absurd breaksFirst.breaks.brokenAt (valid.not_brokenAt _)
    | some reported =>
      rw [hreport] at tells
      obtain ⟨other, breaksFirst'⟩ := tells
      rw [breaksFirst'.unique breaksFirst]

/-- **The first violation is reported.** Exactly the valid definitions are accepted, and any other
one is refused for the violation at the first point where a constraint is broken, the points being
looked at in their order. -/
theorem reports_first_violation (e : Experiment) :
    (check e.violation? = .ok () ↔ e.IsValid) ∧
    ∀ violation, check e.violation? = .error (.invalid violation) ↔
      ∃ point, e.BreaksFirst point violation := by
  refine ⟨?_, fun violation => ?_⟩
  · rw [← violation?_eq_none_iff]
    cases e.violation? <;> simp [check]
  · rw [← violation?_eq_some_iff]
    cases e.violation? <;> simp [check]

/-- The bad weight of the first arm comes before the id it shares with the second one, and before
the sum of the weights. -/
example :
    violation? { id := "e", name := "e", variants := [.named "a" (-1.0), .named "a" 1.0] } =
      some (.negativeWeight "a") := by
  decide +kernel

end Experiment

end FeatureTrials
