import FeatureTrials.Experiment.Significance

/-!
# What a comparison carries over

A comparison observes the variants and then adds a verdict, which leaves everything that has been
observed as it is (`Experiment.compareBy_eq_observe`), however counts are added. The clock only
tells how long an experiment has been running. Once it is over and has an end, the comparison does
not depend on the clock any more (`Experiment.compare_of_finished`).
-/

namespace FeatureTrials.Experiment

variable {e : Experiment} {add : Nat → Nat → Nat} {samples : Table Sample} {level : Float}
  {minSampleSize : Nat} {now later : Instant}

/-- The run of the experiment is over. -/
def IsFinished (e : Experiment) : Prop := e.status = .completed ∨ e.status = .archived

/-! ## What is observed -/

/-- Judging adds the verdict, and who has won. -/
theorem judge_eq (results : Results) (control challenger : Variant)
    (controlRate challengerRate level : Float) (minSampleSize : Nat) :
    ∃ verdict significant winner,
      judge results control challenger controlRate challengerRate level minSampleSize =
        { results with verdict, significant, winner } := by
  unfold judge
  split
  · exact ⟨results.verdict, results.significant, results.winner, rfl⟩
  · split
    · exact ⟨_, results.significant, results.winner, rfl⟩
    · dsimp only
      split
      · exact ⟨_, _, _, rfl⟩
      · exact ⟨_, results.significant, results.winner, rfl⟩

/-- A comparison adds to what is observed. -/
theorem compareBy_eq_observe (e : Experiment) (add : Nat → Nat → Nat) (samples : Table Sample)
    (level : Float) (minSampleSize : Nat) (now : Instant) :
    ∃ verdict confidence significant winner pValue effectSize,
      e.compareBy add samples level minSampleSize now =
        { e.observe add samples level now with
          verdict, confidence, significant, winner, pValue, effectSize } := by
  unfold compareBy
  generalize e.observe add samples level now = results
  cases e.control? with
  | none => exact ⟨_, _, _, _, _, _, rfl⟩
  | some control =>
    dsimp only
    cases e.challenger? samples control with
    | none => exact ⟨_, _, _, _, _, _, rfl⟩
    | some challenger =>
      dsimp only
      generalize sampleOf samples control = a, sampleOf samples challenger = b
      -- the confidence follows from the p-value, if there is one
      cases Significance.twoProportionTest add a b with
      | none =>
        obtain ⟨verdict, significant, winner, heq⟩ :=
          judge_eq { results with
            effectSize := (b.rate - a.rate).abs, pValue := none, confidence := 0.0 }
            control challenger a.rate b.rate level minSampleSize
        exact ⟨verdict, _, significant, winner, _, _, heq⟩
      | some p =>
        obtain ⟨verdict, significant, winner, heq⟩ :=
          judge_eq { results with
            effectSize := (b.rate - a.rate).abs, pValue := some p
            confidence := Significance.clamp (1.0 - p) }
            control challenger a.rate b.rate level minSampleSize
        exact ⟨verdict, _, significant, winner, _, _, heq⟩

theorem variants_compareBy :
    (e.compareBy add samples level minSampleSize now).variants =
      e.variantResults samples level := by
  obtain ⟨_, _, _, _, _, _, heq⟩ := compareBy_eq_observe e add samples level minSampleSize now
  rw [heq, observe]

theorem totalSamples_compareBy :
    (e.compareBy add samples level minSampleSize now).totalSamples =
      (e.observe add samples level now).totalSamples := by
  obtain ⟨_, _, _, _, _, _, heq⟩ := compareBy_eq_observe e add samples level minSampleSize now
  rw [heq]

theorem startTime_compare :
    (e.compare samples level minSampleSize now).startTime = e.startTime := by
  obtain ⟨_, _, _, _, _, _, heq⟩ := compareBy_eq_observe e (· + ·) samples level minSampleSize now
  rw [compare, heq, observe]

theorem variants_compare :
    (e.compare samples level minSampleSize now).variants = e.variantResults samples level :=
  variants_compareBy

/-- Results have an end when the run is over. -/
theorem endTime_compare_of_finished (finished : e.IsFinished) :
    (e.compare samples level minSampleSize now).endTime = e.endTime := by
  obtain ⟨_, _, _, _, _, _, heq⟩ := compareBy_eq_observe e (· + ·) samples level minSampleSize now
  rw [compare, heq, observe]
  exact if_pos finished

theorem endTime_compare_of_not_finished (unfinished : ¬ e.IsFinished) :
    (e.compare samples level minSampleSize now).endTime = none := by
  obtain ⟨_, _, _, _, _, _, heq⟩ := compareBy_eq_observe e (· + ·) samples level minSampleSize now
  rw [compare, heq, observe]
  exact if_neg unfinished

/-- The observed rates are those of the declared variants. -/
theorem mem_names_variantResults_iff {name : String} :
    name ∈ (e.variantResults samples level).names ↔ ∃ v ∈ e.variants, v.id = name := by
  rw [Table.mem_names_iff, variantResults]
  constructor
  · rintro ⟨result, hget⟩
    obtain ⟨v, hv, heq⟩ := List.mem_map.mp (Table.mem_of_get?_ofList hget)
    exact ⟨v, hv, congrArg Prod.fst heq⟩
  · rintro ⟨v, hv, rfl⟩
    refine Table.exists_get?_ofList ?_
    rw [List.map_map]
    exact List.mem_map.mpr ⟨v, hv, rfl⟩

/-! ## When the run is over -/

/-- A comparison depends on the clock and the status through what is observed alone. -/
theorem compare_congr {other : Experiment}
    (hvariants : other.variants = e.variants)
    (hobserve : other.observe (· + ·) samples level later = e.observe (· + ·) samples level now) :
    other.compare samples level minSampleSize later =
      e.compare samples level minSampleSize now := by
  have hcontrol : other.control? = e.control? := by rw [control?, control?, hvariants]
  have hchallenger : other.challenger? samples = e.challenger? samples := by
    funext control
    rw [challenger?, challenger?, hvariants]
  rw [compare, compare, compareBy, compareBy, hobserve, hcontrol, hchallenger]

/-- When the run is over, the clock does not matter. -/
theorem compare_of_finished (finished : e.IsFinished) {stop : Instant}
    (ended : e.endTime = some stop) (now later : Instant) :
    e.compare samples level minSampleSize later = e.compare samples level minSampleSize now := by
  refine compare_congr rfl ?_
  have hend : (if e.status = .completed ∨ e.status = .archived then e.endTime else none) =
      some stop := (if_pos finished).trans ended
  rw [observe, observe]
  simp only [hend, Option.getD_some]

/-- It does not matter whether a completed experiment has been archived. -/
theorem compare_archived (completed : e.status = .completed) :
    { e with status := .archived }.compare samples level minSampleSize now =
      e.compare samples level minSampleSize now := by
  refine compare_congr rfl ?_
  rw [observe, observe]
  simp [completed, variantResults]

end FeatureTrials.Experiment
