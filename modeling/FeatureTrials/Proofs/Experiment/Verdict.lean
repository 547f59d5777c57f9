import FeatureTrials.Proofs.Analytics.Samples
import FeatureTrials.Proofs.Decimal.Operations
import FeatureTrials.Proofs.Experiment.Assignment

/-!
# The verdict of a comparison

A verdict says what the numbers say. Results are significant, name a winner and have the verdict
`significant` all at once, and only where there are enough samples and the p-value is low enough.
The winner is then one of the two arms that have been compared, and no declared variant converts
more often; the control wins a tie. A higher minimum of samples may leave the verdict open, and
changes nothing else. None of this depends on how counts are added; in 64 bits, the total is the
exact sum where that fits.

* `Significance.foldl_addWords` — sums of counts in 64 bits.
* `Significance.le_of_best?` — the best variant is one of the variants, and none is better.
* `Results.Judged` — the four ways in which measured results are judged.
* `Experiment.Wins` — the arm that wins, by the samples alone.
* `Experiment.verdict_consistent` — the main result.
-/

namespace FeatureTrials

/-! ## Sums in 64 bits -/

namespace Significance

theorem addWords_eq (a b : ℕ) : addWords a b = (a + b) % 2 ^ 64 := by
  rw [addWords, UInt64.toNat_add, UInt64.toNat_ofNat', UInt64.toNat_ofNat', ← Nat.add_mod]

theorem addWords_of_lt {a b : ℕ} (fits : a + b < 2 ^ 64) : addWords a b = a + b := by
  rw [addWords_eq, Nat.mod_eq_of_lt fits]

theorem foldl_addWords (counts : List ℕ) {total : ℕ} (fits : total < 2 ^ 64) :
    counts.foldl addWords total = (total + counts.sum) % 2 ^ 64 := by
  induction counts generalizing total with
  | nil => exact (Nat.mod_eq_of_lt fits).symm
  | cons count rest ih =>
    have hword : addWords total count < 2 ^ 64 := UInt64.toNat_lt _
    rw [List.foldl_cons, ih hword, addWords_eq, Nat.mod_add_mod, List.sum_cons, Nat.add_assoc]

/-- A sum of words is the exact sum, up to what does not fit. -/
theorem toNat_sum_words (counts : List ℕ) :
    (counts.map UInt64.ofNat).sum.toNat = counts.sum % 2 ^ 64 := by
  induction counts with
  | nil => rfl
  | cons count rest ih =>
    rw [List.map_cons, List.sum_cons, List.sum_cons, UInt64.toNat_add, ih, UInt64.toNat_ofNat',
      ← Nat.add_mod]

end Significance

/-! ## Rates are numbers -/

/-- Both counts fit 64 bits. -/
def Sample.Fits (sample : Sample) : Prop := sample.samples < 2 ^ 64 ∧ sample.conversions < 2 ^ 64

theorem ratio_number {numerator denominator : ℕ} (hn : numerator < 2 ^ 64)
    (hd : denominator < 2 ^ 64) : (ratio numerator denominator).isNaN = false := by
  rw [ratio]
  split
  · decide +kernel
  · next hne =>
    obtain ⟨a, ha, -⟩ := Decimal.exists_exactly_ofNat hn
    obtain ⟨b, hb, hpos⟩ := Decimal.exists_exactly_ofNat hd
    exact (Decimal.near_div ha hb (hpos (Nat.pos_of_ne_zero hne))).number

theorem Sample.Fits.rate_number {sample : Sample} (fits : sample.Fits) :
    sample.rate.isNaN = false :=
  ratio_number fits.2 fits.1

/-- Also a variant that is not listed has a rate. -/
theorem Experiment.rate_number {samples : Table Sample} (fits : samples.All fun _ s => s.Fits)
    (v : Variant) : (sampleOf samples v).rate.isNaN = false := by
  refine Sample.Fits.rate_number ?_
  rw [sampleOf]
  cases hget : samples.get? v.id with
  | none => exact ⟨by decide, by decide⟩
  | some s => exact fits hget

namespace Significance

variable {rate rate' : Variant → Float} {first best v : Variant} {variants : List Variant}

/-! ## The best of the variants -/

theorem better_of_le (h : rate v ≤ rate best) : better rate (some best) v = some best :=
  if_pos h

theorem better_of_not_le (h : ¬ rate v ≤ rate best) : better rate (some best) v = some v :=
  if_neg h

/-- The best one so far, or one of those that follow. -/
theorem mem_of_foldl_better (h : variants.foldl (better rate) (some first) = some best) :
    best ∈ first :: variants := by
  induction variants generalizing first with
  | nil =>
    cases h
    exact List.mem_cons_self
  | cons v rest ih =>
    rw [List.foldl_cons] at h
    by_cases hle : rate v ≤ rate first
    · rw [better_of_le hle] at h
      rcases List.mem_cons.mp (ih h) with rfl | hmem
      · exact List.mem_cons_self
      · exact List.mem_cons_of_mem _ (List.mem_cons_of_mem _ hmem)
    · rw [better_of_not_le hle] at h
      exact List.mem_cons_of_mem _ (ih h)

/-- What has been the best so far is never better than the best one at the end. -/
theorem le_of_foldl_better (numbers : ∀ v, (rate v).isNaN = false)
    (h : variants.foldl (better rate) (some first) = some best) :
    ∀ v ∈ first :: variants, rate v ≤ rate best := by
  induction variants generalizing first with
  | nil =>
    cases h
    exact List.forall_mem_singleton.mpr (Decimal.le_of_beq (Decimal.beq_self (numbers best))).1
  | cons v rest ih =>
    rw [List.foldl_cons] at h
    by_cases hle : rate v ≤ rate first
    · rw [better_of_le hle] at h
      obtain ⟨hfirst, hrest⟩ := List.forall_mem_cons.mp (ih h)
      exact List.forall_mem_cons.mpr
        ⟨hfirst, List.forall_mem_cons.mpr ⟨Decimal.le_trans hle hfirst, hrest⟩⟩
    · rw [better_of_not_le hle] at h
      obtain ⟨hv, hrest⟩ := List.forall_mem_cons.mp (ih h)
      have hlt : rate first < rate v :=
        (Decimal.le_or_gt (numbers v) (numbers first)).resolve_left hle
      exact List.forall_mem_cons.mpr
        ⟨Decimal.le_trans (Decimal.le_of_lt hlt) hv, List.forall_mem_cons.mpr ⟨hv, hrest⟩⟩

theorem foldl_better_congr (hfirst : rate' first = rate first)
    (same : ∀ v ∈ variants, rate' v = rate v) :
    variants.foldl (better rate') (some first) = variants.foldl (better rate) (some first) := by
  induction variants generalizing first with
  | nil => rfl
  | cons v rest ih =>
    obtain ⟨hv, hrest⟩ := List.forall_mem_cons.mp same
    rw [List.foldl_cons, List.foldl_cons]
    by_cases hle : rate v ≤ rate first
    · rw [better_of_le hle, better_of_le (by rwa [hv, hfirst]), ih hfirst hrest]
    · rw [better_of_not_le hle, better_of_not_le (by rwa [hv, hfirst]), ih hv hrest]

theorem mem_of_best? (h : best? rate variants = some best) : best ∈ variants := by
  cases variants with
  | nil => cases h
  | cons first rest => exact mem_of_foldl_better h

theorem le_of_best? (numbers : ∀ v, (rate v).isNaN = false) (h : best? rate variants = some best) :
    ∀ v ∈ variants, rate v ≤ rate best := by
  cases variants with
  | nil => cases h
  | cons first rest => exact le_of_foldl_better numbers h

/-- Only the rates of the variants among which the best one is looked for count. -/
theorem best?_congr (same : ∀ v ∈ variants, rate' v = rate v) :
    best? rate' variants = best? rate variants := by
  cases variants with
  | nil => rfl
  | cons first rest =>
    obtain ⟨hfirst, hrest⟩ := List.forall_mem_cons.mp same
    exact foldl_better_congr hfirst hrest

/-- A test takes two arms with samples. -/
theorem samples_pos_of_test {add : ℕ → ℕ → ℕ} {a b : Sample} {p : Float}
    (h : twoProportionTest add a b = some p) : 0 < a.samples ∧ 0 < b.samples := by
  rw [twoProportionTest] at h
  split at h
  · cases h
  · omega

end Significance

open Significance

/-! ## Judging what has been measured -/

namespace Results

/-- The results with the verdict left open. -/
def undecided (results : Results) : Results :=
  { results with verdict := .inProgress, significant := false, winner := none }

/-- The four ways in which measured results are judged, when one of the arms is ahead. -/
inductive Judged (measured : Results) (ahead : Variant) (level : Float) (minSampleSize : ℕ) :
    Results → Prop
  /-- there are too few samples -/
  | inProgress (few : measured.totalSamples < minSampleSize) :
    Judged measured ahead level minSampleSize measured
  /-- there are enough samples, and no test -/
  | inconclusive (enough : minSampleSize ≤ measured.totalSamples)
      (untested : measured.pValue = none) :
    Judged measured ahead level minSampleSize { measured with verdict := .inconclusive }
  | significant {p : Float} (enough : minSampleSize ≤ measured.totalSamples)
      (tested : measured.pValue = some p) (low : p < 1.0 - level) :
    Judged measured ahead level minSampleSize
      { measured with verdict := .significant, significant := true, winner := some ahead.id }
  | insignificant {p : Float} (enough : minSampleSize ≤ measured.totalSamples)
      (tested : measured.pValue = some p) (high : ¬ p < 1.0 - level) :
    Judged measured ahead level minSampleSize { measured with verdict := .insignificant }

end Results

namespace Experiment

variable {e : Experiment} {add : ℕ → ℕ → ℕ} {samples other : Table Sample} {level : Float}
  {minSampleSize : ℕ} {now : Instant} {control challenger winner : Variant} {measured : Results}

/-- The arm that is ahead, the control on a tie. -/
def ahead (samples : Table Sample) (control challenger : Variant) : Variant :=
  if (sampleOf samples control).rate < (sampleOf samples challenger).rate then challenger
  else control

theorem judged (measured : Results) (samples : Table Sample) (control challenger : Variant)
    (level : Float) (minSampleSize : ℕ) :
    measured.Judged (ahead samples control challenger) level minSampleSize
      (judge measured control challenger (sampleOf samples control).rate
        (sampleOf samples challenger).rate level minSampleSize) := by
  rw [judge]
  split
  · next hfew => exact .inProgress hfew
  · next hmany =>
    have enough := Nat.le_of_not_lt hmany
    split
    · next hnone => exact .inconclusive enough hnone
    · next p hsome =>
      split
      · next hlow => exact .significant enough hsome hlow
      · next hhigh => exact .insignificant enough hsome hhigh

/-- Undoing a verdict gives what has been measured. -/
theorem undecided_judge (opened : measured.undecided = measured)
    (controlRate challengerRate : Float) :
    (judge measured control challenger controlRate challengerRate level minSampleSize).undecided =
      measured := by
  obtain ⟨_, _, _, heq⟩ :=
    judge_eq measured control challenger controlRate challengerRate level minSampleSize
  rw [heq]
  exact opened

/-- A higher minimum of samples leaves the verdict open or as it is. -/
theorem judge_of_larger (opened : measured.undecided = measured)
    (controlRate challengerRate : Float) {larger : ℕ} (hle : minSampleSize ≤ larger) :
    judge measured control challenger controlRate challengerRate level larger =
      if measured.totalSamples < larger then
        (judge measured control challenger controlRate challengerRate level
          minSampleSize).undecided
      else judge measured control challenger controlRate challengerRate level minSampleSize := by
  split
  · next hfew => rw [undecided_judge opened, judge, if_pos hfew]
  · next hmany =>
    have hmany' : ¬ measured.totalSamples < minSampleSize := by omega
    rw [judge, if_neg hmany, judge, if_neg hmany']

/-! ## The arms that are compared -/

/-- One minus the p-value, or zero without a test. -/
def confidenceOf : Option Float → Float
  | some p => clamp (1.0 - p)
  | none => 0.0

/-- What is measured before the verdict, when a challenger is compared with the control. -/
def measure (e : Experiment) (add : ℕ → ℕ → ℕ) (samples : Table Sample) (level : Float)
    (now : Instant) (control challenger : Variant) : Results :=
  let a := sampleOf samples control
  let b := sampleOf samples challenger
  { e.observe add samples level now with
    effectSize := (b.rate - a.rate).abs
    pValue := twoProportionTest add a b
    confidence := confidenceOf (twoProportionTest add a b) }

/-- The challenger is compared with the control, if there are two arms. -/
theorem compareBy_cases (e : Experiment) (add : ℕ → ℕ → ℕ) (samples : Table Sample)
    (level : Float) (now : Instant) :
    (∀ minSampleSize,
      e.compareBy add samples level minSampleSize now = e.observe add samples level now) ∨
    ∃ control challenger, e.control? = some control ∧
      e.challenger? samples control = some challenger ∧
      ∀ minSampleSize, e.compareBy add samples level minSampleSize now =
        judge (e.measure add samples level now control challenger) control challenger
          (sampleOf samples control).rate (sampleOf samples challenger).rate level
          minSampleSize := by
  cases hcontrol : e.control? with
  | none =>
    left
    intro minSampleSize
    rw [compareBy, hcontrol]
  | some control =>
    cases hchallenger : e.challenger? samples control with
    | none =>
      left
      intro minSampleSize
      rw [compareBy, hcontrol]
      dsimp only
      rw [hchallenger]
    | some challenger =>
      right
      refine ⟨control, challenger, rfl, hchallenger, fun minSampleSize => ?_⟩
      rw [compareBy, hcontrol]
      dsimp only
      rw [hchallenger]
      rfl

theorem mem_of_challenger? (h : e.challenger? samples control = some challenger) :
    challenger ∈ e.variants ∧ challenger.id ≠ control.id := by
  obtain ⟨hmem, hid⟩ := List.mem_filter.mp (mem_of_best? h)
  exact ⟨hmem, bne_iff_ne.mp hid⟩

/-- The challenger is the best of the variants that are not the control. -/
theorem le_of_challenger? (fits : samples.All fun _ s => s.Fits)
    (h : e.challenger? samples control = some challenger) :
    ∀ v ∈ e.variants, v.id ≠ control.id →
      (sampleOf samples v).rate ≤ (sampleOf samples challenger).rate := by
  intro v hv hid
  exact le_of_best? (rate_number fits) h v (List.mem_filter.mpr ⟨hv, bne_iff_ne.mpr hid⟩)

/-- A variant wins over the other one of two arms, the control and a best one of the others. -/
structure Wins (e : Experiment) (samples : Table Sample) (control challenger winner : Variant) :
    Prop where
  control_eq : e.control? = some control
  challenger_mem : challenger ∈ e.variants
  challenger_ne : challenger.id ≠ control.id
  challenger_best : ∀ v ∈ e.variants, v.id ≠ control.id →
    (sampleOf samples v).rate ≤ (sampleOf samples challenger).rate
  control_seen : 0 < (sampleOf samples control).samples
  challenger_seen : 0 < (sampleOf samples challenger).samples
  winner_eq : winner = ahead samples control challenger
  winner_mem : winner ∈ e.variants
  winner_best : ∀ v ∈ e.variants, (sampleOf samples v).rate ≤ (sampleOf samples winner).rate

/-- The arm that is ahead is at least as good as both arms. -/
theorem le_ahead (fits : samples.All fun _ s => s.Fits) (control challenger : Variant) :
    (sampleOf samples control).rate ≤ (sampleOf samples (ahead samples control challenger)).rate ∧
      (sampleOf samples challenger).rate ≤
        (sampleOf samples (ahead samples control challenger)).rate := by
  have hrefl (v : Variant) : (sampleOf samples v).rate ≤ (sampleOf samples v).rate :=
    (Decimal.le_of_beq (Decimal.beq_self (rate_number fits v))).1
  rw [ahead]
  split
  · next hlt => exact ⟨Decimal.le_of_lt hlt, hrefl challenger⟩
  · next hnlt =>
    have hle := (Decimal.le_or_gt (rate_number fits challenger)
      (rate_number fits control)).resolve_right hnlt
    exact ⟨hrefl control, hle⟩

theorem wins_ahead (distinct : (e.variants.map (·.id)).Nodup)
    (fits : samples.All fun _ s => s.Fits) (hcontrol : e.control? = some control)
    (hchallenger : e.challenger? samples control = some challenger) {p : Float}
    (tested : twoProportionTest add (sampleOf samples control) (sampleOf samples challenger) =
      some p) :
    e.Wins samples control challenger (ahead samples control challenger) := by
  obtain ⟨hmem, hne⟩ := mem_of_challenger? hchallenger
  have hbest := le_of_challenger? fits hchallenger
  obtain ⟨hseen, hseen'⟩ := samples_pos_of_test tested
  obtain ⟨hle, hle'⟩ := le_ahead fits control challenger
  refine ⟨hcontrol, hmem, hne, hbest, hseen, hseen', rfl, ?_, fun v hv => ?_⟩
  · rw [ahead]
    split
    · exact hmem
    · exact control?_mem hcontrol
  · by_cases hid : v.id = control.id
    · -- ids tell variants apart, so this is the control
      have heq : v = control := List.inj_on_of_nodup_map distinct hv (control?_mem hcontrol) hid
      rw [heq]
      exact hle
    · exact Decimal.le_trans (hbest v hv hid) hle'

/-! ## What is observed -/

/-- There is one result for each declared variant. -/
theorem names_variantResults_perm (distinct : (e.variants.map (·.id)).Nodup) :
    (e.variantResults samples level).names.Perm (e.variants.map (·.id)) := by
  refine (List.perm_ext_iff_of_nodup (Table.nodup_names _) distinct).mpr fun id => ?_
  rw [mem_names_variantResults_iff, List.mem_map]

theorem get?_variantResults (distinct : (e.variants.map (·.id)).Nodup) {v : Variant}
    (hv : v ∈ e.variants) :
    (e.variantResults samples level).get? v.id =
      some (variantResult samples level (criticalValue level) v) := by
  refine (Table.get?_ofList_eq_some_iff ?_).mpr (List.mem_map.mpr ⟨v, hv, rfl⟩)
  intro name x y hx hy
  obtain ⟨a, ha, heq⟩ := List.mem_map.mp hx
  obtain ⟨b, hb, heq'⟩ := List.mem_map.mp hy
  cases heq
  obtain ⟨hid, rfl⟩ := Prod.mk.inj heq'
  rw [List.inj_on_of_nodup_map distinct hb ha hid]

theorem totalSamples_calculate (distinct : (e.variants.map (·.id)).Nodup) :
    (e.calculate samples level minSampleSize now).totalSamples =
      (e.variants.map fun v => (sampleOf samples v).samples).sum % 2 ^ 64 := by
  have hsum : (e.variants.map fun v => (sampleOf samples v).samples).sum =
      ((e.variantResults samples level).values.map (·.samples)).sum := by
    rw [samples_variantResults, ((names_variantResults_perm distinct).map _).sum_eq, List.map_map]
    rfl
  rw [calculate, totalSamples_compareBy, observe, hsum, ← Nat.zero_add (List.sum _),
    ← foldl_addWords _ (by decide), List.foldl_map]

/-- Samples of what is no declared variant do not matter. -/
theorem compareBy_congr_samples
    (same : ∀ v ∈ e.variants, other.get? v.id = samples.get? v.id) :
    e.compareBy add other level minSampleSize now =
      e.compareBy add samples level minSampleSize now := by
  have hsample : ∀ v ∈ e.variants, sampleOf other v = sampleOf samples v := by
    intro v hv
    rw [sampleOf, sampleOf, same v hv]
  have hobserve : e.observe add other level now = e.observe add samples level now := by
    have hresults : e.variantResults other level = e.variantResults samples level := by
      rw [variantResults, variantResults]
      refine congrArg Table.ofList (List.map_congr_left fun v hv => ?_)
      rw [variantResult, variantResult, hsample v hv]
    rw [observe, observe, hresults]
  have hchallenger (control : Variant) :
      e.challenger? other control = e.challenger? samples control :=
    best?_congr fun v hv => congrArg Sample.rate (hsample v (List.mem_of_mem_filter hv))
  rw [compareBy, compareBy, hobserve]
  cases hcontrol : e.control? with
  | none => rfl
  | some control =>
    dsimp only
    rw [hchallenger]
    cases harms : e.challenger? samples control with
    | none => rfl
    | some challenger =>
      dsimp only
      rw [hsample control (control?_mem hcontrol),
        hsample challenger (mem_of_challenger? harms).1]

/-- A higher minimum of samples leaves the verdict of a comparison open or as it is. -/
theorem compareBy_of_larger {larger : ℕ} (hle : minSampleSize ≤ larger) :
    e.compareBy add samples level larger now =
      if (e.compareBy add samples level minSampleSize now).totalSamples < larger then
        (e.compareBy add samples level minSampleSize now).undecided
      else e.compareBy add samples level minSampleSize now := by
  rw [totalSamples_compareBy]
  rcases compareBy_cases e add samples level now with
    hobserve | ⟨control, challenger, -, -, hjudge⟩
  · rw [hobserve, hobserve]
    exact (ite_self _).symm
  · rw [hjudge, hjudge]
    exact judge_of_larger rfl _ _ hle

/-! ## Verdicts -/

/-- What a verdict says fits the numbers: the marks of significance agree, and where they are set,
there are enough samples, the p-value is low enough and the winner is the arm that wins. -/
structure Consistent (e : Experiment) (samples : Table Sample) (level : Float) (minSampleSize : ℕ)
    (results : Results) : Prop where
  significant_iff : results.significant = true ↔ results.verdict = .significant
  winner_iff : results.winner.isSome = true ↔ results.verdict = .significant
  won : results.verdict = .significant →
    minSampleSize ≤ results.totalSamples ∧
    (∃ p, results.pValue = some p ∧ p < 1.0 - level) ∧
    ∃ control challenger winner, e.Wins samples control challenger winner ∧
      results.winner = some winner.id
  inconclusive : results.verdict = .inconclusive →
    results.pValue = none ∧ results.confidence = 0.0

/-- An open verdict says nothing. -/
theorem consistent_of_undecided (opened : measured.undecided = measured) :
    e.Consistent samples level minSampleSize measured := by
  have hverdict : measured.verdict = .inProgress := (congrArg Results.verdict opened).symm
  have hsignificant : measured.significant = false := (congrArg Results.significant opened).symm
  have hwinner : measured.winner = none := (congrArg Results.winner opened).symm
  refine ⟨?_, ?_, ?_, ?_⟩ <;> simp [hverdict, hsignificant, hwinner]

theorem consistent_of_judged {results : Results} (opened : measured.undecided = measured)
    (untested : measured.pValue = none → measured.confidence = 0.0)
    (wins : ∀ p, measured.pValue = some p → e.Wins samples control challenger winner)
    (judged : measured.Judged winner level minSampleSize results) :
    e.Consistent samples level minSampleSize results := by
  have hsignificant : measured.significant = false := (congrArg Results.significant opened).symm
  have hwinner : measured.winner = none := (congrArg Results.winner opened).symm
  cases judged with
  | inProgress _ => exact consistent_of_undecided opened
  | inconclusive _ hnone =>
    exact ⟨by simp [hsignificant], by simp [hwinner], nofun, fun _ => ⟨hnone, untested hnone⟩⟩
  | significant enough tested low =>
    refine ⟨by simp, by simp, fun _ => ⟨enough, ⟨_, tested, low⟩, ?_⟩, nofun⟩
    exact ⟨control, challenger, winner, wins _ tested, rfl⟩
  | insignificant _ _ _ => exact ⟨by simp [hsignificant], by simp [hwinner], nofun, nofun⟩

theorem consistent_compareBy (distinct : (e.variants.map (·.id)).Nodup)
    (fits : samples.All fun _ s => s.Fits) :
    e.Consistent samples level minSampleSize
      (e.compareBy add samples level minSampleSize now) := by
  rcases compareBy_cases e add samples level now with
    hobserve | ⟨control, challenger, hcontrol, hchallenger, hjudge⟩
  · rw [hobserve]
    exact consistent_of_undecided rfl
  · rw [hjudge]
    exact consistent_of_judged rfl (fun hnone => congrArg confidenceOf hnone)
      (fun p hsome => wins_ahead distinct fits hcontrol hchallenger hsome)
      (judged _ samples control challenger level minSampleSize)

/-- **A verdict says what the numbers say.** The results of a comparison are consistent, and they
count every declared variant once: the total is the sum of the samples as words of 64 bits, which is
the exact sum where that fits. Samples under other ids do not matter, and neither does the minimum
of samples, but for leaving the verdict open. -/
theorem verdict_consistent (distinct : (e.variants.map (·.id)).Nodup)
    (fits : samples.All fun _ s => s.Fits) (level : Float) (minSampleSize : ℕ) (now : Instant) :
    e.Consistent samples level minSampleSize (e.calculate samples level minSampleSize now) ∧
    ((e.calculate samples level minSampleSize now).variants.names.Perm (e.variants.map (·.id)) ∧
      (∀ v ∈ e.variants, (e.calculate samples level minSampleSize now).variants.get? v.id =
        some (variantResult samples level (criticalValue level) v)) ∧
      (e.calculate samples level minSampleSize now).totalSamples =
        (e.variants.map fun v => UInt64.ofNat (sampleOf samples v).samples).sum.toNat ∧
      ((e.variants.map fun v => (sampleOf samples v).samples).sum < 2 ^ 64 →
        (e.calculate samples level minSampleSize now).totalSamples =
          (e.variants.map fun v => (sampleOf samples v).samples).sum)) ∧
    (∀ other : Table Sample, (∀ v ∈ e.variants, other.get? v.id = samples.get? v.id) →
      e.calculate other level minSampleSize now = e.calculate samples level minSampleSize now) ∧
    ∀ larger, minSampleSize ≤ larger →
      e.calculate samples level larger now =
        if (e.calculate samples level minSampleSize now).totalSamples < larger then
          (e.calculate samples level minSampleSize now).undecided
        else e.calculate samples level minSampleSize now := by
  refine ⟨consistent_compareBy distinct fits, ⟨?_, fun v hv => ?_, ?_, fun fitting => ?_⟩,
    fun other same => compareBy_congr_samples same, fun larger hle => compareBy_of_larger hle⟩
  · rw [calculate, variants_compareBy]
    exact names_variantResults_perm distinct
  · rw [calculate, variants_compareBy]
    exact get?_variantResults distinct hv
  · rw [totalSamples_calculate distinct, ← toNat_sum_words, List.map_map]
    rfl
  · rw [totalSamples_calculate distinct, Nat.mod_eq_of_lt fitting]

/-! ### Three buttons

The green button is clicked more often than the blue one, which is the control. Nobody has seen the
red one, and there are clicks on a button that is not declared. -/

/-- Which button is clicked more often. -/
def buttons : Experiment :=
  { id := "buttons", name := "Buttons"
    variants := [.named "red" 1.0, { id := "blue", weight := 1.0, isControl := true },
      .named "green" 1.0] }

/-- Who has clicked. -/
def clicks : Table Sample :=
  .ofList [("blue", ⟨200, 20⟩), ("green", ⟨200, 60⟩), ("yellow", ⟨10, 10⟩)]

theorem verdict_consistent_buttons :
    (buttons.variants.map (·.id)).Nodup ∧ (clicks.All fun _ s => s.Fits) ∧
      (buttons.calculate clicks 0.95 100 (.ofNanos 0)).verdict = .significant ∧
      (buttons.calculate clicks 0.95 100 (.ofNanos 0)).winner = some "green" ∧
      buttons.Consistent clicks 0.95 100 (buttons.calculate clicks 0.95 100 (.ofNanos 0)) ∧
      (buttons.calculate clicks 0.95 100 (.ofNanos 0)).totalSamples = 400 ∧
      (buttons.calculate clicks 0.95 1000 (.ofNanos 0)).verdict = .inProgress := by
  have distinct : (buttons.variants.map (·.id)).Nodup := by decide
  have fits : clicks.All fun _ s => s.Fits := by
    refine Table.all_ofList ?_
    simp [Sample.Fits]
  obtain ⟨consistent, ⟨-, -, -, total⟩, -, larger⟩ :=
    verdict_consistent distinct fits 0.95 100 (.ofNanos 0)
  have hverdict : (buttons.calculate clicks 0.95 100 (.ofNanos 0)).verdict = .significant := by
    decide +kernel
  have hwinner : (buttons.calculate clicks 0.95 100 (.ofNanos 0)).winner = some "green" := by
    decide +kernel
  have htotal : (buttons.calculate clicks 0.95 100 (.ofNanos 0)).totalSamples = 400 :=
    total (by decide)
  refine ⟨distinct, fits, hverdict, hwinner, consistent, htotal, ?_⟩
  rw [larger 1000 (by decide), htotal, if_pos (by decide)]
  rfl

/-- What does not fit 64 bits is lost, and with it the verdict. -/
example :
    let flooded : Table Sample := .ofList [("blue", ⟨2 ^ 64 - 1, 0⟩), ("green", ⟨2, 1⟩)]
    (buttons.calculate flooded 0.95 100 (.ofNanos 0)).totalSamples = 1 ∧
      (buttons.calculate flooded 0.95 100 (.ofNanos 0)).verdict = .inProgress := by
  decide +kernel

end Experiment

end FeatureTrials
