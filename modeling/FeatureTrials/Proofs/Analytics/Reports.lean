import FeatureTrials.Analytics.Basic
import FeatureTrials.Proofs.Analytics.Passes

/-!
# The reports agree with each other

The report on an experiment, its samples and the totals count the same events by different keys: by
variant, by user, by hour, and over all experiments. Whatever the log, the counts of one agree with
those of the others (`EventLog.reports_agree`). The reason is the same in every case: counting the
elements of a list by a key and adding up the counts of all keys that occur gives the length of the
list (`sum_map_countP`).

* `ExperimentReport.Agrees`, `FlagReport.Agrees` — agreement with the samples and the totals.
* `TimelinePoint.Counts` — a point of the timeline counts the events of its hour.
-/

namespace FeatureTrials

/-! ## Timelines -/

/-- A point of a timeline has the counts of its hour. -/
structure TimelinePoint.Counts (p : TimelinePoint) (exposures : List Exposure)
    (conversions : List Conversion) : Prop where
  /-- the hour is one of the clock, a leap second at the end of one, or an instant by itself -/
  aligned : p.hour.IsOnTheHour ∨ (p.hour.EndsHour ∧ p.hour.nanos = 1000000000) ∨
    p.hour.isShort = false
  exposures : p.exposures = exposures.countP (p.hour.Covers ·.time)
  conversions : p.conversions = conversions.countP (p.hour.Covers ·.time)
  conversionRate : p.conversionRate = ratio p.conversions p.exposures
  /-- there are no points for hours in which nothing happened -/
  eventful : 0 < p.exposures + p.conversions

section

variable {exposures : List Exposure} {conversions : List Conversion} {p : TimelinePoint}

theorem mem_timeline_times {h : Instant} :
    h ∈ hoursOf (exposures.map (·.time) ++ conversions.map (·.time)) ↔
      (∃ x ∈ exposures, x.time.hour = h) ∨ ∃ c ∈ conversions, c.time.hour = h := by
  rw [mem_hoursOf]
  simp only [List.mem_append, List.mem_map, or_and_right, exists_or, exists_exists_and_eq_and]

theorem increasing_timeline (exposures : List Exposure) (conversions : List Conversion) :
    (timeline exposures conversions).Pairwise fun p q => p.hour < q.hour := by
  rw [timeline, List.pairwise_map]
  exact increasing_hoursOf _

theorem sum_exposures_timeline :
    ((timeline exposures conversions).map (·.exposures)).sum = exposures.length := by
  rw [timeline, List.map_map]
  exact sum_map_countP (nodup_hoursOf _) fun x hx => mem_timeline_times.mpr (.inl ⟨x, hx, rfl⟩)

theorem sum_conversions_timeline :
    ((timeline exposures conversions).map (·.conversions)).sum = conversions.length := by
  rw [timeline, List.map_map]
  exact sum_map_countP (nodup_hoursOf _) fun c hc => mem_timeline_times.mpr (.inr ⟨c, hc, rfl⟩)

theorem counts_of_mem_timeline (hmem : p ∈ timeline exposures conversions) :
    p.Counts exposures conversions := by
  obtain ⟨hour, hhour, rfl⟩ := List.mem_map.mp hmem
  have happened := mem_timeline_times.mp hhour
  refine ⟨?_, ?_, ?_, rfl, ?_⟩
  · obtain ⟨t, rfl⟩ : ∃ t : Instant, t.hour = hour := by
      rcases happened with ⟨x, -, hx⟩ | ⟨c, -, hc⟩
      exacts [⟨_, hx⟩, ⟨_, hc⟩]
    exact t.isOnTheHour_hour
  · simp only [Instant.hour_eq_iff_covers]
  · simp only [Instant.hour_eq_iff_covers]
  · rcases happened with ⟨x, hx, heq⟩ | ⟨c, hc, heq⟩
    · exact Nat.add_pos_left (List.countP_pos_iff.mpr ⟨x, hx, decide_eq_true heq⟩) _
    · exact Nat.add_pos_right _ (List.countP_pos_iff.mpr ⟨c, hc, decide_eq_true heq⟩)

end

/-! ## Experiments -/

/-- The report on an experiment agrees with itself, the samples of the experiment and the totals. -/
structure ExperimentReport.Agrees (r : ExperimentReport) (samples : Table Sample)
    (totals : Totals) : Prop where
  exposures_variants : (r.variants.values.map (·.exposures)).sum = r.totalExposures
  conversions_variants : (r.variants.values.map (·.conversions)).sum = r.totalConversions
  exposures_timeline : (r.timeline.map (·.exposures)).sum = r.totalExposures
  conversions_timeline : (r.timeline.map (·.conversions)).sum = r.totalConversions
  exposures_totals :
    ((totals.exposuresByVariant.get? r.experimentId).getD .empty).values.sum = r.totalExposures
  conversions_totals :
    ((totals.conversionsByVariant.get? r.experimentId).getD .empty).values.sum = r.totalConversions
  /-- a variant that is missing counts as zero on either side -/
  exposures_variant : ∀ variant, ((r.variants.get? variant).map (·.exposures)).getD 0 =
    countOf totals.exposuresByVariant r.experimentId variant
  conversions_variant : ∀ variant, ((r.variants.get? variant).map (·.conversions)).getD 0 =
    countOf totals.conversionsByVariant r.experimentId variant
  conversionRate : ∀ variant v, r.variants.get? variant = some v → 0 < v.exposures →
    (totals.conversionRates.get? r.experimentId).bind (·.get? variant) = some v.conversionRate
  sampled : ∀ variant, samples.contains variant = true ↔
    ∃ v, r.variants.get? variant = some v ∧ 0 < v.exposures
  sample : ∀ variant s, samples.get? variant = some s →
    ∃ v, r.variants.get? variant = some v ∧ s.samples = v.uniqueUsers ∧
      s.conversions ≤ s.samples ∧ s.samples ≤ v.exposures
  increasing : r.timeline.Pairwise fun p q => p.hour < q.hour

namespace EventLog

variable {log : EventLog} {experiment variant flag : String} {now : Instant}

/-- The counts of the variants of an experiment, of which there are none without events. -/
theorem get?_countsByVariant {α : Type} (key name : α → String) (l : List α)
    (experiment : String) :
    ((Table.tabulate (l.map key) fun experiment =>
        countBy name (l.filter (key · == experiment))).get? experiment).getD .empty =
      countBy name (l.filter (key · == experiment)) := by
  rw [Table.get?_tabulate]
  split
  · rfl
  · next h =>
    have hempty : l.filter (key · == experiment) = [] :=
      List.filter_eq_nil_iff.mpr fun a ha heq =>
        h (List.mem_map.mpr ⟨a, ha, beq_iff_eq.mp heq⟩)
    rw [hempty]
    rfl

theorem getD_get?_exposuresByVariant :
    (log.exposuresByVariant.get? experiment).getD .empty =
      countBy (·.variant) (log.exposuresOf experiment) :=
  get?_countsByVariant Exposure.experiment Exposure.variant log.exposures.toList experiment

theorem getD_get?_conversionsByVariant :
    (log.conversionsByVariant.get? experiment).getD .empty =
      countBy (·.variant) (log.conversionsOf experiment) :=
  get?_countsByVariant Conversion.experiment Conversion.variant log.conversions.toList experiment

end EventLog

/-- The count of a variant is looked up in the counts of its experiment. -/
theorem countOf_eq_getD (counts : Table (Table Nat)) (experiment variant : String) :
    countOf counts experiment variant =
      (((counts.get? experiment).getD .empty).get? variant).getD 0 := by
  rw [countOf]
  cases counts.get? experiment <;> rfl

namespace EventLog

variable {log : EventLog} {experiment variant flag : String} {now : Instant}

theorem countOf_exposuresByVariant :
    countOf log.exposuresByVariant experiment variant =
      (log.exposuresOf experiment).countP (·.variant == variant) := by
  rw [countOf_eq_getD, getD_get?_exposuresByVariant, getD_get?_countBy]

theorem countOf_conversionsByVariant :
    countOf log.conversionsByVariant experiment variant =
      (log.conversionsOf experiment).countP (·.variant == variant) := by
  rw [countOf_eq_getD, getD_get?_conversionsByVariant, getD_get?_countBy]

/-- What the report says of a variant. -/
theorem get?_variants_experimentReport :
    (log.experimentReport experiment).variants.get? variant =
      if (∃ x ∈ log.exposuresOf experiment, x.variant = variant) ∨
          ∃ c ∈ log.conversionsOf experiment, c.variant = variant then
        some (.ofEvents (log.exposuresOf experiment) (log.conversionsOf experiment) variant)
      else none := by
  rw [experimentReport, Table.get?_tabulate]
  simp only [List.mem_append, List.mem_map]

theorem exposures_ofEvents (exposures : List Exposure) (conversions : List Conversion) :
    (VariantReport.ofEvents exposures conversions variant).exposures =
      exposures.countP (·.variant == variant) :=
  List.countP_eq_length_filter.symm

theorem conversions_ofEvents (exposures : List Exposure) (conversions : List Conversion) :
    (VariantReport.ofEvents exposures conversions variant).conversions =
      conversions.countP (·.variant == variant) :=
  List.countP_eq_length_filter.symm

theorem exposures_variants :
    (((log.experimentReport experiment).variants.get? variant).map (·.exposures)).getD 0 =
      (log.exposuresOf experiment).countP (·.variant == variant) := by
  rw [get?_variants_experimentReport]
  split
  · exact exposures_ofEvents ..
  · next h =>
    refine (List.countP_eq_zero.mpr fun x hx heq => h (.inl ⟨x, hx, ?_⟩)).symm
    exact beq_iff_eq.mp heq

theorem conversions_variants :
    (((log.experimentReport experiment).variants.get? variant).map (·.conversions)).getD 0 =
      (log.conversionsOf experiment).countP (·.variant == variant) := by
  rw [get?_variants_experimentReport]
  split
  · exact conversions_ofEvents ..
  · next h =>
    refine (List.countP_eq_zero.mpr fun c hc heq => h (.inr ⟨c, hc, ?_⟩)).symm
    exact beq_iff_eq.mp heq

theorem sum_exposures_variants :
    ((log.experimentReport experiment).variants.values.map (·.exposures)).sum =
      (log.exposuresOf experiment).length := by
  rw [experimentReport, Table.values_tabulate, List.map_map]
  simp only [Function.comp_def, exposures_ofEvents, beq_eq_decide]
  refine sum_map_countP (Table.nodup_names _) fun x hx => Table.mem_names_tabulate.mpr ?_
  exact List.mem_append_left _ (List.mem_map_of_mem hx)

theorem sum_conversions_variants :
    ((log.experimentReport experiment).variants.values.map (·.conversions)).sum =
      (log.conversionsOf experiment).length := by
  rw [experimentReport, Table.values_tabulate, List.map_map]
  simp only [Function.comp_def, conversions_ofEvents, beq_eq_decide]
  refine sum_map_countP (Table.nodup_names _) fun c hc => Table.mem_names_tabulate.mpr ?_
  exact List.mem_append_right _ (List.mem_map_of_mem hc)

/-- The rate of a variant with exposures is the same in the totals. -/
theorem conversionRate_eq {v : VariantReport}
    (hv : (log.experimentReport experiment).variants.get? variant = some v)
    (exposed : 0 < v.exposures) :
    ((log.totals now).conversionRates.get? experiment).bind (·.get? variant) =
      some v.conversionRate := by
  rw [get?_variants_experimentReport] at hv
  obtain ⟨-, ⟨⟩⟩ := Option.ite_none_right_eq_some.mp hv
  rw [exposures_ofEvents] at exposed
  obtain ⟨x, hx, hvariant⟩ := List.countP_pos_iff.mp exposed
  have hexperiment : experiment ∈ log.exposures.toList.map (·.experiment) :=
    List.mem_map.mpr ⟨x, (mem_exposuresOf.mp hx).1, (mem_exposuresOf.mp hx).2⟩
  have hlisted : variant ∈ (log.exposuresOf experiment).map (·.variant) :=
    List.mem_map.mpr ⟨x, hx, beq_iff_eq.mp hvariant⟩
  have hcounts : log.exposuresByVariant.get? experiment =
      some (countBy (·.variant) (log.exposuresOf experiment)) := by
    rw [exposuresByVariant, Table.get?_tabulate, if_pos hexperiment]
  have hcount : (countBy (·.variant) (log.exposuresOf experiment)).get? variant =
      some ((log.exposuresOf experiment).countP (·.variant == variant)) := by
    rw [countBy, Table.get?_tabulate, if_pos hlisted]
  simp only [totals, Table.get?_map, hcounts, Option.map_some, Option.bind_some, hcount,
    countOf_conversionsByVariant]
  rw [VariantReport.ofEvents, List.countP_eq_length_filter, List.countP_eq_length_filter]

/-- A sample has some of the users that converted, and these are some of those exposed. -/
theorem conversions_sampleOf_le (exposures : List Exposure) (conversions : List Conversion) :
    (sampleOf exposures conversions variant).conversions ≤
      (sampleOf exposures conversions variant).samples := by
  rw [sampleOf_eq_card]
  dsimp only
  refine Finset.card_le_card fun user huser => ?_
  obtain ⟨-, hexposed⟩ := List.mem_filter.mp (List.mem_toFinset.mp huser)
  exact List.mem_toFinset.mpr (List.contains_iff_mem.mp hexposed)

theorem contains_samples :
    (log.samples experiment).contains variant = true ↔
      ∃ x ∈ log.exposuresOf experiment, x.variant = variant := by
  rw [Table.contains, samples, Table.get?_tabulate]
  simp only [Option.isSome_ite, List.mem_map]

/-- The variants with a sample are those with exposures. -/
theorem contains_samples_iff :
    (log.samples experiment).contains variant = true ↔
      ∃ v, (log.experimentReport experiment).variants.get? variant = some v ∧ 0 < v.exposures := by
  rw [contains_samples, get?_variants_experimentReport]
  constructor
  · rintro ⟨x, hx, hvariant⟩
    refine ⟨_, if_pos (.inl ⟨x, hx, hvariant⟩), ?_⟩
    rw [exposures_ofEvents]
    exact List.countP_pos_iff.mpr ⟨x, hx, beq_iff_eq.mpr hvariant⟩
  · rintro ⟨v, hv, exposed⟩
    obtain ⟨-, ⟨⟩⟩ := Option.ite_none_right_eq_some.mp hv
    rw [exposures_ofEvents] at exposed
    obtain ⟨x, hx, hvariant⟩ := List.countP_pos_iff.mp exposed
    exact ⟨x, hx, beq_iff_eq.mp hvariant⟩

theorem get?_samples {s : Sample} (hs : (log.samples experiment).get? variant = some s) :
    ∃ v, (log.experimentReport experiment).variants.get? variant = some v ∧
      s.samples = v.uniqueUsers ∧ s.conversions ≤ s.samples ∧ s.samples ≤ v.exposures := by
  rw [samples, Table.get?_tabulate] at hs
  obtain ⟨hlisted, ⟨⟩⟩ := Option.ite_none_right_eq_some.mp hs
  obtain ⟨x, hx, hvariant⟩ := List.mem_map.mp hlisted
  refine ⟨_, get?_variants_experimentReport.trans (if_pos (.inl ⟨x, hx, hvariant⟩)), rfl,
    conversions_sampleOf_le _ _, ?_⟩
  exact (distinctCount_le _).trans_eq (List.length_map _)

/-- The report on an experiment agrees with the samples and the totals. -/
theorem agrees_experimentReport (log : EventLog) (experiment : String) (now : Instant) :
    (log.experimentReport experiment).Agrees (log.samples experiment) (log.totals now) where
  exposures_variants := sum_exposures_variants
  conversions_variants := sum_conversions_variants
  exposures_timeline := sum_exposures_timeline
  conversions_timeline := sum_conversions_timeline
  exposures_totals :=
    (congrArg (·.values.sum) getD_get?_exposuresByVariant).trans sum_values_countBy
  conversions_totals :=
    (congrArg (·.values.sum) getD_get?_conversionsByVariant).trans sum_values_countBy
  exposures_variant _ := exposures_variants.trans countOf_exposuresByVariant.symm
  conversions_variant _ := conversions_variants.trans countOf_conversionsByVariant.symm
  conversionRate _ _ := conversionRate_eq
  sampled _ := contains_samples_iff
  sample _ _ := get?_samples
  increasing := increasing_timeline _ _

end EventLog

/-! ## Flags -/

/-- The report on a flag agrees with itself and the totals. -/
structure FlagReport.Agrees (r : FlagReport) (totals : Totals) : Prop where
  distribution : r.distribution.values.sum = r.totalEvaluations
  totals : (totals.evaluationsByFlag.get? r.flagKey).getD 0 = r.totalEvaluations
  users : r.uniqueUsers ≤ r.totalEvaluations
  defaults : r.defaultEvaluations ≤ r.totalEvaluations

namespace EventLog

/-- The report on a flag agrees with the totals. -/
theorem agrees_flagReport (log : EventLog) (flag : String) (now : Instant) :
    (log.flagReport flag).Agrees (log.totals now) where
  distribution := sum_values_countBy
  totals := (getD_get?_countBy flag).trans List.countP_eq_length_filter
  users := (distinctCount_le _).trans_eq (List.length_map _)
  defaults := List.countP_le_length

/-! ## All reports -/

/-- **The reports agree.** Whatever the log, the reports on every experiment and every flag agree
with the totals, and the points of every timeline count the events of their hours. -/
theorem reports_agree (log : EventLog) (now : Instant) :
    (∀ experiment,
      (log.experimentReport experiment).Agrees (log.samples experiment) (log.totals now) ∧
      ∀ p ∈ (log.experimentReport experiment).timeline,
        p.Counts (log.exposuresOf experiment) (log.conversionsOf experiment)) ∧
    ∀ flag, (log.flagReport flag).Agrees (log.totals now) :=
  ⟨fun experiment => ⟨log.agrees_experimentReport experiment now, fun _ => counts_of_mem_timeline⟩,
    fun flag => log.agrees_flagReport flag now⟩

/-- Somebody is exposed within the leap second after 10:59:59 of the first day of 2024. -/
def leapLog : EventLog :=
  empty.addExposure
    { user := "ann", experiment := "colours", variant := "green"
      time := ⟨1704106799, 1000000000, by decide⟩ }

/-- Not every point of a timeline is at the beginning of an hour of the clock, even where all counts
fit: a leap second at the end of one has a point of its own. -/
theorem leap_second_apart :
    ¬ ∀ (log : EventLog) (experiment : String),
      (∀ x ∈ log.exposuresOf experiment, x.time.isShort = true) →
      (∀ c ∈ log.conversionsOf experiment, c.time.isShort = true) →
      ∀ p ∈ (log.experimentReport experiment).timeline, p.hour.IsOnTheHour := by
  intro aligned
  have hshort : ∀ x ∈ leapLog.exposuresOf "colours", x.time.isShort = true := by decide
  have hnone : ∀ c ∈ leapLog.conversionsOf "colours", c.time.isShort = true := by decide
  have hpoint : ∃ p ∈ (leapLog.experimentReport "colours").timeline, ¬ p.hour.IsOnTheHour := by
    refine ⟨_, List.mem_cons_self, ?_⟩
    decide
  obtain ⟨p, hmem, hnot⟩ := hpoint
  exact hnot (aligned leapLog "colours" hshort hnone p hmem)

end EventLog

end FeatureTrials
