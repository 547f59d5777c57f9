import FeatureTrials.Proofs.Analytics.Passes
import FeatureTrials.Proofs.Analytics.Samples

/-!
# The order of events

No report depends on the order in which events were recorded, but for the average values of
conversions: these are sums of doubles, which are rounded as they go.

* `EventLog.Reorders` — a log has the events of another one in any order.
* `EventLog.ReportsLike` — two logs have the same reports.
-/

namespace FeatureTrials

/-! ## Counts of a list -/

theorem countBy_perm {α : Type} (name : α → String) {l m : List α} (perm : l.Perm m) :
    countBy name l = countBy name m :=
  Table.tabulate_congr (fun _ => (perm.map name).mem_iff) fun _ _ => perm.countP_eq _

theorem distinctCount_perm {names others : List String} (perm : names.Perm others) :
    distinctCount names = distinctCount others :=
  EventLog.size_ofList_congr fun _ => perm.mem_iff

theorem hoursOf_perm {times others : List Instant} (perm : times.Perm others) :
    hoursOf times = hoursOf others := by
  have hmem : ∀ hour, hour ∈ hoursOf times ↔ hour ∈ hoursOf others := by
    intro hour
    simp only [mem_hoursOf, perm.mem_iff]
  refine List.Perm.eq_of_pairwise ?_ (increasing_hoursOf _) (increasing_hoursOf _)
    ((List.perm_ext_iff_of_nodup (nodup_hoursOf _) (nodup_hoursOf _)).mpr hmem)
  intro first second _ _ hlt hgt
  exact absurd (Instant.lt_trans hlt hgt) (Instant.lt_irrefl first)

theorem timeline_perm {exposures exposures' : List Exposure}
    {conversions conversions' : List Conversion} (exposed : exposures.Perm exposures')
    (converted : conversions.Perm conversions') :
    timeline exposures conversions = timeline exposures' conversions' := by
  have hhours := hoursOf_perm ((exposed.map (·.time)).append (converted.map (·.time)))
  simp only [timeline, hhours, exposed.countP_eq, converted.countP_eq]

/-! ## The report on an experiment -/

/-- The report without its average values. -/
def ExperimentReport.exceptAverages (report : ExperimentReport) : ExperimentReport :=
  { report with variants := report.variants.map fun _ v => { v with averageValue := 0.0 } }

/-- The report on a variant, but for the average value, does not depend on the order of events. -/
theorem VariantReport.ofEvents_perm {exposures exposures' : List Exposure}
    {conversions conversions' : List Conversion} (exposed : exposures.Perm exposures')
    (converted : conversions.Perm conversions') (variant : String) :
    ({ ofEvents exposures conversions variant with averageValue := 0.0 } : VariantReport) =
      { ofEvents exposures' conversions' variant with averageValue := 0.0 } := by
  have hexposed := exposed.filter (·.variant == variant)
  have hconverted := converted.filter (·.variant == variant)
  simp only [ofEvents, hexposed.length_eq, hconverted.length_eq,
    distinctCount_perm (hexposed.map (·.user))]

namespace EventLog

variable {log other : EventLog}

/-- A log has the events of another one, in any order. -/
structure Reorders (log other : EventLog) : Prop where
  exposures : log.exposures.toList.Perm other.exposures.toList
  conversions : log.conversions.toList.Perm other.conversions.toList
  evaluations : log.evaluations.toList.Perm other.evaluations.toList

/-- Two logs have the same reports, but for average values. -/
structure ReportsLike (log other : EventLog) : Prop where
  experimentReport : ∀ experiment, (log.experimentReport experiment).exceptAverages =
    (other.experimentReport experiment).exceptAverages
  flagReport : ∀ flag, log.flagReport flag = other.flagReport flag
  samples : ∀ experiment, log.samples experiment = other.samples experiment
  totals : ∀ now, log.totals now = other.totals now

namespace Reorders

variable (reorders : log.Reorders other)
include reorders

theorem exposuresOf (experiment : String) :
    (log.exposuresOf experiment).Perm (other.exposuresOf experiment) :=
  reorders.exposures.filter _

theorem conversionsOf (experiment : String) :
    (log.conversionsOf experiment).Perm (other.conversionsOf experiment) :=
  reorders.conversions.filter _

theorem experimentReport (experiment : String) :
    (log.experimentReport experiment).exceptAverages =
      (other.experimentReport experiment).exceptAverages := by
  have hexposed := reorders.exposuresOf experiment
  have hconverted := reorders.conversionsOf experiment
  have hvariants :
      (Table.tabulate
        ((log.exposuresOf experiment).map (·.variant) ++
          (log.conversionsOf experiment).map (·.variant))
        (VariantReport.ofEvents (log.exposuresOf experiment) (log.conversionsOf experiment))).map
          (fun _ v => ({ v with averageValue := 0.0 } : VariantReport)) =
      (Table.tabulate
        ((other.exposuresOf experiment).map (·.variant) ++
          (other.conversionsOf experiment).map (·.variant))
        (VariantReport.ofEvents (other.exposuresOf experiment)
          (other.conversionsOf experiment))).map
            fun _ v => { v with averageValue := 0.0 } := by
    simp only [Table.tabulate, Table.map_map, VariantReport.ofEvents_perm hexposed hconverted]
    exact Table.tabulate_congr (fun _ =>
      ((hexposed.map (·.variant)).append (hconverted.map (·.variant))).mem_iff) fun _ _ => rfl
  simp only [ExperimentReport.exceptAverages, EventLog.experimentReport, hvariants,
    timeline_perm hexposed hconverted, hexposed.length_eq, hconverted.length_eq]

theorem flagReport (flag : String) : log.flagReport flag = other.flagReport flag := by
  have hevaluated : (log.evaluationsOf flag).Perm (other.evaluationsOf flag) :=
    reorders.evaluations.filter _
  simp only [EventLog.flagReport, hevaluated.length_eq, hevaluated.countP_eq,
    countBy_perm _ hevaluated, distinctCount_perm (hevaluated.map (·.user))]

theorem samples (experiment : String) : log.samples experiment = other.samples experiment :=
  samples_congr (fun _ => (reorders.exposuresOf experiment).mem_iff)
    fun _ => (reorders.conversionsOf experiment).mem_iff

theorem totals (now : Instant) : log.totals now = other.totals now := by
  have hexposed : log.exposuresByVariant = other.exposuresByVariant :=
    Table.tabulate_congr (fun _ => (reorders.exposures.map _).mem_iff) fun experiment _ =>
      countBy_perm _ (reorders.exposuresOf experiment)
  have hconverted : log.conversionsByVariant = other.conversionsByVariant :=
    Table.tabulate_congr (fun _ => (reorders.conversions.map _).mem_iff) fun experiment _ =>
      countBy_perm _ (reorders.conversionsOf experiment)
  have hsizes : log.exposures.size = other.exposures.size ∧
      log.conversions.size = other.conversions.size ∧
      log.evaluations.size = other.evaluations.size :=
    ⟨reorders.exposures.length_eq, reorders.conversions.length_eq, reorders.evaluations.length_eq⟩
  simp only [EventLog.totals, hexposed, hconverted, hsizes, countBy_perm _ reorders.evaluations]

/-- The reports do not depend on the order of the events. -/
theorem reportsLike : log.ReportsLike other where
  experimentReport := reorders.experimentReport
  flagReport := reorders.flagReport
  samples := reorders.samples
  totals := reorders.totals

end Reorders

end EventLog

end FeatureTrials
