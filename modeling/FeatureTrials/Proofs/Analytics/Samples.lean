import FeatureTrials.Analytics.Report
import FeatureTrials.Proofs.Experiment.Comparison
import Mathlib

/-!
# How many users a comparison counts

A comparison adds up the users of the declared variants, each variant by itself. This is the number
of all users with an exposure to the experiment when no user is exposed to two variants and every
exposure is to a declared variant (`Experiment.totalSamples_compare`). Users are counted, not
events, so the counts depend on which events there are, and neither on their order nor on how often
they are on record (`EventLog.samples_congr`).

* `EventLog.usersOf`, `EventLog.exposedUsers` — the users with an exposure to a variant, and to an
  experiment, as finite sets.
-/

namespace FeatureTrials

/-- The different names of a list are the elements of its set. -/
theorem size_ofList_eq_card (names : List String) :
    (Std.HashSet.ofList names).size = names.toFinset.card := by
  have hnodup : (Std.HashSet.ofList names).toList.Nodup :=
    Std.HashSet.distinct_toList.imp fun h => ne_of_beq_false h
  have hset : (Std.HashSet.ofList names).toList.toFinset = names.toFinset := by
    ext name
    rw [List.mem_toFinset, List.mem_toFinset, Std.HashSet.mem_toList, Std.HashSet.mem_ofList,
      List.contains_iff_mem]
  rw [← hset, List.toFinset_card_of_nodup hnodup, Std.HashSet.length_toList]

namespace EventLog

/-- The users with an exposure to a variant of an experiment. -/
def usersOf (log : EventLog) (experiment variant : String) : Finset String :=
  (((log.exposuresOf experiment).filter (·.variant == variant)).map (·.user)).toFinset

/-- The users with an exposure to an experiment. -/
def exposedUsers (log : EventLog) (experiment : String) : Finset String :=
  ((log.exposuresOf experiment).map (·.user)).toFinset

/-- A sample counts the users of a variant, and those among them who converted. -/
theorem sampleOf_eq_card (exposures : List Exposure) (conversions : List Conversion)
    (variant : String) :
    sampleOf exposures conversions variant =
      let exposed := (exposures.filter (·.variant == variant)).map (·.user)
      let converted := (conversions.filter (·.variant == variant)).map (·.user)
      { samples := exposed.toFinset.card
        conversions := (converted.filter exposed.contains).toFinset.card } := by
  have hcontains (names : List String) :
      (Std.HashSet.ofList names).contains = names.contains :=
    funext fun _ => Std.HashSet.contains_ofList
  rw [sampleOf, distinctCount, size_ofList_eq_card, size_ofList_eq_card, hcontains]

variable {log : EventLog} {experiment variant user : String}

theorem mem_exposuresOf {x : Exposure} :
    x ∈ log.exposuresOf experiment ↔ x ∈ log.exposures.toList ∧ x.experiment = experiment := by
  rw [exposuresOf, List.mem_filter, beq_iff_eq]

theorem mem_usersOf :
    user ∈ log.usersOf experiment variant ↔
      ∃ x ∈ log.exposuresOf experiment, x.variant = variant ∧ x.user = user := by
  simp only [usersOf, List.mem_toFinset, List.mem_map, List.mem_filter, beq_iff_eq, and_assoc]

theorem mem_exposedUsers :
    user ∈ log.exposedUsers experiment ↔
      ∃ x ∈ log.exposuresOf experiment, x.user = user := by
  simp only [exposedUsers, List.mem_toFinset, List.mem_map]

/-- The sample of a variant counts its users, listed or not. -/
theorem samples_eq_card (log : EventLog) (experiment variant : String) :
    (((log.samples experiment).get? variant).getD {}).samples =
      (log.usersOf experiment variant).card := by
  rw [samples, Table.get?_tabulate]
  split
  · rw [Option.getD_some, sampleOf_eq_card]
    rfl
  · next h =>
    -- nobody is exposed to a variant that is not listed
    have hempty : log.usersOf experiment variant = ∅ := by
      refine Finset.eq_empty_of_forall_notMem fun user huser => h ?_
      obtain ⟨x, hx, hvariant, -⟩ := mem_usersOf.mp huser
      exact List.mem_map.mpr ⟨x, hx, hvariant⟩
    rw [hempty, Finset.card_empty]
    rfl

/-! ## Which events there are -/

/-- Lists of the same names have as many different ones. -/
theorem size_ofList_congr {names others : List String}
    (same : ∀ name, name ∈ others ↔ name ∈ names) :
    (Std.HashSet.ofList others).size = (Std.HashSet.ofList names).size := by
  have hset : others.toFinset = names.toFinset := by
    ext name
    rw [List.mem_toFinset, List.mem_toFinset, same]
  rw [size_ofList_eq_card, size_ofList_eq_card, hset]

variable {exposures exposures' : List Exposure} {conversions conversions' : List Conversion}

/-- A sample of the same events is the same. -/
theorem sampleOf_congr (hexposures : ∀ x, x ∈ exposures' ↔ x ∈ exposures)
    (hconversions : ∀ c, c ∈ conversions' ↔ c ∈ conversions) (variant : String) :
    sampleOf exposures' conversions' variant = sampleOf exposures conversions variant := by
  have hexposed : ∀ user,
      user ∈ (exposures'.filter (·.variant == variant)).map (·.user) ↔
        user ∈ (exposures.filter (·.variant == variant)).map (·.user) := by
    intro user
    simp only [List.mem_map, List.mem_filter, hexposures]
  have hconverted : ∀ user,
      user ∈ (conversions'.filter (·.variant == variant)).map (·.user) ↔
        user ∈ (conversions.filter (·.variant == variant)).map (·.user) := by
    intro user
    simp only [List.mem_map, List.mem_filter, hconversions]
  rw [sampleOf_eq_card, sampleOf_eq_card]
  simp only [Sample.mk.injEq]
  refine ⟨congrArg Finset.card (Finset.ext fun user => ?_),
    congrArg Finset.card (Finset.ext fun user => ?_)⟩
  · rw [List.mem_toFinset, List.mem_toFinset, hexposed]
  · rw [List.mem_toFinset, List.mem_toFinset, List.mem_filter, List.mem_filter,
      List.contains_iff_mem, List.contains_iff_mem, hexposed, hconverted]

/-- Logs with the same events of an experiment have the same samples of it. -/
theorem samples_congr {other : EventLog}
    (hexposures : ∀ x, x ∈ other.exposuresOf experiment ↔ x ∈ log.exposuresOf experiment)
    (hconversions : ∀ c, c ∈ other.conversionsOf experiment ↔ c ∈ log.conversionsOf experiment) :
    other.samples experiment = log.samples experiment := by
  refine Table.ext_get? fun variant => ?_
  have hlisted : variant ∈ (other.exposuresOf experiment).map (·.variant) ↔
      variant ∈ (log.exposuresOf experiment).map (·.variant) := by
    simp only [List.mem_map, hexposures]
  rw [samples, samples, Table.get?_tabulate, Table.get?_tabulate,
    sampleOf_congr hexposures hconversions]
  simp only [hlisted]

end EventLog

namespace Experiment

variable {e : Experiment} {samples : Table Sample} {level : Float} {minSampleSize : Nat}
  {now : Instant}

/-- What is observed of the variants are the samples under their names. -/
theorem samples_variantResults :
    (e.variantResults samples level).values.map (·.samples) =
      (e.variantResults samples level).names.map fun id =>
        ((samples.get? id).getD {}).samples := by
  rw [Table.values, Table.names, List.map_map, List.map_map]
  refine List.map_congr_left fun entry hmem => ?_
  obtain ⟨id, result⟩ := entry
  obtain ⟨v, -, heq⟩ :=
    List.mem_map.mp (Table.mem_of_get?_ofList (Table.mem_entries_iff.mp hmem))
  cases heq
  rfl

/-- The total adds up the samples of the declared variants, of each once. -/
theorem totalSamples_compare_eq_sum :
    (e.compare samples level minSampleSize now).totalSamples =
      ((e.variantResults samples level).names.map fun id =>
        ((samples.get? id).getD {}).samples).sum := by
  rw [compare, totalSamples_compareBy, observe, ← samples_variantResults, List.sum_eq_foldl,
    List.foldl_map]

/-- The total is the number of users with an exposure to the experiment, when nobody is exposed to
two variants and every exposure is to a declared one. -/
theorem totalSamples_compare {log : EventLog}
    (declared : ∀ x ∈ log.exposuresOf e.id, ∃ v ∈ e.variants, v.id = x.variant)
    (single : ∀ x ∈ log.exposuresOf e.id, ∀ y ∈ log.exposuresOf e.id,
      x.user = y.user → x.variant = y.variant) :
    (e.compare (log.samples e.id) level minSampleSize now).totalSamples =
      (log.exposedUsers e.id).card := by
  rw [totalSamples_compare_eq_sum]
  generalize hnames : (e.variantResults (log.samples e.id) level).names = names
  have hnodup : names.Nodup := hnames ▸ Table.nodup_names _
  -- the declared variants split the users, so the sum of their counts is the count of all
  have hunion : log.exposedUsers e.id = names.toFinset.biUnion (log.usersOf e.id) := by
    ext user
    rw [EventLog.mem_exposedUsers, Finset.mem_biUnion]
    constructor
    · rintro ⟨x, hx, rfl⟩
      obtain ⟨v, hv, hid⟩ := declared x hx
      refine ⟨x.variant, ?_, EventLog.mem_usersOf.mpr ⟨x, hx, rfl, rfl⟩⟩
      rw [List.mem_toFinset, ← hnames, ← hid]
      exact mem_names_variantResults_iff.mpr ⟨v, hv, rfl⟩
    · rintro ⟨id, -, huser⟩
      obtain ⟨x, hx, -, hxuser⟩ := EventLog.mem_usersOf.mp huser
      exact ⟨x, hx, hxuser⟩
  have hdisjoint : (names.toFinset : Set String).PairwiseDisjoint (log.usersOf e.id) := by
    intro a _ b _ hne
    refine Finset.disjoint_left.mpr fun user ha hb => hne ?_
    obtain ⟨x, hx, rfl, hxuser⟩ := EventLog.mem_usersOf.mp ha
    obtain ⟨y, hy, rfl, hyuser⟩ := EventLog.mem_usersOf.mp hb
    exact single x hx y hy (hxuser.trans hyuser.symm)
  rw [hunion, Finset.card_biUnion hdisjoint, List.sum_toFinset _ hnodup]
  refine congrArg List.sum (List.map_congr_left fun id _ => ?_)
  exact EventLog.samples_eq_card log e.id id

end Experiment

end FeatureTrials
