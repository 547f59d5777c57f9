import FeatureTrials.Proofs.Analytics.Cleanup
import FeatureTrials.Proofs.Analytics.Passes

/-!
# The event log in buckets

A program keeps the events of every experiment and of every flag in a list of their own, a bucket,
which is made with its first event. A cleanup visits the buckets in no particular order, drops the
expired events of each, counts them, and takes a bucket out when it is left without events. What it
then holds are the buckets of the events that are left, and no others, so the totals, which have an
entry for every bucket, are those of these events (`BucketLog.totals_ofLog`).

* `group` — the buckets of a list.
* `prune` — a cleanup of buckets.
* `BucketLog` — the event log in buckets.
-/

namespace FeatureTrials

/-! ## Buckets -/

section

variable {α : Type} {name : α → String} {keep : α → Bool} {l : List α} {n : String}

/-- Puts an element into the bucket of a name. -/
def Table.push (t : Table (List α)) (name : String) (a : α) : Table (List α) :=
  t.insert name ((t.get? name).getD [] ++ [a])

/-- The buckets of a list. -/
def group (name : α → String) (l : List α) : Table (List α) :=
  .tabulate (l.map name) fun n => l.filter (name · == n)

theorem get?_group :
    (group name l).get? n = if n ∈ l.map name then some (l.filter (name · == n)) else none :=
  Table.get?_tabulate ..

/-- What is in the bucket of a name, with no bucket standing for an empty one. -/
theorem getD_get?_group : ((group name l).get? n).getD [] = l.filter (name · == n) := by
  rw [get?_group]
  split
  · rfl
  · next absent => exact (filter_eq_nil_of_notMem absent).symm

/-- An element goes to the end of its bucket. -/
theorem group_append (l : List α) (a : α) :
    group name (l ++ [a]) = (group name l).push (name a) a := by
  refine Table.ext_get? fun n => ?_
  rw [Table.push, getD_get?_group, Table.get?_insert, get?_group, get?_group]
  simp only [List.map_append, List.map_cons, List.map_nil, List.mem_append, List.mem_singleton,
    List.filter_append]
  by_cases hname : n = name a
  · simp [hname]
  · have hother : (name a == n) = false := beq_false_of_ne (Ne.symm hname)
    simp [hname, hother]

/-! ## Cleaning buckets up -/

/-- Drops what need not be kept from a bucket, and the bucket when it is empty then. The first
component counts what was dropped. -/
def pruneBucket (keep : α → Bool) (pruned : Nat × Table (List α)) (bucket : String × List α) :
    Nat × Table (List α) :=
  let kept := bucket.2.filter keep
  (pruned.1 + (bucket.2.length - kept.length),
    if kept.isEmpty then pruned.2.erase bucket.1 else pruned.2.insert bucket.1 kept)

/-- Visits the buckets of a table. -/
def prune (keep : α → Bool) (t : Table (List α)) (visits : List (String × List α)) :
    Nat × Table (List α) :=
  visits.foldl (pruneBucket keep) (0, t)

/-- What is kept of a bucket, if there is anything. -/
def keptBucket (keep : α → Bool) (bucket : List α) : Option (List α) :=
  if (bucket.filter keep).isEmpty then none else some (bucket.filter keep)

/-- A visit deals with its own bucket. -/
theorem get?_pruneBucket (pruned : Nat × Table (List α)) (bucket : String × List α) :
    (pruneBucket keep pruned bucket).2.get? n =
      if n = bucket.1 then keptBucket keep bucket.2 else pruned.2.get? n := by
  rw [pruneBucket, keptBucket]
  dsimp only
  split
  · rw [Table.get?_erase]
  · rw [Table.get?_insert]

/-- Visits to different buckets deal each with its own one. -/
theorem get?_foldl_pruneBucket {visits : List (String × List α)}
    (nodup : (visits.map (·.1)).Nodup) (pruned : Nat × Table (List α)) :
    (visits.foldl (pruneBucket keep) pruned).2.get? n =
      match Table.lookup n visits with
      | some bucket => keptBucket keep bucket
      | none => pruned.2.get? n := by
  induction visits generalizing pruned with
  | nil => rfl
  | cons visit rest ih =>
    obtain ⟨hnot, hrest⟩ := List.nodup_cons.mp nodup
    rw [List.foldl_cons, ih hrest, get?_pruneBucket, Table.lookup]
    by_cases hname : n = visit.1
    · have hnone : Table.lookup n rest = none :=
        Table.lookup_eq_none fun e he heq =>
          hnot (List.mem_map.mpr ⟨e, he, heq.trans hname⟩)
      rw [hnone, if_pos hname, if_pos hname.symm]
    · rw [if_neg hname, if_neg (Ne.symm hname)]

/-- Every visit counts what it drops. -/
theorem foldl_pruneBucket_fst (visits : List (String × List α)) (pruned : Nat × Table (List α)) :
    (visits.foldl (pruneBucket keep) pruned).1 =
      pruned.1 + (visits.map fun visit => visit.2.countP (!keep ·)).sum := by
  induction visits generalizing pruned with
  | nil => rfl
  | cons visit rest ih =>
    have hdropped : visit.2.length - (visit.2.filter keep).length = visit.2.countP (!keep ·) := by
      rw [← List.countP_eq_length_filter, List.length_eq_countP_add_countP keep]
      simp
    rw [List.foldl_cons, ih, pruneBucket, hdropped, List.map_cons, List.sum_cons, Nat.add_assoc]

/-- What is dropped from the buckets of a list is what is dropped from the list. -/
theorem sum_countP_group (p : α → Bool) :
    ((group name l).values.map (·.countP p)).sum = l.countP p := by
  have hcount : ∀ n, (l.filter (name · == n)).countP p = (l.filter p).countP (name · = n) := by
    intro n
    rw [List.countP_filter, List.countP_filter]
    refine List.countP_congr fun a _ => ?_
    rw [beq_eq_decide, Bool.and_comm]
  rw [group, Table.values_tabulate, List.map_map]
  simp only [Function.comp_def, hcount]
  refine (sum_map_countP (Table.nodup_names _) fun a ha => ?_).trans
    List.countP_eq_length_filter.symm
  exact Table.mem_names_tabulate.mpr (List.mem_map_of_mem (List.mem_filter.mp ha).1)

/-- The buckets of a list have as many elements as the list. -/
theorem sum_length_group : ((group name l).values.map (·.length)).sum = l.length := by
  simpa only [List.countP_true] using sum_countP_group fun _ => true

/-- Keeping a part of a list keeps that part of every bucket. -/
theorem get?_group_filter :
    (group name (l.filter keep)).get? n = ((group name l).get? n).bind (keptBucket keep) := by
  have hkept : (l.filter keep).filter (name · == n) = (l.filter (name · == n)).filter keep := by
    rw [List.filter_filter, List.filter_filter]
    exact List.filter_congr fun a _ => Bool.and_comm _ _
  rw [get?_group, get?_group, hkept]
  by_cases hkeep : n ∈ (l.filter keep).map name
  · obtain ⟨a, ha, hname⟩ := List.mem_map.mp hkeep
    have hmem : n ∈ l.map name := List.mem_map.mpr ⟨a, (List.mem_filter.mp ha).1, hname⟩
    have hne : (l.filter (name · == n)).filter keep ≠ [] := by
      rw [← hkept]
      exact List.ne_nil_of_mem (List.mem_filter.mpr ⟨ha, beq_iff_eq.mpr hname⟩)
    rw [if_pos hkeep, if_pos hmem, Option.bind_some, keptBucket,
      if_neg (by simpa only [List.isEmpty_iff] using hne)]
  · have hnil : (l.filter (name · == n)).filter keep = [] :=
      hkept.symm.trans (filter_eq_nil_of_notMem hkeep)
    rw [if_neg hkeep]
    split
    · rw [Option.bind_some, keptBucket, hnil]
      rfl
    · rfl

/-- A cleanup of the buckets of a list, in whatever order it visits them, leaves the buckets of what
is kept, and counts what is not. -/
theorem prune_group {visits : List (String × List α)}
    (perm : visits.Perm (group name l).entries) :
    prune keep (group name l) visits = (l.countP (!keep ·), group name (l.filter keep)) := by
  have nodup : (visits.map (·.1)).Nodup :=
    (perm.map Prod.fst).nodup_iff.mpr (Table.nodup_names (group name l))
  refine Prod.ext ?_ (Table.ext_get? fun n => ?_)
  · rw [prune, foldl_pruneBucket_fst, Nat.zero_add, ← sum_countP_group, Table.values, List.map_map]
    exact (perm.map _).sum_eq
  · rw [prune, get?_foldl_pruneBucket nodup, Table.lookup_of_perm perm, get?_group_filter]
    cases (group name l).get? n <;> rfl

end

/-! ## Visits to buckets -/

section

variable {α β : Type} {name : α → String} {l : List α} {n : String}

/-- Different names have one entry each. -/
theorem filter_fst_eq_lookup {listed : List (String × α)} (nodup : (listed.map (·.1)).Nodup) :
    listed.filter (·.1 == n) = ((Table.lookup n listed).map (n, ·)).toList := by
  induction listed with
  | nil => rfl
  | cons entry rest ih =>
    obtain ⟨hnot, hrest⟩ := List.nodup_cons.mp nodup
    rw [List.filter_cons, Table.lookup]
    by_cases hname : entry.1 = n
    · subst hname
      rw [if_pos (beq_self_eq_true _), if_pos rfl, filter_eq_nil_of_notMem hnot]
      rfl
    · rw [if_neg (by simpa using hname), if_neg hname, ih hrest]

/-- A pass over the entries of a table, in any order, changes each of them by itself. -/
theorem foldBy_visits {t : Table α} {visits : List (String × α)} (perm : visits.Perm t.entries)
    (fresh : String → β) (step : β → String × α → β) :
    Table.empty.foldBy Prod.fst fresh step visits =
      t.map fun name value => step (fresh name) (name, value) := by
  have nodup : (visits.map (·.1)).Nodup :=
    (perm.map Prod.fst).nodup_iff.mpr (Table.nodup_names t)
  refine Table.ext_get? fun n => ?_
  rw [Table.get?_foldBy, Table.get?_map, filter_fst_eq_lookup nodup, Table.lookup_of_perm perm]
  cases hget : t.get? n with
  | none =>
    have absent : n ∉ visits.map Prod.fst := by
      intro hmem
      obtain ⟨value, hvalue⟩ := Table.exists_lookup_of_mem hmem
      rw [Table.lookup_of_perm perm, hget] at hvalue
      cases hvalue
    rw [if_neg absent]
    rfl
  | some value =>
    have hmem : n ∈ visits.map Prod.fst :=
      List.mem_map.mpr ⟨(n, value), perm.mem_iff.mpr (Table.mem_entries_iff.mpr hget), rfl⟩
    rw [if_pos hmem]
    rfl

/-- The counts by variant of every bucket. -/
def countsPass (variant : α → String) (visits : List (String × List α)) : Table (Table Nat) :=
  Table.empty.foldBy Prod.fst (fun _ => .empty)
    (fun counts bucket => counts.foldBy variant (fun _ => 0) (fun n _ => n + 1) bucket.2) visits

theorem countsPass_group {variant : α → String} {visits : List (String × List α)}
    (perm : visits.Perm (group name l).entries) :
    countsPass variant visits =
      .tabulate (l.map name) fun n => countBy variant (l.filter (name · == n)) := by
  refine Table.ext_get? fun n => ?_
  rw [countsPass, foldBy_visits perm, Table.get?_map, get?_group, Table.get?_tabulate]
  split
  · rw [Option.map_some, foldBy_eq_countBy]
  · rfl

/-- The sizes of the buckets. -/
def sizesPass (visits : List (String × List α)) : Table Nat :=
  Table.empty.foldBy Prod.fst (fun _ => 0) (fun _ bucket => bucket.2.length) visits

theorem sizesPass_group {visits : List (String × List α)}
    (perm : visits.Perm (group name l).entries) : sizesPass visits = countBy name l := by
  refine Table.ext_get? fun n => ?_
  rw [sizesPass, foldBy_visits perm, Table.get?_map, get?_group, countBy, Table.get?_tabulate]
  split
  · rw [Option.map_some, List.countP_eq_length_filter]
  · rfl

/-- The number of elements in all buckets. -/
def totalPass (visits : List (String × List α)) : Nat :=
  visits.foldl (fun total bucket => total + bucket.2.length) 0

theorem totalPass_group {visits : List (String × List α)}
    (perm : visits.Perm (group name l).entries) : totalPass visits = l.length := by
  have hsum : ∀ (visits : List (String × List α)) (total : Nat),
      visits.foldl (fun total bucket => total + bucket.2.length) total =
        total + (visits.map (·.2.length)).sum := by
    intro visits
    induction visits with
    | nil => exact fun _ => rfl
    | cons bucket rest ih =>
      intro total
      rw [List.foldl_cons, ih, List.map_cons, List.sum_cons, Nat.add_assoc]
  rw [totalPass, hsum, Nat.zero_add, (perm.map _).sum_eq, ← sum_length_group, Table.values,
    List.map_map]
  rfl

end

/-! ## The log -/

/-- The events of each experiment and of each flag. -/
structure BucketLog where
  exposures : Table (List Exposure) := .empty
  conversions : Table (List Conversion) := .empty
  evaluations : Table (List Evaluation) := .empty

namespace BucketLog

/-- The buckets of a log. -/
def ofLog (log : EventLog) : BucketLog where
  exposures := group (·.experiment) log.exposures.toList
  conversions := group (·.experiment) log.conversions.toList
  evaluations := group (·.flag) log.evaluations.toList

/-- Records an exposure. -/
def addExposure (b : BucketLog) (e : Exposure) : BucketLog :=
  { b with exposures := b.exposures.push e.experiment e }

/-- Records a conversion. -/
def addConversion (b : BucketLog) (c : Conversion) : BucketLog :=
  { b with conversions := b.conversions.push c.experiment c }

/-- Records an evaluation. -/
def addEvaluation (b : BucketLog) (e : Evaluation) : BucketLog :=
  { b with evaluations := b.evaluations.push e.flag e }

/-- Drops the events up to an instant, and counts them. -/
def dropUntil (b : BucketLog) (cutoff : Instant) : Nat × BucketLog :=
  let exposures := prune (cutoff < ·.time) b.exposures b.exposures.entries
  let conversions := prune (cutoff < ·.time) b.conversions b.conversions.entries
  let evaluations := prune (cutoff < ·.time) b.evaluations b.evaluations.entries
  (exposures.1 + conversions.1 + evaluations.1, ⟨exposures.2, conversions.2, evaluations.2⟩)

/-- The counts over the whole log. -/
def totals (b : BucketLog) (now : Instant) : Totals :=
  let exposed := countsPass (·.variant) b.exposures.entries
  let converted := countsPass (·.variant) b.conversions.entries
  { exposures := totalPass b.exposures.entries
    conversions := totalPass b.conversions.entries
    evaluations := totalPass b.evaluations.entries
    exposuresByVariant := exposed
    conversionsByVariant := converted
    evaluationsByFlag := sizesPass b.evaluations.entries
    conversionRates :=
      exposed.map fun experiment counts =>
        counts.map fun variant count => ratio (countOf converted experiment variant) count
    lastUpdated := some now }

/-- The report on an experiment. -/
def experimentReport (b : BucketLog) (experiment : String) : ExperimentReport :=
  let exposures := (b.exposures.get? experiment).getD []
  let conversions := (b.conversions.get? experiment).getD []
  { experimentId := experiment
    totalExposures := exposures.length
    totalConversions := conversions.length
    overallConversionRate := ratio conversions.length exposures.length
    variants := variantsPass exposures conversions
    timeline := timelinePass exposures conversions }

/-- The samples of an experiment. -/
def samples (b : BucketLog) (experiment : String) : Table Sample :=
  samplesPass ((b.exposures.get? experiment).getD []) ((b.conversions.get? experiment).getD [])

/-- The report on a flag. -/
def flagReport (b : BucketLog) (flag : String) : FlagReport :=
  let evaluations := (b.evaluations.get? flag).getD []
  { flagKey := flag
    totalEvaluations := evaluations.length
    uniqueUsers :=
      (evaluations.foldl (fun users e => users.insert e.user) (∅ : Std.HashSet String)).size
    defaultEvaluations := (evaluations.filter fun e => e.value == e.default).length
    distribution :=
      Table.empty.foldBy (·.value.label) (fun _ => 0) (fun n _ => n + 1) evaluations }

variable (log : EventLog)

theorem ofLog_addExposure (e : Exposure) :
    ofLog (log.addExposure e) = (ofLog log).addExposure e := by
  simp only [ofLog, addExposure, EventLog.exposures_addExposure, group_append]
  rfl

theorem ofLog_addConversion (c : Conversion) :
    ofLog (log.addConversion c) = (ofLog log).addConversion c := by
  simp only [ofLog, addConversion, EventLog.conversions_addConversion, group_append]
  rfl

theorem ofLog_addEvaluation (e : Evaluation) :
    ofLog (log.addEvaluation e) = (ofLog log).addEvaluation e := by
  simp only [ofLog, addEvaluation, EventLog.evaluations_addEvaluation, group_append]
  rfl

/-- A cleanup of the buckets of a log drops the same events and leaves the buckets of the others. -/
theorem dropUntil_ofLog (cutoff : Instant) :
    (ofLog log).dropUntil cutoff =
      (log.size - (log.after cutoff).size, ofLog (log.after cutoff)) := by
  simp only [dropUntil, ofLog, prune_group (List.Perm.refl _), EventLog.size_sub_size_after,
    EventLog.exposures_after, EventLog.conversions_after, EventLog.evaluations_after,
    EventLog.expiredSize, ← decide_not, Instant.not_lt]

/-- The totals of the buckets of a log are the totals of the log. -/
theorem totals_ofLog (now : Instant) : (ofLog log).totals now = log.totals now := by
  simp only [totals, ofLog, countsPass_group (List.Perm.refl _), sizesPass_group (List.Perm.refl _),
    totalPass_group (List.Perm.refl _)]
  rfl

theorem getD_exposures_ofLog (experiment : String) :
    ((ofLog log).exposures.get? experiment).getD [] = log.exposuresOf experiment :=
  getD_get?_group

theorem getD_conversions_ofLog (experiment : String) :
    ((ofLog log).conversions.get? experiment).getD [] = log.conversionsOf experiment :=
  getD_get?_group

theorem getD_evaluations_ofLog (flag : String) :
    ((ofLog log).evaluations.get? flag).getD [] = log.evaluationsOf flag :=
  getD_get?_group

/-- The reports on the buckets of a log are the reports on the log. -/
theorem experimentReport_ofLog (experiment : String) :
    (ofLog log).experimentReport experiment = log.experimentReport experiment := by
  simp only [experimentReport, getD_exposures_ofLog, getD_conversions_ofLog,
    EventLog.experimentReport, variantsPass_eq, timelinePass_eq]

theorem samples_ofLog (experiment : String) :
    (ofLog log).samples experiment = log.samples experiment := by
  rw [samples, getD_exposures_ofLog, getD_conversions_ofLog, samplesPass_eq, EventLog.samples]

theorem flagReport_ofLog (flag : String) : (ofLog log).flagReport flag = log.flagReport flag := by
  simp only [flagReport, getD_evaluations_ofLog, foldl_insert_eq_ofList, foldBy_eq_countBy,
    EventLog.flagReport, distinctCount, List.countP_eq_length_filter]

end BucketLog

end FeatureTrials
