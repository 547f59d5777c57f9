import FeatureTrials.Proofs.Analytics.Counts
import FeatureTrials.Proofs.Time.Hours

/-!
# Reports in one pass

A report can be made in one pass over the events that keeps an entry per variant, per user or per
hour: an event finds the entry of its key, or makes one, and updates it. Such a pass leaves in every
entry what the events with its key come to by themselves (`Table.get?_foldBy`), and so it makes the
same report as looking at each variant and each hour in turn.

* `Table.foldBy` — a pass with an entry per key.
* `variantsPass`, `samplesPass`, `timelinePass` — the passes that make the report on an experiment
  and its samples.
-/

namespace FeatureTrials

/-! ## An entry per key -/

namespace Table

variable {α β : Type} {key : α → String} {fresh : String → β} {step : β → α → β} {name : String}

/-- Updates for each element of a list the entry of its key; an entry that is not there yet is made
first. -/
def foldBy (key : α → String) (fresh : String → β) (step : β → α → β) (t : Table β)
    (l : List α) : Table β :=
  l.foldl (fun t a => t.insert (key a) (step ((t.get? (key a)).getD (fresh (key a))) a)) t

/-- An entry is updated by the elements with its key alone, in their order. -/
theorem get?_foldBy (t : Table β) (l : List α) :
    (t.foldBy key fresh step l).get? name =
      if name ∈ l.map key then
        some ((l.filter (key · == name)).foldl step ((t.get? name).getD (fresh name)))
      else t.get? name := by
  induction l generalizing t with
  | nil => rfl
  | cons a rest ih =>
    rw [foldBy, List.foldl_cons, ← foldBy, ih, get?_insert]
    simp only [List.map_cons, List.mem_cons]
    by_cases hname : name = key a
    · subst hname
      simp only [if_true, true_or, List.filter_cons, beq_self_eq_true, List.foldl_cons,
        Option.getD_some]
      split
      · rfl
      · next habsent =>
        -- the head is the only element with its key
        have hnone : rest.filter (key · == key a) = [] :=
          List.filter_eq_nil_iff.mpr fun b hb heq =>
            habsent (List.mem_map.mpr ⟨b, hb, beq_iff_eq.mp heq⟩)
        rw [hnone, List.foldl_nil]
    · have hhead : (key a == name) = false := beq_false_of_ne (Ne.symm hname)
      simp only [hname, if_false, false_or, List.filter_cons, hhead, Bool.false_eq_true]

/-- A pass over a list makes the table of what the elements with each key come to. -/
theorem foldBy_empty (l : List α) :
    (empty : Table β).foldBy key fresh step l =
      .tabulate (l.map key) fun name => (l.filter (key · == name)).foldl step (fresh name) := by
  refine ext_get? fun name => ?_
  rw [get?_foldBy, get?_tabulate]
  rfl

end Table

/-- Counting is a pass that adds one to the entry of each element. -/
theorem foldBy_eq_countBy {α : Type} (name : α → String) (l : List α) :
    Table.empty.foldBy name (fun _ => 0) (fun count _ => count + 1) l = countBy name l := by
  have hcount : ∀ (l : List α) (n : Nat), l.foldl (fun count _ => count + 1) n = n + l.length := by
    intro l
    induction l with
    | nil => exact fun _ => rfl
    | cons a rest ih =>
      intro n
      rw [List.foldl_cons, ih, List.length_cons]
      omega
  rw [Table.foldBy_empty, countBy]
  simp only [hcount, Nat.zero_add, ← List.countP_eq_length_filter]

/-- Putting names into a set one after the other makes the set of the list. -/
theorem foldl_insert_eq_ofList {α : Type} (user : α → String) (l : List α) :
    l.foldl (fun users a => users.insert (user a)) (∅ : Std.HashSet String) =
      Std.HashSet.ofList (l.map user) := by
  have hinsert : ∀ (names : List String) (users : Std.HashSet String),
      users.insertMany names = names.foldl (·.insert ·) users := by
    intro names
    induction names with
    | nil => exact fun _ => Std.HashSet.insertMany_nil
    | cons name rest ih =>
      intro users
      rw [Std.HashSet.insertMany_cons, ih, List.foldl_cons]
  rw [Std.HashSet.ofList_eq_insertMany_empty, hinsert, List.foldl_map]

/-! ## Variants -/

/-- A report on a variant that nothing has happened with. -/
def VariantReport.fresh (variant : String) : VariantReport where
  variantId := variant
  exposures := 0
  conversions := 0
  conversionRate := 0.0
  averageValue := 0.0
  uniqueUsers := 0

section

variable (exposures : List Exposure) (conversions : List Conversion)

/-- The reports on the variants with their counts. -/
def countedPass : Table VariantReport :=
  (Table.empty.foldBy Exposure.variant .fresh
    (fun v _ => { v with exposures := v.exposures + 1 }) exposures).foldBy
      Conversion.variant .fresh (fun v _ => { v with conversions := v.conversions + 1 }) conversions

/-- The users exposed to each variant. -/
def usersPass : Table (Std.HashSet String) :=
  Table.empty.foldBy Exposure.variant (fun _ => ∅) (fun users x => users.insert x.user) exposures

/-- The reports on the variants, from passes that count, collect the users and add up the values. -/
def variantsPass : Table VariantReport :=
  let users := usersPass exposures
  let sums := Table.empty.foldBy Conversion.variant (fun _ => 0.0) (fun sum c => sum + c.value)
    conversions
  (countedPass exposures conversions).map fun variant v =>
    { v with
      conversionRate := ratio v.conversions v.exposures
      averageValue :=
        if 0 < v.conversions then (sums.get? variant).getD 0.0 / Decimal.ofNat v.conversions
        else v.averageValue
      uniqueUsers := ((users.get? variant).map (·.size)).getD 0 }

/-- The samples, from a pass that collects the users exposed to each variant and one that collects
those that converted. -/
def samplesPass : Table Sample :=
  let exposed := usersPass exposures
  let converted := Table.empty.foldBy Conversion.variant (fun _ => (∅ : Std.HashSet String))
    (fun users c => users.insert c.user)
    (conversions.filter fun c => (exposed.get? c.variant).any (·.contains c.user))
  exposed.map fun variant users =>
    { samples := users.size, conversions := ((converted.get? variant).map (·.size)).getD 0 }

end

section

variable {exposures : List Exposure} {conversions : List Conversion} {variant : String}

theorem filter_eq_nil_of_notMem {α : Type} {key : α → String} {l : List α}
    (absent : variant ∉ l.map key) : l.filter (key · == variant) = [] :=
  List.filter_eq_nil_iff.mpr fun a ha heq =>
    absent (List.mem_map.mpr ⟨a, ha, beq_iff_eq.mp heq⟩)

theorem foldl_exposures (l : List Exposure) (v : VariantReport) :
    l.foldl (fun v _ => { v with exposures := v.exposures + 1 }) v =
      { v with exposures := v.exposures + l.length } := by
  induction l generalizing v with
  | nil => rfl
  | cons x rest ih => rw [List.foldl_cons, ih, List.length_cons, Nat.add_assoc, Nat.add_comm 1]

theorem foldl_conversions (l : List Conversion) (v : VariantReport) :
    l.foldl (fun v _ => { v with conversions := v.conversions + 1 }) v =
      { v with conversions := v.conversions + l.length } := by
  induction l generalizing v with
  | nil => rfl
  | cons c rest ih => rw [List.foldl_cons, ih, List.length_cons, Nat.add_assoc, Nat.add_comm 1]

theorem get?_countedPass :
    (countedPass exposures conversions).get? variant =
      if variant ∈ exposures.map (·.variant) ++ conversions.map (·.variant) then
        some { VariantReport.fresh variant with
          exposures := (exposures.filter (·.variant == variant)).length
          conversions := (conversions.filter (·.variant == variant)).length }
      else none := by
  rw [countedPass, Table.get?_foldBy, Table.get?_foldBy]
  simp only [foldl_exposures, foldl_conversions, List.mem_append]
  by_cases hconverted : variant ∈ conversions.map (·.variant)
  · by_cases hexposed : variant ∈ exposures.map (·.variant)
    · simp [hconverted, hexposed, VariantReport.fresh]
    · simp [hconverted, hexposed, VariantReport.fresh, filter_eq_nil_of_notMem hexposed]
  · by_cases hexposed : variant ∈ exposures.map (·.variant)
    · simp [hconverted, hexposed, VariantReport.fresh, filter_eq_nil_of_notMem hconverted]
    · simp [hconverted, hexposed]

theorem get?_usersPass :
    (usersPass exposures).get? variant =
      if variant ∈ exposures.map (·.variant) then
        some (.ofList ((exposures.filter (·.variant == variant)).map (·.user)))
      else none := by
  rw [usersPass, Table.foldBy_empty, Table.get?_tabulate]
  simp only [foldl_insert_eq_ofList]

/-- A variant that nobody was exposed to has no users. -/
theorem size_usersPass :
    (((usersPass exposures).get? variant).map (·.size)).getD 0 =
      distinctCount ((exposures.filter (·.variant == variant)).map (·.user)) := by
  rw [get?_usersPass]
  split
  · rfl
  · next absent =>
    rw [filter_eq_nil_of_notMem absent]
    rfl

/-- The passes make the reports on the variants. -/
theorem variantsPass_eq :
    variantsPass exposures conversions =
      .tabulate (exposures.map (·.variant) ++ conversions.map (·.variant))
        (VariantReport.ofEvents exposures conversions) := by
  refine Table.ext_get? fun variant => ?_
  rw [variantsPass, Table.get?_map, get?_countedPass, Table.get?_tabulate]
  split
  · rw [Option.map_some, VariantReport.ofEvents, size_usersPass, Table.foldBy_empty,
      Table.get?_tabulate]
    by_cases hconverted : variant ∈ conversions.map (·.variant)
    · have hne : conversions.filter (·.variant == variant) ≠ [] := by
        obtain ⟨c, hc, hvariant⟩ := List.mem_map.mp hconverted
        exact List.ne_nil_of_mem (List.mem_filter.mpr ⟨hc, beq_iff_eq.mpr hvariant⟩)
      simp [hconverted, List.length_pos_iff.mpr hne, List.isEmpty_eq_false_iff.mpr hne,
        VariantReport.fresh]
    · simp [filter_eq_nil_of_notMem hconverted, VariantReport.fresh]
  · rfl

/-- The passes make the samples. -/
theorem samplesPass_eq :
    samplesPass exposures conversions =
      .tabulate (exposures.map (·.variant)) (EventLog.sampleOf exposures conversions) := by
  refine Table.ext_get? fun variant => ?_
  rw [samplesPass, Table.get?_map, get?_usersPass, Table.get?_tabulate]
  split
  · next hexposed =>
    -- of the conversions of a variant, those of its exposed users are left
    have hconverted : ((conversions.filter fun c =>
          ((usersPass exposures).get? c.variant).any (·.contains c.user)).filter
            (·.variant == variant)).map (·.user) =
        ((conversions.filter (·.variant == variant)).map (·.user)).filter
          (Std.HashSet.ofList
            ((exposures.filter (·.variant == variant)).map (·.user))).contains := by
      rw [List.filter_filter, List.filter_map, List.filter_filter]
      refine congrArg _ (List.filter_congr fun c _ => ?_)
      by_cases hvariant : c.variant = variant
      · simp only [hvariant, get?_usersPass, if_pos hexposed, Option.any_some, Function.comp_apply,
          Bool.and_comm]
      · simp only [beq_false_of_ne hvariant, Bool.false_and, Bool.and_false]
    rw [Option.map_some, EventLog.sampleOf, Table.foldBy_empty, Table.get?_tabulate]
    simp only [foldl_insert_eq_ofList, hconverted]
    split
    · rfl
    · next absent =>
      rw [← hconverted, filter_eq_nil_of_notMem absent]
      rfl
  · rfl

end

/-! ## The hours of a timeline -/

section

variable {hour h : Instant} {hours times : List Instant}

theorem mem_insertHour : h ∈ insertHour hour hours ↔ h = hour ∨ h ∈ hours := by
  induction hours with
  | nil => rw [insertHour, List.mem_singleton, List.mem_nil_iff, or_false]
  | cons first rest ih =>
    rw [insertHour]
    split
    · rw [List.mem_cons]
    · split
      · next heq => rw [heq, List.mem_cons, or_self_left]
      · rw [List.mem_cons, List.mem_cons, ih, or_left_comm]

theorem increasing_insertHour (increasing : hours.Pairwise (· < ·)) :
    (insertHour hour hours).Pairwise (· < ·) := by
  induction hours with
  | nil => exact List.pairwise_singleton _ _
  | cons first rest ih =>
    obtain ⟨hfirst, hrest⟩ := List.pairwise_cons.mp increasing
    rw [insertHour]
    split
    · next hlt =>
      refine List.pairwise_cons.mpr ⟨fun h hmem => ?_, increasing⟩
      rcases List.mem_cons.mp hmem with rfl | hmem
      · exact hlt
      · exact Instant.lt_trans hlt (hfirst h hmem)
    · next hnlt =>
      split
      · exact increasing
      · next hne =>
        refine List.pairwise_cons.mpr ⟨fun h hmem => ?_, ih hrest⟩
        rcases mem_insertHour.mp hmem with rfl | hmem
        · exact Instant.lt_of_not_lt_of_ne hnlt hne
        · exact hfirst h hmem

/-- What holds of a list of hours when instants are put in one after the other. -/
theorem mem_foldl_insertHour :
    h ∈ times.foldl (fun hours t => insertHour t.hour hours) hours ↔
      (∃ t ∈ times, t.hour = h) ∨ h ∈ hours := by
  induction times generalizing hours with
  | nil => simp only [List.foldl_nil, List.not_mem_nil, false_and, exists_false, false_or]
  | cons t rest ih =>
    rw [List.foldl_cons, ih, mem_insertHour]
    simp only [List.mem_cons, exists_eq_or_imp, eq_comm (a := h), or_assoc, or_left_comm]

theorem increasing_foldl_insertHour (increasing : hours.Pairwise (· < ·)) :
    (times.foldl (fun hours t => insertHour t.hour hours) hours).Pairwise (· < ·) := by
  induction times generalizing hours with
  | nil => exact increasing
  | cons t rest ih => exact ih (increasing_insertHour increasing)

/-- The hours of a timeline are those that the instants are truncated to. -/
theorem mem_hoursOf : h ∈ hoursOf times ↔ ∃ t ∈ times, t.hour = h := by
  rw [hoursOf, mem_foldl_insertHour]
  simp only [List.not_mem_nil, or_false]

theorem increasing_hoursOf (times : List Instant) : (hoursOf times).Pairwise (· < ·) :=
  increasing_foldl_insertHour List.Pairwise.nil

theorem nodup_hoursOf (times : List Instant) : (hoursOf times).Nodup :=
  (increasing_hoursOf times).imp Instant.ne_of_lt

end

/-! ## Timelines -/

/-- Updates the counts of an hour in an increasing list of hours, which are zero for one that is not
in it. -/
def updateHour (hour : Instant) (update : Nat × Nat → Nat × Nat) :
    List (Instant × Nat × Nat) → List (Instant × Nat × Nat)
  | [] => [(hour, update (0, 0))]
  | (h, counts) :: rest =>
    if hour < h then (hour, update (0, 0)) :: (h, counts) :: rest
    else if hour = h then (h, update counts) :: rest
    else (h, counts) :: updateHour hour update rest

/-- The timeline, from a pass over the exposures and one over the conversions. -/
def timelinePass (exposures : List Exposure) (conversions : List Conversion) :
    List TimelinePoint :=
  let exposed := exposures.foldl
    (fun hours x => updateHour x.time.hour (fun n => (n.1 + 1, n.2)) hours) []
  let counted := conversions.foldl
    (fun hours c => updateHour c.time.hour (fun n => (n.1, n.2 + 1)) hours) exposed
  counted.map fun (hour, exposures, conversions) =>
    { hour, exposures, conversions, conversionRate := ratio conversions exposures }

section

variable {update : Nat × Nat → Nat × Nat} {hour : Instant} {hours : List Instant}
  {counts : Instant → Nat × Nat}

/-- Updating an hour changes its counts, and puts it in its place when it is new. -/
theorem updateHour_map (increasing : hours.Pairwise (· < ·))
    (outside : hour ∉ hours → counts hour = (0, 0)) :
    updateHour hour update (hours.map fun h => (h, counts h)) =
      (insertHour hour hours).map fun h =>
        (h, if h = hour then update (counts h) else counts h) := by
  induction hours with
  | nil =>
    simp only [List.map_nil, updateHour, insertHour, List.map_cons, if_pos,
      outside List.not_mem_nil]
  | cons first rest ih =>
    obtain ⟨hfirst, hrest⟩ := List.pairwise_cons.mp increasing
    have keep : ∀ l : List Instant, (∀ h ∈ l, h ≠ hour) →
        l.map (fun h => (h, if h = hour then update (counts h) else counts h)) =
          l.map fun h => (h, counts h) :=
      fun l hother => List.map_congr_left fun h hmem => by rw [if_neg (hother h hmem)]
    rw [List.map_cons, updateHour, insertHour]
    by_cases hlt : hour < first
    · have hother : ∀ h ∈ first :: rest, h ≠ hour := by
        intro h hmem
        rcases List.mem_cons.mp hmem with rfl | hmem
        · exact (Instant.ne_of_lt hlt).symm
        · exact (Instant.ne_of_lt (Instant.lt_trans hlt (hfirst h hmem))).symm
      have hnew : hour ∉ first :: rest := fun hmem => hother hour hmem rfl
      rw [if_pos hlt, if_pos hlt, List.map_cons, if_pos rfl, outside hnew, keep _ hother,
        List.map_cons]
    · rw [if_neg hlt, if_neg hlt]
      by_cases heq : hour = first
      · subst heq
        have hother : ∀ h ∈ rest, h ≠ hour := fun h hmem => (Instant.ne_of_lt (hfirst h hmem)).symm
        rw [if_pos rfl, if_pos rfl, List.map_cons, if_pos rfl, keep _ hother]
      · have outside' : hour ∉ rest → counts hour = (0, 0) :=
          fun hnot => outside fun hmem => (List.mem_cons.mp hmem).elim heq hnot
        rw [if_neg heq, if_neg heq, List.map_cons, if_neg (Ne.symm heq), ih hrest outside']

/-- A pass that updates the hour of each element. -/
theorem foldl_updateHour {α : Type} (time : α → Instant) (update : Nat × Nat → Nat × Nat)
    (counts : Instant → Nat × Nat) (l : List α) (increasing : hours.Pairwise (· < ·))
    (outside : ∀ h, h ∉ hours → counts h = (0, 0)) :
    l.foldl (fun hours a => updateHour (time a).hour update hours)
        (hours.map fun h => (h, counts h)) =
      ((l.map time).foldl (fun hours t => insertHour t.hour hours) hours).map fun h =>
        (h, update^[l.countP fun a => (time a).hour = h] (counts h)) := by
  induction l generalizing hours counts with
  | nil => rfl
  | cons a rest ih =>
    have outside' : ∀ h, h ∉ insertHour (time a).hour hours →
        (if h = (time a).hour then update (counts h) else counts h) = (0, 0) := by
      intro h hnot
      rw [mem_insertHour, not_or] at hnot
      rw [if_neg hnot.1, outside h hnot.2]
    rw [List.foldl_cons, updateHour_map increasing (outside _),
      ih _ (increasing_insertHour increasing) outside', List.map_cons, List.foldl_cons]
    refine List.map_congr_left fun h _ => congrArg _ ?_
    rw [List.countP_cons]
    by_cases heq : h = (time a).hour
    · rw [if_pos heq, if_pos (decide_eq_true heq.symm), Function.iterate_succ_apply]
    · rw [if_neg heq, if_neg (by simpa using Ne.symm heq), Nat.add_zero]

/-- Adding one a number of times. -/
theorem iterate_add_fst (n : Nat) (counts : Nat × Nat) :
    (fun n : Nat × Nat => (n.1 + 1, n.2))^[n] counts = (counts.1 + n, counts.2) := by
  induction n generalizing counts with
  | zero => rfl
  | succ n ih => rw [Function.iterate_succ_apply, ih, Nat.add_assoc, Nat.add_comm 1]

theorem iterate_add_snd (n : Nat) (counts : Nat × Nat) :
    (fun n : Nat × Nat => (n.1, n.2 + 1))^[n] counts = (counts.1, counts.2 + n) := by
  induction n generalizing counts with
  | zero => rfl
  | succ n ih => rw [Function.iterate_succ_apply, ih, Nat.add_assoc, Nat.add_comm 1]

/-- The passes make the timeline. -/
theorem timelinePass_eq (exposures : List Exposure) (conversions : List Conversion) :
    timelinePass exposures conversions = timeline exposures conversions := by
  have hexposed := foldl_updateHour Exposure.time (fun n => (n.1 + 1, n.2)) (fun _ => (0, 0))
    exposures List.Pairwise.nil fun _ _ => rfl
  have outside : ∀ h, h ∉ hoursOf (exposures.map (·.time)) →
      (fun n : Nat × Nat => (n.1 + 1, n.2))^[exposures.countP (·.time.hour = h)] (0, 0) =
        (0, 0) := by
    intro h hnot
    have hnone : exposures.countP (·.time.hour = h) = 0 :=
      List.countP_eq_zero.mpr fun x hx heq =>
        hnot (mem_hoursOf.mpr ⟨x.time, List.mem_map_of_mem hx, of_decide_eq_true heq⟩)
    rw [hnone]
    rfl
  have hcounted := foldl_updateHour Conversion.time (fun n => (n.1, n.2 + 1)) _ conversions
    (increasing_hoursOf (exposures.map (·.time))) outside
  rw [timelinePass, timeline]
  rw [List.map_nil] at hexposed
  rw [hexposed, ← hoursOf, hcounted, hoursOf, ← List.foldl_append, ← hoursOf, List.map_map]
  refine List.map_congr_left fun h _ => ?_
  simp only [Function.comp_apply, iterate_add_fst, iterate_add_snd, Nat.zero_add]

end

end FeatureTrials
