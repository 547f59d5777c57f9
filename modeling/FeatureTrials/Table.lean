/-!
# Tables

A table holds one value per name, its entries in increasing order of the names. Names are compared
character by character, which is also the order of their UTF-8 bytes.

The view of a table is `get?`: every operation is described by what it does to it, and two tables
with the same view are equal (`Table.ext_get?`), so that nothing about a table depends on the order
in which it was filled.
-/

namespace FeatureTrials

/-- Values by name. -/
structure Table (α : Type) where
  entries : List (String × α)
  increasing : entries.Pairwise fun a b => a.1 < b.1

namespace Table

variable {α β : Type}

/-! ## Lists of entries -/

/-- The value of a name in a list of entries. -/
def lookup (name : String) : List (String × α) → Option α
  | [] => none
  | (k, v) :: rest => if k = name then some v else lookup name rest

/-- Puts a value into increasing entries, in place of one with its name. -/
def insertInto (name : String) (value : α) : List (String × α) → List (String × α)
  | [] => [(name, value)]
  | (k, v) :: rest =>
    if name < k then (name, value) :: (k, v) :: rest
    else if name = k then (name, value) :: rest
    else (k, v) :: insertInto name value rest

theorem mem_insertInto {name : String} {value : α} {e : String × α} :
    ∀ {l : List (String × α)}, e ∈ insertInto name value l → e = (name, value) ∨ e ∈ l
  | [], h => .inl (List.mem_singleton.mp h)
  | (k, v) :: rest, h => by
    rw [insertInto] at h
    split at h
    · exact List.mem_cons.mp h
    · split at h
      · exact (List.mem_cons.mp h).imp_right (List.mem_cons_of_mem _)
      · rcases List.mem_cons.mp h with h | h
        · exact .inr (h ▸ List.mem_cons_self)
        · exact (mem_insertInto h).imp_right (List.mem_cons_of_mem _)

theorem increasing_insertInto (name : String) (value : α) :
    ∀ {l : List (String × α)}, (l.Pairwise fun a b => a.1 < b.1) →
      (insertInto name value l).Pairwise fun a b => a.1 < b.1
  | [], _ => List.pairwise_singleton _ _
  | (k, v) :: rest, h => by
    obtain ⟨hk, hrest⟩ := List.pairwise_cons.mp h
    rw [insertInto]
    split
    · next hlt =>
      refine List.pairwise_cons.mpr ⟨fun e he => ?_, h⟩
      rcases List.mem_cons.mp he with rfl | he
      · exact hlt
      · exact String.lt_trans hlt (hk e he)
    · next hnlt =>
      split
      · next heq =>
        subst heq
        exact List.pairwise_cons.mpr ⟨hk, hrest⟩
      · next hne =>
        refine List.pairwise_cons.mpr ⟨fun e he => ?_, increasing_insertInto name value hrest⟩
        rcases mem_insertInto he with rfl | he
        · rcases String.le_total k name with hle | hle
          · exact String.not_le.mp fun hge => hne (String.le_antisymm hge hle)
          · exact absurd (String.not_lt.mp hnlt) fun hge => hne (String.le_antisymm hle hge)
        · exact hk e he

theorem lookup_insertInto (name other : String) (value : α) :
    ∀ l : List (String × α),
      lookup other (insertInto name value l) =
        if other = name then some value else lookup other l
  | [] => by
    simp only [insertInto, lookup, eq_comm]
  | (k, v) :: rest => by
    rw [insertInto]
    split
    · simp only [lookup, @eq_comm _ name other]
    · split
      · next heq =>
        subst heq
        simp only [lookup, @eq_comm _ name other]
        split <;> rfl
      · next hne =>
        rw [lookup, lookup, lookup_insertInto name other value rest]
        split
        · next heq =>
          subst heq
          rw [if_neg (Ne.symm hne)]
        · rfl

theorem lookup_eq_none {name : String} :
    ∀ {l : List (String × α)}, (∀ e ∈ l, e.1 ≠ name) → lookup name l = none
  | [], _ => rfl
  | (k, v) :: rest, h => by
    rw [lookup, if_neg (h (k, v) List.mem_cons_self)]
    exact lookup_eq_none fun e he => h e (List.mem_cons_of_mem _ he)

theorem lookup_eq_some_iff {name : String} {value : α} :
    ∀ {l : List (String × α)}, (l.Pairwise fun a b => a.1 < b.1) →
      (lookup name l = some value ↔ (name, value) ∈ l)
  | [], _ => by simp only [lookup, reduceCtorEq, List.not_mem_nil]
  | (k, v) :: rest, h => by
    obtain ⟨hk, hrest⟩ := List.pairwise_cons.mp h
    rw [lookup, List.mem_cons]
    split
    · next heq =>
      subst heq
      constructor
      · intro hv
        exact .inl (by rw [Option.some.inj hv])
      · rintro (hv | hv)
        · rw [(Prod.mk.inj hv).2]
        · exact absurd (hk _ hv) (String.lt_irrefl _)
    · next hne =>
      rw [lookup_eq_some_iff hrest]
      constructor
      · exact .inr
      · rintro (hv | hv)
        · exact absurd (Prod.mk.inj hv).1.symm hne
        · exact hv

theorem lookup_map (f : String → α → β) (name : String) :
    ∀ l : List (String × α),
      lookup name (l.map fun e => (e.1, f e.1 e.2)) = (lookup name l).map (f name)
  | [] => rfl
  | (k, v) :: rest => by
    rw [List.map_cons, lookup, lookup]
    split
    · next h =>
      subst h
      rfl
    · exact lookup_map f name rest

theorem lookup_append (name : String) (l m : List (String × α)) :
    lookup name (l ++ m) = (lookup name l).or (lookup name m) := by
  induction l with
  | nil => rfl
  | cons e rest ih =>
    rw [List.cons_append, lookup, lookup, ih]
    split <;> rfl

theorem mem_of_lookup {name : String} {value : α} :
    ∀ {l : List (String × α)}, lookup name l = some value → (name, value) ∈ l
  | (k, v) :: rest, h => by
    rw [lookup] at h
    split at h
    · next heq =>
      rw [← heq, ← Option.some.inj h]
      exact List.mem_cons_self
    · exact List.mem_cons_of_mem _ (mem_of_lookup h)

theorem exists_lookup_of_mem {name : String} :
    ∀ {l : List (String × α)}, name ∈ l.map (·.1) → ∃ value, lookup name l = some value
  | (k, v) :: rest, h => by
    rw [lookup]
    split
    · exact ⟨v, rfl⟩
    · next hne =>
      rcases List.mem_cons.mp h with h | h
      · exact absurd h.symm hne
      · exact exists_lookup_of_mem h

/-- Two lists of increasing entries with the same look-ups are equal. -/
theorem entries_ext :
    ∀ {l m : List (String × α)}, (l.Pairwise fun a b => a.1 < b.1) →
      (m.Pairwise fun a b => a.1 < b.1) → (∀ name, lookup name l = lookup name m) → l = m
  | [], [], _, _, _ => rfl
  | [], (k, v) :: rest, _, _, h => by
    have := h k
    rw [lookup, lookup, if_pos rfl] at this
    cases this
  | (k, v) :: rest, [], _, _, h => by
    have := h k
    rw [lookup, lookup, if_pos rfl] at this
    cases this
  | (k, v) :: rest, (k', v') :: rest', hl, hm, h => by
    obtain ⟨hk, hrest⟩ := List.pairwise_cons.mp hl
    obtain ⟨hk', hrest'⟩ := List.pairwise_cons.mp hm
    have hkk : k = k' := by
      have h₁ : (k, v) ∈ (k', v') :: rest' :=
        (lookup_eq_some_iff hm).mp (by rw [← h, lookup, if_pos rfl])
      have h₂ : (k', v') ∈ (k, v) :: rest :=
        (lookup_eq_some_iff hl).mp (by rw [h, lookup, if_pos rfl])
      rcases List.mem_cons.mp h₁ with h₁ | h₁
      · exact (Prod.mk.inj h₁).1
      · rcases List.mem_cons.mp h₂ with h₂ | h₂
        · exact (Prod.mk.inj h₂).1.symm
        · exact absurd (hk' _ h₁) (String.lt_asymm (hk _ h₂))
    subst hkk
    have hv := h k
    rw [lookup, lookup, if_pos rfl, if_pos rfl] at hv
    obtain rfl := Option.some.inj hv
    congr 1
    refine entries_ext hrest hrest' fun name => ?_
    by_cases hn : k = name
    · subst hn
      rw [lookup_eq_none fun e he => (String.ne_of_lt (hk e he)).symm,
        lookup_eq_none fun e he => (String.ne_of_lt (hk' e he)).symm]
    · have := h name
      rwa [lookup, lookup, if_neg hn, if_neg hn] at this

/-! ## Tables -/

/-- The table without entries. -/
def empty : Table α := ⟨[], List.Pairwise.nil⟩

instance : Inhabited (Table α) := ⟨empty⟩

instance [BEq α] : BEq (Table α) := ⟨fun t u => t.entries == u.entries⟩

/-- The value of a name. -/
def get? (t : Table α) (name : String) : Option α := lookup name t.entries

/-- A name has a value. -/
def contains (t : Table α) (name : String) : Bool := (t.get? name).isSome

/-- Gives a name a value, in place of the one it had. -/
def insert (t : Table α) (name : String) (value : α) : Table α :=
  ⟨insertInto name value t.entries, increasing_insertInto name value t.increasing⟩

/-- Takes a name out. -/
def erase (t : Table α) (name : String) : Table α :=
  ⟨t.entries.filter fun e => e.1 != name, t.increasing.filter _⟩

/-- Applies a function to every value, which may look at the name. -/
def map (f : String → α → β) (t : Table α) : Table β :=
  ⟨t.entries.map fun e => (e.1, f e.1 e.2), List.pairwise_map.mpr t.increasing⟩

/-- The names in increasing order. -/
def names (t : Table α) : List String := t.entries.map (·.1)

/-- The values in the order of their names. -/
def values (t : Table α) : List α := t.entries.map (·.2)

/-- The table of a list of entries; of several with one name the last one counts. -/
def ofList (entries : List (String × α)) : Table α :=
  entries.foldl (fun t e => t.insert e.1 e.2) empty

/-- The names of a list, each with the value a function gives it. -/
def tabulate (names : List String) (f : String → α) : Table α :=
  (ofList (names.map (·, ()))).map fun name _ => f name

@[ext] theorem ext_get? {t u : Table α} (h : ∀ name, t.get? name = u.get? name) : t = u := by
  cases t
  cases u
  congr
  exact entries_ext ‹_› ‹_› h

@[simp] theorem get?_empty (name : String) : (empty : Table α).get? name = none := rfl

theorem get?_insert (t : Table α) (name other : String) (value : α) :
    (t.insert name value).get? other = if other = name then some value else t.get? other :=
  lookup_insertInto name other value t.entries

theorem get?_insert_self (t : Table α) (name : String) (value : α) :
    (t.insert name value).get? name = some value := by
  rw [get?_insert, if_pos rfl]

theorem get?_insert_of_ne (t : Table α) {name other : String} (value : α) (h : other ≠ name) :
    (t.insert name value).get? other = t.get? other := by
  rw [get?_insert, if_neg h]

theorem mem_entries_iff {t : Table α} {name : String} {value : α} :
    (name, value) ∈ t.entries ↔ t.get? name = some value :=
  (lookup_eq_some_iff t.increasing).symm

theorem get?_erase (t : Table α) (name other : String) :
    (t.erase name).get? other = if other = name then none else t.get? other := by
  refine Option.ext fun value => ?_
  rw [← mem_entries_iff, erase, List.mem_filter, mem_entries_iff]
  by_cases h : other = name
  · subst h
    simp only [bne_self_eq_false, Bool.false_eq_true, and_false, if_pos, reduceCtorEq]
  · simp only [bne_iff_ne, ne_eq, h, not_false_eq_true, and_true, if_neg]

theorem get?_map (f : String → α → β) (t : Table α) (name : String) :
    (t.map f).get? name = (t.get? name).map (f name) :=
  lookup_map f name t.entries

theorem map_map {γ : Type} (f : String → α → β) (g : String → β → γ) (t : Table α) :
    (t.map f).map g = t.map fun name value => g name (f name value) := by
  refine ext_get? fun name => ?_
  simp only [get?_map, Option.map_map, Function.comp_def]

/-- Of several entries with one name the last one counts. -/
theorem get?_ofList (entries : List (String × α)) (name : String) :
    (ofList entries).get? name = lookup name entries.reverse := by
  have hfold : ∀ (l : List (String × α)) (t : Table α),
      (l.foldl (fun t e => t.insert e.1 e.2) t).get? name =
        (lookup name l.reverse).or (t.get? name) := by
    intro l
    induction l with
    | nil => exact fun _ => rfl
    | cons e rest ih =>
      intro t
      rw [List.foldl_cons, ih, List.reverse_cons, lookup_append, get?_insert, Option.or_assoc]
      congr 1
      simp only [lookup, @eq_comm _ e.1]
      split <;> rfl
  rw [ofList, hfold, get?_empty, Option.or_none]

/-- A table of entries has a value from the entries for each of their names. -/
theorem exists_get?_ofList {entries : List (String × α)} {name : String}
    (h : name ∈ entries.map (·.1)) :
    ∃ value, (ofList entries).get? name = some value := by
  rw [get?_ofList]
  refine exists_lookup_of_mem ?_
  rw [List.map_reverse, List.mem_reverse]
  exact h

theorem mem_of_get?_ofList {entries : List (String × α)} {name : String} {value : α}
    (h : (ofList entries).get? name = some value) : (name, value) ∈ entries := by
  rw [get?_ofList] at h
  exact List.mem_reverse.mp (mem_of_lookup h)

/-- Where no name has two values, the table of a list of entries has just these. -/
theorem get?_ofList_eq_some_iff {entries : List (String × α)}
    (functional : ∀ name v w, (name, v) ∈ entries → (name, w) ∈ entries → v = w)
    {name : String} {value : α} :
    (ofList entries).get? name = some value ↔ (name, value) ∈ entries := by
  refine ⟨mem_of_get?_ofList, fun hmem => ?_⟩
  obtain ⟨other, hget⟩ := exists_get?_ofList (List.mem_map.mpr ⟨_, hmem, rfl⟩)
  rw [hget, functional name other value (mem_of_get?_ofList hget) hmem]

theorem get?_tabulate (names : List String) (f : String → α) (name : String) :
    (tabulate names f).get? name = if name ∈ names then some (f name) else none := by
  rw [tabulate, get?_map]
  split
  · next h =>
    have hmem : name ∈ (names.map (·, ())).map (·.1) := by
      rw [List.map_map]
      exact List.mem_map.mpr ⟨name, h, rfl⟩
    obtain ⟨_, hsome⟩ := exists_get?_ofList hmem
    rw [hsome]
    rfl
  · next h =>
    cases hget : (ofList (names.map (·, ()))).get? name with
    | none => rfl
    | some value =>
      obtain ⟨other, hother, heq⟩ := List.mem_map.mp (mem_of_get?_ofList hget)
      cases heq
      exact absurd hother h

/-- Only which names there are, and what they are given, counts. -/
theorem tabulate_congr {names others : List String} {f g : String → α}
    (same : ∀ name, name ∈ names ↔ name ∈ others) (values : ∀ name ∈ names, f name = g name) :
    tabulate names f = tabulate others g := by
  refine ext_get? fun name => ?_
  rw [get?_tabulate, get?_tabulate]
  by_cases h : name ∈ names
  · rw [if_pos h, if_pos ((same name).mp h), values name h]
  · rw [if_neg h, if_neg fun hother => h ((same name).mpr hother)]

/-- Putting in the value that is there changes nothing. -/
theorem insert_of_get? {t : Table α} {name : String} {value : α} (h : t.get? name = some value) :
    t.insert name value = t := by
  refine ext_get? fun other => ?_
  rw [get?_insert]
  split
  · next heq => rw [heq, h]
  · rfl

/-- Only the last value that is put in under a name counts. -/
theorem insert_insert (t : Table α) (name : String) (first second : α) :
    (t.insert name first).insert name second = t.insert name second := by
  refine ext_get? fun other => ?_
  rw [get?_insert, get?_insert, get?_insert]
  split <;> rfl

/-- Entries under different names can be put in in either order. -/
theorem insert_comm (t : Table α) {name other : String} (h : name ≠ other) (value another : α) :
    (t.insert name value).insert other another = (t.insert other another).insert name value := by
  refine ext_get? fun query => ?_
  simp only [get?_insert]
  by_cases hname : query = name
  · simp [hname, h]
  · simp [hname]

/-- Taking out an entry and putting it in again changes nothing. -/
theorem insert_erase_of_get? {t : Table α} {name : String} {value : α}
    (h : t.get? name = some value) : (t.erase name).insert name value = t := by
  refine ext_get? fun other => ?_
  rw [get?_insert, get?_erase]
  split
  · next heq => rw [heq, h]
  · rfl

/-- Taking out a name that has no value changes nothing. -/
theorem erase_of_get? {t : Table α} {name : String} (h : t.get? name = none) :
    t.erase name = t := by
  refine ext_get? fun other => ?_
  rw [get?_erase]
  split
  · next heq => rw [heq, h]
  · rfl

/-- Entries can be looked up in any order of a table's entries. -/
theorem lookup_of_perm {t : Table α} {listed : List (String × α)} (perm : listed.Perm t.entries)
    {name : String} : lookup name listed = t.get? name := by
  refine Option.ext fun value => ?_
  rw [← mem_entries_iff, ← perm.mem_iff]
  refine ⟨mem_of_lookup, fun hmem => ?_⟩
  obtain ⟨other, hother⟩ := exists_lookup_of_mem (List.mem_map.mpr ⟨_, hmem, rfl⟩)
  have hsame : some value = some other := by
    rw [← mem_entries_iff.mp (perm.mem_iff.mp hmem),
      ← mem_entries_iff.mp (perm.mem_iff.mp (mem_of_lookup hother))]
  rw [hother, hsame]

/-- Filling a table with the changed entries of another one, in any order, changes that one. -/
theorem ofList_map_of_perm {t : Table α} {listed : List (String × α)}
    (perm : listed.Perm t.entries) (f : String → α → β) :
    ofList (listed.map fun e => (e.1, f e.1 e.2)) = t.map f := by
  have hmem : ∀ name v, (name, v) ∈ (listed.map fun e => (e.1, f e.1 e.2)) ↔
      (t.map f).get? name = some v := by
    intro name v
    rw [← mem_entries_iff]
    exact (perm.map _).mem_iff
  have functional : ∀ name v w, (name, v) ∈ (listed.map fun e => (e.1, f e.1 e.2)) →
      (name, w) ∈ (listed.map fun e => (e.1, f e.1 e.2)) → v = w := by
    intro name v w hv hw
    exact Option.some.inj (((hmem name v).mp hv).symm.trans ((hmem name w).mp hw))
  refine ext_get? fun name => Option.ext fun v => ?_
  rw [get?_ofList_eq_some_iff functional, hmem]

/-- A table is filled again from its entries. -/
theorem ofList_entries (t : Table α) : ofList t.entries = t := by
  have h := ofList_map_of_perm (List.Perm.refl t.entries) fun _ value => value
  have hentries : (t.entries.map fun e => (e.1, e.2)) = t.entries := List.map_id _
  have hmap : (t.map fun _ value => value) = t := by
    refine ext_get? fun name => ?_
    rw [get?_map, Option.map_id']
  rwa [hentries, hmap] at h

/-- The names come in strictly increasing order. -/
theorem names_increasing (t : Table α) : t.names.Pairwise (· < ·) :=
  List.pairwise_map.mpr t.increasing

theorem nodup_names (t : Table α) : t.names.Nodup :=
  t.names_increasing.imp String.ne_of_lt

/-- Applying a function to the values keeps the names. -/
theorem names_map (f : String → α → β) (t : Table α) : (t.map f).names = t.names := by
  simp [names, map]

theorem values_map (f : α → β) (t : Table α) : (t.map fun _ => f).values = t.values.map f := by
  rw [values, values, map, List.map_map, List.map_map]
  rfl

theorem mem_names_iff {t : Table α} {name : String} :
    name ∈ t.names ↔ ∃ value, t.get? name = some value := by
  rw [names, List.mem_map]
  constructor
  · rintro ⟨⟨k, value⟩, hmem, rfl⟩
    exact ⟨value, mem_entries_iff.mp hmem⟩
  · rintro ⟨value, h⟩
    exact ⟨(name, value), mem_entries_iff.mpr h, rfl⟩

theorem mem_values_iff {t : Table α} {value : α} :
    value ∈ t.values ↔ ∃ name, t.get? name = some value := by
  rw [values, List.mem_map]
  constructor
  · rintro ⟨⟨name, v⟩, hmem, rfl⟩
    exact ⟨name, mem_entries_iff.mp hmem⟩
  · rintro ⟨name, h⟩
    exact ⟨(name, value), mem_entries_iff.mpr h, rfl⟩

theorem mem_names_tabulate {names : List String} {f : String → α} {name : String} :
    name ∈ (tabulate names f).names ↔ name ∈ names := by
  rw [mem_names_iff, get?_tabulate]
  constructor
  · rintro ⟨value, h⟩
    split at h
    · assumption
    · cases h
  · intro h
    exact ⟨f name, if_pos h⟩

theorem values_tabulate (names : List String) (f : String → α) :
    (tabulate names f).values = (tabulate names f).names.map f := by
  simp only [tabulate, values, Table.names, map, List.map_map, Function.comp_def]

/-! ## What holds of all entries -/

/-- Every entry has a property, which may look at the name. -/
def All (P : String → α → Prop) (t : Table α) : Prop :=
  ∀ ⦃name value⦄, t.get? name = some value → P name value

variable {P : String → α → Prop} {t : Table α} {name : String} {value : α}

theorem all_empty : (empty : Table α).All P :=
  fun _ _ hget => nomatch hget

theorem All.insert (all : t.All P) (h : P name value) : (t.insert name value).All P := by
  intro other v hget
  rw [get?_insert] at hget
  split at hget
  · next heq =>
    cases hget
    rw [heq]
    exact h
  · exact all hget

theorem All.erase (all : t.All P) (name : String) : (t.erase name).All P := by
  intro other v hget
  rw [get?_erase] at hget
  split at hget
  · cases hget
  · exact all hget

theorem All.map {Q : String → β → Prop} {f : String → α → β} (all : t.All P)
    (h : ∀ name value, P name value → Q name (f name value)) : (t.map f).All Q := by
  intro name v hget
  rw [get?_map] at hget
  obtain ⟨value, hvalue, rfl⟩ := Option.map_eq_some_iff.mp hget
  exact h name value (all hvalue)

theorem all_ofList {entries : List (String × α)} (h : ∀ e ∈ entries, P e.1 e.2) :
    (ofList entries).All P :=
  fun _ _ hget => h _ (mem_of_get?_ofList hget)

end Table

end FeatureTrials
