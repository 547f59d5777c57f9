/-!
# Finding one text inside another

The three ways a text can hold another one, on lists of characters: at its start, at its end, or
anywhere. `contains_iff` says what they mean in terms of concatenation.
-/

namespace FeatureTrials.Text

variable {α : Type} [BEq α]

/-- A list holds another one as a block of neighbours. -/
def contains (s t : List α) : Bool :=
  t.isPrefixOf s || match s with
    | [] => false
    | _ :: rest => contains rest t

/-- A list begins with another one. -/
def startsWith (s t : List α) : Bool := t.isPrefixOf s

/-- A list ends with another one. -/
def endsWith (s t : List α) : Bool := t.isSuffixOf s

variable [LawfulBEq α]

theorem startsWith_iff {s t : List α} : startsWith s t = true ↔ ∃ r, s = t ++ r := by
  rw [startsWith, List.isPrefixOf_iff_prefix]
  constructor
  · rintro ⟨r, rfl⟩
    exact ⟨r, rfl⟩
  · rintro ⟨r, rfl⟩
    exact ⟨r, rfl⟩

theorem endsWith_iff {s t : List α} : endsWith s t = true ↔ ∃ r, s = r ++ t := by
  rw [endsWith, List.isSuffixOf_iff_suffix]
  constructor
  · rintro ⟨r, rfl⟩
    exact ⟨r, rfl⟩
  · rintro ⟨r, rfl⟩
    exact ⟨r, rfl⟩

theorem contains_iff {s t : List α} : contains s t = true ↔ ∃ l r, s = l ++ t ++ r := by
  induction s with
  | nil =>
    rw [contains]
    constructor
    · intro h
      obtain ⟨r, hr⟩ := startsWith_iff.mp (by rwa [Bool.or_false] at h)
      exact ⟨[], r, by simpa using hr⟩
    · rintro ⟨l, r, h⟩
      obtain ⟨hlt, rfl⟩ := List.append_eq_nil_iff.mp h.symm
      obtain ⟨rfl, rfl⟩ := List.append_eq_nil_iff.mp hlt
      rfl
  | cons c rest ih =>
    rw [contains, Bool.or_eq_true, ih]
    constructor
    · rintro (h | ⟨l, r, h⟩)
      · obtain ⟨r, hr⟩ := startsWith_iff.mp h
        exact ⟨[], r, by simpa using hr⟩
      · exact ⟨c :: l, r, by rw [h]; rfl⟩
    · rintro ⟨l, r, h⟩
      cases l with
      | nil => exact .inl (startsWith_iff.mpr ⟨r, by simpa using h⟩)
      | cons d l =>
        obtain ⟨-, hrest⟩ := List.cons.inj h
        exact .inr ⟨l, r, hrest⟩

end FeatureTrials.Text
