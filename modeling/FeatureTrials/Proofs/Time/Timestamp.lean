import Mathlib
import FeatureTrials.Proofs.Time.Calendar
import FeatureTrials.Proofs.Time.Order
import FeatureTrials.Time.Timestamp

/-!
# Timestamps are read as the instants they were written for

The reader takes as many digits as it may, so what the writer puts behind a number matters: a number
that is shorter than the reader would take is followed by a character that is no digit
(`takeNat_append`). From there the timestamp is read part by part, in the order in which it is
written.

* `Spells` — digits that stand for a number.
* `ofText?_text` — the timestamp of an instant is read as that instant, leap seconds included.
-/

namespace FeatureTrials.Instant

/-! ## Numbers -/

/-- Digits that stand for a number. -/
structure Spells (digits : List Char) (n : Nat) : Prop where
  isDigit : ∀ c ∈ digits, c.isDigit = true
  nonempty : digits ≠ []
  value : Decimal.ofDigits digits = n

theorem spells_padded (width n : Nat) : Spells (padded width n) n where
  isDigit := by
    intro c hc
    rcases List.mem_append.mp hc with hc | hc
    · rw [List.eq_of_mem_replicate hc]
      rfl
    · exact Nat.isDigit_of_mem_toDigits (by decide) (by decide) hc
  nonempty := by
    intro hnil
    exact Nat.toDigits_ne_nil (List.append_eq_nil_iff.mp hnil).2
  value := by
    change Nat.ofDigitChars 10 (padded width n) 0 = n
    rw [padded, Nat.ofDigitChars_append, Nat.ofDigitChars_replicate_zero, Nat.mul_zero,
      Nat.ofDigitChars_ten_toDigits]

theorem length_padded {width n : Nat} (positive : 0 < width) (h : n < 10 ^ width) :
    (padded width n).length = width := by
  have hlength := (Nat.length_toDigits_le_iff (by decide) positive).mpr h
  rw [padded, List.length_append, List.length_replicate]
  omega

/-- A text in front of which all digits have been taken. -/
abbrev EndsNumber (rest : List Char) : Prop := rest.takeWhile Char.isDigit = []

theorem takeWhile_take_eq_nil {rest : List Char} (h : EndsNumber rest) (n : Nat) :
    (rest.take n).takeWhile Char.isDigit = [] := by
  cases n with
  | zero => rfl
  | succ n =>
    cases rest with
    | nil => rfl
    | cons c rest =>
      by_cases hc : c.isDigit = true
      · rw [EndsNumber, List.takeWhile_cons_of_pos hc] at h
        cases h
      · rw [List.take_succ_cons, List.takeWhile_cons_of_neg hc]

namespace Spells

variable {digits rest : List Char} {n : Nat}

/-- A number is taken when it has all the digits that would be, or is followed by no digit. -/
theorem takeNat_append {width : Nat} (spells : Spells digits n) (hwidth : digits.length ≤ width)
    (hend : digits.length = width ∨ EndsNumber rest) :
    takeNat width (digits ++ rest) = some (n, rest) := by
  have hrest : (rest.take (width - digits.length)).takeWhile Char.isDigit = [] := by
    rcases hend with rfl | hend
    · rw [Nat.sub_self]
      rfl
    · exact takeWhile_take_eq_nil hend _
  have htaken : ((digits ++ rest).take width).takeWhile Char.isDigit = digits := by
    rw [List.take_append, List.take_of_length_le hwidth,
      List.takeWhile_append_of_pos spells.isDigit, hrest, List.append_nil]
  have hnonempty : ¬ digits.isEmpty = true := by
    rw [List.isEmpty_iff]
    exact spells.nonempty
  rw [takeNat, htaken, if_neg hnonempty, spells.value, List.drop_left]

/-- A number does not begin with a blank, nor with anything else that is no digit. -/
theorem exists_cons (spells : Spells digits n) :
    ∃ c tail, digits = c :: tail ∧ c.isDigit = true := by
  cases digits with
  | nil => exact absurd rfl spells.nonempty
  | cons c tail => exact ⟨c, tail, rfl, spells.isDigit c List.mem_cons_self⟩

theorem trimStart_append (spells : Spells digits n) :
    Text.trimStart (digits ++ rest) = digits ++ rest := by
  obtain ⟨c, tail, rfl, hc⟩ := spells.exists_cons
  have hblank : ¬ Text.isBlank c = true := by
    obtain ⟨hlow, hhigh⟩ : 48 ≤ c.toNat ∧ c.toNat ≤ 57 := Char.isDigit_iff_toNat.mp hc
    intro hblank
    simp [Text.isBlank, Text.blankRanges] at hblank
    omega
  exact List.dropWhile_cons_of_neg hblank

end Spells

theorem takePart_padded {n : Nat} {rest : List Char} (h : n < 100) :
    takePart 2 (padded 2 n ++ rest) = some (n, rest) := by
  have hspells := spells_padded 2 n
  have hlength : (padded 2 n).length = 2 := length_padded (by decide) h
  rw [takePart, hspells.trimStart_append]
  exact hspells.takeNat_append hlength.le (.inl hlength)

/-! ## Dates -/

theorem takeYear_minus (cs : List Char) :
    takeYear ('-' :: cs) = (takeNat cs.length cs).map fun (n, rest) => (-(n : Int), rest) := rfl

theorem takeYear_plus (cs : List Char) :
    takeYear ('+' :: cs) = (takeNat cs.length cs).map fun (n, rest) => ((n : Int), rest) := rfl

theorem takeYear_yearText (year : Int) {rest : List Char} (hrest : EndsNumber rest) :
    takeYear (yearText year ++ rest) = some (year, rest) := by
  rw [yearText]
  split
  · next hshort =>
    have hspells := spells_padded 4 year.toNat
    have hlength : (padded 4 year.toNat).length = 4 := length_padded (by decide) (by omega)
    have hyear : takeNat 4 (padded 4 year.toNat ++ rest) = some (year.toNat, rest) :=
      hspells.takeNat_append hlength.le (.inl hlength)
    -- a digit is no sign, so the year is read as one of up to four digits
    obtain ⟨c, tail, heq, hc⟩ := hspells.exists_cons
    rw [takeYear, hspells.trimStart_append]
    split
    · next hsign =>
      rw [heq, List.cons_append] at hsign
      cases hsign
      cases hc
    · next hsign =>
      rw [heq, List.cons_append] at hsign
      cases hsign
      cases hc
    · rw [hyear, Option.map_some]
      exact congrArg (fun y => some (y, rest)) (Int.toNat_of_nonneg hshort.1)
  · have hspells := spells_padded 4 year.natAbs
    have hyear : takeNat (padded 4 year.natAbs ++ rest).length (padded 4 year.natAbs ++ rest) =
        some (year.natAbs, rest) :=
      hspells.takeNat_append (by rw [List.length_append]; omega) (.inr hrest)
    by_cases hneg : year < 0
    · rw [if_pos hneg, List.cons_append, takeYear_minus, hyear, Option.map_some]
      exact congrArg (fun y => some (y, rest)) (by omega : -(year.natAbs : Int) = year)
    · rw [if_neg hneg, List.cons_append, takeYear_plus, hyear, Option.map_some]
      exact congrArg (fun y => some (y, rest)) (by omega : (year.natAbs : Int) = year)

theorem takeDate_dateText (t : Instant) (rest : List Char) :
    takeDate (t.dateText ++ rest) = some (Date.ofDays t.days, rest) := by
  have hmonth := Date.month_ofDays t.days
  have hday := Date.day_ofDays t.days
  rw [dateText]
  generalize Date.ofDays t.days = date at hmonth hday
  obtain ⟨year, month, day⟩ := date
  dsimp only at *
  have hmonth' : ((month.toNat : Nat) : Int) = month := Int.toNat_of_nonneg (by omega)
  have hday' : ((day.toNat : Nat) : Int) = day := Int.toNat_of_nonneg (by omega)
  have hmark : ∀ cs, takeMark '-' (Text.trimStart ('-' :: cs)) = some cs := fun _ => rfl
  simp only [List.append_assoc, List.cons_append]
  rw [takeDate, takeYear_yearText year rfl]
  simp only [Option.bind_eq_bind, Option.bind_some, hmark]
  rw [takePart_padded (by omega)]
  simp only [Option.bind_some, hmark]
  rw [takePart_padded (by omega)]
  simp only [Option.bind_some, hmonth', hday']

/-! ## Times of day -/

theorem takeFraction_append {digits rest : List Char} {n : Nat} (spells : Spells digits n)
    (hlength : digits.length ≤ 9) (hrest : EndsNumber rest) :
    takeFraction ('.' :: (digits ++ rest)) = some (n * 10 ^ (9 - digits.length), rest) := by
  have htaken : (digits ++ rest).takeWhile Char.isDigit = digits := by
    rw [List.takeWhile_append_of_pos spells.isDigit, hrest, List.append_nil]
  have hdropped : (digits ++ rest).dropWhile Char.isDigit = rest := by
    rw [List.dropWhile_append_of_pos spells.isDigit]
    exact List.dropWhile_eq_self_iff.mpr (List.takeWhile_eq_nil_iff.mp hrest)
  have hnonempty : ¬ digits.isEmpty = true := by
    rw [List.isEmpty_iff]
    exact spells.nonempty
  simp only [takeFraction, htaken, hdropped, List.take_of_length_le hlength, if_neg hnonempty,
    spells.value, Nat.pow_eq]

/-- Zeros at the end of a fraction are left out in groups of three. -/
theorem takeFraction_fractionText {nanos : Nat} (h : nanos < 1000000000) (rest : List Char) :
    takeFraction (fractionText nanos ++ 'Z' :: rest) = some (nanos, 'Z' :: rest) := by
  -- the reader makes up for the digits that are missing to nine
  have hgroup : ∀ width n, 0 < width → width ≤ 9 → n < 10 ^ width →
      takeFraction ('.' :: padded width n ++ 'Z' :: rest) =
        some (n * 10 ^ (9 - width), 'Z' :: rest) := by
    intro width n hpos hwidth hn
    have hlength := length_padded hpos hn
    have hfraction : takeFraction ('.' :: (padded width n ++ 'Z' :: rest)) =
        some (n * 10 ^ (9 - (padded width n).length), 'Z' :: rest) :=
      takeFraction_append (spells_padded width n) (by omega) rfl
    rw [hlength] at hfraction
    exact hfraction
  rw [fractionText]
  split
  · next hzero =>
    rw [hzero]
    rfl
  · split
    · rw [hgroup 3 _ (by decide) (by decide) (by omega)]
      congr 2
      omega
    · split
      · rw [hgroup 6 _ (by decide) (by decide) (by omega)]
        congr 2
        omega
      · rw [hgroup 9 _ (by decide) (by decide) h]
        exact congrArg (fun n => some (n, 'Z' :: rest)) (Nat.mul_one nanos)

/-- A leap second is read as the second half of the second before it. -/
theorem takeTime_timeText (t : Instant) (rest : List Char) :
    takeTime (t.timeText ++ 'Z' :: rest) = some ((t.secondOfDay, t.nanos), 'Z' :: rest) := by
  have hday : t.secondOfDay < 86400 := by
    simp only [secondOfDay]
    omega
  -- days begin with a minute, so a leap second ends a minute of the day
  have hnanos : t.nanos < 1000000000 ∨ t.secondOfDay % 60 = 59 ∧ t.nanos < 2000000000 := by
    have := t.nanos_lt
    simp only [secondOfDay]
    omega
  have hmark : ∀ cs, takeMark ':' (Text.trimStart (':' :: cs)) = some cs := fun _ => rfl
  rw [timeText]
  generalize t.secondOfDay = second at hday hnanos
  generalize t.nanos = nanos at hnanos
  simp only [List.append_assoc, List.cons_append]
  rw [takeTime, takePart_padded (by omega)]
  simp only [Option.bind_eq_bind, Option.bind_some, hmark]
  rw [takePart_padded (by omega)]
  simp only [Option.bind_some, hmark]
  rw [takePart_padded (by omega)]
  simp only [Option.bind_some]
  rw [takeFraction_fractionText (by omega)]
  simp only [Option.bind_some]
  rw [if_pos (by omega)]
  congr 3
  · omega
  · omega

/-! ## Timestamps -/

theorem ofSecond?_second (t : Instant) : ofSecond? t.second t.nanos = some t :=
  dif_pos t.nanos_lt

/-- The timestamp of an instant is read as that instant. -/
theorem ofText?_text {t : Instant} (told : t.told? = some t) : ofText? t.text = some t := by
  have hsecond : t.days * 86400 + t.secondOfDay - 0 = t.second := by
    simp only [days, secondOfDay]
    omega
  have hoffset : takeOffset ['Z'] = some (0, []) := rfl
  have hend : (Text.trimStart []).isEmpty = true := rfl
  rw [ofText?, text, String.toList_ofList]
  simp only [List.append_assoc, List.cons_append]
  rw [takeDate_dateText]
  simp only [Option.bind_eq_bind, Option.bind_some]
  rw [takeTime_timeText]
  simp only [Option.bind_some, hoffset, hend, Date.exists?_ofDays, Bool.and_self, if_true,
    Date.toDays_ofDays, hsecond, ofSecond?_second, told]

/-- Only instants that can be told are read. -/
theorem told_of_ofText? {s : String} {t : Instant} (h : ofText? s = some t) :
    t.told? = some t := by
  rw [ofText?] at h
  obtain ⟨⟨date, afterDate⟩, -, h⟩ := Option.bind_eq_some_iff.mp h
  dsimp only at h
  -- whichever mark stands before the time, the rest is read in one way
  split at h
  case h_4 => cases h
  all_goals
    obtain ⟨_, -, h⟩ := Option.bind_eq_some_iff.mp h
    obtain ⟨⟨⟨second, nanos⟩, afterTime⟩, -, h⟩ := Option.bind_eq_some_iff.mp h
    obtain ⟨⟨offset, afterOffset⟩, -, h⟩ := Option.bind_eq_some_iff.mp h
    obtain ⟨-, h⟩ := Option.ite_none_right_eq_some.mp h
    obtain ⟨t', -, h⟩ := Option.bind_eq_some_iff.mp h
    exact (told?_eq_some_iff.mp h).2

end FeatureTrials.Instant
