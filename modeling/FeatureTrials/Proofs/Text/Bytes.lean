import Mathlib.Data.List.Nodup
import Mathlib.Tactic.SplitIfs

/-!
# The order of texts is the order of their bytes

Texts are compared character by character. In UTF-8 a smaller character has the smaller bytes, and
no character is the beginning of another one, so comparing the bytes comes to the same
(`Text.bytes_lt_iff`). What is sorted by the bytes of a key therefore comes in the order in which
tables list it, whatever the order was before (`Text.mergeSort_eq_of_ascending`).
-/

namespace FeatureTrials.Text

/-- The bytes of a text in UTF-8. -/
def bytes (s : String) : List UInt8 := s.toUTF8.data.toList

theorem bytes_eq_flatMap (s : String) : bytes s = s.toList.flatMap String.utf8EncodeChar := by
  rw [bytes, String.toUTF8_eq_toByteArray]
  conv => lhs; rw [← String.ofList_toList (s := s)]
  rw [String.toByteArray_ofList]
  simp [List.utf8Encode]

/-- Of two characters the smaller one has the smaller bytes, whatever comes behind. -/
theorem utf8EncodeChar_lt {c d : Char} (h : c < d) (s t : List UInt8) :
    String.utf8EncodeChar c ++ s < String.utf8EncodeChar d ++ t := by
  have hlt : c.val.toNat < d.val.toNat := h
  have hd : d.val.toNat < 0x110000 := by
    have hvalid := d.valid
    simp only [UInt32.isValidChar, Nat.isValidChar] at hvalid
    omega
  simp only [String.utf8EncodeChar]
  generalize c.val.toNat = v at hlt
  generalize d.val.toNat = w at hlt hd
  -- one case for every pair of lengths; a longer encoding begins with a larger byte
  split_ifs <;>
    simp (disch := omega) only [List.cons_append, List.nil_append, List.cons_lt_cons_iff,
      UInt8.lt_iff_toNat_lt, ← UInt8.toNat_inj, UInt8.toNat_ofNat', Nat.mod_eq_of_lt,
      Nat.reducePow, Nat.add_lt_add_iff_right, Nat.add_right_cancel_iff] <;>
    omega

theorem flatMap_utf8EncodeChar_lt {l m : List Char} (h : l < m) :
    l.flatMap String.utf8EncodeChar < m.flatMap String.utf8EncodeChar := by
  induction l generalizing m with
  | nil =>
    cases m with
    | nil => exact absurd h (List.lt_irrefl [])
    | cons d m =>
      obtain ⟨b, rest, hbytes⟩ := List.exists_cons_of_ne_nil (String.utf8EncodeChar_ne_nil (c := d))
      simp [hbytes]
  | cons c l ih =>
    cases m with
    | nil => cases h
    | cons d m =>
      rw [List.flatMap_cons, List.flatMap_cons]
      rcases List.cons_lt_cons_iff.mp h with hlt | ⟨rfl, hlt⟩
      · exact utf8EncodeChar_lt hlt _ _
      · exact List.append_left_lt (ih hlt)

theorem bytes_lt_of_lt {a b : String} (h : a < b) : bytes a < bytes b := by
  rw [bytes_eq_flatMap, bytes_eq_flatMap]
  have hlist : a.toList < b.toList := h
  exact flatMap_utf8EncodeChar_lt hlist

/-- Texts are ordered as their bytes are. -/
theorem bytes_lt_iff {a b : String} : bytes a < bytes b ↔ a < b := by
  refine ⟨fun h => String.not_le.mp fun hle => ?_, bytes_lt_of_lt⟩
  -- otherwise the bytes are the same, or the other way round
  by_cases heq : a = b
  · rw [heq] at h
    exact List.lt_irrefl _ h
  · have hlt : b < a := String.not_le.mp fun hge => heq (String.le_antisymm hge hle)
    exact List.lt_asymm h (bytes_lt_of_lt hlt)

theorem bytes_le_iff {a b : String} : bytes a ≤ bytes b ↔ a ≤ b := by
  rw [← List.not_lt, bytes_lt_iff, String.not_lt]

/-! ## Sorting -/

variable {α : Type} (key : α → String) {items ascending : List α}

/-- Sorting by an order that begins with the keys leads to the one list in which they ascend. -/
theorem mergeSort_eq_of_key {le : α → α → Bool}
    (trans : ∀ a b c, le a b = true → le b c = true → le a c = true)
    (total : ∀ a b, (le a b || le b a) = true) (keyed : ∀ a b, le a b = true → key a ≤ key b)
    (perm : items.Perm ascending) (h : ascending.Pairwise fun a b => key a < key b) :
    items.mergeSort le = ascending := by
  have hsorted := List.pairwise_mergeSort trans total items
  have hascending : ascending.Pairwise fun a b => le a b = true := by
    refine h.imp fun {a b} hlt => ?_
    rcases Bool.or_eq_true_iff.mp (total a b) with hle | hge
    · exact hle
    · exact absurd hlt (String.not_lt.mpr (keyed b a hge))
  have hperm := (List.mergeSort_perm items le).trans perm
  refine hperm.eq_of_pairwise ?_ hsorted hascending
  -- what cannot be told apart by its key is the same, for no key occurs twice
  intro a b ha hb hab hba
  have hnodup : (ascending.map key).Nodup := (List.pairwise_map.mpr h).imp String.ne_of_lt
  exact List.inj_on_of_nodup_map hnodup (hperm.mem_iff.mp ha) hb
    (String.le_antisymm (keyed a b hab) (keyed b a hba))

/-- Sorting by the bytes of the keys leads to the one list in which the keys ascend. -/
theorem mergeSort_eq_of_ascending (perm : items.Perm ascending)
    (h : ascending.Pairwise fun a b => key a < key b) :
    (items.mergeSort fun a b => bytes (key a) ≤ bytes (key b)) = ascending := by
  refine mergeSort_eq_of_key key ?_ ?_ ?_ perm h
  · intro a b c hab hbc
    simp only [decide_eq_true_eq, bytes_le_iff] at hab hbc ⊢
    exact String.le_trans hab hbc
  · intro a b
    simp only [Bool.or_eq_true, decide_eq_true_eq, bytes_le_iff]
    exact String.le_total (key a) (key b)
  · intro a b hab
    exact bytes_le_iff.mp (of_decide_eq_true hab)

/-- Sorting pairs by the bytes of the first text, and then of the second one, leads to the one list
in which the first ones ascend. -/
theorem mergeSort_pairs_eq_of_ascending {items ascending : List (String × String)}
    (perm : items.Perm ascending) (h : ascending.Pairwise fun a b => a.1 < b.1) :
    (items.mergeSort fun a b =>
      bytes a.1 < bytes b.1 ∨ a.1 = b.1 ∧ bytes a.2 ≤ bytes b.2) = ascending := by
  refine mergeSort_eq_of_key (fun a : String × String => a.1) ?_ ?_ ?_ perm h
  · rintro ⟨a, a'⟩ ⟨b, b'⟩ ⟨c, c'⟩ hab hbc
    simp only [decide_eq_true_eq, bytes_lt_iff, bytes_le_iff] at hab hbc ⊢
    rcases hab with hab | ⟨rfl, hab⟩
    · rcases hbc with hbc | ⟨rfl, -⟩
      · exact .inl (String.lt_trans hab hbc)
      · exact .inl hab
    · rcases hbc with hbc | ⟨rfl, hbc⟩
      · exact .inl hbc
      · exact .inr ⟨rfl, String.le_trans hab hbc⟩
  · rintro ⟨a, a'⟩ ⟨b, b'⟩
    simp only [Bool.or_eq_true, decide_eq_true_eq, bytes_lt_iff, bytes_le_iff]
    by_cases heq : a = b
    · subst heq
      rcases String.le_total a' b' with hle | hle
      · exact .inl (.inr ⟨rfl, hle⟩)
      · exact .inr (.inr ⟨rfl, hle⟩)
    · rcases String.le_total a b with hle | hle
      · exact .inl (.inl (String.not_le.mp fun hge => heq (String.le_antisymm hle hge)))
      · exact .inr (.inl (String.not_le.mp fun hge => heq (String.le_antisymm hge hle)))
  · rintro ⟨a, a'⟩ ⟨b, b'⟩ hab
    simp only [decide_eq_true_eq, bytes_lt_iff] at hab
    rcases hab with hab | ⟨rfl, -⟩
    · exact String.not_lt.mp (String.lt_asymm hab)
    · exact String.le_refl _

end FeatureTrials.Text
