import FeatureTrials.Proofs.Analytics.Samples
import Mathlib

/-!
# Counting by a key

Counting the elements of a list by a key and adding up the counts of all keys that occur gives the
length of the list (`sum_map_countP`). It is what makes the reports agree: they count the same
events by different keys.
-/

namespace FeatureTrials

/-- The counts of different keys add up to the number of elements, when every element has one of the
keys. -/
theorem sum_map_countP {α γ : Type} [DecidableEq γ] {keys : List γ} (nodup : keys.Nodup)
    {key : α → γ} {l : List α} (covered : ∀ a ∈ l, key a ∈ keys) :
    (keys.map fun k => l.countP (key · = k)).sum = l.length := by
  have hcount : ∀ k, l.countP (key · = k) = (l.map key : Multiset γ).count k := by
    intro k
    rw [Multiset.coe_count, List.count, List.countP_map]
    rfl
  have hcovered : ∀ k ∈ (l.map key : Multiset γ), k ∈ keys.toFinset := by
    intro k hk
    obtain ⟨a, ha, rfl⟩ := List.mem_map.mp (Multiset.mem_coe.mp hk)
    exact List.mem_toFinset.mpr (covered a ha)
  calc (keys.map fun k => l.countP (key · = k)).sum
      = (keys.map fun k => (l.map key : Multiset γ).count k).sum := by simp only [hcount]
    _ = ∑ k ∈ keys.toFinset, (l.map key : Multiset γ).count k :=
        (List.sum_toFinset _ nodup).symm
    _ = (l.map key : Multiset γ).card := Multiset.sum_count_eq_card hcovered
    _ = l.length := by rw [Multiset.coe_card, List.length_map]

/-- The counts of different keys are not more than there are elements. -/
theorem sum_map_countP_le {α γ : Type} [DecidableEq γ] {keys : List γ} (nodup : keys.Nodup)
    (key : α → γ) (l : List α) : (keys.map fun k => l.countP (key · = k)).sum ≤ l.length := by
  have hfilter : ∀ k ∈ keys, l.countP (key · = k) =
      (l.filter (key · ∈ keys)).countP (key · = k) := by
    intro k hk
    rw [List.countP_filter]
    refine List.countP_congr fun a _ => ?_
    simp only [decide_eq_true_eq, Bool.and_eq_true]
    exact ⟨fun heq => ⟨heq, heq ▸ hk⟩, And.left⟩
  calc (keys.map fun k => l.countP (key · = k)).sum
      = (keys.map fun k => (l.filter (key · ∈ keys)).countP (key · = k)).sum :=
        congrArg List.sum (List.map_congr_left hfilter)
    _ = (l.filter (key · ∈ keys)).length :=
        sum_map_countP nodup fun a ha => of_decide_eq_true (List.mem_filter.mp ha).2
    _ ≤ l.length := List.length_filter_le _ _

section

variable {α : Type} {name : α → String} {l : List α}

/-- A table that counts by name adds up to the number of elements. -/
theorem sum_values_countBy : (countBy name l).values.sum = l.length := by
  rw [countBy, Table.values_tabulate]
  simp only [beq_eq_decide]
  exact sum_map_countP (Table.nodup_names _) fun a ha =>
    Table.mem_names_tabulate.mpr (List.mem_map_of_mem ha)

/-- A name that is not in a table of counts occurs nowhere. -/
theorem getD_get?_countBy (n : String) :
    ((countBy name l).get? n).getD 0 = l.countP (name · == n) := by
  rw [countBy, Table.get?_tabulate]
  split
  · rfl
  · next h =>
    refine (List.countP_eq_zero.mpr fun a ha heq => h ?_).symm
    exact List.mem_map.mpr ⟨a, ha, beq_iff_eq.mp heq⟩

end

theorem distinctCount_le (names : List String) : distinctCount names ≤ names.length := by
  rw [distinctCount, size_ofList_eq_card]
  exact List.toFinset_card_le names

end FeatureTrials
