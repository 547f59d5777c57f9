import FeatureTrials.Proofs.Decimal.Order
import FeatureTrials.Proofs.Rule.Operators

/-!
# Loose equality

Two attribute values are loosely equal if they are equal, or scalars with the same text. This is an
equivalence because equal scalars have the same text already: numbers are equal if they are the
same, or the two zeros, which are both written `0`. So scalars are classified by their texts, and
lists element by element, where NaN is unequal to itself and spoils reflexivity.

* `Decimal.plain_of_beq` — equal numbers are written alike.
* `AttributeValue.looselyEquals_iff` — what is compared: texts of scalars, or other values as they
  are.
* `AttributeValue.looselyEquals_laws` — the main result, also for the rules that look for an
  attribute in a list.
-/

namespace FeatureTrials

/-! ## How equal numbers are written -/

namespace Decimal

variable {x y : Float}

theorem plain_zeros : plain 0.0 = plain (-0.0) := by decide +kernel

/-- Equal numbers are written alike. -/
theorem plain_of_beq (h : (x == y) = true) : plain x = plain y := by
  rcases eq_or_zeros_of_beq h with rfl | ⟨rfl, rfl⟩ | ⟨rfl, rfl⟩
  · rfl
  · exact plain_zeros
  · exact plain_zeros.symm

end Decimal

namespace AttributeValue

variable {a b c : AttributeValue} {items others : List AttributeValue}

/-! ## Equality -/

mutual

/-- No number in the value is NaN. -/
def nanFree : AttributeValue → Bool
  | .number x => !x.isNaN
  | .list items => nanFreeItems items
  | _ => true

/-- No number in the elements is NaN. -/
def nanFreeItems : List AttributeValue → Bool
  | [] => true
  | item :: rest => nanFree item && nanFreeItems rest

end

/-- No list in the value has NaN in it. -/
def nanFreeInside (a : AttributeValue) : Bool :=
  a.isScalar || a.nanFree

mutual

theorem beq_self_eq : ∀ a : AttributeValue, (a == a) = a.nanFree
  | .text s => beq_self_eq_true s
  | .number x => Decimal.beq_self_eq x
  | .bool b => beq_self_eq_true b
  | .list items => beqItems_self_eq items
  | .null => rfl

theorem beqItems_self_eq :
    ∀ items : List AttributeValue, beqItems items items = nanFreeItems items
  | [] => rfl
  | item :: rest => congrArg₂ and (beq_self_eq item) (beqItems_self_eq rest)

end

/-! ### What equals a value -/

theorem beq_text_iff {s : String} : (text s == a) = true ↔ a = text s := by
  constructor
  · intro h
    cases a with
    | text t =>
      have htexts : (s == t) = true := h
      exact congrArg text (eq_of_beq htexts).symm
    | number | bool | list | null => cases h
  · rintro rfl
    exact beq_self_eq_true s

theorem beq_number_iff {x : Float} :
    (number x == a) = true ↔ ∃ y, a = number y ∧ (x == y) = true := by
  constructor
  · intro h
    cases a with
    | number y => exact ⟨y, rfl, h⟩
    | text | bool | list | null => cases h
  · rintro ⟨y, rfl, h⟩
    exact h

theorem beq_bool_iff {b : Bool} : (bool b == a) = true ↔ a = bool b := by
  constructor
  · intro h
    cases a with
    | bool b' =>
      have hbools : (b == b') = true := h
      exact congrArg bool (eq_of_beq hbools).symm
    | text | number | list | null => cases h
  · rintro rfl
    exact beq_self_eq_true b

theorem beq_null_iff : (null == a) = true ↔ a = null := by
  cases a with
  | null => exact iff_of_true rfl rfl
  | text | number | bool | list => exact iff_of_false Bool.false_ne_true nofun

theorem beq_list_iff :
    (list items == a) = true ↔ ∃ others, a = list others ∧ beqItems items others = true := by
  constructor
  · intro h
    cases a with
    | list others => exact ⟨others, rfl, h⟩
    | text | number | bool | null => cases h
  · rintro ⟨others, rfl, h⟩
    exact h

theorem beqItems_iff : ∀ {items others : List AttributeValue},
    beqItems items others = true ↔ List.Forall₂ (fun a b => (a == b) = true) items others
  | [], [] => iff_of_true rfl .nil
  | [], _ :: _ | _ :: _, [] => iff_of_false Bool.false_ne_true nofun
  | item :: items, other :: others => by
    rw [List.forall₂_cons, ← beqItems_iff]
    exact Bool.and_eq_true _ _ ▸ Iff.rfl

/-! ### Equality is symmetric and transitive -/

mutual

theorem beq_symm : ∀ {a b : AttributeValue}, (a == b) = true → (b == a) = true
  | .text _, _, h => by
    obtain rfl := beq_text_iff.mp h
    exact h
  | .number _, _, h => by
    obtain ⟨y, rfl, hnumbers⟩ := beq_number_iff.mp h
    exact Decimal.beq_symm hnumbers
  | .bool _, _, h => by
    obtain rfl := beq_bool_iff.mp h
    exact h
  | .list _, _, h => by
    obtain ⟨others, rfl, hitems⟩ := beq_list_iff.mp h
    exact beqItems_symm hitems
  | .null, _, h => by
    obtain rfl := beq_null_iff.mp h
    exact h

theorem beqItems_symm : ∀ {items others : List AttributeValue},
    beqItems items others = true → beqItems others items = true
  | [], [], _ => rfl
  | _ :: _, _ :: _, h => by
    rw [beqItems, Bool.and_eq_true] at h ⊢
    exact ⟨beq_symm h.1, beqItems_symm h.2⟩

end

mutual

theorem beq_trans : ∀ {a b c : AttributeValue},
    (a == b) = true → (b == c) = true → (a == c) = true
  | .text _, _, _, hab, hbc => by
    obtain rfl := beq_text_iff.mp hab
    exact hbc
  | .number _, _, _, hab, hbc => by
    obtain ⟨y, rfl, hxy⟩ := beq_number_iff.mp hab
    obtain ⟨z, rfl, hyz⟩ := beq_number_iff.mp hbc
    exact Decimal.beq_trans hxy hyz
  | .bool _, _, _, hab, hbc => by
    obtain rfl := beq_bool_iff.mp hab
    exact hbc
  | .list _, _, _, hab, hbc => by
    obtain ⟨others, rfl, hothers⟩ := beq_list_iff.mp hab
    obtain ⟨last, rfl, hlast⟩ := beq_list_iff.mp hbc
    exact beqItems_trans hothers hlast
  | .null, _, _, hab, hbc => by
    obtain rfl := beq_null_iff.mp hab
    exact hbc

theorem beqItems_trans : ∀ {items others last : List AttributeValue},
    beqItems items others = true → beqItems others last = true → beqItems items last = true
  | [], [], _, _, h => h
  | _ :: _, _ :: _, [], _, h => h
  | _ :: _, _ :: _, _ :: _, hothers, hlast => by
    rw [beqItems, Bool.and_eq_true] at hothers hlast ⊢
    exact ⟨beq_trans hothers.1 hlast.1, beqItems_trans hothers.2 hlast.2⟩

end

/-! ## Loose equality -/

theorem isScalar_of_beq (h : (a == b) = true) : a.isScalar = b.isScalar := by
  cases a with
  | text => rw [beq_text_iff.mp h]
  | number =>
    obtain ⟨y, rfl, -⟩ := beq_number_iff.mp h
    rfl
  | bool => rw [beq_bool_iff.mp h]
  | list =>
    obtain ⟨others, rfl, -⟩ := beq_list_iff.mp h
    rfl
  | null => rw [beq_null_iff.mp h]

/-- Equal scalars have one text. -/
theorem display_of_beq (scalar : a.isScalar = true) (h : (a == b) = true) :
    a.display = b.display := by
  cases a with
  | text => rw [beq_text_iff.mp h]
  | number =>
    obtain ⟨y, rfl, hnumbers⟩ := beq_number_iff.mp h
    exact Decimal.plain_of_beq hnumbers
  | bool => rw [beq_bool_iff.mp h]
  | list | null => cases scalar

/-- Scalars are compared by their texts alone, and other values as they are. -/
theorem looselyEquals_iff :
    a.looselyEquals b = true ↔
      a.isScalar = true ∧ b.isScalar = true ∧ a.display = b.display ∨
      a.isScalar = false ∧ (a == b) = true := by
  rw [looselyEquals, Bool.or_eq_true, Bool.and_eq_true, Bool.and_eq_true,
    beq_iff_eq (a := a.display), and_assoc]
  constructor
  · rintro (heq | hscalars)
    · cases ha : a.isScalar with
      | true => exact .inl ⟨rfl, (isScalar_of_beq heq).symm.trans ha, display_of_beq ha heq⟩
      | false => exact .inr ⟨rfl, heq⟩
    · exact .inl hscalars
  · rintro (hscalars | ⟨-, heq⟩)
    · exact .inr hscalars
    · exact .inl heq

theorem looselyEquals_self_eq (a : AttributeValue) : a.looselyEquals a = a.nanFreeInside := by
  rw [Bool.eq_iff_iff, looselyEquals_iff, nanFreeInside, beq_self_eq]
  cases a.isScalar <;> simp

theorem looselyEquals_symm (h : a.looselyEquals b = true) : b.looselyEquals a = true := by
  rw [looselyEquals_iff] at *
  rcases h with ⟨ha, hb, htext⟩ | ⟨ha, heq⟩
  · exact .inl ⟨hb, ha, htext.symm⟩
  · exact .inr ⟨(isScalar_of_beq heq).symm.trans ha, beq_symm heq⟩

theorem looselyEquals_trans (hab : a.looselyEquals b = true) (hbc : b.looselyEquals c = true) :
    a.looselyEquals c = true := by
  rw [looselyEquals_iff] at *
  rcases hab with ⟨ha, hb, htext⟩ | ⟨ha, heq⟩
  · -- the other way to be equal is that of values that are not scalars
    obtain ⟨-, hc, htext'⟩ := hbc.resolve_right fun h => Bool.noConfusion (hb.symm.trans h.1)
    exact .inl ⟨ha, hc, htext.trans htext'⟩
  · have hb : b.isScalar = false := (isScalar_of_beq heq).symm.trans ha
    obtain ⟨-, heq'⟩ := hbc.resolve_left fun h => Bool.noConfusion (hb.symm.trans h.1)
    exact .inr ⟨ha, beq_trans heq heq'⟩

theorem looselyEquals_iff_display (ha : a.isScalar = true) (hb : b.isScalar = true) :
    a.looselyEquals b = true ↔ a.display = b.display := by
  simp [looselyEquals_iff, ha, hb]

theorem null_looselyEquals_iff : null.looselyEquals a = true ↔ a = null := by
  simp [looselyEquals_iff, isScalar, beq_null_iff]

theorem list_looselyEquals_iff : (list items).looselyEquals a = true ↔
    ∃ others, a = list others ∧ List.Forall₂ (fun a b => (a == b) = true) items others := by
  simp [looselyEquals_iff, isScalar, beq_list_iff, beqItems_iff]

/-- Values that are loosely equal are loosely equal to the same values. -/
theorem looselyEquals_left (h : a.looselyEquals b = true) (c : AttributeValue) :
    a.looselyEquals c = b.looselyEquals c :=
  Bool.eq_iff_iff.mpr ⟨looselyEquals_trans (looselyEquals_symm h), looselyEquals_trans h⟩

theorem looselyEquals_right (h : a.looselyEquals b = true) (c : AttributeValue) :
    c.looselyEquals a = c.looselyEquals b :=
  Bool.eq_iff_iff.mpr ⟨(looselyEquals_trans · h), (looselyEquals_trans · (looselyEquals_symm h))⟩

/-! ## Lists of values -/

theorem looselyEquals_of_beq (h : (a == b) = true) : a.looselyEquals b = true := by
  rw [looselyEquals, h, Bool.true_or]

/-- Without a declared type it is loose equality that looks for an element. -/
theorem isInAs_none (a b : AttributeValue) : a.isInAs none b = b.items.any a.looselyEquals := by
  refine congrArg b.items.any (funext fun item => ?_)
  have hequals : a.equalsAs none item = (a == item) := rfl
  rw [hequals, looselyEquals, ← Bool.or_assoc, Bool.or_self]

theorem any_looselyEquals_congr
    (h : List.Forall₂ (fun a b => (a == b) = true) items others) (c : AttributeValue) :
    items.any c.looselyEquals = others.any c.looselyEquals := by
  induction h with
  | nil => rfl
  | cons heq _ ih =>
    rw [List.any_cons, List.any_cons, ih, looselyEquals_right (looselyEquals_of_beq heq)]

theorem items_of_isScalar (scalar : a.isScalar = true) : a.items = [a] := by
  cases a with
  | text | number | bool => rfl
  | list | null => cases scalar

/-- Loosely equal values have loosely equal elements. -/
theorem any_items_congr (h : a.looselyEquals b = true) (c : AttributeValue) :
    a.items.any c.looselyEquals = b.items.any c.looselyEquals := by
  cases a with
  | list items =>
    obtain ⟨others, rfl, hitems⟩ := list_looselyEquals_iff.mp h
    exact any_looselyEquals_congr hitems c
  | null => rw [null_looselyEquals_iff.mp h]
  | text | number | bool =>
    have hscalar := (looselyEquals_iff.mp h).resolve_right fun hlist => Bool.noConfusion hlist.1
    rw [items_of_isScalar hscalar.1, items_of_isScalar hscalar.2.1, List.any_cons, List.any_cons,
      looselyEquals_right h]

end AttributeValue

/-! ## Rules that look for an attribute in a list -/

namespace Rule

variable {rule : Rule} {user other : User} {a b : AttributeValue}

theorem matchesUser_isIn (rule : Rule) (untyped : rule.declared = none)
    (h : user.attribute? rule.subject = some a) :
    (rule.withOperator .isIn).matchesUser user = rule.value.items.any a.looselyEquals := by
  rw [matchesUser_of_attribute (rule.withOperator .isIn) h, ← AttributeValue.isInAs_none,
    ← untyped]
  rfl

/-- The rule matches if the attribute is there and loosely equal to an element. -/
theorem matchesUser_isIn_iff (untyped : rule.declared = none) :
    (rule.withOperator .isIn).matchesUser user = true ↔
      ∃ a, user.attribute? rule.subject = some a ∧
        ∃ item ∈ rule.value.items, a.looselyEquals item = true := by
  cases h : user.attribute? rule.subject with
  | none =>
    rw [matchesUser_of_missing (rule.withOperator .isIn) h]
    exact iff_of_false Bool.false_ne_true nofun
  | some a =>
    rw [matchesUser_isIn rule untyped h, List.any_eq_true]
    simp

theorem matchesUser_isIn_attribute (untyped : rule.declared = none)
    (ha : user.attribute? rule.subject = some a) (hb : other.attribute? rule.subject = some b)
    (h : a.looselyEquals b = true) :
    (rule.withOperator .isIn).matchesUser user = (rule.withOperator .isIn).matchesUser other := by
  rw [matchesUser_isIn rule untyped ha, matchesUser_isIn rule untyped hb]
  exact congrArg rule.value.items.any (funext (AttributeValue.looselyEquals_left h))

/-- Two values in which every attribute is looked for alike. -/
theorem matchesUser_isIn_value (untyped : rule.declared = none)
    (h : ∀ c : AttributeValue, a.items.any c.looselyEquals = b.items.any c.looselyEquals) :
    ((rule.withValue a).withOperator .isIn).matchesUser user =
      ((rule.withValue b).withOperator .isIn).matchesUser user := by
  cases hattribute : user.attribute? rule.subject with
  | none =>
    rw [matchesUser_of_missing ((rule.withValue a).withOperator .isIn) hattribute,
      matchesUser_of_missing ((rule.withValue b).withOperator .isIn) hattribute]
    rfl
  | some c =>
    rw [matchesUser_isIn (rule.withValue a) untyped hattribute,
      matchesUser_isIn (rule.withValue b) untyped hattribute]
    exact h c

theorem matchesUser_isIn_element (untyped : rule.declared = none)
    (front back : List AttributeValue) (h : a.looselyEquals b = true) :
    ((rule.withValue (.list (front ++ a :: back))).withOperator .isIn).matchesUser user =
      ((rule.withValue (.list (front ++ b :: back))).withOperator .isIn).matchesUser user := by
  refine matchesUser_isIn_value untyped fun c => ?_
  change (front ++ a :: back).any _ = (front ++ b :: back).any _
  rw [List.any_append, List.any_append, List.any_cons, List.any_cons,
    AttributeValue.looselyEquals_right h]

end Rule

/-! ## Loose equality as a whole -/

namespace AttributeValue

/-- **The laws of loose equality.** It is an equivalence on the values with no NaN in a list: it
classifies scalars by their texts, and null and lists by themselves. A rule that looks for an
attribute in a list, and declares no type, looks for its class, so it cannot tell apart loosely
equal attributes, elements or values. -/
theorem looselyEquals_laws :
    (∀ a : AttributeValue, a.looselyEquals a = a.nanFreeInside) ∧
    (∀ a b : AttributeValue, a.looselyEquals b = true → b.looselyEquals a = true) ∧
    (∀ a b c : AttributeValue,
      a.looselyEquals b = true → b.looselyEquals c = true → a.looselyEquals c = true) ∧
    (∀ a b : AttributeValue, a.isScalar = true → b.isScalar = true →
      (a.looselyEquals b = true ↔ a.display = b.display)) ∧
    (∀ a, null.looselyEquals a = true ↔ a = null) ∧
    (∀ items a, (list items).looselyEquals a = true ↔
      ∃ others, a = list others ∧ List.Forall₂ (fun a b => (a == b) = true) items others) ∧
    ∀ rule : Rule, rule.declared = none →
      (∀ user, (rule.withOperator .isIn).matchesUser user = true ↔
        ∃ a, user.attribute? rule.subject = some a ∧
          ∃ item ∈ rule.value.items, a.looselyEquals item = true) ∧
      (∀ user other a b, user.attribute? rule.subject = some a →
        other.attribute? rule.subject = some b → a.looselyEquals b = true →
        (rule.withOperator .isIn).matchesUser user =
          (rule.withOperator .isIn).matchesUser other) ∧
      (∀ user front back a b, a.looselyEquals b = true →
        ((rule.withValue (.list (front ++ a :: back))).withOperator .isIn).matchesUser user =
          ((rule.withValue (.list (front ++ b :: back))).withOperator .isIn).matchesUser user) ∧
      ∀ user a b, a.looselyEquals b = true →
        ((rule.withValue a).withOperator .isIn).matchesUser user =
          ((rule.withValue b).withOperator .isIn).matchesUser user := by
  refine ⟨looselyEquals_self_eq, fun _ _ => looselyEquals_symm, fun _ _ _ => looselyEquals_trans,
    fun _ _ => looselyEquals_iff_display, fun _ => null_looselyEquals_iff,
    fun _ _ => list_looselyEquals_iff, fun rule untyped => ⟨?_, ?_, ?_, ?_⟩⟩
  · exact fun user => Rule.matchesUser_isIn_iff untyped
  · exact fun user other a b ha hb => Rule.matchesUser_isIn_attribute untyped ha hb
  · exact fun user front back a b => Rule.matchesUser_isIn_element untyped front back
  · exact fun user a b h => Rule.matchesUser_isIn_value untyped (any_items_congr h)

/-! ### Levels of a game

Kept as numbers by some callers and as texts by others. -/

/-- A user on a level. -/
def player (level : AttributeValue) : User :=
  { id := "ann", attributes := .ofList [("level", level)] }

/-- Who has not begun, or is on level 42. -/
def onLevel : Rule := ⟨"level", .isIn, .list [.text "none", .text "42"], none⟩

theorem looselyEquals_laws_levels :
    (number 42.0).looselyEquals (text "42") = true ∧
      (text "42").looselyEquals (number 42.0) = true ∧
      (number 42.0).looselyEquals (number 42.0) = true ∧
      (number 42.0).display = (text "42").display ∧
      (onLevel.withOperator .isIn).matchesUser (player (text "42")) = true ∧
      (onLevel.withOperator .isIn).matchesUser (player (number 42.0)) = true ∧
      ((onLevel.withValue (.list [text "none", number 42.0])).withOperator .isIn).matchesUser
        (player (text "42")) = true ∧
      ((onLevel.withValue (number 42.0)).withOperator .isIn).matchesUser (player null) =
        ((onLevel.withValue (text "42")).withOperator .isIn).matchesUser (player null) := by
  obtain ⟨-, symm, trans, scalars, -, -, rules⟩ := looselyEquals_laws
  obtain ⟨isIn, users, elements, values⟩ := rules onLevel rfl
  have htext : (number 42.0).display = (text "42").display := by decide +kernel
  have hloose := (scalars (number 42.0) (text "42") rfl rfl).mpr htext
  have hmatches : (onLevel.withOperator .isIn).matchesUser (player (text "42")) = true :=
    (isIn _).mpr ⟨text "42", rfl, text "42", .tail _ (.head _), by decide⟩
  refine ⟨hloose, symm _ _ hloose, trans _ _ _ hloose (symm _ _ hloose), htext, hmatches,
    ?_, ?_, ?_⟩
  · exact (users _ _ (number 42.0) (text "42") rfl rfl hloose).trans hmatches
  · exact (elements _ [text "none"] [] _ _ hloose).trans hmatches
  · exact values _ _ _ hloose

/-- NaN is loosely equal to itself by its text, but not within a list. -/
example : (number (0.0 / 0.0)).looselyEquals (number (0.0 / 0.0)) = true ∧
    (list [number (0.0 / 0.0)]).looselyEquals (list [number (0.0 / 0.0)]) = false := by
  decide +kernel

end AttributeValue

end FeatureTrials
