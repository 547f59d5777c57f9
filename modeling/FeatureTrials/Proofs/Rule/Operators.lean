import FeatureTrials.Proofs.Decimal.Order
import FeatureTrials.Rule.Basic

/-!
# How the operators of rules fit together

The operators of a rule are tied to each other, whatever the attribute, the value and the declared
type. The negated operators match where their positive ones do not, also for an attribute that is
missing, which no other operator matches. The ordering operators are those of numbers, and the
operators on texts those of parts of a text. What equals an element is in the list.

* `AttributeValue.numbersSatisfy_of_numbers` — the ordering operators compare two numbers.
* `AttributeValue.isInAs_of_mem` — equality with an element.
* `Rule.operator_laws` — the main result.
-/

namespace FeatureTrials

/-! ## Parts of a text -/

namespace Text

variable {α : Type} [BEq α] [LawfulBEq α] {s t : List α}

theorem contains_of_startsWith (h : startsWith s t = true) : contains s t = true := by
  obtain ⟨r, rfl⟩ := startsWith_iff.mp h
  exact contains_iff.mpr ⟨[], r, rfl⟩

theorem contains_of_endsWith (h : endsWith s t = true) : contains s t = true := by
  obtain ⟨l, rfl⟩ := endsWith_iff.mp h
  exact contains_iff.mpr ⟨l, [], (List.append_nil _).symm⟩

theorem startsWith_self (s : List α) : startsWith s s = true :=
  startsWith_iff.mpr ⟨[], (List.append_nil s).symm⟩

theorem endsWith_self (s : List α) : endsWith s s = true :=
  endsWith_iff.mpr ⟨[], rfl⟩

end Text

/-! ## The order of numbers -/

namespace Decimal

variable {x y : Float}

/-- Exactly one of the three comparisons of two numbers holds. -/
theorem count_comparisons (hx : x.isNaN = false) (hy : y.isNaN = false) :
    [decide (x < y), decide (x > y), x == y].count true = 1 := by
  rcases lt_or_beq_or_gt hx hy with hlt | heq | hgt
  · have hngt : ¬ y < x := not_lt_of_le (le_of_lt hlt)
    simp [hlt, hngt, not_beq_of_lt hlt]
  · have hnlt : ¬ x < y := not_lt_of_le (le_of_beq heq).2
    have hngt : ¬ y < x := not_lt_of_le (le_of_beq heq).1
    simp [hnlt, hngt, heq]
  · have hnlt : ¬ x < y := not_lt_of_le (le_of_lt hgt)
    have hne : ¬ (x == y) = true := fun heq => not_beq_of_lt hgt (beq_symm heq)
    simp [hgt, hnlt, hne]

theorem decide_le (x y : Float) : decide (x ≤ y) = (decide (x < y) || x == y) := by
  rw [Bool.eq_iff_iff, decide_eq_true_iff, Bool.or_eq_true, decide_eq_true_iff, le_iff_lt_or_beq]

theorem decide_ge (x y : Float) : decide (x ≥ y) = (decide (x > y) || x == y) := by
  have hbeq : (y == x) = (x == y) := Bool.eq_iff_iff.mpr ⟨beq_symm, beq_symm⟩
  rw [← hbeq]
  exact decide_le y x

end Decimal

/-! ## Comparisons of values -/

namespace AttributeValue

variable {a b item : AttributeValue} {items : List AttributeValue} {x y : Float}

theorem numbersSatisfy_of_numbers (p : Float → Float → Bool) (ha : a.number? = some x)
    (hb : b.number? = some y) : a.numbersSatisfy p b = p x y := by
  rw [numbersSatisfy, ha, hb]

/-- Both sides have to be numbers. -/
theorem numbersSatisfy_of_not_numbers (p : Float → Float → Bool)
    (h : a.number? = none ∨ b.number? = none) : a.numbersSatisfy p b = false := by
  rw [numbersSatisfy]
  split
  · next hx hy =>
    rcases h with h | h
    · rw [h] at hx
      cases hx
    · rw [h] at hy
      cases hy
  · rfl

/-- What equals an element is in the list, wherever the element stands. -/
theorem isInAs_of_mem {declared : Option DeclaredType} (mem : item ∈ items)
    (h : a.equalsAs declared item = true) : a.isInAs declared (.list items) = true := by
  refine List.any_eq_true.mpr ⟨item, mem, ?_⟩
  rw [h, Bool.true_or]

end AttributeValue

namespace Rule

variable {rule : Rule} {user : User} {a : AttributeValue}

/-! ## Rules that differ in one part -/

/-- The rule with another operator. -/
def withOperator (rule : Rule) (operator : Operator) : Rule := { rule with operator }

/-- The rule with another value. -/
def withValue (rule : Rule) (value : AttributeValue) : Rule := { rule with value }

/-- The rule with a declared type. -/
def withDeclared (rule : Rule) (declared : DeclaredType) : Rule :=
  { rule with declared := some declared }

theorem matchesUser_of_attribute (rule : Rule) (h : user.attribute? rule.subject = some a) :
    rule.matchesUser user = rule.operator.holds rule.declared a rule.value := by
  rw [matchesUser, h]

theorem matchesUser_of_missing (rule : Rule) (h : user.attribute? rule.subject = none) :
    rule.matchesUser user = rule.operator.isNegated := by
  rw [matchesUser, h]

/-- A rule on the same attribute matches at least as many users, if it does so for every value that
the attribute may have and also where it is missing. -/
theorem matchesUser_mono (rule : Rule) {other : Rule} (subject : other.subject = rule.subject)
    (missing : rule.operator.isNegated = true → other.operator.isNegated = true)
    (present : ∀ a, rule.operator.holds rule.declared a rule.value = true →
      other.operator.holds other.declared a other.value = true)
    (h : rule.matchesUser user = true) : other.matchesUser user = true := by
  cases hattribute : user.attribute? rule.subject with
  | none =>
    rw [matchesUser_of_missing rule hattribute] at h
    rw [matchesUser_of_missing other (subject ▸ hattribute)]
    exact missing h
  | some a =>
    rw [matchesUser_of_attribute rule hattribute] at h
    rw [matchesUser_of_attribute other (subject ▸ hattribute)]
    exact present a h

/-! ## Negated operators -/

variable {operator : Operator}

/-- One operator is the negation of another one, also for a missing attribute. -/
theorem matchesUser_eq_not {positive : Operator} (rule : Rule) (user : User)
    (missing : operator.isNegated = !positive.isNegated)
    (present : ∀ a, operator.holds rule.declared a rule.value =
      !positive.holds rule.declared a rule.value) :
    (rule.withOperator operator).matchesUser user =
      !(rule.withOperator positive).matchesUser user := by
  cases hattribute : user.attribute? rule.subject with
  | none =>
    rw [matchesUser_of_missing (rule.withOperator operator) hattribute,
      matchesUser_of_missing (rule.withOperator positive) hattribute]
    exact missing
  | some a =>
    rw [matchesUser_of_attribute (rule.withOperator operator) hattribute,
      matchesUser_of_attribute (rule.withOperator positive) hattribute]
    exact present a

theorem matchesUser_notEquals (rule : Rule) (user : User) :
    (rule.withOperator .notEquals).matchesUser user =
      !(rule.withOperator .equals).matchesUser user :=
  matchesUser_eq_not rule user rfl fun _ => rfl

theorem matchesUser_notIn (rule : Rule) (user : User) :
    (rule.withOperator .notIn).matchesUser user = !(rule.withOperator .isIn).matchesUser user :=
  matchesUser_eq_not rule user rfl fun _ => rfl

/-- A missing attribute is matched by the negated operators alone. -/
theorem matchesUser_missing_iff (h : user.attribute? rule.subject = none) (operator : Operator) :
    (rule.withOperator operator).matchesUser user = true ↔
      operator = .notEquals ∨ operator = .notIn := by
  rw [matchesUser_of_missing (rule.withOperator operator) h, withOperator]
  cases operator <;> simp [Operator.isNegated]

/-! ## Ordering operators -/

/-- The operators that compare numbers by their order. -/
def orderings : List Operator :=
  [.lessThan, .greaterThan, .lessThanOrEqual, .greaterThanOrEqual]

/-- The number that a user has for the attribute of a rule. -/
def number? (rule : Rule) (user : User) : Option Float :=
  (user.attribute? rule.subject).bind AttributeValue.number?

variable {x y : Float} {p : Float → Float → Bool}

/-- Without two numbers no ordering operator matches. -/
theorem matchesUser_ordering_of_not_numbers (ordering : operator ∈ orderings)
    (h : rule.number? user = none ∨ rule.value.number? = none) :
    (rule.withOperator operator).matchesUser user = false := by
  cases hattribute : user.attribute? rule.subject with
  | none =>
    rw [matchesUser_of_missing (rule.withOperator operator) hattribute, withOperator]
    fin_cases ordering <;> rfl
  | some a =>
    rw [number?, hattribute, Option.bind_some] at h
    rw [matchesUser_of_attribute (rule.withOperator operator) hattribute, withOperator]
    fin_cases ordering <;> exact AttributeValue.numbersSatisfy_of_not_numbers _ h

/-- An operator on numbers compares the number of the user with that of the rule. -/
theorem matchesUser_of_numbers (rule : Rule) (operator : Operator) (hx : rule.number? user = some x)
    (hy : rule.value.number? = some y)
    (compares : ∀ a b, operator.holds rule.declared a b = a.numbersSatisfy p b) :
    (rule.withOperator operator).matchesUser user = p x y := by
  obtain ⟨a, hattribute, ha⟩ := Option.bind_eq_some_iff.mp hx
  rw [matchesUser_of_attribute (rule.withOperator operator) hattribute]
  exact (compares a rule.value).trans (AttributeValue.numbersSatisfy_of_numbers p ha hy)

/-- Of two numbers exactly one is the smaller one, or they are equal, and the two other operators
are made up of these. -/
theorem matchesUser_ordering_of_numbers (hx : rule.number? user = some x)
    (hy : rule.value.number? = some y) (numberx : x.isNaN = false) (numbery : y.isNaN = false) :
    [(rule.withOperator .lessThan).matchesUser user,
      (rule.withOperator .greaterThan).matchesUser user,
      ((rule.withDeclared .number).withOperator .equals).matchesUser user].count true = 1 ∧
    (rule.withOperator .lessThanOrEqual).matchesUser user =
      ((rule.withOperator .lessThan).matchesUser user ||
        ((rule.withDeclared .number).withOperator .equals).matchesUser user) ∧
    (rule.withOperator .greaterThanOrEqual).matchesUser user =
      ((rule.withOperator .greaterThan).matchesUser user ||
        ((rule.withDeclared .number).withOperator .equals).matchesUser user) := by
  have hlt := matchesUser_of_numbers rule .lessThan hx hy fun _ _ => rfl
  have hgt := matchesUser_of_numbers rule .greaterThan hx hy fun _ _ => rfl
  have hle := matchesUser_of_numbers rule .lessThanOrEqual hx hy fun _ _ => rfl
  have hge := matchesUser_of_numbers rule .greaterThanOrEqual hx hy fun _ _ => rfl
  have heq := matchesUser_of_numbers (rule.withDeclared .number) .equals hx hy fun _ _ => rfl
  rw [hlt, hgt, hle, hge, heq]
  exact ⟨Decimal.count_comparisons numberx numbery, Decimal.decide_le x y, Decimal.decide_ge x y⟩

/-! ## Operators on texts -/

theorem matchesUser_contains_of_startsWith
    (h : (rule.withOperator .startsWith).matchesUser user = true) :
    (rule.withOperator .contains).matchesUser user = true :=
  matchesUser_mono (rule.withOperator .startsWith) rfl nofun
    (fun _ => Text.contains_of_startsWith) h

theorem matchesUser_contains_of_endsWith
    (h : (rule.withOperator .endsWith).matchesUser user = true) :
    (rule.withOperator .contains).matchesUser user = true :=
  matchesUser_mono (rule.withOperator .endsWith) rfl nofun
    (fun _ => Text.contains_of_endsWith) h

/-- What holds of equal texts. -/
theorem matchesUser_of_text_equals
    (holds : ∀ a b : AttributeValue, a.display = b.display →
      operator.holds rule.declared a b = true)
    (h : ((rule.withDeclared .text).withOperator .equals).matchesUser user = true) :
    (rule.withOperator operator).matchesUser user = true :=
  matchesUser_mono ((rule.withDeclared .text).withOperator .equals) rfl nofun
    (fun a heq => holds a rule.value (beq_iff_eq.mp heq)) h

/-- Equal texts begin and end with each other. -/
theorem matchesUser_text_of_equals
    (h : ((rule.withDeclared .text).withOperator .equals).matchesUser user = true) :
    (rule.withOperator .startsWith).matchesUser user = true ∧
      (rule.withOperator .endsWith).matchesUser user = true := by
  constructor
  · refine matchesUser_of_text_equals (fun a b heq => ?_) h
    rw [Operator.holds, AttributeValue.textsSatisfy, heq]
    exact Text.startsWith_self _
  · refine matchesUser_of_text_equals (fun a b heq => ?_) h
    rw [Operator.holds, AttributeValue.textsSatisfy, heq]
    exact Text.endsWith_self _

/-! ## All operators -/

/-- **The laws of the operators**, for a rule that takes every operator in turn: what the negated
ones match, what is matched without the attribute or without numbers, what the ordering of numbers
and the parts of texts have to do with equality, and equality with lists. -/
theorem operator_laws (rule : Rule) (user : User) :
    ((rule.withOperator .notEquals).matchesUser user =
        !(rule.withOperator .equals).matchesUser user ∧
      (rule.withOperator .notIn).matchesUser user =
        !(rule.withOperator .isIn).matchesUser user) ∧
    (user.attribute? rule.subject = none → ∀ operator,
      ((rule.withOperator operator).matchesUser user = true ↔
        operator = .notEquals ∨ operator = .notIn)) ∧
    (rule.number? user = none ∨ rule.value.number? = none → ∀ operator ∈ orderings,
      (rule.withOperator operator).matchesUser user = false) ∧
    (∀ x y, rule.number? user = some x → rule.value.number? = some y →
      x.isNaN = false → y.isNaN = false →
      [(rule.withOperator .lessThan).matchesUser user,
        (rule.withOperator .greaterThan).matchesUser user,
        ((rule.withDeclared .number).withOperator .equals).matchesUser user].count true = 1 ∧
      (rule.withOperator .lessThanOrEqual).matchesUser user =
        ((rule.withOperator .lessThan).matchesUser user ||
          ((rule.withDeclared .number).withOperator .equals).matchesUser user) ∧
      (rule.withOperator .greaterThanOrEqual).matchesUser user =
        ((rule.withOperator .greaterThan).matchesUser user ||
          ((rule.withDeclared .number).withOperator .equals).matchesUser user)) ∧
    ((rule.withOperator .startsWith).matchesUser user = true ∨
        (rule.withOperator .endsWith).matchesUser user = true →
      (rule.withOperator .contains).matchesUser user = true) ∧
    (((rule.withDeclared .text).withOperator .equals).matchesUser user = true →
      (rule.withOperator .startsWith).matchesUser user = true ∧
      (rule.withOperator .endsWith).matchesUser user = true ∧
      (rule.withOperator .contains).matchesUser user = true) ∧
    (∀ items, ∀ item ∈ items,
      ((rule.withValue item).withOperator .equals).matchesUser user = true →
      ((rule.withValue (.list items)).withOperator .isIn).matchesUser user = true) := by
  refine ⟨⟨matchesUser_notEquals rule user, matchesUser_notIn rule user⟩,
    fun missing operator => matchesUser_missing_iff missing operator,
    fun h operator ordering => matchesUser_ordering_of_not_numbers ordering h,
    fun x y hx hy => matchesUser_ordering_of_numbers hx hy, ?_, fun h => ?_,
    fun items item mem h => ?_⟩
  · rintro (hstarts | hends)
    · exact matchesUser_contains_of_startsWith hstarts
    · exact matchesUser_contains_of_endsWith hends
  · obtain ⟨hstarts, hends⟩ := matchesUser_text_of_equals h
    exact ⟨hstarts, hends, matchesUser_contains_of_startsWith hstarts⟩
  · exact matchesUser_mono ((rule.withValue item).withOperator .equals) rfl nofun
      (fun _ => AttributeValue.isInAs_of_mem mem) h

/-! ### Two rules

One on the age of a user, and one on the email address, which not everybody has. -/

/-- Who is of age. -/
def ofAge : Rule := ⟨"age", .greaterThanOrEqual, .number 18.0, none⟩

/-- Who has an address at the company. -/
def atCompany : Rule := ⟨"email", .endsWith, .text "@company.com", none⟩

/-- A user with an address. -/
def employee : User :=
  { id := "ann", email := some "ann@company.com"
    attributes := .ofList [("age", .number 31.0)] }

/-- A user without an address. -/
def guest : User := { id := "bob" }

theorem operator_laws_two_rules :
    ofAge.number? employee = some 31.0 ∧ ofAge.value.number? = some 18.0 ∧
      (ofAge.withOperator .greaterThan).matchesUser employee = true ∧
      (ofAge.withOperator .greaterThanOrEqual).matchesUser employee = true ∧
      (atCompany.withOperator .endsWith).matchesUser employee = true ∧
      (atCompany.withOperator .contains).matchesUser employee = true ∧
      guest.attribute? "email" = none ∧
      (atCompany.withOperator .notIn).matchesUser guest = true := by
  obtain ⟨-, -, -, numbers, -⟩ := operator_laws ofAge employee
  obtain ⟨-, -, hge⟩ := numbers 31.0 18.0 rfl rfl (by decide) (by decide)
  obtain ⟨-, -, -, -, contains, -⟩ := operator_laws atCompany employee
  obtain ⟨-, missing, -⟩ := operator_laws atCompany guest
  have hgt : (ofAge.withOperator .greaterThan).matchesUser employee = true := by decide +kernel
  have hends : (atCompany.withOperator .endsWith).matchesUser employee = true := by decide +kernel
  refine ⟨rfl, rfl, hgt, ?_, hends, contains (.inr hends), rfl, (missing rfl _).mpr (.inr rfl)⟩
  rw [hge, hgt, Bool.true_or]

end Rule

end FeatureTrials
