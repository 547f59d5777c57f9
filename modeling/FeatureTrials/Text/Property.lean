/-!
# Properties of characters

A property of characters is given by the code points at which it begins and ends to hold, in
increasing order.
-/

namespace FeatureTrials.Text

/-- A property holds at a character: it has changed an odd number of times up to it. -/
def holdsAt (changes : List Nat) (c : Char) : Bool := changes.countP (· ≤ c.toNat) % 2 = 1

end FeatureTrials.Text
