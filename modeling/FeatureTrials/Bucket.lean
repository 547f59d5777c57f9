import FeatureTrials.Decimal.Binary
import FeatureTrials.Digest

/-!
# Buckets

Every decision that splits users goes through a bucket of the pair of a scope and a user: the pair
is digested, the first fifteen hexadecimal digits of the digest are read as a number, and the number
is taken modulo the number of buckets. The same pair lands in the same bucket everywhere and always,
and different scopes split the same users independently.
-/

namespace FeatureTrials.Bucket

/-- Reads hexadecimal digits as a number below `2 ^ 63`. -/
def readHex? (ds : List Char) : Option Nat :=
  match ds with
  | [] => none
  | ds => do
    let n ← ds.foldlM (fun n c => (Text.hexValue? c).map (16 * n + ·)) 0
    if n < 0x8000000000000000 then some n else none

/-- The number a digest stands for: its first fifteen hexadecimal digits, or zero if they could not
be read. -/
def ofDigest (d : Digest) : Nat := (readHex? (d.hex.take 15)).getD 0

/-- The number of a user in a scope. -/
def hash (scope user : String) : Nat :=
  ofDigest (Digest.ofBytes (scope ++ ":" ++ user).toUTF8)

/-- The bucket of a user, one of a hundred. -/
def coarse (scope user : String) : Nat := hash scope user % 100

/-- The number of the fine bucket of a user, one of ten thousand. -/
def fineIndex (scope user : String) : Nat := hash scope user % 10000

/-- The fine bucket of a user, from 0 to 99.99 in steps of a hundredth. -/
def fine (scope user : String) : Float := Decimal.ofNat (fineIndex scope user) / 100.0

end FeatureTrials.Bucket
