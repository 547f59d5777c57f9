import FeatureTrials.Proofs.Experiment.Traffic

/-!
# The arithmetic of the buckets

The digits of a digest are those of a number, and the first fifteen of them are its upper 60 bits:
half of the eighth byte is cut off and all that is behind it. Reading them never fails, so the zero
that stands for digits without a number is never used, and the buckets are remainders of one number.

* `Digest.toNat` — the digest as one number of 160 bits.
* `Bucket.readHex?_take` — reading the first digits of any bytes.
* `Bucket.ofDigest_eq` — the number of a digest.
* `Bucket.remainders_of_digest` — the main result.
-/

namespace FeatureTrials

open Decimal

/-! ## Digits of bytes -/

namespace Digest

/-- The upper and the lower half of a byte. -/
def halves (byte : UInt8) : List ℕ := [byte.toNat / 16, byte.toNat % 16]

/-- The number of a list of bytes, the most significant byte first. -/
def number (bytes : List UInt8) : ℕ := Nat.ofDigits 256 (bytes.map UInt8.toNat).reverse

/-- The digest as one number of 160 bits, the first byte being the most significant one. -/
def toNat (digest : Digest) : ℕ := number digest.bytes

theorem flatMap_hexPair (bytes : List UInt8) :
    bytes.flatMap hexPair = (bytes.flatMap halves).map Text.hexDigit := by
  rw [List.map_flatMap]
  rfl

theorem length_flatMap_halves (bytes : List UInt8) :
    (bytes.flatMap halves).length = 2 * bytes.length := by
  induction bytes with
  | nil => rfl
  | cons byte rest ih =>
    rw [List.flatMap_cons, List.length_append, ih, List.length_cons]
    simp only [halves, List.length_cons, List.length_nil]
    ring

theorem lt_of_mem_halves {bytes : List UInt8} : ∀ digit ∈ bytes.flatMap halves, digit < 16 := by
  intro digit hdigit
  obtain ⟨byte, -, hbyte⟩ := List.mem_flatMap.mp hdigit
  have hlt := byte.toNat_lt
  simp only [halves, List.mem_cons, List.not_mem_nil, or_false] at hbyte
  omega

/-- The digits, two for each byte, are those of the number in the base sixteen. -/
theorem ofDigits_halves (bytes : List UInt8) :
    Nat.ofDigits 16 (bytes.flatMap halves).reverse = number bytes := by
  induction bytes with
  | nil => rfl
  | cons byte rest ih =>
    have hbyte : Nat.ofDigits 16 (halves byte).reverse = byte.toNat := by
      simp only [halves, List.reverse_cons, List.reverse_nil, List.nil_append, List.cons_append,
        Nat.ofDigits_cons, Nat.ofDigits_nil]
      omega
    have hpow : 16 ^ (2 * rest.length) = 256 ^ rest.length := by
      rw [pow_mul]
      norm_num
    rw [List.flatMap_cons, List.reverse_append, Nat.ofDigits_append, ih, hbyte, List.length_reverse,
      length_flatMap_halves, hpow, number, number, List.map_cons, Nat.ofDigits_reverse_cons,
      List.length_map]

theorem number_lt (bytes : List UInt8) : number bytes < 256 ^ bytes.length := by
  have hlt : ∀ byte ∈ (bytes.map UInt8.toNat).reverse, byte < 256 := by
    intro byte hbyte
    rw [List.mem_reverse, List.mem_map] at hbyte
    obtain ⟨byte, -, rfl⟩ := hbyte
    exact byte.toNat_lt
  have hnumber := Nat.ofDigits_lt_base_pow_length (by norm_num) hlt
  rwa [List.length_reverse, List.length_map] at hnumber

end Digest

/-! ## Reading the first digits -/

namespace Bucket

open Digest (halves number)

/-- Digits are read one after the other, each scaling up what has been read before. -/
theorem foldlM_hexDigit {digits : List ℕ} (small : ∀ digit ∈ digits, digit < 16) (n : ℕ) :
    (digits.map Text.hexDigit).foldlM (fun n c => (Text.hexValue? c).map (16 * n + ·)) n =
      some (n * 16 ^ digits.length + Nat.ofDigits 16 digits.reverse) := by
  induction digits generalizing n with
  | nil => simp
  | cons digit rest ih =>
    obtain ⟨hdigit, hrest⟩ := List.forall_mem_cons.mp small
    have hvalue : Text.hexValue? (Text.hexDigit digit) = some digit :=
      Text.hexValue?_hexDigit ⟨digit, hdigit⟩
    rw [List.map_cons, List.foldlM_cons, hvalue, Option.map_some, Option.bind_eq_bind,
      Option.bind_some, ih hrest, Nat.ofDigits_reverse_cons, List.length_cons]
    ring_nf

/-- Up to fifteen digits are a number of 60 bits, so reading them does not overflow. -/
theorem readHex?_hexDigit {digits : List ℕ} (small : ∀ digit ∈ digits, digit < 16)
    (nonempty : digits ≠ []) (few : digits.length ≤ 15) :
    readHex? (digits.map Text.hexDigit) = some (Nat.ofDigits 16 digits.reverse) := by
  have hsmall : ∀ digit ∈ digits.reverse, digit < 16 := fun digit hdigit =>
    small digit (List.mem_reverse.mp hdigit)
  have hlt : Nat.ofDigits 16 digits.reverse < 0x8000000000000000 := by
    calc Nat.ofDigits 16 digits.reverse
        < 16 ^ digits.reverse.length := Nat.ofDigits_lt_base_pow_length (by norm_num) hsmall
      _ ≤ 16 ^ 15 := Nat.pow_le_pow_right (by norm_num) (by rwa [List.length_reverse])
      _ < 0x8000000000000000 := by norm_num
  obtain ⟨digit, rest, rfl⟩ := List.exists_cons_of_ne_nil nonempty
  have hread := foldlM_hexDigit small 0
  rw [Nat.zero_mul, Nat.zero_add] at hread
  rw [readHex?, hread, Option.bind_eq_bind, Option.bind_some, if_pos hlt]
  · simp

/-- The first digits are those of the number without its lower part. -/
theorem ofDigits_take {digits : List ℕ} (small : ∀ digit ∈ digits, digit < 16) {k : ℕ}
    (enough : k ≤ digits.length) :
    Nat.ofDigits 16 (digits.take k).reverse =
      Nat.ofDigits 16 digits.reverse / 16 ^ (digits.length - k) := by
  have hsmall : ∀ digit ∈ digits.reverse, digit < 16 := fun digit hdigit =>
    small digit (List.mem_reverse.mp hdigit)
  rw [Nat.ofDigits_div_pow_eq_ofDigits_drop _ (by norm_num) _ hsmall, List.drop_reverse]
  congr 3
  omega

/-- The first digits of bytes, also an odd number of them, are read as the upper part of the number
of the bytes. -/
theorem readHex?_take (bytes : List UInt8) {k : ℕ} (pos : 0 < k) (few : k ≤ 15)
    (enough : k ≤ 2 * bytes.length) :
    readHex? ((bytes.flatMap Digest.hexPair).take k) =
      some (number bytes / 16 ^ (2 * bytes.length - k)) := by
  have hlength : ((bytes.flatMap halves).take k).length = k := by
    rw [List.length_take, Digest.length_flatMap_halves]
    omega
  have hnonempty : (bytes.flatMap halves).take k ≠ [] :=
    List.ne_nil_of_length_pos (by rwa [hlength])
  have hdigits : ∀ digit ∈ (bytes.flatMap halves).take k, digit < 16 :=
    fun digit hdigit => Digest.lt_of_mem_halves digit (List.mem_of_mem_take hdigit)
  rw [Digest.flatMap_hexPair, ← List.map_take,
    readHex?_hexDigit hdigits hnonempty (hlength.trans_le few),
    ofDigits_take Digest.lt_of_mem_halves (by rwa [Digest.length_flatMap_halves]),
    Digest.ofDigits_halves, Digest.length_flatMap_halves]

theorem readHex?_digest (digest : Digest) :
    readHex? (digest.hex.take 15) = some (digest.toNat / 2 ^ 100) := by
  have hpow : 16 ^ (2 * digest.bytes.length - 15) = 2 ^ 100 := by
    rw [Digest.length_bytes]
    norm_num
  rw [Digest.hex, readHex?_take digest.bytes (by norm_num) le_rfl (by simp), hpow]
  rfl

/-- The number of a digest is that of its upper sixty bits. -/
theorem ofDigest_eq (digest : Digest) : ofDigest digest = digest.toNat / 2 ^ 100 := by
  rw [ofDigest, readHex?_digest, Option.getD_some]

theorem toNat_div_lt (digest : Digest) : digest.toNat / 2 ^ 100 < 2 ^ 60 := by
  have hlt := Digest.number_lt digest.bytes
  rw [Digest.length_bytes] at hlt
  refine Nat.div_lt_of_lt_mul (hlt.trans_eq ?_)
  norm_num

/-! ## Hundredths -/

/-- The last of ten thousand hundredths is 99.99. -/
theorem hundredths_le {n : ℕ} (hindex : n < 10000) : Decimal.ofNat n / 100.0 ≤ 99.99 := by
  rcases Nat.lt_succ_iff_lt_or_eq.mp hindex with hbefore | rfl
  · have hbound : Exactly (value 99.99) (99.99 : Float).toModel.unpack ∧
        (99985 / 1000 : ℚ) < value 99.99 := by
      decide +kernel
    obtain ⟨v, hv, hnear⟩ := exists_exactly_hundredths hindex
    have hn : (n : ℚ) ≤ 9998 := by exact_mod_cast Nat.le_of_lt_succ hbefore
    refine Decimal.le_of_lt (lt_of_exactly hv hbound.1 ?_)
    linarith [(abs_le.mp hnear).2]
  · decide +kernel

/-! ## Remainders -/

/-- **Buckets are remainders of a digest.** The buckets of a user are remainders of its upper 60
bits. The digits that are read are always those of a number, whatever the digest, so nothing is left
to the zero that would stand for an unreadable one. -/
theorem remainders_of_digest :
    (∀ digest : Digest,
      readHex? (digest.hex.take 15) = some (digest.toNat / 2 ^ 100) ∧
        ofDigest digest = digest.toNat / 2 ^ 100 ∧ digest.toNat / 2 ^ 100 < 2 ^ 60) ∧
    ∀ scope user : String,
      hash scope user = (Digest.ofBytes (scope ++ ":" ++ user).toUTF8).toNat / 2 ^ 100 ∧
        coarse scope user = hash scope user % 100 ∧
        coarse scope user < 100 ∧
        fine scope user = Decimal.ofNat (hash scope user % 10000) / 100.0 ∧
        |value (fine scope user) - (hash scope user % 10000 : ℕ) / 100| ≤ 1 / 10 ^ 10 ∧
        0.0 ≤ fine scope user ∧ fine scope user ≤ 99.99 ∧
        coarse scope user = fineIndex scope user % 100 := by
  constructor
  · intro digest
    exact ⟨readHex?_digest digest, ofDigest_eq digest, toNat_div_lt digest⟩
  · intro scope user
    have hindex : fineIndex scope user < 10000 := Nat.mod_lt _ (by decide)
    obtain ⟨v, hv, hnear⟩ := exists_exactly_hundredths hindex
    have hvalue : value (fine scope user) = v := value_of_exactly hv
    have hcoarse : coarse scope user = fineIndex scope user % 100 :=
      (Nat.mod_mod_of_dvd _ (by decide)).symm
    refine ⟨ofDigest_eq _, rfl, Nat.mod_lt _ (by decide), rfl, ?_, ?_, ?_, hcoarse⟩
    · rw [hvalue]
      exact hnear
    · exact (fine_bounds scope user).1
    · exact hundredths_le hindex

end Bucket

end FeatureTrials
