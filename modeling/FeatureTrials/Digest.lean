import FeatureTrials.Text.Hex

/-!
# SHA-1

The 160-bit digest of a byte string: the message is padded to whole blocks of 64 bytes, each block
is spread over eighty words, and eighty rounds mix it into a state of five words. The digest is the
last state; as bytes it is written most significant byte first.
-/

namespace FeatureTrials

/-- Five words of 32 bits. -/
structure Digest where
  a : UInt32
  b : UInt32
  c : UInt32
  d : UInt32
  e : UInt32
  deriving DecidableEq, Repr

namespace Digest

/-- Rotation of a word to the left, by less than 32 places. -/
def rotate (x : UInt32) (n : UInt32) : UInt32 := (x <<< n) ||| (x >>> (32 - n))

/-- The state before the first block. -/
def start : Digest := ⟨0x67452301, 0xEFCDAB89, 0x98BADCFE, 0x10325476, 0xC3D2E1F0⟩

/-- The message with a marker, zeros up to eight bytes short of a whole block, and its length in
bits. -/
def pad (message : ByteArray) : ByteArray :=
  let zeros := (119 - message.size % 64) % 64
  let bits := message.size * 8
  let length := (List.range 8).map fun i => UInt8.ofNat (bits >>> (8 * (7 - i)))
  message ++ ⟨#[0x80] ++ Array.replicate zeros 0 ++ length.toArray⟩

/-- The byte at a position, zero behind the end. -/
def byteAt (message : ByteArray) (i : Nat) : UInt32 :=
  if h : i < message.size then (message.get i h).toUInt32 else 0

/-- The word at a position, most significant byte first. -/
def wordAt (message : ByteArray) (i : Nat) : UInt32 :=
  (byteAt message i <<< 24) ||| (byteAt message (i + 1) <<< 16) |||
    (byteAt message (i + 2) <<< 8) ||| byteAt message (i + 3)

/-- The next word of a schedule, mixed from four earlier ones. -/
def nextWord (words : Array UInt32) : UInt32 :=
  let back (n : Nat) : UInt32 := words.getD (words.size - n) 0
  rotate (back 3 ^^^ back 8 ^^^ back 14 ^^^ back 16) 1

/-- The eighty words of the block at a position. -/
def schedule (message : ByteArray) (position : Nat) : Array UInt32 :=
  let block := (Array.range 16).map fun i => wordAt message (position + 4 * i)
  (List.range 64).foldl (fun words _ => words.push (nextWord words)) block

/-- The mixing function and the constant of a round. -/
def roundMix (round : Nat) (b c d : UInt32) : UInt32 × UInt32 :=
  if round < 20 then ((b &&& c) ||| (~~~b &&& d), 0x5A827999)
  else if round < 40 then (b ^^^ c ^^^ d, 0x6ED9EBA1)
  else if round < 60 then ((b &&& c) ||| (b &&& d) ||| (c &&& d), 0x8F1BBCDC)
  else (b ^^^ c ^^^ d, 0xCA62C1D6)

/-- One round with the word of its number. -/
def round (words : Array UInt32) (s : Digest) (n : Nat) : Digest :=
  let (mixed, constant) := roundMix n s.b s.c s.d
  ⟨rotate s.a 5 + mixed + s.e + constant + words.getD n 0, s.a, rotate s.b 30, s.c, s.d⟩

/-- Mixes the block at a position into a state. -/
def absorb (message : ByteArray) (s : Digest) (position : Nat) : Digest :=
  let words := schedule message position
  let t := (List.range 80).foldl (round words) s
  ⟨s.a + t.a, s.b + t.b, s.c + t.c, s.d + t.d, s.e + t.e⟩

/-- The digest of a byte string. -/
def ofBytes (message : ByteArray) : Digest :=
  let padded := pad message
  (List.range (padded.size / 64)).foldl (fun s i => absorb padded s (64 * i)) start

/-- The bytes of a word, most significant first. -/
def wordBytes (w : UInt32) : List UInt8 :=
  [(w >>> 24).toUInt8, (w >>> 16).toUInt8, (w >>> 8).toUInt8, w.toUInt8]

/-- The twenty bytes of a digest. -/
def bytes (s : Digest) : List UInt8 :=
  wordBytes s.a ++ wordBytes s.b ++ wordBytes s.c ++ wordBytes s.d ++ wordBytes s.e

/-- The two digits of a byte. -/
def hexPair (byte : UInt8) : List Char :=
  [Text.hexDigit (byte.toNat / 16), Text.hexDigit (byte.toNat % 16)]

/-- The forty hexadecimal digits of a digest. -/
def hex (s : Digest) : List Char := s.bytes.flatMap hexPair

@[simp] theorem length_bytes (s : Digest) : s.bytes.length = 20 := rfl

end Digest

end FeatureTrials
