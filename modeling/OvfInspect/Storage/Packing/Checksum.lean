/-!
# Checksums

Packings guard bytes with checksums: remainders of 32 or 64 bits, in two orders of bits, and a digest
of 256 bits.
-/

namespace OvfInspect.Storage.Packing

/-! ### Remainders -/

def steps {α : Type} (step : α → α) : (count : Nat) → α → α
  | 0, a => a
  | count + 1, a => steps step count (step a)

def lowStep32 (r : UInt32) : UInt32 :=
  if r &&& 1 = 1 then (r >>> 1) ^^^ 0xedb88320 else r >>> 1

def highStep32 (r : UInt32) : UInt32 :=
  if r &&& 0x80000000 = 0 then r <<< 1 else (r <<< 1) ^^^ 0x04c11db7

def lowStep64 (r : UInt64) : UInt64 :=
  if r &&& 1 = 1 then (r >>> 1) ^^^ 0xc96c5795d7870f42 else r >>> 1

/-- The remainder of bytes, 32 bits, each byte with its lowest bit first. -/
def remainder32 (bytes : ByteArray) : UInt32 :=
  ~~~ bytes.foldl (fun r (byte : UInt8) => steps lowStep32 8 (r ^^^ byte.toUInt32)) 0xffffffff

def highRemainder32 (bytes : ByteArray) : UInt32 :=
  ~~~ bytes.foldl (fun r (byte : UInt8) => steps highStep32 8 (r ^^^ (byte.toUInt32 <<< 24)))
    0xffffffff

def remainder64 (bytes : ByteArray) : UInt64 :=
  ~~~ bytes.foldl (fun r (byte : UInt8) => steps lowStep64 8 (r ^^^ byte.toUInt64))
    0xffffffffffffffff

/-! ### The digest -/

def roundConstants : List UInt32 := [
  0x428a2f98, 0x71374491, 0xb5c0fbcf, 0xe9b5dba5, 0x3956c25b, 0x59f111f1, 0x923f82a4, 0xab1c5ed5,
  0xd807aa98, 0x12835b01, 0x243185be, 0x550c7dc3, 0x72be5d74, 0x80deb1fe, 0x9bdc06a7, 0xc19bf174,
  0xe49b69c1, 0xefbe4786, 0x0fc19dc6, 0x240ca1cc, 0x2de92c6f, 0x4a7484aa, 0x5cb0a9dc, 0x76f988da,
  0x983e5152, 0xa831c66d, 0xb00327c8, 0xbf597fc7, 0xc6e00bf3, 0xd5a79147, 0x06ca6351, 0x14292967,
  0x27b70a85, 0x2e1b2138, 0x4d2c6dfc, 0x53380d13, 0x650a7354, 0x766a0abb, 0x81c2c92e, 0x92722c85,
  0xa2bfe8a1, 0xa81a664b, 0xc24b8b70, 0xc76c51a3, 0xd192e819, 0xd6990624, 0xf40e3585, 0x106aa070,
  0x19a4c116, 0x1e376c08, 0x2748774c, 0x34b0bcb5, 0x391c0cb3, 0x4ed8aa4a, 0x5b9cca4f, 0x682e6ff3,
  0x748f82ee, 0x78a5636f, 0x84c87814, 0x8cc70208, 0x90befffa, 0xa4506ceb, 0xbef9a3f7, 0xc67178f2]

structure Digest where
  a : UInt32 := 0x6a09e667
  b : UInt32 := 0xbb67ae85
  c : UInt32 := 0x3c6ef372
  d : UInt32 := 0xa54ff53a
  e : UInt32 := 0x510e527f
  f : UInt32 := 0x9b05688c
  g : UInt32 := 0x1f83d9ab
  h : UInt32 := 0x5be0cd19
  deriving DecidableEq, Repr

namespace Digest

def turned (word : UInt32) (by_ : UInt32) : UInt32 :=
  (word >>> by_) ||| (word <<< (32 - by_))

def round (s : Digest) (constant word : UInt32) : Digest :=
  let choice := (s.e &&& s.f) ^^^ (~~~ s.e &&& s.g)
  let majority := (s.a &&& s.b) ^^^ (s.a &&& s.c) ^^^ (s.b &&& s.c)
  let first := s.h + (turned s.e 6 ^^^ turned s.e 11 ^^^ turned s.e 25) + choice + constant + word
  let second := (turned s.a 2 ^^^ turned s.a 13 ^^^ turned s.a 22) + majority
  ⟨first + second, s.a, s.b, s.c, s.d + first, s.e, s.f, s.g⟩

def add (s t : Digest) : Digest :=
  ⟨s.a + t.a, s.b + t.b, s.c + t.c, s.d + t.d, s.e + t.e, s.f + t.f, s.g + t.g, s.h + t.h⟩

def wordAt (bytes : ByteArray) (place : Nat) : UInt32 :=
  (List.range 4).foldl (fun word n => (word <<< 8) ||| (bytes[place + n]?.getD 0).toUInt32) 0

def nextWord (words : Array UInt32) : UInt32 :=
  let back (n : Nat) : UInt32 := words.getD (words.size - n) 0
  let near := turned (back 2) 17 ^^^ turned (back 2) 19 ^^^ (back 2 >>> 10)
  let far := turned (back 15) 7 ^^^ turned (back 15) 18 ^^^ (back 15 >>> 3)
  near + back 7 + far + back 16

/-- The words of the block of 64 bytes from a place on, and those that follow from them. -/
def wordsAt (bytes : ByteArray) (place : Nat) : Array UInt32 :=
  steps (fun words => words.push (nextWord words)) 48
    ((Array.range 16).map fun n => wordAt bytes (place + 4 * n))

def addBlock (bytes : ByteArray) (s : Digest) (place : Nat) : Digest :=
  s.add ((roundConstants.zip (wordsAt bytes place).toList).foldl
    (fun s pair => s.round pair.1 pair.2) s)

def highFirst (n : Nat) : (count : Nat) → List UInt8
  | 0 => []
  | count + 1 => (n >>> (8 * count)).toUInt8 :: highFirst n count

/-- Bytes, a mark, zeros and the number of bits, in whole blocks. -/
def padded (bytes : ByteArray) : ByteArray :=
  let zeros := (119 - bytes.size % 64) % 64
  bytes ++ ⟨(128 :: List.replicate zeros 0 ++ highFirst (8 * bytes.size) 8).toArray⟩

def ofBytes (bytes : ByteArray) : Digest :=
  let all := padded bytes
  (List.range (all.size / 64)).foldl (fun s n => addBlock all s (64 * n)) {}

def toBytes (s : Digest) : List UInt8 :=
  [s.a, s.b, s.c, s.d, s.e, s.f, s.g, s.h].flatMap fun word => highFirst word.toNat 4

end Digest

end OvfInspect.Storage.Packing
