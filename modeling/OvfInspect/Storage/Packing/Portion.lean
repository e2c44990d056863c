import OvfInspect.Storage.Damage

/-!
# Packed streams

A packed file holds one or more streams, each of which is packed on its own. Undoing a stream gives
bytes for as long as the stream makes sense.
-/

namespace OvfInspect.Storage.Packing

/-- What undoing a stream gives: its bytes, where the packed bytes behind it begin, and why the
stream ends too early if it does. -/
structure Portion where
  bytes : ByteArray
  rest : Nat
  ending : Option Damage := none

def runSize : Nat := 8192

/-- A portion that ends too early. A run in which or at whose end the packing is damaged gives no
bytes at all, one in which only the packed bytes end gives those before. -/
def Portion.cut (bytes : ByteArray) (damage : Damage) : Portion where
  bytes := if damage = .packingEnded then bytes
    else bytes.extract 0 ((bytes.size - 1) / runSize * runSize)
  rest := 0
  ending := some damage

def lastPlace : Nat := 1 <<< 63

/-- The streams of a packed file, from a place on and behind the bytes of earlier ones. What follows
a stream and is damaged from its beginning is no stream, and is left out. -/
def joined (undo : ByteArray → Nat → Portion) (source : ByteArray) :
    (fuel : Nat) → (place : Nat) → (earlier : ByteArray) → Stream
  | 0, _, earlier => ⟨earlier, none, lastPlace⟩
  | fuel + 1, place, earlier =>
    if 0 < place ∧ source.size ≤ place then ⟨earlier, none, lastPlace⟩
    else
      let portion := undo source place
      match portion.ending with
      | none => joined undo source fuel portion.rest (earlier ++ portion.bytes)
      | some damage =>
        if 0 < place ∧ damage ≠ .packingEnded ∧ portion.bytes.isEmpty then
          ⟨earlier, none, lastPlace⟩
        else ⟨earlier ++ portion.bytes, some damage, lastPlace⟩

def streams (undo : ByteArray → Nat → Portion) (source : ByteArray) : Stream :=
  joined undo source (source.size + 1) 0 .empty

/-- Copy so many bytes from a distance before the end to the end. They may reach into those that are
copied. -/
def copyBack (distance : Nat) : (count : Nat) → ByteArray → ByteArray
  | 0, bytes => bytes
  | count + 1, bytes =>
    copyBack distance count (bytes.push (bytes[bytes.size - distance]?.getD 0))

def pushCopies (byte : UInt8) : (count : Nat) → ByteArray → ByteArray
  | 0, bytes => bytes
  | count + 1, bytes => pushCopies byte count (bytes.push byte)

def lowFirst (source : ByteArray) (place : Nat) : (count : Nat) → Nat
  | 0 => 0
  | count + 1 => (source[place]?.getD 0).toNat + 256 * lowFirst source (place + 1) count

end OvfInspect.Storage.Packing
