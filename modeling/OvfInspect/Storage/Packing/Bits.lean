import OvfInspect.Storage.Packing.Portion

/-!
# Bits

Packed bytes are read bit by bit. The bits of a byte come with the lowest first or with the highest
first.
-/

namespace OvfInspect.Storage.Packing

inductive BitOrder where
  | lowestFirst
  | highestFirst
  deriving DecidableEq, Repr

/-- How far a stream has been undone: the packed bytes, the place of the next bit, and what has come
out. -/
structure Progress where
  source : ByteArray
  place : Nat
  result : ByteArray

/-- A step of undoing a stream, which keeps what has come out also when it stops. -/
abbrev Undoing := EStateM Damage Progress

def BitOrder.shift (order : BitOrder) (bit : Nat) : Nat :=
  match order with
  | lowestFirst => bit
  | highestFirst => 7 - bit

def nextBit (order : BitOrder) : Undoing Nat := fun progress =>
  match progress.source[progress.place / 8]? with
  | none => .error .packingEnded progress
  | some byte =>
    .ok ((byte >>> (order.shift (progress.place % 8)).toUInt8) &&& 1).toNat
      { progress with place := progress.place + 1 }

def lowBits : (count : Nat) → Undoing Nat
  | 0 => pure 0
  | count + 1 => do
    let bit ← nextBit .lowestFirst
    return bit + 2 * (← lowBits count)

def appendBits : (count : Nat) → (n : Nat) → Undoing Nat
  | 0, n => pure n
  | count + 1, n => do appendBits count (2 * n + (← nextBit .highestFirst))

def highBits (count : Nat) : Undoing Nat := appendBits count 0

/-- The place of the first whole byte from a bit on. -/
def wholeByte (place : Nat) : Nat := (place + 7) / 8

def skipToByte : Undoing Unit :=
  modify fun progress => { progress with place := 8 * wholeByte progress.place }

def emit (byte : UInt8) : Undoing Unit :=
  modify fun progress => { progress with result := progress.result.push byte }

def Portion.ofUndoing (undoing : Undoing Unit) (source : ByteArray) (place : Nat) : Portion :=
  match undoing.run ⟨source, 8 * place, .empty⟩ with
  | .ok _ progress => ⟨progress.result, wholeByte progress.place, none⟩
  | .error damage progress => .cut progress.result damage

end OvfInspect.Storage.Packing
