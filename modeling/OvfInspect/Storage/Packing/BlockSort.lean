import OvfInspect.Storage.Packing.Portion

/-!
# Sorted blocks

The bytes of a block are written in the order in which what follows each of them sorts. Before that,
runs of equal bytes are shortened.
-/

namespace OvfInspect.Storage.Packing

/-! ### Undoing the order -/

def byteCounts (bytes : ByteArray) : Array Nat :=
  bytes.foldl (fun counts (byte : UInt8) => counts.modify byte.toNat (· + 1)) (Array.replicate 256 0)

def sortedStarts (bytes : ByteArray) : Array Nat :=
  ((byteCounts bytes).foldl (fun (starts, before) count => (starts.push before, before + count))
    (#[], 0)).1

/-- Where each byte of the sorted block stands in the block as it is written. -/
def sortedPlaces (bytes : ByteArray) : Array Nat :=
  (bytes.foldl
    (fun (places, starts, n) (byte : UInt8) =>
      (places.setIfInBounds (starts.getD byte.toNat 0) n, starts.modify byte.toNat (· + 1), n + 1))
    (Array.replicate bytes.size 0, sortedStarts bytes, 0)).1

def follow (bytes : ByteArray) (places : Array Nat) :
    (count : Nat) → (place : Nat) → ByteArray → ByteArray
  | 0, _, result => result
  | count + 1, place, result =>
    follow bytes places count (places.getD place 0) (result.push (bytes[place]?.getD 0))

def unsorted (bytes : ByteArray) (first : Nat) : ByteArray :=
  let places := sortedPlaces bytes
  follow bytes places bytes.size (places.getD first 0) .empty

/-! ### Undoing the shortening -/

def fullRun : Nat := 4

/-- Add bytes whose runs are shortened, behind so many equal ones. The number behind a full run may
be missing at the end, which is a mistake. -/
def lengthened : (last : UInt8) → (count : Nat) → List UInt8 → ByteArray → ByteArray × Bool
  | _, count, [], result => (result, count ≠ fullRun)
  | last, count, byte :: bytes, result =>
    if count = fullRun then lengthened 0 0 bytes (pushCopies last byte.toNat result)
    else
      let equal := if 0 < count ∧ byte = last then count else 0
      lengthened byte (equal + 1) bytes (result.push byte)

end OvfInspect.Storage.Packing
