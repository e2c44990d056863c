import OvfInspect.Storage.Packing.Checksum
import OvfInspect.Storage.Packing.Deflate

/-!
# Gzip files

A gzip file is a sequence of deflated streams. Each stands behind a header, which can hold a name and
a comment, and before the checksum and the size of its bytes. Zeros may follow it.
-/

namespace OvfInspect.Storage.Packing.Gzip

def behind (source : ByteArray) (place count : Nat) : Except Damage Nat :=
  if place + count ≤ source.size then .ok (place + count) else .error .packingEnded

def behindAll (source : ByteArray) (kind : UInt8 → Bool) (place : Nat) : Nat :=
  place + ((source.extract place source.size).toList.takeWhile kind).length

def behindText (source : ByteArray) (place : Nat) : Nat :=
  min (behindAll source (· ≠ 0) place + 1) source.size

/-- The place behind a header, or none where the file ends. Bits of the fourth byte say which parts
the header has: a field with its size before it, a name, a comment and a checksum. -/
def behindHeader (source : ByteArray) (place : Nat) : Except Damage (Option Nat) :=
  match (source.extract place (place + 2)).toList with
  | [] => .ok none
  | [0x1f, 0x8b] => do
    let fixed ← behind source (place + 2) 8
    let parts := lowFirst source (place + 3) 1
    if lowFirst source (place + 2) 1 ≠ 8 then .error (.gzip .method)
    else
      let field ← if parts.testBit 2 then do
          let start ← behind source fixed 2
          behind source start (lowFirst source fixed 2)
        else pure fixed
      let name := if parts.testBit 3 then behindText source field else field
      let comment := if parts.testBit 4 then behindText source name else name
      return some (← if parts.testBit 1 then behind source comment 2 else pure comment)
  | start => .error (.gzip (.otherFile start))

/-- The place behind the checksum and the size of bytes, which have to be right, and the zeros that
follow. -/
def behindTrailer (source : ByteArray) (place : Nat) (bytes : ByteArray) : Except Damage Nat := do
  let rest ← behind source place 8
  let stored := lowFirst source place 4
  let actual := (remainder32 bytes).toNat
  if stored ≠ actual then .error (.gzip (.wrongSum stored actual))
  else if lowFirst source (place + 4) 4 ≠ bytes.size % (1 <<< 32) then .error (.gzip .wrongSize)
  else .ok (behindAll source (· = 0) rest)

def members (source : ByteArray) : (fuel : Nat) → (place : Nat) → (earlier : ByteArray) → Stream
  | 0, _, earlier => ⟨earlier, none, lastPlace⟩
  | fuel + 1, place, earlier =>
    match behindHeader source place with
    | .error damage => ⟨earlier, some damage, lastPlace⟩
    | .ok none => ⟨earlier, none, lastPlace⟩
    | .ok (some start) =>
      let portion := Deflate.portion source start
      let bytes := earlier ++ portion.bytes
      match portion.ending with
      | some damage => ⟨bytes, some damage, lastPlace⟩
      | none => match behindTrailer source portion.rest portion.bytes with
        | .error damage => ⟨bytes, some damage, lastPlace⟩
        | .ok rest => members source fuel rest bytes

def unpack (source : ByteArray) : Stream :=
  members source (source.size + 1) 0 .empty

end OvfInspect.Storage.Packing.Gzip
