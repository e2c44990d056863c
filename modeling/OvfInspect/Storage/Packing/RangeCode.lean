import OvfInspect.Storage.Packing.Portion

/-!
# Range codes

Bits are written as parts of a range, each as large as the bit is likely. How likely the bits of a
kind are is learned from those before.
-/

namespace OvfInspect.Storage.Packing

/-- How far a stream has been undone: the packed bytes with the place of the next one and a place
that must not be passed, what has come out, the range with the code in it, the chances of all kinds of
bits to be zero, and what is remembered of earlier symbols. -/
structure Coder (Memory : Type) where
  source : ByteArray
  place : Nat
  limit : Nat
  result : ByteArray
  range : UInt32
  code : UInt32
  chances : Array UInt32
  memory : Memory

abbrev Decoding (Memory : Type) := EStateM Damage (Coder Memory)

variable {Memory : Type}

def stopAt {α : Type} (problem : XzProblem) : Decoding Memory α := throw (.xz problem)

/-- The next byte. The packed bytes end too early if there are none, and are damaged if there are
some behind the limit. -/
def takeByte : Decoding Memory UInt8 := fun coder =>
  if coder.place < coder.limit then
    match coder.source[coder.place]? with
    | none => .error .packingEnded coder
    | some byte => .ok byte { coder with place := coder.place + 1 }
  else if coder.place < coder.source.size then .error (.xz .corrupt) coder
  else .error .packingEnded coder

def takeHighFirst : (count : Nat) → (n : Nat) → Decoding Memory Nat
  | 0, n => pure n
  | count + 1, n => do takeHighFirst count (256 * n + (← takeByte).toNat)

def takeLowFirst : (count : Nat) → Decoding Memory Nat
  | 0 => pure 0
  | count + 1 => do
    let byte ← takeByte
    return byte.toNat + 256 * (← takeLowFirst count)

def openRange : Decoding Memory Unit := do
  if (← takeByte) ≠ 0 then stopAt .corrupt
  else
    let code ← takeHighFirst 4 0
    modify fun coder => { coder with range := 0xffffffff, code := code.toUInt32 }

def widen : Decoding Memory Unit := do
  if (← get).range < 0x1000000 then
    let byte ← takeByte
    modify fun coder => { coder with
      range := coder.range <<< 8
      code := (coder.code <<< 8) ||| byte.toUInt32 }

def evenChance : UInt32 := 1024

/-- Which part of the range the code is in, for a bit of a kind. The chance of zero grows with each
zero and shrinks with each one. -/
def Coder.splitRange (kind : Nat) (coder : Coder Memory) : Nat × Coder Memory :=
  let chance : UInt32 := coder.chances.getD kind evenChance
  let bound : UInt32 := (coder.range >>> (11 : UInt32)) * chance
  if coder.code < bound then
    (0, { coder with
      range := bound
      chances := coder.chances.setIfInBounds kind (chance + ((2048 - chance) >>> (5 : UInt32))) })
  else
    (1, { coder with
      range := coder.range - bound
      code := coder.code - bound
      chances := coder.chances.setIfInBounds kind (chance - (chance >>> (5 : UInt32))) })

def Coder.halveRange (coder : Coder Memory) : Nat × Coder Memory :=
  let half : UInt32 := coder.range >>> (1 : UInt32)
  if coder.code < half then (0, { coder with range := half })
  else (1, { coder with range := half, code := coder.code - half })

def rangeBit (kind : Nat) : Decoding Memory Nat := do
  widen
  modifyGet (Coder.splitRange kind)

def evenBits : (count : Nat) → (n : Nat) → Decoding Memory Nat
  | 0, n => pure n
  | count + 1, n => do
    widen
    evenBits count (2 * n + (← modifyGet Coder.halveRange))

/-- The number in so many bits, the highest first. The bits before one are part of its kind. Like them,
the number has a one in front. -/
def highTree (first : Nat) : (count : Nat) → (n : Nat) → Decoding Memory Nat
  | 0, n => pure n
  | count + 1, n => do highTree first count (2 * n + (← rangeBit (first + n)))

def highNumber (first count : Nat) : Decoding Memory Nat := do
  return (← highTree first count 1) - 1 <<< count

def lowTree (first : Nat) : (count : Nat) → (before : Nat) → Decoding Memory Nat
  | 0, _ => pure 0
  | count + 1, before => do
    let bit ← rangeBit (first + before)
    return bit + 2 * (← lowTree first count (2 * before + bit))

def lowNumber (first count : Nat) : Decoding Memory Nat := lowTree first count 1

end OvfInspect.Storage.Packing
