import OvfInspect.Storage.Packing.RangeCode

/-!
# Symbols in range codes

The symbols are bytes and stretches that occurred before, at a new distance or at one of the last
four. The chances of their bits depend on the symbols before, on the byte before and on the place.
-/

namespace OvfInspect.Storage.Packing.Lzma

/-- What a stream says of itself: how many high bits of the byte before and how many low bits of the
place make kinds of bytes, and how many low bits of the place make kinds of symbols. -/
structure Form where
  highBits : Nat := 0
  lowBits : Nat := 0
  phaseBits : Nat := 0
  deriving DecidableEq, Repr

def Form.ofByte? (byte : UInt8) : Option Form :=
  let n := byte.toNat
  let form : Form := ⟨n % 9, n / 9 % 5, n / 45⟩
  if 4 < form.phaseBits ∨ 4 < form.highBits + form.lowBits then none else some form

/-- What is remembered: the form, the kind of the symbols before as one of twelve numbers, the last
distances less one, where the bytes begin that can be repeated, and how far back they reach. -/
structure Memory where
  form : Form := {}
  history : Nat := 0
  recent : List Nat := [0, 0, 0, 0]
  start : Nat := 0
  window : Nat := 4096
  deriving Repr

abbrev Decoding := Packing.Decoding Memory

def remember (change : Memory → Memory) : Decoding Unit :=
  modify fun coder => { coder with memory := change coder.memory }

/-! ### The kinds of bits -/

def isCopyKind : Nat := 0
def isRecentKind : Nat := 192
def isOlderKind : Nat := 204
def isThirdKind : Nat := 216
def isFourthKind : Nat := 228
def isLongKind : Nat := 240
def slotKind : Nat := 432
def lowSlotKind : Nat := 688
def alignedKind : Nat := 804
def lengthKind : Nat := 820
def recentLengthKind : Nat := 1334
def byteKind : Nat := 1848

def kindCount (form : Form) : Nat :=
  byteKind + 768 <<< (form.highBits + form.lowBits)

def restart (form : Form) : Decoding Unit :=
  modify fun coder => { coder with
    chances := Array.replicate (kindCount form) evenChance
    memory := { coder.memory with form, history := 0, recent := [0, 0, 0, 0] } }

/-! ### Histories -/

/-- The first history in which the symbol before was no byte. -/
def afterCopy : Nat := 7

def historyOfByte (history : Nat) : Nat :=
  if history < 4 then 0 else if history < 10 then history - 3 else history - 6

def historyOfCopy (history afterByte afterStretch : Nat) : Nat :=
  if history < afterCopy then afterByte else afterStretch

/-! ### Symbols -/

def Memory.reach (memory : Memory) (size : Nat) : Nat :=
  min (size - memory.start) memory.window

def byteBack (coder : Coder Memory) (distance : Nat) : UInt8 :=
  if distance < coder.memory.reach coder.result.size then
    coder.result[coder.result.size - 1 - distance]?.getD 0
  else 0

def phase (coder : Coder Memory) : Nat := coder.result.size - coder.memory.start

def nextByteKind (coder : Coder Memory) : Nat :=
  let form := coder.memory.form
  let high := (byteBack coder 0).toNat >>> (8 - form.highBits)
  let low := phase coder % (1 <<< form.lowBits)
  byteKind + 768 * (low <<< form.highBits + high)

/-- A byte behind a stretch, with the byte that followed the stretch before. Its bits belong to kinds
of their own for as long as they are the same. -/
def matchedByte (first : Nat) : (count : Nat) → (other n : Nat) → Decoding Nat
  | 0, _, n => pure n
  | count + 1, other, n => do
    let expected := other / 128 % 2
    let bit ← rangeBit (first + 256 * (1 + expected) + n)
    if bit = expected then matchedByte first count (2 * other) (2 * n + bit)
    else highTree first count (2 * n + bit)

def readByte : Decoding UInt8 := do
  let coder ← get
  let first := nextByteKind coder
  let history := coder.memory.history
  let other := (byteBack coder (coder.memory.recent.headD 0)).toNat
  remember fun memory => { memory with history := historyOfByte history }
  if history < afterCopy then return (← highTree first 8 1).toUInt8
  else return (← matchedByte first 8 other 1).toUInt8

def readLength (first phase : Nat) : Decoding Nat := do
  if (← rangeBit first) = 0 then return 2 + (← highNumber (first + 2 + 8 * phase) 3)
  else if (← rangeBit (first + 1)) = 0 then return 10 + (← highNumber (first + 130 + 8 * phase) 3)
  else return 18 + (← highNumber (first + 258) 8)

def readDistance (length : Nat) : Decoding Nat := do
  let slot ← highNumber (slotKind + 64 * min (length - 2) 3) 6
  if slot < 4 then return slot
  else
    let width := slot / 2 - 1
    let least := (2 + slot % 2) <<< width
    if slot < 14 then return least + (← lowNumber (lowSlotKind + least - slot) width)
    else
      let high ← evenBits (width - 4) 0
      return least + 16 * high + (← lowNumber alignedKind 4)

/-- The distance less one that marks the end. -/
def endDistance : Nat := 1 <<< 32 - 1

inductive Symbol where
  | byte (byte : UInt8)
  | copy (length : Nat)
  | ending
  deriving DecidableEq, Repr

def readRecent (history phase : Nat) : Decoding (Nat × Bool) := do
  if (← rangeBit (isOlderKind + history)) = 0 then
    return (0, (← rangeBit (isLongKind + 16 * history + phase)) = 1)
  else if (← rangeBit (isThirdKind + history)) = 0 then return (1, true)
  else return (2 + (← rangeBit (isFourthKind + history)), true)

def readSymbol : Decoding Symbol := do
  let coder ← get
  let memory := coder.memory
  let history := memory.history
  let reach := memory.reach coder.result.size
  let phase := phase coder % (1 <<< memory.form.phaseBits)
  if (← rangeBit (isCopyKind + 16 * history + phase)) = 0 then return .byte (← readByte)
  else if (← rangeBit (isRecentKind + history)) = 0 then
    let length ← readLength lengthKind phase
    let distance ← readDistance length
    remember fun memory => { memory with
      history := historyOfCopy history 7 10
      recent := distance :: memory.recent.take 3 }
    if distance = endDistance then return .ending
    else if reach ≤ distance then stopAt .corrupt
    else return .copy length
  else if reach = 0 then stopAt .corrupt
  else
    let (rank, isLong) ← readRecent history phase
    remember fun memory => { memory with
      recent := (memory.recent.drop rank).take 1 ++ memory.recent.eraseIdx rank }
    if isLong then
      let length ← readLength recentLengthKind phase
      remember fun memory => { memory with history := historyOfCopy history 8 11 }
      return .copy length
    else
      remember fun memory => { memory with history := historyOfCopy history 9 11 }
      return .copy 1

/-! ### Streams of symbols -/

def checkCode : Decoding Unit := do
  if (← get).code ≠ 0 then stopAt .corrupt

/-- Symbols for so many bytes, or up to an end mark if it is not known how many there are. An end
mark may also follow known bytes where that is allowed. -/
def readSymbols (allowsEnd : Bool) : (fuel : Nat) → (left : Option Nat) → Decoding Unit
  | 0, _ => throw .packingEnded
  | fuel + 1, left => do
    if left = some 0 then widen
    if left = some 0 ∧ (← get).code = 0 then return
    else if left = some 0 ∧ !allowsEnd then stopAt .corrupt
    else match ← readSymbol with
      | .ending =>
        if left.any (0 < ·) then stopAt .corrupt
        else
          widen
          checkCode
      | .byte byte =>
        if left = some 0 then stopAt .corrupt
        else
          modify fun coder => { coder with result := coder.result.push byte }
          readSymbols allowsEnd fuel (left.map (· - 1))
      | .copy length =>
        let written := min length (left.getD length)
        modify fun coder =>
          let distance := coder.memory.recent.headD 0 + 1
          { coder with result := copyBack distance written coder.result }
        if written < length then stopAt .corrupt
        else readSymbols allowsEnd fuel (left.map (· - length))

/-- More symbols than so many bytes can hold. A bit takes at least the 46th part of a bit of the
source. -/
def symbolBound (source : ByteArray) : Nat := 46 * 8 * (source.size + 5)

def windowOf (size : Nat) : Nat := (max size 4096 + 15) / 16 * 16

/-! ### Files of one stream -/

def isUsualWindow (size : Nat) : Bool :=
  size = 0 || size = 1 <<< 32 - 1 || (List.range 32).any fun n => size = 1 <<< n || size = 3 <<< n

def unknownSize : Nat := 1 <<< 64 - 1

/-- The number of bytes from which on it is not believed. -/
def sizeLimit : Nat := 1 <<< 38

def readFile : Decoding Unit := do
  match Form.ofByte? (← takeByte) with
  | none => stopAt .otherFile
  | some form =>
    let window ← takeLowFirst 4
    if !isUsualWindow window then stopAt .otherFile
    let size ← takeLowFirst 8
    if size ≠ unknownSize ∧ sizeLimit ≤ size then stopAt .otherFile
    openRange
    restart form
    remember fun memory => { memory with window := windowOf window }
    readSymbols true (symbolBound (← get).source) (if size = unknownSize then none else some size)

end OvfInspect.Storage.Packing.Lzma
