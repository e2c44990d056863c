import OvfInspect.Storage.Packing.BlockSort
import OvfInspect.Storage.Packing.Checksum
import OvfInspect.Storage.Packing.PrefixCode

/-!
# Bzip files

A bzip file is a sequence of streams of blocks. The bytes of a block are sorted. They are written as
ranks in a list that has the bytes used last at its front, the zeros among the ranks as the digits of
their number, and all in prefix codes that change after every fifty symbols.
-/

namespace OvfInspect.Storage.Packing.Bzip

def bounded (count least most : Nat) : Undoing Nat := do
  let n ← highBits count
  if n < least ∨ most < n then throw .bzip else return n

def expect (count n : Nat) : Undoing Unit := do
  let _ ← bounded count n n

def expectBytes (bytes : List Nat) : Undoing Unit :=
  bytes.forM (expect 8)

def streamMark : List Nat := [0x42, 0x5a, 0x68]

def blockStart : Nat := 0x31

def blockRest : List Nat := [0x41, 0x59, 0x26, 0x53, 0x59]

def endStart : Nat := 0x17

def endRest : List Nat := [0x72, 0x45, 0x38, 0x50, 0x90]

/-! ### The codes of a block -/

def setBits : Undoing (List Nat) := do
  let bits ← highBits 16
  return (List.range 16).filter fun n => bits.testBit (15 - n)

def usedBytes : Undoing (List UInt8) := do
  let groups ← setBits
  let bytes ← groups.mapM fun group => return (← setBits).map fun n => (16 * group + n).toUInt8
  return bytes.flatten

def countSet : (bound : Nat) → Undoing Nat
  | 0 => throw .bzip
  | bound + 1 => do
    if (← highBits 1) = 0 then return 0 else return 1 + (← countSet bound)

def toFront {α : Type} (list : List α) (rank : Nat) : List α :=
  (list.drop rank).take 1 ++ list.eraseIdx rank

/-- The codes of the groups of symbols, each written as a rank in a list that has the codes used last
at its front. -/
def choices (codeCount : Nat) : (count : Nat) → (recent : List Nat) → Undoing (List Nat)
  | 0, _ => pure []
  | count + 1, recent => do
    let recent := toFront recent (← countSet codeCount)
    return recent.headD 0 :: (← choices codeCount count recent)

def longest : Nat := 20

def steppedLength : (fuel : Nat) → (length : Nat) → Undoing Nat
  | 0, _ => throw .packingEnded
  | fuel + 1, length => do
    if length < 1 ∨ longest < length then throw .bzip
    else if (← highBits 1) = 0 then return length
    else if (← highBits 1) = 0 then steppedLength fuel (length + 1)
    else steppedLength fuel (length - 1)

def steppedLengths (fuel : Nat) : (count : Nat) → (length : Nat) → Array Nat → Undoing (Array Nat)
  | 0, _, lengths => pure lengths
  | count + 1, length, lengths => do
    let length ← steppedLength fuel length
    steppedLengths fuel count length (lengths.push length)

def readCodes (fuel symbolCount : Nat) : (count : Nat) → Undoing (List PrefixCode)
  | 0 => pure []
  | count + 1 => do
    let lengths ← steppedLengths fuel symbolCount (← highBits 5) #[]
    return .ofLengths longest lengths :: (← readCodes fuel symbolCount count)

/-! ### The bytes of a block -/

def groupSize : Nat := 50

/-- The weight that no digit of a number of zeros may have. -/
def weightBound : Nat := 1 <<< 21

/-- The bytes of a block as far as they are known: the bytes that occur with those used last at the
front, the bytes before, and the number of bytes to repeat with the weight of its next digit. -/
structure Block where
  recent : List UInt8
  bytes : ByteArray := .empty
  count : Nat := 0
  weight : Nat := 1

def Block.addDigit (block : Block) (digit : Nat) : Undoing Block :=
  if weightBound ≤ block.weight then throw .bzip
  else pure { block with count := block.count + digit * block.weight, weight := 2 * block.weight }

def Block.repeated (block : Block) (limit : Nat) : Undoing Block :=
  if limit < block.bytes.size + block.count then throw .bzip
  else
    let byte := block.recent.headD 0
    pure { block with bytes := pushCopies byte block.count block.bytes, count := 0, weight := 1 }

def Block.addRank (block : Block) (limit rank : Nat) : Undoing Block := do
  let block ← block.repeated limit
  if limit ≤ block.bytes.size then throw .bzip
  else
    let recent := toFront block.recent rank
    return { block with recent, bytes := block.bytes.push (recent.headD 0) }

/-- The codes that are still to be used: how many more symbols have the first one. -/
structure Schedule where
  left : Nat
  codes : List PrefixCode

def Schedule.next (schedule : Schedule) : Undoing (Nat × Schedule) := do
  match schedule.left, schedule.codes with
  | left + 1, code :: codes =>
    return (← code.next .highestFirst .bzip, ⟨left, code :: codes⟩)
  | 0, _ :: code :: codes =>
    return (← code.next .highestFirst .bzip, ⟨groupSize - 1, code :: codes⟩)
  | _, _ => throw .bzip

def blockBytes (limit endSymbol : Nat) : (fuel : Nat) → Schedule → Block → Undoing ByteArray
  | 0, _, _ => throw .packingEnded
  | fuel + 1, schedule, block => do
    let (symbol, schedule) ← schedule.next
    if symbol = endSymbol then return (← block.repeated limit).bytes
    else if symbol < 2 then
      blockBytes limit endSymbol fuel schedule (← block.addDigit (symbol + 1))
    else blockBytes limit endSymbol fuel schedule (← block.addRank limit (symbol - 1))

/-- The bytes of a block behind its mark and checksum. The bit for blocks that are mixed up is from
times long past. -/
def readBlock (limit fuel : Nat) : Undoing (ByteArray × Bool) := do
  expect 1 0
  let first ← bounded 24 0 (limit + 10)
  let used ← usedBytes
  if used.isEmpty then throw .bzip
  let codeCount ← bounded 3 2 6
  let choiceCount ← bounded 15 1 (1 <<< 15)
  let chosen ← choices codeCount choiceCount (List.range codeCount)
  let codes ← readCodes fuel (used.length + 2) codeCount
  let schedule : Schedule := ⟨groupSize, chosen.filterMap fun n => codes[n]?⟩
  let bytes ← blockBytes limit (used.length + 1) fuel schedule { recent := used }
  if bytes.size ≤ first then throw .bzip
  else return lengthened 0 0 (unsorted bytes first).toList .empty

/-- The blocks of a stream. The checksum of the stream comes from those of its blocks. -/
def blocks (limit size : Nat) : (fuel : Nat) → (sum : UInt32) → Undoing Unit
  | 0, _ => throw .packingEnded
  | fuel + 1, sum => do
    let start ← highBits 8
    if start = endStart then
      expectBytes endRest
      expect 32 sum.toNat
    else
      if start ≠ blockStart then throw .bzip
      expectBytes blockRest
      let stored ← highBits 32
      let (bytes, isWhole) ← readBlock limit size
      modify fun progress => { progress with result := progress.result ++ bytes }
      if !isWhole ∨ (highRemainder32 bytes).toNat ≠ stored then throw .bzip
      else blocks limit size fuel (((sum <<< 1) ||| (sum >>> 31)) ^^^ stored.toUInt32)

def stream (size : Nat) : Undoing Unit := do
  expectBytes streamMark
  let digit ← bounded 8 0x31 0x39
  blocks (100000 * (digit - 0x30)) size size 0

def unpack (source : ByteArray) : Stream :=
  streams (.ofUndoing (stream (8 * source.size + 1))) source

end OvfInspect.Storage.Packing.Bzip
