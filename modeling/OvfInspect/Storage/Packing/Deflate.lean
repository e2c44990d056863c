import OvfInspect.Storage.Packing.PrefixCode

/-!
# Deflated streams

A deflated stream is a sequence of blocks. A block holds bytes as they are, or symbols in a prefix
code: bytes, and lengths of stretches that occurred at a distance before. The lengths of the codes are
fixed, or stand at the beginning of the block in a prefix code of their own.
-/

namespace OvfInspect.Storage.Packing.Deflate

def fail {α : Type} (problem : DeflateProblem) : Undoing α := throw (.deflate problem)

def longest : Nat := 15

structure Codes where
  literals : PrefixCode
  distances : PrefixCode

def Codes.fixed : Codes where
  literals := .ofLengths longest <| Array.replicate 144 8 ++ Array.replicate 112 9 ++
    Array.replicate 24 7 ++ Array.replicate 8 8
  distances := .ofLengths longest (Array.replicate 32 5)

/-- The least length that each symbol for lengths stands for, and how many bits say how much is to be
added. -/
def lengthForms : Array (Nat × Nat) := #[
  (3, 0), (4, 0), (5, 0), (6, 0), (7, 0), (8, 0), (9, 0), (10, 0), (11, 1), (13, 1), (15, 1), (17, 1),
  (19, 2), (23, 2), (27, 2), (31, 2), (35, 3), (43, 3), (51, 3), (59, 3), (67, 4), (83, 4), (99, 4),
  (115, 4), (131, 5), (163, 5), (195, 5), (227, 5), (258, 0)]

def distanceForms : Array (Nat × Nat) := #[
  (1, 0), (2, 0), (3, 0), (4, 0), (5, 1), (7, 1), (9, 2), (13, 2), (17, 3), (25, 3), (33, 4), (49, 4),
  (65, 5), (97, 5), (129, 6), (193, 6), (257, 7), (385, 7), (513, 8), (769, 8), (1025, 9), (1537, 9),
  (2049, 10), (3073, 10), (4097, 11), (6145, 11), (8193, 12), (12289, 12), (16385, 13), (24577, 13)]

def formed (forms : Array (Nat × Nat)) (symbol : Nat) (problem : DeflateProblem) : Undoing Nat :=
  match forms[symbol]? with
  | none => fail problem
  | some (least, width) => return least + (← lowBits width)

def endSymbol : Nat := 256

def repeatBack (distance length : Nat) : Undoing Unit := do
  if (← get).result.size < distance then fail .tooFarBack
  else modify fun progress => { progress with result := copyBack distance length progress.result }

def codedBlock (codes : Codes) : (fuel : Nat) → Undoing Unit
  | 0 => throw .packingEnded
  | fuel + 1 => do
    let symbol ← codes.literals.next .lowestFirst (.deflate .literal)
    if symbol < endSymbol then
      emit symbol.toUInt8
      codedBlock codes fuel
    else if symbol = endSymbol then pure ()
    else
      let length ← formed lengthForms (symbol - endSymbol - 1) .literal
      let symbol ← codes.distances.next .lowestFirst (.deflate .distance)
      let distance ← formed distanceForms symbol .distance
      repeatBack distance length
      codedBlock codes fuel

/-- A block that holds bytes as they are. Its size is written twice, the second time with all bits
turned. -/
def storedBlock : Undoing Unit := do
  skipToByte
  let size ← lowBits 16
  let turned ← lowBits 16
  if size + turned ≠ 65535 then fail .storedSize
  else
    let start := (← get).place / 8
    modify fun progress => { progress with
      place := 8 * (start + size)
      result := progress.result ++ progress.source.extract start (start + size) }
    if (← get).source.size < start + size then throw .packingEnded

/-! ### Codes in the stream -/

def lengthOrder : List Nat := [16, 17, 18, 0, 8, 7, 9, 6, 10, 5, 11, 4, 12, 3, 13, 2, 14, 1, 15]

def writtenLengths (count : Nat) : Undoing (Array Nat) :=
  (lengthOrder.take count).foldlM (fun lengths symbol => return lengths.setIfInBounds symbol (← lowBits 3))
    (Array.replicate 19 0)

/-- The next symbol for lengths. Without any code each bit stands for the length zero. -/
def nextLength (code : PrefixCode) : Undoing Nat :=
  if code.symbols.isEmpty then (fun _ => 0) <$> nextBit .lowestFirst
  else code.next .lowestFirst (.deflate .lengthCode)

def repetition (symbol : Nat) (lengths : Array Nat) : Undoing (Option Nat × Nat) := do
  if symbol < 16 then return (some symbol, 1)
  else if symbol = 16 then return (lengths.back?, 3 + (← lowBits 2))
  else if symbol = 17 then return (some 0, 3 + (← lowBits 3))
  else return (some 0, 11 + (← lowBits 7))

def codeLengths (code : PrefixCode) (count : Nat) : (fuel : Nat) → Array Nat → Undoing (Array Nat)
  | 0, lengths => pure lengths
  | fuel + 1, lengths => do
    if count ≤ lengths.size then return lengths
    else match ← repetition (← nextLength code) lengths with
      | (none, _) => fail .lengthRepeat
      | (some length, times) =>
        if count < lengths.size + times then fail .lengthRepeat
        else codeLengths code count fuel (lengths ++ Array.replicate times length)

/-- Check that a code leaves no room. Only a code with no codes but one of one bit may do so. -/
def checkRoom (code : PrefixCode) (problem : DeflateProblem) : Undoing Unit :=
  if code.room < 0 ∨ 0 < code.room ∧ !code.isSingleBit then fail problem else pure ()

def readCodes : Undoing Codes := do
  let literalCount := 257 + (← lowBits 5)
  let distanceCount := 1 + (← lowBits 5)
  let lengthCount := 4 + (← lowBits 4)
  if 286 < literalCount ∨ 30 < distanceCount then fail .tooManyCodes
  else
    let lengthCode := PrefixCode.ofLengths longest (← writtenLengths lengthCount)
    if !lengthCode.symbols.isEmpty ∧ lengthCode.room ≠ 0 then fail .lengthCode
    let count := literalCount + distanceCount
    let lengths ← codeLengths lengthCode count count #[]
    if lengths[endSymbol]? = some 0 then fail .noEndCode
    let literals := PrefixCode.ofLengths longest (lengths.extract 0 literalCount)
    checkRoom literals .literalCode
    let distances := PrefixCode.ofLengths longest (lengths.extract literalCount count)
    checkRoom distances .distanceCode
    return { literals, distances }

def blocks (symbols : Nat) : (fuel : Nat) → Undoing Unit
  | 0 => throw .packingEnded
  | fuel + 1 => do
    let isLast ← lowBits 1
    match ← lowBits 2 with
    | 0 => storedBlock
    | 1 => codedBlock .fixed symbols
    | 2 => codedBlock (← readCodes) symbols
    | _ => fail .blockKind
    if isLast = 0 then blocks symbols fuel

/-- Undo a deflated stream. No block and no symbol takes less than a bit. -/
def portion (source : ByteArray) (place : Nat) : Portion :=
  .ofUndoing (blocks (8 * source.size + 1) (8 * source.size + 1)) source place

end OvfInspect.Storage.Packing.Deflate
