import OvfInspect.Storage.Packing.Checksum
import OvfInspect.Storage.Packing.Lzma

/-!
# Xz files

An xz file is a sequence of streams. A stream has a header, blocks, an index of the blocks, and a
footer that repeats the header. The symbols of a block come in chunks. A file may also be a single
stream of symbols with a short header.
-/

namespace OvfInspect.Storage.Packing.Xz

open Lzma (Memory Form remember restart)

def require (condition : Bool) (problem : XzProblem) : Lzma.Decoding Unit :=
  if condition then pure () else stopAt problem

/-- The next bytes, all of which have to be there before any is looked at. -/
def takeBytes (count : Nat) : Lzma.Decoding ByteArray := fun coder =>
  if coder.place + count ≤ coder.source.size then
    .ok (coder.source.extract coder.place (coder.place + count))
      { coder with place := coder.place + count }
  else .error .packingEnded coder

def skipZeros (start : Nat) : Lzma.Decoding Unit := do
  let place := (← get).place
  (List.replicate ((start + 4 - place % 4) % 4) ()).forM fun _ => do
    require ((← takeByte) = 0) .corrupt

/-- A number in groups of seven bits, the lowest first. All bytes but the last have their highest bit
set, and the last is not zero unless it is the only one. -/
def takeNumber : (most : Nat) → (isFirst : Bool) → Lzma.Decoding Nat
  | 0, _ => stopAt .corrupt
  | most + 1, isFirst => do
    let byte ← takeByte
    if byte < 128 then
      require (isFirst || byte ≠ 0) .corrupt
      return byte.toNat
    else return byte.toNat % 128 + 128 * (← takeNumber most false)

def numberBytes : Nat := 9

/-! ### Chunks -/

def windowOfByte? (byte : UInt8) : Option Nat :=
  let n := byte.toNat
  if 40 < n then none
  else if n = 40 then some (1 <<< 32 - 1)
  else some ((2 + n % 2) <<< (n / 2 + 11))

def symbolChunk (control : Nat) : Lzma.Decoding Unit := do
  let size := control % 32 * 65536 + (← takeHighFirst 2 0) + 1
  let packed := (← takeHighFirst 2 0) + 1
  if 0xc0 ≤ control then
    match Form.ofByte? (← takeByte) with
    | none => stopAt .corrupt
    | some form => restart form
  else if 0xa0 ≤ control then restart (← get).memory.form
  let stop := (← get).place + packed
  modify fun coder => { coder with limit := stop }
  openRange
  Lzma.readSymbols false (size + 1) (some size)
  require ((← get).place = stop) .corrupt
  modify fun coder => { coder with limit := coder.source.size }

def plainChunk : Lzma.Decoding Unit := do
  let size := (← takeHighFirst 2 0) + 1
  modify fun coder => { coder with
    place := coder.place + size
    result := coder.result ++ coder.source.extract coder.place (coder.place + size) }
  let coder ← get
  if coder.source.size < coder.place then throw .packingEnded

/-- The chunks of a block. The first one begins a window, and the first one of symbols that follows a
beginning has a form. -/
def chunks : (fuel : Nat) → (needsStart needsForm : Bool) → Lzma.Decoding Unit
  | 0, _, _ => throw .packingEnded
  | fuel + 1, needsStart, needsForm => do
    let control := (← takeByte).toNat
    if control = 0 then return
    let starts := control = 1 || 0xe0 ≤ control
    require (starts || !needsStart) .corrupt
    if starts then
      modify fun coder =>
        { coder with memory := { coder.memory with start := coder.result.size } }
    if 0x80 ≤ control then
      require (0xc0 ≤ control || !(needsForm || starts)) .corrupt
      symbolChunk control
      chunks fuel false false
    else
      require (control ≤ 2) .corrupt
      plainChunk
      chunks fuel false (needsForm || starts)

/-! ### Checks -/

def checkSize (kind : Nat) : Nat :=
  if kind = 0 then 0 else 4 <<< ((kind - 1) / 3)

def check? (kind : Nat) (bytes : ByteArray) : Option (List UInt8) :=
  match kind with
  | 0 => some []
  | 1 => some (Digest.highFirst (remainder32 bytes).toNat 4).reverse
  | 4 => some (Digest.highFirst (remainder64 bytes).toNat 8).reverse
  | 10 => some (Digest.ofBytes bytes).toBytes
  | _ => none

def requireSum (bytes : ByteArray) : Lzma.Decoding Unit :=
  let size := bytes.size - 4
  require (lowFirst bytes size 4 = (remainder32 (bytes.extract 0 size)).toNat) .corrupt

/-! ### Blocks -/

/-- What the header of a block says: the sizes, where it gives them, and the window. -/
structure BlockHeader where
  packed : Option Nat
  size : Option Nat
  window : Nat
  deriving DecidableEq, Repr

def symbolsKind : Nat := 0x21

def reservedKind : Nat := 1 <<< 62

def within {α : Type} (bytes : ByteArray) (reading : Lzma.Decoding α) : Lzma.Decoding α := fun coder =>
  match reading { coder with source := bytes, place := 0, limit := bytes.size } with
  | .ok a _ => .ok a coder
  | .error .packingEnded _ => .error (.xz .corrupt) coder
  | .error damage _ => .error damage coder

def readBlockHeader : Lzma.Decoding BlockHeader := do
  let parts := (← takeByte).toNat
  require (parts &&& 0x3c = 0) .options
  let packed ← if parts.testBit 6 then some <$> takeNumber numberBytes true else pure none
  require (packed ≠ some 0) .corrupt
  let size ← if parts.testBit 7 then some <$> takeNumber numberBytes true else pure none
  let kind ← takeNumber numberBytes true
  require (kind < reservedKind) .corrupt
  require (parts % 4 = 0 ∧ kind = symbolsKind) .options
  require ((← takeNumber numberBytes true) = 1) .options
  match windowOfByte? (← takeByte) with
  | none => stopAt .options
  | some window =>
    let coder ← get
    require ((coder.source.extract coder.place coder.source.size).toList.all (· = 0)) .options
    return { packed, size, window := Lzma.windowOf window }

def readBlock (kind headerSize : Nat) : Lzma.Decoding (Nat × Nat) := do
  let bytes ← takeBytes headerSize
  requireSum bytes
  let header ← within (bytes.extract 1 (headerSize - 4)) readBlockHeader
  let before ← get
  remember fun memory => { memory with window := header.window }
  chunks before.source.size true true
  let after ← get
  let packed := after.place - before.place
  let bytes := after.result.extract before.result.size after.result.size
  require (header.packed.all (· = packed) && header.size.all (· = bytes.size)) .corrupt
  skipZeros before.place
  let stored ← takeBytes (checkSize kind)
  require ((check? kind bytes).all (· = stored.toList)) .corrupt
  return (headerSize + packed + checkSize kind, bytes.size)

def readBlocks (kind : Nat) : (fuel : Nat) → Lzma.Decoding (List (Nat × Nat))
  | 0 => throw .packingEnded
  | fuel + 1 => do
    let coder ← get
    match coder.source[coder.place]? with
    | none => throw .packingEnded
    | some 0 => do
      let _ ← takeByte
      return []
    | some size =>
      let block ← readBlock kind (4 * (size.toNat + 1))
      return block :: (← readBlocks kind fuel)

/-! ### Streams -/

def readIndex (blocks : List (Nat × Nat)) : Lzma.Decoding Unit := do
  let start := (← get).place - 1
  require ((← takeNumber numberBytes true) = blocks.length) .corrupt
  let written ← blocks.mapM fun _ => do
    return (← takeNumber numberBytes true, ← takeNumber numberBytes true)
  skipZeros start
  require (written = blocks) .corrupt
  let coder ← get
  let sum := remainder32 (coder.source.extract start coder.place)
  require ((← takeLowFirst 4) = sum.toNat) .corrupt

def startMark : List UInt8 := [0xfd, 0x37, 0x7a, 0x58, 0x5a, 0]

def stopMark : List UInt8 := [0x59, 0x5a]

def readStream : Lzma.Decoding Unit := do
  let header ← takeBytes 12
  require ((header.extract 0 6).toList = startMark) .otherFile
  requireSum (header.extract 6 12)
  let parts := lowFirst header 6 2
  require (parts % 256 = 0 ∧ parts < 16 * 256) .options
  let kind := parts / 256
  let blocks ← readBlocks kind ((← get).source.size + 1)
  let start := (← get).place - 1
  readIndex blocks
  let indexSize := (← get).place - start
  let footer ← takeBytes 12
  require ((footer.extract 10 12).toList = stopMark) .corrupt
  require (lowFirst footer 0 4 = (remainder32 (footer.extract 4 10)).toNat) .corrupt
  let again := lowFirst footer 8 2
  require (again % 256 = 0 ∧ again < 16 * 256) .options
  require (4 * (lowFirst footer 4 4 + 1) = indexSize ∧ again = parts) .corrupt

def portion (source : ByteArray) (place : Nat) : Portion :=
  let isFile := source[place]?.any fun byte => startMark.head? ≠ some byte
  let reading := if isFile then Lzma.readFile else readStream
  let coder : Coder Memory := ⟨source, place, source.size, .empty, 0, 0, #[], {}⟩
  match reading.run coder with
  | .ok _ coder => ⟨coder.result, coder.place, none⟩
  | .error damage coder => .cut coder.result damage

def unpack (source : ByteArray) : Stream := streams portion source

end OvfInspect.Storage.Packing.Xz
