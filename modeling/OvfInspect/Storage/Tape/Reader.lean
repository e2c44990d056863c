import OvfInspect.Storage.Tape.Record

/-!
# Reading archives

The members of an archive are read header by header. Special headers are read together with the
member that they speak of. The archive ends with a block of zeros, or with anything else behind a
member that is no header.
-/

namespace OvfInspect.Storage.Tape

/-- How far a tape has been read: the next byte, the place of the next header, and the settings for
all members that follow. -/
structure Cursor where
  position : Nat := 0
  offset : Nat := 0
  general : Settings := []
  deriving Repr

abbrev Reading := ExceptT Stop (StateM Cursor)

def stop {α : Type} (stop : Stop) : Reading α := throw stop

def found {α : Type} (result : Except Stop α) : Reading α := ExceptT.mk (pure result)

/-- The size that no object in memory reaches. -/
def memoryBound : Nat := 1 <<< 40

def sizeBound : Nat := 1 <<< 63

def read (tape : Stream) (count : Int) : Reading (List UInt8) := do
  if count < 0 then stop (.noHeader .badField)
  else if (sizeBound : Int) ≤ count then stop (.damage .tooWide)
  else if (memoryBound : Int) ≤ count then stop (.damage .tooLarge)
  else
    let cursor ← get
    let bytes := tape.bytes.extract cursor.position (cursor.position + count.toNat)
    set { cursor with position := cursor.position + bytes.size }
    match tape.ending with
    | some damage => if bytes.size < count.toNat then stop (.damage damage) else pure bytes.toList
    | none => pure bytes.toList

def skip (start : Nat) (size : Int) : Reading Unit := do
  if blocksSize size < 0 then stop (.noHeader .badField)
  else modify fun cursor => { cursor with offset := start + (blocksSize size).toNat }

/-! ### Pieces -/

def continuedPieces (tape : Stream) : (fuel : Nat) → Reading (List Piece)
  | 0 => stop (.damage .missingField)
  | fuel + 1 => do
    let block ← read tape blockSize
    let pieces ← found (piecesAt block 21 0)
    let pieces := pieces.filter fun piece => piece.1 ≠ 0 ∧ piece.2 ≠ 0
    let mark : Option UInt8 := block[504]?
    match mark with
    | none => stop (.damage .missingField)
    | some 0 => pure pieces
    | some _ => return pieces ++ (← continuedPieces tape fuel)

def readPieces (tape : Stream) (record : Record) (outline : Outline) : Reading Record := do
  let more ← if outline.isContinued then continuedPieces tape (tape.bytes.size / blockSize + 1)
    else pure []
  let start := (← get).position
  skip start record.size
  return { record with start, size := outline.size, pieces := some (outline.pieces ++ more) }

def lineInteger (line : List UInt8) : Except Stop Int :=
  (Number.readInteger (line.map fun (byte : UInt8) => Char.ofNat byte.toNat)).mapError fun refusal =>
    .damage (.number (quotedBytes line) refusal)

def splitLine (text : List UInt8) : Option (List UInt8 × List UInt8) :=
  let line := text.takeWhile (· ≠ 10)
  if line.length < text.length then some (line, text.drop (line.length + 1)) else none

/-- The next line of a map, for which a further block may be needed. -/
def nextLine (tape : Stream) (text : List UInt8) : Reading (List UInt8 × List UInt8) := do
  match splitLine text with
  | some parts => pure parts
  | none => match splitLine (text ++ (← read tape blockSize)) with
    | some parts => pure parts
    | none => stop (.damage .missingLine)

def lineIntegers (tape : Stream) : (count : Nat) → List UInt8 → Reading (List Int)
  | 0, _ => pure []
  | count + 1, text => do
    let (line, rest) ← nextLine tape text
    let n ← found (lineInteger line)
    return n :: (← lineIntegers tape count rest)

def readMapped (tape : Stream) (record : Record) : Reading Record := do
  let block ← read tape blockSize
  match splitLine block with
  | none => stop (.damage .missingLine)
  | some (line, rest) =>
    let count ← found (lineInteger line)
    let numbers ← lineIntegers tape (2 * min count.toNat tape.bytes.size) rest
    return { record with start := (← get).position, pieces := some (inPairs numbers) }

/-! ### Members -/

def following {α : Type} (reading : Reading α) : Reading α :=
  tryCatch reading fun
    | .inl problem => stop (.damage (.noHeader problem))
    | .inr damage => stop (.damage damage)

def readPlain (record : Record) : Reading Record := do
  let cursor ← get
  skip cursor.position (if record.hasContent then record.size else 0)
  return ((← found (record.applyAll cursor.general)).bare)

def withPieces (tape : Stream) (settings : Settings) (written : List WrittenSetting)
    (record : Record) : Reading Record := do
  match settings.lookup piecesMapKey with
  | some map => return { record with pieces := some (← found (piecesInMap map)) }
  | none =>
    if settings.has piecesSizeKey then
      return { record with pieces := some (← found (piecesInSettings written)) }
    else if settings.lookup piecesMajorKey = some "1" ∧
        settings.lookup piecesMinorKey = some "0" then readMapped tape record
    else return record

def withSettings (settings : Settings) (record : Record) : Reading Record := do
  let record ← found (record.applyAll settings)
  if settings.has sizeKey then
    skip record.start (if record.hasContent then record.size else 0)
  return record

def Record.withoutSlash (record : Record) : Record :=
  if record.letter = directoryLetter ∧ record.name.endsWith "/" then
    { record with name := String.ofList record.name.toList.dropLast }
  else record

/-- The record of the next member. Each header uses up a block. -/
def readMember (tape : Stream) : (fuel : Nat) → Reading Record
  | 0 => stop (.noHeader .nothing)
  | fuel + 1 => do
    let block ← read tape blockSize
    let (header, outline) ← found (readHeader block)
    if header.letter = longNameLetter then
      let name := textOf (beforeZero (← read tape (blocksSize header.size)))
      let record ← following (readMember tape fuel)
      return { record with name }.withoutSlash
    else if header.letter = longTargetLetter then
      let target := textOf (beforeZero (← read tape (blocksSize header.size)))
      let record ← following (readMember tape fuel)
      return { record with target }.withoutSlash
    else if header.letter = piecesLetter then readPieces tape header outline
    else if header.letter ∈ [settingsLetter, oldSettingsLetter, generalSettingsLetter] then
      let bytes ← read tape (blocksSize header.size)
      let written ← found ((writtenSettings bytes.length bytes).mapError .noHeader)
      let settings := (← get).general.putAll written
      if header.letter = generalSettingsLetter then
        modify fun cursor => { cursor with general := settings }
      let record ← following (readMember tape fuel)
      let record ← withPieces tape settings written record
      if header.letter = generalSettingsLetter then pure record
      else withSettings settings record
    else readPlain { header with start := (← get).position }

/-! ### Listing -/

def atHeader : Damage → Damage
  | .deflate problem => .packedHeader problem
  | damage => damage

def advance (tape : Stream) (cursor : Cursor) : Except Damage Cursor :=
  if cursor.offset = cursor.position then .ok cursor
  else if sizeBound < cursor.offset then .error .tooFar
  else if tape.reach + 1 < cursor.offset then .error .unreachable
  else if cursor.offset ≤ tape.bytes.size then .ok { cursor with position := cursor.offset }
  else .error (tape.ending.getD .missingBytes)

/-- The record of the next member, or none where the archive ends. At its beginning anything that is
no header is damage, but for a block of zeros. -/
def nextMember (tape : Stream) (cursor : Cursor) : Except Damage (Option Record × Cursor) := do
  let cursor ← advance tape cursor
  match (readMember tape (tape.bytes.size / blockSize + 1)).run cursor with
  | (.ok record, cursor) => .ok (some record, cursor)
  | (.error (.inl problem), cursor) =>
    if cursor.offset = 0 ∧ problem ≠ .zeros then .error (.noHeader problem)
    else .ok (none, cursor)
  | (.error (.inr damage), _) => .error (atHeader damage)

def remaining (tape : Stream) : (fuel : Nat) → Cursor → Except Damage (List Record)
  | 0, _ => .ok []
  | fuel + 1, cursor => do
    match ← nextMember tape cursor with
    | (none, _) => .ok []
    | (some record, cursor) => return record :: (← remaining tape fuel cursor)

/-- Open a tape, which reads the first member, and list all members. Damage at the first member
keeps the tape from being opened. -/
def list (tape : Stream) : Except Damage (Except Damage (List Record)) := do
  match ← nextMember tape {} with
  | (none, _) => .ok (.ok [])
  | (some first, cursor) =>
    return (remaining tape (tape.bytes.size / blockSize + 1) cursor).map (first :: ·)

end OvfInspect.Storage.Tape
