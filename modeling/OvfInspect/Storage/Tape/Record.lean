import OvfInspect.Storage.Tape.Settings

/-!
# Records of members

A record says of a member what its headers say: its name, its kind, where its content lies and in
which pieces.
-/

namespace OvfInspect.Storage.Tape

/-- A piece of a file that is there: where it begins in the file, and its length. -/
abbrev Piece := Int × Int

structure Record where
  name : String
  size : Int
  letter : UInt8
  target : String
  /-- Where the content begins on the tape. -/
  start : Nat := 0
  /-- The pieces of a file that are there, where not all of it is. -/
  pieces : Option (List Piece) := none
  deriving DecidableEq, Repr

structure Outline where
  pieces : List Piece
  isContinued : Bool
  size : Int
  deriving DecidableEq, Repr

def isFileLetter (letter : UInt8) : Bool :=
  letter ∈ [oldFileLetter, fileLetter, wholeFileLetter, piecesLetter]

def otherLetters : List UInt8 :=
  [hardLinkLetter, symbolicLinkLetter, directoryLetter, pipeLetter, characterDeviceLetter,
    blockDeviceLetter]

/-- Whether content follows the header of a member. It does behind a letter that has no meaning. -/
def Record.hasContent (record : Record) : Bool :=
  record.letter ∉ otherLetters

def blocksSize (size : Int) : Int :=
  (size.tdiv blockSize + (if 0 < size.tmod blockSize then 1 else 0)) * blockSize

def Record.bare (record : Record) : Record :=
  if record.letter = directoryLetter then
    { record with name := Archive.withoutSlashes record.name }
  else record

/-! ### Headers -/

def piecesAt (block : List UInt8) : (count : Nat) → (offset : Nat) → Except Stop (List Piece)
  | 0, _ => .ok []
  | count + 1, offset => do
    let start ← numberField? block offset 12
    let length ← numberField? block (offset + 12) 12
    return (start, length) :: (← piecesAt block count (offset + 24))

def outlineIn (block : List UInt8) : Except Stop Outline := do
  let pieces ← piecesAt block 4 386
  return ⟨pieces, block[482]? ≠ some 0, ← numberField? block 483 12⟩

/-- The kind that a header says. The oldest archives mark a directory by its name only. -/
def letterOf (block : List UInt8) (name : String) : UInt8 :=
  let letter := (block[156]?).getD 0
  if letter = oldFileLetter ∧ name.endsWith "/" then directoryLetter else letter

/-- The letters whose headers have something else in place of the first part of a name. -/
def shortNameLetters : List UInt8 := [longNameLetter, longTargetLetter, piecesLetter]

def recordIn (block : List UInt8) (size : Int) : Record :=
  let name := textField block 0 100
  let letter := letterOf block name
  let before := textField block 345 155
  let record : Record :=
    Record.bare { name, size, letter, target := textField block 157 100 }
  if before = "" ∨ letter ∈ shortNameLetters then record
  else { record with name := before ++ "/" ++ record.name }

def readHeader (block : List UInt8) : Except Stop (Record × Outline) := do
  if block.isEmpty then .error (.noHeader .nothing)
  else if block.length ≠ blockSize then .error (.noHeader .cutOff)
  else if block.all (· == 0) then .error (.noHeader .zeros)
  else
    let sum ← numberField? block 148 8
    if sum ≠ checksum block ∧ sum ≠ signedChecksum block then .error (.noHeader .wrongSum)
    else
      let numbers := [(100, 8), (108, 8), (116, 8), (136, 12), (329, 8), (337, 8)]
      numbers.forM fun place => do
        let _ ← numberField? block place.1 place.2
      let record := recordIn block (← numberField? block 124 12)
      let outline ← if record.letter = piecesLetter then outlineIn block else .ok ⟨[], false, 0⟩
      return (record, outline)

/-! ### Settings -/

def Record.apply (record : Record) (setting : String × String) : Except Stop Record :=
  let (key, value) := setting
  if key = piecesNameKey then .ok { record with name := value }
  else if key = piecesSizeKey ∨ key = piecesRealSizeKey then do
    return { record with size := ← integerIn value }
  else if key = nameKey then .ok { record with name := Archive.withoutSlashes value }
  else if key = targetKey then .ok { record with target := value }
  else if key = sizeKey then .ok { record with size := integerOrZero value }
  else .ok record

def Record.applyAll (record : Record) (settings : Settings) : Except Stop Record :=
  settings.foldlM Record.apply record

/-! ### Maps of pieces in settings -/

/-- Numbers taken in pairs. A last one without another is left out. -/
def inPairs : List Int → List Piece
  | first :: second :: rest => (first, second) :: inPairs rest
  | _ => []

def piecesInMap (map : String) : Except Stop (List Piece) := do
  return inPairs (← (map.splitOn ",").mapM integerIn)

def numbersOf (written : List WrittenSetting) (key : String) : Except Stop (List Int) :=
  (written.filter fun setting => setting.1 == key.toUTF8.toList).mapM fun setting =>
    let number := (String.fromUTF8? ⟨setting.2.toArray⟩).bind fun text =>
      (Number.readInteger text.toList).toOption
    match number with
    | some n => .ok n
    | none => .error (.noHeader .badField)

def piecesInSettings (written : List WrittenSetting) : Except Stop (List Piece) := do
  let starts ← numbersOf written piecesOffsetKey
  let lengths ← numbersOf written piecesLengthKey
  return starts.zip lengths

end OvfInspect.Storage.Tape
