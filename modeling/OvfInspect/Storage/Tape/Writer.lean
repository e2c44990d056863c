import OvfInspect.Storage.Tape.Block

/-!
# Writing archives

A member is written with the same rights, owner and time whatever it is. A name that is too long for
its field or not plain is written as a setting before the member, and as well as it fits in its
field.
-/

namespace OvfInspect.Storage.Tape

def plainBytes (text : String) : List UInt8 :=
  text.toList.map fun c => if c.toNat < 128 then c.toNat.toUInt8 else 63

def fitted (size : Nat) (bytes : List UInt8) : List UInt8 :=
  (bytes ++ List.replicate (size - bytes.length) 0).take size

def octalDigits : (count : Nat) → Nat → List UInt8
  | 0, _ => []
  | count + 1, n => octalDigits count (n / 8) ++ [(48 + n % 8).toUInt8]

def numberField (size n : Nat) : List UInt8 :=
  octalDigits (size - 1) n ++ [0]

def memberRights : Nat := 420

def fieldsBefore (name : String) (rights size : Nat) : List UInt8 :=
  fitted 100 (plainBytes name) ++ numberField 8 rights ++ numberField 8 0 ++ numberField 8 0 ++
    numberField 12 size ++ numberField 12 0

def fieldsBehind (letter : UInt8) (target : String) : List UInt8 :=
  letter :: fitted 100 (plainBytes target) ++ plainBytes "ustar" ++ [0] ++ plainBytes "00"

def headerBlock (name : String) (rights size : Nat) (letter : UInt8) (target : String) :
    List UInt8 :=
  let before := fieldsBefore name rights size
  let behind := fieldsBehind letter target
  let sum := checksum (before ++ List.replicate 8 32 ++ behind)
  fitted blockSize (before ++ numberField 7 sum ++ [32] ++ behind)

def inBlocks (bytes : List UInt8) : List UInt8 :=
  fitted (paddedSize bytes.length) bytes

/-- The length of an entry with its own length written before it. -/
def entryLength (length : Nat) : Nat :=
  let around := fun total => length + (toString total).length
  around (around (around 0))

def settingEntry (key value : String) : List UInt8 :=
  let value := value.toUTF8.toList
  let length := entryLength (key.length + value.length + 3)
  plainBytes (toString length ++ " " ++ key ++ "=") ++ value ++ [10]

/-- The settings for what does not fit into the fields of a header. -/
def settingEntries (name target : String) : List UInt8 :=
  (if Archive.fitsNameField name then [] else settingEntry nameKey name) ++
    (if Archive.fitsNameField target then [] else settingEntry targetKey target)

def settingsName : String := "././@PaxHeader"

def settingBlocks (entries : List UInt8) : List UInt8 :=
  if entries.isEmpty then []
  else headerBlock settingsName 0 entries.length settingsLetter "" ++ inBlocks entries

def blocks (name : String) (letter : UInt8) (content : List UInt8) (target : String) : List UInt8 :=
  settingBlocks (settingEntries name target) ++
    headerBlock name memberRights content.length letter target ++ inBlocks content

def memberBlocks (member : Member) : List UInt8 :=
  match member.kind with
  | .file bytes => blocks member.name fileLetter bytes ""
  | .unknown bytes => blocks member.name unknownLetter bytes ""
  | .directory =>
    blocks (if member.name.endsWith "/" then member.name else member.name ++ "/") directoryLetter
      [] ""
  | .symbolicLink target => blocks member.name symbolicLinkLetter [] target
  | .hardLink target => blocks member.name hardLinkLetter [] target

/-- The size of a record, of which an archive has a whole number. -/
def recordSize : Nat := 20 * blockSize

def bytes (members : List Member) : List UInt8 :=
  let content := members.flatMap memberBlocks ++ List.replicate (2 * blockSize) 0
  fitted ((content.length + recordSize - 1) / recordSize * recordSize) content

end OvfInspect.Storage.Tape
