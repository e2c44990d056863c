import OvfInspect.Storage.Archive

/-!
# Blocks of archives

An archive is a sequence of blocks. Each member has a header block, which holds its name, size and
kind as text fields and is guarded by a checksum; the content of a file follows in whole blocks. A
header of a special kind says about the next member what does not fit into its fields.
-/

namespace OvfInspect.Storage.Tape

def blockSize : Nat := 512

def paddedSize (size : Nat) : Nat :=
  (size + blockSize - 1) / blockSize * blockSize

/-- The bytes of a header that its sum counts, with blanks in place of the sum itself. -/
def summed (block : List UInt8) : List UInt8 :=
  block.take 148 ++ List.replicate 8 32 ++ block.drop 156

def checksum (block : List UInt8) : Nat :=
  (summed block).foldl (fun n (byte : UInt8) => n + byte.toNat) 0

/-- The sum in older archives, which takes the bytes as numbers with a sign. -/
def signedChecksum (block : List UInt8) : Int :=
  (summed block).foldl (fun n (byte : UInt8) => n + byte.toInt8.toInt) 0

/-! ### The letters of headers -/

def oldFileLetter : UInt8 := 0
def fileLetter : UInt8 := 48
def hardLinkLetter : UInt8 := 49
def symbolicLinkLetter : UInt8 := 50
def characterDeviceLetter : UInt8 := 51
def blockDeviceLetter : UInt8 := 52
def directoryLetter : UInt8 := 53
def pipeLetter : UInt8 := 54

def wholeFileLetter : UInt8 := 55

def unknownLetter : UInt8 := 90

/-- A file of which only some pieces are there. -/
def piecesLetter : UInt8 := 83

def longNameLetter : UInt8 := 76

def longTargetLetter : UInt8 := 75

/-- A header whose content is a list of settings for the next member. -/
def settingsLetter : UInt8 := 120

def oldSettingsLetter : UInt8 := 88

def generalSettingsLetter : UInt8 := 103

def nameKey : String := "path"

def targetKey : String := "linkpath"

def sizeKey : String := "size"

/-! ### The settings for files in pieces -/

def piecesNameKey : String := "GNU.sparse.name"
def piecesSizeKey : String := "GNU.sparse.size"
def piecesRealSizeKey : String := "GNU.sparse.realsize"
def piecesMapKey : String := "GNU.sparse.map"
def piecesOffsetKey : String := "GNU.sparse.offset"
def piecesLengthKey : String := "GNU.sparse.numbytes"
def piecesMajorKey : String := "GNU.sparse.major"
def piecesMinorKey : String := "GNU.sparse.minor"

end OvfInspect.Storage.Tape
