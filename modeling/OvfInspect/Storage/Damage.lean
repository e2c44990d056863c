import OvfInspect.Number.Integer
import OvfInspect.Text.Quoted

/-!
# Damage

What can be wrong with the bytes of an archive, or with the packing around them, so that its members
cannot be listed or read.
-/

namespace OvfInspect.Storage

inductive NoHeader where
  | nothing
  /-- Less than a block. -/
  | cutOff
  /-- A block of zeros, which ends an archive. -/
  | zeros
  | wrongSum
  /-- A header with a field that cannot be understood. -/
  | badField
  deriving DecidableEq, Repr

def NoHeader.message : NoHeader → String
  | nothing => "empty header"
  | cutOff => "truncated header"
  | zeros => "end of file header"
  | wrongSum => "bad checksum"
  | badField => "invalid header"

inductive DeflateProblem where
  | blockKind
  | storedSize
  | tooManyCodes
  | lengthCode
  | lengthRepeat
  | noEndCode
  | literalCode
  | distanceCode
  | literal
  | distance
  | tooFarBack
  deriving DecidableEq, Repr

def DeflateProblem.message (problem : DeflateProblem) : String :=
  "Error -3 while decompressing data: " ++ match problem with
    | blockKind => "invalid block type"
    | storedSize => "invalid stored block lengths"
    | tooManyCodes => "too many length or distance symbols"
    | lengthCode => "invalid code lengths set"
    | lengthRepeat => "invalid bit length repeat"
    | noEndCode => "invalid code -- missing end-of-block"
    | literalCode => "invalid literal/lengths set"
    | distanceCode => "invalid distances set"
    | literal => "invalid literal/length code"
    | distance => "invalid distance code"
    | tooFarBack => "invalid distance too far back"

inductive GzipProblem where
  /-- Another file begins, with these bytes. -/
  | otherFile (start : List UInt8)
  | method
  | wrongSum (stored actual : Nat)
  | wrongSize
  deriving DecidableEq, Repr

def marked (n : Nat) : String :=
  "0x" ++ Text.hexDigits 1 n

def quotedByte (byte : UInt8) : String :=
  let c := Char.ofNat byte.toNat
  if byte < 128 then Text.quotedChar '\'' c else "\\x" ++ Text.hexDigits 2 byte.toNat

def quotedBytes (bytes : List UInt8) : String :=
  if bytes.contains 39 && !bytes.contains 34 then
    "b\"" ++ String.join (bytes.map fun byte => if byte = 39 then "'" else quotedByte byte) ++ "\""
  else "b'" ++ String.join (bytes.map quotedByte) ++ "'"

def GzipProblem.message : GzipProblem → String
  | otherFile start => "Not a gzipped file (" ++ quotedBytes start ++ ")"
  | method => "Unknown compression method"
  | wrongSum stored actual => "CRC check failed " ++ marked stored ++ " != " ++ marked actual
  | wrongSize => "Incorrect length of data produced"

inductive XzProblem where
  | otherFile
  | corrupt
  | options
  deriving DecidableEq, Repr

def XzProblem.message : XzProblem → String
  | otherFile => "Input format not supported by decoder"
  | corrupt => "Corrupt input data"
  | options => "Invalid or unsupported options"

inductive Damage where
  | missingBytes
  /-- There is no header where one is needed. -/
  | noHeader (problem : NoHeader)
  /-- The packing cannot be undone where a header is needed. -/
  | packedHeader (problem : DeflateProblem)
  | packingEnded
  | deflate (problem : DeflateProblem)
  | gzip (problem : GzipProblem)
  | bzip
  | xz (problem : XzProblem)
  /-- A setting or a map of pieces has something else in the place of a number. -/
  | number (shown : String) (refusal : Number.IntegerRefusal)
  | missingLine
  /-- A block with a map of pieces ends too early. -/
  | missingField
  | tooFar
  /-- A place is beyond those that files have. -/
  | unreachable
  | tooWide
  | tooLarge
  deriving DecidableEq, Repr

namespace Damage

def isOfArchive : Damage → Bool
  | missingBytes => true
  | noHeader _ => true
  | packedHeader _ => true
  | _ => false

def isOfSystem : Damage → Bool
  | gzip _ => true
  | bzip => true
  | unreachable => true
  | _ => false

/-- The most characters that a message shows of what is no number. -/
def shownLimit : Nat := 200

def message : Damage → String
  | missingBytes => "unexpected end of data"
  | noHeader problem => problem.message
  | packedHeader problem => "zlib error: " ++ problem.message
  | packingEnded => "Compressed file ended before the end-of-stream marker was reached"
  | deflate problem => problem.message
  | gzip problem => problem.message
  | bzip => "Invalid data stream"
  | xz problem => problem.message
  | number shown .notInteger =>
    "invalid literal for int() with base 10: " ++ String.ofList (shown.toList.take shownLimit)
  | number _ (.tooManyDigits count) => Number.excessMessage count
  | missingLine => "not enough values to unpack (expected 2, got 1)"
  | missingField => "index out of range"
  | tooFar => "cannot fit 'int' into an offset-sized integer"
  | unreachable => "[Errno 22] Invalid argument"
  | tooWide => "cannot fit 'int' into an index-sized integer"
  | tooLarge => ""

end Damage

/-- The last place that a file can have. -/
def lastPlace : Nat := 1 <<< 44 - 4096

/-- A sequence of bytes that may have been packed: those that can be read, why there are no more if
there should be, and the last place that can be asked for. -/
structure Stream where
  bytes : ByteArray
  ending : Option Damage := none
  reach : Nat := lastPlace

end OvfInspect.Storage
