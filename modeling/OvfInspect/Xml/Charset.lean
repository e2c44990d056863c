import OvfInspect.Xml.CodePage

/-!
# From bytes to characters

A document's first bytes show whether its characters take one byte or two; the encoding it declares
then decides among the one-byte encodings. Bytes without a meaning make a document ill-formed.
-/

namespace OvfInspect.Xml

inductive Refusal where
  /-- The document is not well-formed. -/
  | illFormed
  /-- The declared encoding has no known name. -/
  | unknownEncoding (name : String)
  /-- The declared name belongs to a transformation that does not yield text. -/
  | notTextEncoding (name : String)
  /-- The declared encoding is not a single-byte one. -/
  | multiByteEncoding
  /-- The declared encoding is for names, or none on purpose, and refuses the bytes of a table. -/
  | refusingEncoding (name : String)
  deriving DecidableEq, Repr

inductive ByteOrder where
  | bigEndian
  | littleEndian
  deriving DecidableEq, Repr

/-- What the first bytes tell about the encoding, and how many of them are only a mark. -/
inductive Family where
  | oneByte (mark : Nat)
  | twoByte (order : ByteOrder) (mark : Nat)
  deriving DecidableEq, Repr

/-- The encoding family of a document. A zero byte in the first pair tells two-byte units apart. -/
def Family.ofBytes : List UInt8 → Family
  | 0xFE :: 0xFF :: _ => .twoByte .bigEndian 2
  | 0xFF :: 0xFE :: _ => .twoByte .littleEndian 2
  | 0xEF :: 0xBB :: 0xBF :: _ => .oneByte 3
  | 0 :: _ => .twoByte .bigEndian 0
  | _ :: 0 :: _ => .twoByte .littleEndian 0
  | _ => .oneByte 0

def isXmlChar (c : Char) : Bool :=
  let n := c.toNat
  n == 9 || n == 10 || n == 13 || (32 ≤ n && n != 0xFFFE && n != 0xFFFF)

def legal? (cs : List Char) : Option (List Char) :=
  if cs.all isXmlChar then some cs else none

def decodeUtf8? (bytes : List UInt8) : Option (List Char) :=
  (String.fromUTF8? ⟨bytes.toArray⟩).map String.toList

def ByteOrder.unit : ByteOrder → UInt8 → UInt8 → Nat
  | .bigEndian, a, b => 256 * a.toNat + b.toNat
  | .littleEndian, a, b => 256 * b.toNat + a.toNat

/-- The characters of two-byte units up to the first fault, and whether they are all. A unit from
the first half of the surrogates takes the next one with it; one from the second half cannot come
first; no byte may be left over. -/
def ofUnits (order : ByteOrder) : List UInt8 → List Char × Bool
  | [] => ([], true)
  | [_] => ([], false)
  | a :: b :: rest =>
    let u := order.unit a b
    if 0xDC00 ≤ u && u ≤ 0xDFFF then ([], false)
    else if 0xD800 ≤ u && u ≤ 0xDBFF then
      match rest with
      | c :: d :: rest =>
        let (cs, whole) := ofUnits order rest
        let v := order.unit c d
        (Char.ofNat (0x10000 + (u % 0x400) * 0x400 + v % 0x400) :: cs, whole)
      | _ => ([], false)
    else
      let (cs, whole) := ofUnits order rest
      (Char.ofNat u :: cs, whole)

def CodePage.decode? (page : CodePage) (bytes : List UInt8) : Option (List Char) :=
  let upper := page.upper.toList.toArray
  bytes.mapM fun byte =>
    if byte.toNat < page.first then some (Char.ofNat byte.toNat)
    else match upper[byte.toNat - page.first]? with
      | some c => if c = '\ufffd' then none else some c
      | none => none

def CodePage.ascii : CodePage := ⟨128, ""⟩

def CodePage.latin : CodePage := ⟨256, ""⟩

def lowerAscii (s : String) : String :=
  String.ofList (s.toList.map Char.toLower)

/-- The form in which encoding names are compared: small letters, with one underscore for each run
of other signs between two parts. -/
def encodingKey (name : String) : String :=
  let parts := (lowerAscii name).toList.splitOnP fun c => !(c.isAlphanum || c == '.')
  String.ofList (['_'].intercalate (parts.filter (· ≠ [])))

def undottedKey (key : String) : String :=
  String.ofList (key.toList.map fun c => if c = '.' then '_' else c)

def refusingNames : List String := ["idna", "punycode", "undefined"]

inductive Decoder where
  | utf8
  /-- Every byte is its own code point, and some more of them are letters. -/
  | latin
  | utf16 (order : Option ByteOrder)
  | page (page : CodePage)
  deriving Inhabited

def Decoder.ofKey? (name key : String) : Option (Except Refusal Decoder) :=
  if key ∈ asciiNames then some (.ok (.page .ascii))
  else if key ∈ latinNames then some (.ok (.page .latin))
  else if key ∈ multiByteNames then some (.error .multiByteEncoding)
  else if key ∈ foreignNames then some (.error .illFormed)
  else if key ∈ transformNames then some (.error (.notTextEncoding name))
  else if key ∈ refusingNames then some (.error (.refusingEncoding key))
  else (codePages.find? fun entry => key ∈ entry.1).map fun entry => .ok (.page entry.2)

/-- The decoder for a declared encoding. A key that is not known with its points may be one with
underscores in their place. -/
def Decoder.ofName (name : String) : Except Refusal Decoder :=
  match lowerAscii name with
  | "utf-8" => .ok .utf8
  | "iso-8859-1" => .ok .latin
  | "us-ascii" => .ok (.page .ascii)
  | "utf-16" => .ok (.utf16 none)
  | "utf-16be" => .ok (.utf16 (some .bigEndian))
  | "utf-16le" => .ok (.utf16 (some .littleEndian))
  | _ =>
    let key := encodingKey name
    let joined := undottedKey key
    let found := (Decoder.ofKey? name key).orElse fun _ =>
      if joined ∈ undottedNames then none else Decoder.ofKey? name joined
    found.getD (.error (.unknownEncoding name))

end OvfInspect.Xml
