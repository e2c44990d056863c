import OvfInspect.Xml.Declaration
import OvfInspect.Xml.Markup
import OvfInspect.Xml.Element

/-!
# Documents

A document is a declaration, a document type, one element, and comments or instructions around
them. Prefixes are resolved against the namespace declarations in scope.
-/

namespace OvfInspect.Xml

/-! ### Namespaces -/

/-- Which namespace each prefix stands for; the empty prefix is the default. -/
abbrev Scope := List (String × String)

def xmlNamespace : String := "http://www.w3.org/XML/1998/namespace"

def declarationNamespace : String := "http://www.w3.org/2000/xmlns/"

def initialScope : Scope := [("xml", xmlNamespace)]

def splitName (written : String) : String × String :=
  match written.toList.splitOn ':' with
  | [first, second] => (String.ofList first, String.ofList second)
  | _ => ("", written)

def declaredPrefix? (written : String) : Option String :=
  if written = "xmlns" then some ""
  else
    let (first, second) := splitName written
    if first = "xmlns" then some second else none

/-- Bind a prefix. Reserved prefixes and namespaces keep their meaning, only the default can be
unbound, and a namespace has no closing brace. -/
def bind? (scope : Scope) (boundPrefix space : String) : Option Scope :=
  if boundPrefix = "xmlns" || (space = "" && boundPrefix ≠ "") then none
  else if (boundPrefix == "xml") != (space == xmlNamespace) then none
  else if space = declarationNamespace ∨ '\x7d' ∈ space.toList then none
  else some ((boundPrefix, space) :: scope)

def resolveName? (scope : Scope) (unprefixed : String) (written : String) : Option Name :=
  let (first, second) := splitName written
  if first = "" then some ⟨unprefixed, second⟩
  else (scope.lookup first).map fun space => ⟨space, second⟩

def resolveAttributes? (scope : Scope) (written : List (String × String)) :
    Option (List (Name × String)) := do
  let plain := written.filter fun entry => (declaredPrefix? entry.1).isNone
  let named ← plain.mapM fun (name, value) => do
    return (← resolveName? scope "" name, value)
  if (named.map Prod.fst).Nodup then some named else none

def scopeInside? (scope : Scope) (written : List (String × String)) : Option Scope :=
  written.foldlM (fun scope entry =>
    match declaredPrefix? entry.1 with
    | some boundPrefix => bind? scope boundPrefix entry.2
    | none => some scope) scope

mutual

def Raw.resolve? (scope : Scope) : Raw → Option Element
  | .char _ => none
  | .element name attributes content => do
    let scope ← scopeInside? scope attributes
    let fullName ← resolveName? scope ((scope.lookup "").getD "") name
    let fullAttributes ← resolveAttributes? scope attributes
    let (text, children) ← resolveContent? scope content
    return ⟨fullName, fullAttributes, String.ofList text, children, ""⟩

def resolveContent? (scope : Scope) : List Raw → Option (List Char × List Element)
  | [] => some ([], [])
  | .char c :: rest => do
    let (text, children) ← resolveContent? scope rest
    return (c :: text, children)
  | .element name attributes content :: rest => do
    let e ← Raw.resolve? scope (.element name attributes content)
    let (text, children) ← resolveContent? scope rest
    return ([], { e with tail := String.ofList text } :: children)

end

/-! ### Whole documents -/

def skipMisc? (alphabet : Alphabet) : (fuel : Nat) → List Char → Option (List Char)
  | 0, cs => some cs
  | fuel + 1, cs =>
    match skipSpaces cs with
    | '<' :: '!' :: '-' :: '-' :: rest => do skipMisc? alphabet fuel (← comment? rest)
    | '<' :: '?' :: rest => do
      skipMisc? alphabet fuel (← instruction? alphabet rest)
    | cs => some cs

def doctype? (empty : Doctype) (cs : List Char) : Option (Doctype × List Char) :=
  match after? "<!DOCTYPE".toList cs with
  | some rest => if rest.head?.any isSpace then Doctype.read? empty rest else none
  | none => some (empty, cs)

def ofChars? (alphabet : Alphabet) (cs : List Char) : Option Element := do
  let (declaration, rest) ← splitDeclaration? (unifyLineEnds cs)
  let empty := { alphabet, standalone := declaration.standalone, bytes := byteCount cs }
  let rest ← skipMisc? alphabet rest.length rest
  let (doctype, rest) ← doctype? empty rest
  let rest ← skipMisc? alphabet rest.length rest
  let (raw, rest) ← rawElement? doctype rest
  if (← skipMisc? alphabet rest.length rest).isEmpty then raw.resolve? initialScope else none

inductive Content where
  | text (s : String)
  | bytes (bs : List UInt8)
  deriving DecidableEq, Repr

def Content.size : Content → Nat
  | .text s => s.length
  | .bytes bs => bs.length

def latinChars (bytes : List UInt8) : List Char :=
  bytes.map fun byte => Char.ofNat byte.toNat

/-- The decoder that a document of one-byte characters declares, or that of Unicode. A fault in the
declaration is left to the reader of the whole. -/
def declaredDecoder (bytes : List UInt8) : Except Refusal Decoder :=
  match splitDeclaration? (unifyLineEnds (latinChars bytes)) with
  | some (⟨some name, _⟩, _) => Decoder.ofName name
  | _ => .ok .utf8

structure Script where
  chars : List Char
  alphabet : Alphabet := .standard

def decodeOneByte (bytes : List UInt8) : Except Refusal Script := do
  let decoded := match ← declaredDecoder bytes with
    | .utf8 => (decodeUtf8? bytes).map ({ chars := · })
    | .latin => some ⟨latinChars bytes, .extended⟩
    | .page page => (page.decode? bytes).map ({ chars := · })
    | .utf16 _ => none
  match decoded with
  | some script => .ok script
  | none => .error .illFormed

def declaredOrder (cs : List Char) : Except Refusal (Option ByteOrder) :=
  match splitDeclaration? (unifyLineEnds cs) with
  | some (⟨some name, _⟩, _) => do
    match ← Decoder.ofName name with
    | .utf16 order => .ok order
    | _ => .error .illFormed
  | _ => .ok none

/-- The characters of a document whose units have two bytes. A declared encoding must agree, and is
looked at before what follows it. -/
def decodeTwoByte (order : ByteOrder) (trusted : Bool) (bytes : List UInt8) :
    Except Refusal Script := do
  let (cs, whole) := ofUnits order bytes
  let declared ← if trusted then pure none else declaredOrder cs
  if whole && declared.all (· == order) then .ok ⟨cs, .extended⟩ else .error .illFormed

/-- The characters of a document. Bytes that come from a text are known to be Unicode, whatever the
document declares. -/
def Content.script (content : Content) : Except Refusal Script :=
  let (source, trusted) := match content with
    | .text s => (s.toUTF8.toList, true)
    | .bytes bs => (bs, false)
  match Family.ofBytes source with
  | .twoByte order mark => decodeTwoByte order trusted (source.drop mark)
  | .oneByte mark =>
    let body := source.drop mark
    if trusted then
      match decodeUtf8? body with
      | some chars => .ok { chars }
      | none => .error .illFormed
    else decodeOneByte body

def parse (content : Content) : Except Refusal Element := do
  let script ← content.script
  match (legal? script.chars).bind (ofChars? script.alphabet) with
  | some root => .ok root
  | none => .error .illFormed

end OvfInspect.Xml
