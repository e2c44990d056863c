import OvfInspect.Xml.NameChar
import OvfInspect.Xml.Charset

/-!
# The small parts of a document

Spaces, names, references and delimited runs, each split off the front of the remaining characters.
-/

namespace OvfInspect.Xml

def isSpace (c : Char) : Bool :=
  c == ' ' || c == '\t' || c == '\n' || c == '\r'

def skipSpaces (cs : List Char) : List Char :=
  cs.dropWhile isSpace

def unifyLineEnds : List Char → List Char
  | [] => []
  | '\r' :: '\n' :: r => '\n' :: unifyLineEnds r
  | '\r' :: r => '\n' :: unifyLineEnds r
  | c :: r => c :: unifyLineEnds r

def after? (mark cs : List Char) : Option (List Char) :=
  if mark.isPrefixOf cs then some (cs.drop mark.length) else none

def until? (mark : List Char) : List Char → Option (List Char × List Char)
  | [] => none
  | c :: r =>
    if mark.isPrefixOf (c :: r) then some ([], (c :: r).drop mark.length)
    else (until? mark r).map fun (before, rest) => (c :: before, rest)

def plainName? (alphabet : Alphabet) : List Char → Option (List Char × List Char)
  | [] => none
  | c :: r =>
    let tail := isNameChar alphabet
    if isNameStart alphabet c then some (c :: r.takeWhile tail, r.dropWhile tail) else none

def prefixedName? (alphabet : Alphabet) (cs : List Char) : Option (List Char × List Char) := do
  let (first, rest) ← plainName? alphabet cs
  match rest with
  | ':' :: rest =>
    let (word, rest) ← plainName? alphabet rest
    return (first ++ ':' :: word, rest)
  | _ => return (first, rest)

def hexValue? (ds : List Char) : Option Nat :=
  if ds.isEmpty then none
  else ds.foldlM (fun n d =>
    if d.isDigit then some (16 * n + (d.toNat - 48))
    else if 'a' ≤ d ∧ d ≤ 'f' then some (16 * n + (d.toNat - 87))
    else if 'A' ≤ d ∧ d ≤ 'F' then some (16 * n + (d.toNat - 55))
    else none) 0

def decimalValue? (ds : List Char) : Option Nat :=
  if ds.isEmpty then none
  else ds.foldlM (fun n d => if d.isDigit then some (10 * n + (d.toNat - 48)) else none) 0

def charOfCode? (n : Nat) : Option Char :=
  if h : n.isValidChar then
    let c := Char.ofNatAux n h
    if isXmlChar c then some c else none
  else none

inductive Reference where
  | char (c : Char)
  | entity (name : String)
  deriving DecidableEq, Repr

def predefined? : String → Option Char
  | "lt" => some '<'
  | "gt" => some '>'
  | "amp" => some '&'
  | "quot" => some '"'
  | "apos" => some '\''
  | _ => none

def reference? (alphabet : Alphabet) : List Char → Option (Reference × List Char)
  | '#' :: 'x' :: r => do
    let (ds, rest) ← until? [';'] r
    return (.char (← charOfCode? (← hexValue? ds)), rest)
  | '#' :: r => do
    let (ds, rest) ← until? [';'] r
    return (.char (← charOfCode? (← decimalValue? ds)), rest)
  | cs => do
    let (name, rest) ← plainName? alphabet cs
    let rest ← after? [';'] rest
    match predefined? (String.ofList name) with
    | some c => return (.char c, rest)
    | none => return (.entity (String.ofList name), rest)

/-- The rest after a comment whose opening has been read. Two hyphens only end a comment. -/
def comment? (cs : List Char) : Option (List Char) := do
  let (_, rest) ← until? ['-', '-'] cs
  after? ['>'] rest

def instruction? (alphabet : Alphabet) (cs : List Char) : Option (List Char) := do
  let (target, rest) ← plainName? alphabet cs
  if lowerAscii (String.ofList target) = "xml" then none
  else match after? ['?', '>'] rest with
    | some rest => return rest
    | none =>
      match rest with
      | c :: rest =>
        if isSpace c then return (← until? ['?', '>'] rest).2 else none
      | [] => none

end OvfInspect.Xml
