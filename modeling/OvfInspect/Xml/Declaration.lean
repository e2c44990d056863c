import OvfInspect.Xml.Lexeme

/-!
# The declaration at the start of a document

It names a version, may name an encoding and may say whether the document stands alone, in this
order.
-/

namespace OvfInspect.Xml

structure Declaration where
  encoding : Option String := none
  standalone : Bool := false
  deriving DecidableEq, Repr

def isDeclaredValueChar (c : Char) : Bool :=
  c.isAlphanum || c == '.' || c == '-' || c == '_'

/-- The next name and value of a declaration and what follows them. The result is none at a fault,
and an absent setting at the end. -/
def setting? (cs : List Char) : Option (Option (String × List Char) × List Char) :=
  match cs with
  | [] => some (none, [])
  | c :: _ =>
    if !isSpace c then none
    else match skipSpaces cs with
      | [] => some (none, [])
      | cs => do
        let name := cs.takeWhile fun c => !isSpace c && c != '='
        if name.isEmpty then none
        else
          let rest ← after? ['='] (skipSpaces (cs.drop name.length))
          match skipSpaces rest with
          | quote :: rest =>
            if quote = '"' ∨ quote = '\'' then
              let (value, rest) ← until? [quote] rest
              if value.all isDeclaredValueChar then
                return (some (String.ofList name, value), rest)
              else none
            else none
          | [] => none

def standalone? : Option (String × List Char) → List Char → Option Bool
  | none, _ => some false
  | some ("standalone", value), rest =>
    if !(skipSpaces rest).isEmpty then none
    else if value = ['y', 'e', 's'] then some true
    else if value = ['n', 'o'] then some false
    else none
  | some _, _ => none

def Declaration.ofText? (cs : List Char) : Option Declaration := do
  let (version, rest) ← setting? cs
  match version with
  | some ("version", _) =>
    let (next, rest) ← setting? rest
    match next with
    | some ("encoding", value) =>
      if value.head?.any Char.isAlpha then
        let (next, rest) ← setting? rest
        return ⟨some (String.ofList value), ← standalone? next rest⟩
      else none
    | next => return ⟨none, ← standalone? next rest⟩
  | _ => none

def splitDeclaration? (cs : List Char) : Option (Declaration × List Char) :=
  match after? ['<', '?', 'x', 'm', 'l'] cs with
  | some (c :: rest) =>
    if isSpace c then do
      let (inner, rest) ← until? ['?', '>'] (c :: rest)
      return (← Declaration.ofText? inner, rest)
    else if c = '?' then none
    else some ({}, cs)
  | _ => some ({}, cs)

end OvfInspect.Xml
