import OvfInspect.Xml.Doctype

/-!
# Markup

The inside of a document as a sequence of tags, characters and references, and the tree that such a
sequence forms once references are replaced. Names are still as written, with their prefixes.
-/

namespace OvfInspect.Xml

inductive Token where
  | char (c : Char)
  | entity (name : String)
  | openTag (name : String) (attributes : List (String × List Char)) (isEmpty : Bool)
  | closeTag (name : String)
  deriving DecidableEq, Repr

/-! ### Single tokens -/

/-- The attributes of a tag up to its end, whether the tag is empty, and what follows it. Every
attribute has white space before it. -/
def tagAttributes? (alphabet : Alphabet) : (fuel : Nat) → List Char →
    Option (List (String × List Char) × Bool × List Char)
  | 0, _ => none
  | fuel + 1, cs =>
    match skipSpaces cs with
    | '>' :: rest => some ([], false, rest)
    | '/' :: rest => do return ([], true, ← after? ['>'] rest)
    | next =>
      if !(cs.head?.any isSpace) then none
      else do
        let (name, rest) ← prefixedName? alphabet next
        let rest ← after? ['='] (skipSpaces rest)
        match skipSpaces rest with
        | quote :: rest =>
          if quote = '"' ∨ quote = '\'' then
            let (source, rest) ← until? [quote] rest
            let (attributes, isEmpty, rest) ← tagAttributes? alphabet fuel rest
            return ((String.ofList name, source) :: attributes, isEmpty, rest)
          else none
        | [] => none

def tag? (alphabet : Alphabet) : List Char → Option (Token × List Char)
  | '/' :: rest => do
    let (name, rest) ← prefixedName? alphabet rest
    return (.closeTag (String.ofList name), ← after? ['>'] (skipSpaces rest))
  | cs => do
    let (name, rest) ← prefixedName? alphabet cs
    let (attributes, isEmpty, rest) ← tagAttributes? alphabet (rest.length + 1) rest
    return (.openTag (String.ofList name) attributes isEmpty, rest)

def tokens? (alphabet : Alphabet) : List Char → Option (List Token × List Char)
  | [] => none
  | '<' :: '!' :: '-' :: '-' :: rest => (comment? rest).map (([], ·))
  | '<' :: '!' :: rest => do
    let rest ← after? "[CDATA[".toList rest
    let (cs, rest) ← until? [']', ']', '>'] rest
    return (cs.map .char, rest)
  | '<' :: '?' :: rest => (instruction? alphabet rest).map (([], ·))
  | '<' :: rest => (tag? alphabet rest).map fun (token, rest) => ([token], rest)
  | '&' :: rest => (reference? alphabet rest).map fun (reference, rest) =>
    match reference with
    | .char c => ([.char c], rest)
    | .entity name => ([.entity name], rest)
  | ']' :: ']' :: '>' :: _ => none
  | c :: rest => some ([.char c], rest)

def Token.depthAfter (depth : Nat) : Token → Nat
  | .openTag _ _ false => depth + 1
  | .closeTag _ => depth - 1
  | _ => depth

def allTokens? (alphabet : Alphabet) : (fuel : Nat) → List Char → Option (List Token)
  | _, [] => some []
  | 0, _ => none
  | fuel + 1, cs => do
    let (tokens, rest) ← tokens? alphabet cs
    return tokens ++ (← allTokens? alphabet fuel rest)

/-- The tokens of one element and what follows it, where `depth` elements are open. -/
def elementTokens? (alphabet : Alphabet) : (fuel depth : Nat) → List Char → Option (List Token × List Char)
  | 0, _, _ => none
  | fuel + 1, depth, cs => do
    let (tokens, rest) ← tokens? alphabet cs
    let depth := tokens.foldl Token.depthAfter depth
    if depth = 0 then return (tokens, rest)
    else
      let (more, rest) ← elementTokens? alphabet fuel depth rest
      return (tokens ++ more, rest)

/-! ### The tree -/

inductive Raw where
  | char (c : Char)
  | element (name : String) (attributes : List (String × String)) (content : List Raw)

/-- An element whose end has not come yet: its tag, and the content around it so far, last first. -/
structure OpenElement where
  name : String
  attributes : List (String × String)
  around : List Raw

def completeAttributes? (d : Doctype) (element : String) (written : List (String × List Char)) :
    Option (List (String × String)) := do
  if !(written.map Prod.fst).Nodup then none
  else
    let given ← written.mapM fun (name, source) => do
      let isText := ((d.rule? element name).map AttributeRule.isText).getD true
      return (name, ← attributeValue? d isText source)
    let defaults := d.attributes.filterMap fun rule =>
      if rule.element = element ∧ !(written.any fun entry => entry.1 == rule.name) then
        rule.default.map fun value => (rule.name, value)
      else none
    return given ++ defaults

/-- The content that tokens form, where `inside` is the content of the innermost open element so
far, last first, and `expand` gives the content that an entity stands for. Tags have to match. -/
def formContent? (d : Doctype) (expand : String → Option (List Raw)) :
    List OpenElement → (inside : List Raw) → List Token → Option (List Raw)
  | [], inside, [] => some inside.reverse
  | _ :: _, _, [] => none
  | openElements, inside, .char c :: rest =>
    formContent? d expand openElements (.char c :: inside) rest
  | openElements, inside, .entity name :: rest => do
    formContent? d expand openElements ((← expand name).reverse ++ inside) rest
  | openElements, inside, .openTag name written isEmpty :: rest => do
    let attributes ← completeAttributes? d name written
    if isEmpty then
      formContent? d expand openElements (.element name attributes [] :: inside) rest
    else formContent? d expand (⟨name, attributes, inside⟩ :: openElements) [] rest
  | [], _, .closeTag _ :: _ => none
  | innermost :: outer, inside, .closeTag name :: rest =>
    if innermost.name = name then
      let closed := .element name innermost.attributes inside.reverse
      formContent? d expand outer (closed :: innermost.around) rest
    else none

/-- The content that an entity stands for. A chain of entities longer than their number contains a
cycle, so that number bounds the depth. -/
def expandEntity? (d : Doctype) : (depth : Nat) → String → Option (List Raw)
  | 0, _ => none
  | depth + 1, name => do
    let entity ← d.entity? name
    let text ← entity.text
    formContent? d (expandEntity? d depth) [] [] (← allTokens? d.alphabet text.length text)

def Token.references (alphabet : Alphabet) : Token → List String
  | .entity name => [name]
  | .openTag _ attributes _ =>
    attributes.flatMap fun entry => referencesOf alphabet entry.2.length entry.2
  | _ => []

def rawElement? (d : Doctype) (cs : List Char) : Option (Raw × List Char) := do
  if !(cs.head?.any (· == '<')) then none
  else
    let (tokens, rest) ← elementTokens? d.alphabet cs.length 0 cs
    let weight ← d.weightOf? (tokens.flatMap (Token.references d.alphabet))
    if !isTolerable d.bytes weight then none
    else
      let inside := { d with alphabet := .standard }
      match ← formContent? d (expandEntity? inside d.entities.length) [] [] tokens with
      | [.element name attributes content] => return (.element name attributes content, rest)
      | _ => none

end OvfInspect.Xml
