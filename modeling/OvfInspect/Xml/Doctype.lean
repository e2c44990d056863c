import OvfInspect.Xml.Entity

/-!
# Document type declarations

A document may declare entities, which stand for text, and attributes, which may have a default and
whose values may be names rather than text. Declarations outside the document are never fetched; a
reference to one makes the declarations known so far incomplete.
-/

namespace OvfInspect.Xml

inductive DeclToken where
  | word (name : String)
  | prefixedWord (name : String)
  | nameToken (text : String)
  | repeatedWord (name : String)
  | keyword (name : String)
  | literal (text : List Char)
  | percent
  | openParen
  | closeParen
  | repeatedClose (mark : Char)
  | bar
  | comma
  deriving DecidableEq, Repr

def endsWord : List Char → Bool
  | [] => false
  | c :: _ => isSpace c || c ∈ ['>', ')', ',', '|', '[', '%']

def declWord? (alphabet : Alphabet) (cs : List Char) : Option (DeclToken × List Char) := do
  let isTail := fun c => isNameChar alphabet c || c == ':'
  let text := cs.takeWhile isTail
  let rest := cs.drop text.length
  let first ← text.head?
  let parts := (String.ofList text).splitOn ":"
  let kind : Option Bool :=
    if !isNameStart alphabet first then none
    else match parts with
      | [_] => some false
      | [_, second] => if second = "" then none else some true
      | _ => none
  let name := String.ofList text
  match kind, rest with
  | none, rest => if endsWord rest then return (.nameToken name, rest) else none
  | some hasPrefix, c :: after =>
    if c ∈ ['+', '*', '?'] then return (.repeatedWord name, after)
    else if endsWord rest then
      return (if hasPrefix then .prefixedWord name else .word name, rest)
    else none
  | _, [] => none

def declToken? (alphabet : Alphabet) : List Char → Option (DeclToken × List Char)
  | [] => none
  | '(' :: r => some (.openParen, r)
  | '|' :: r => some (.bar, r)
  | ',' :: r => some (.comma, r)
  | ')' :: r =>
    match r with
    | c :: rest =>
      if c ∈ ['*', '?', '+'] then some (.repeatedClose c, rest)
      else if isSpace c || c ∈ ['>', ',', '|', ')'] then some (.closeParen, r)
      else none
    | [] => none
  | '%' :: r =>
    match r with
    | c :: _ => if isSpace c || c == '%' then some (.percent, r) else none
    | [] => none
  | '#' :: r => do
    let (name, rest) ← plainName? alphabet r
    match rest with
    | c :: _ =>
      if isSpace c || c ∈ [')', '>', '%', '|'] then return (.keyword (String.ofList name), rest)
      else none
    | [] => none
  | c :: r =>
    if c = '"' ∨ c = '\'' then do
      let (text, rest) ← until? [c] r
      match rest with
      | d :: _ =>
        if isSpace d || d ∈ ['>', '%', '['] then return (.literal text, rest) else none
      | [] => none
    else declWord? alphabet (c :: r)

/-- The parts of a declaration up to one of the closing characters, and what follows that. A part
uses up at least one character, so their number bounds the parts. -/
def declTokens? (alphabet : Alphabet) (closing : List Char) : Nat → List Char →
    Option (List DeclToken × Char × List Char)
  | 0, _ => none
  | fuel + 1, cs =>
    match skipSpaces cs with
    | [] => none
    | c :: r =>
      if c ∈ closing then some ([], c, r)
      else do
        let (token, rest) ← declToken? alphabet (c :: r)
        let (tokens, last, rest) ← declTokens? alphabet closing fuel rest
        return (token :: tokens, last, rest)

def isPublicId (cs : List Char) : Bool :=
  cs.all fun c =>
    c.isAlphanum || c ∈ [' ', '\r', '\n', '-', '\'', '(', ')', '+', ',', '.', '/', ':', '=', '?',
      ';', '!', '*', '#', '@', '$', '_', '%']

structure AttributeRule where
  element : String
  name : String
  /-- Whether its values are text rather than names. -/
  isText : Bool
  default : Option String
  deriving DecidableEq, Repr

structure Doctype where
  /-- The letters of the document itself. The text of an entity has those of the standard. -/
  alphabet : Alphabet := .standard
  entities : List Entity := []
  attributes : List AttributeRule := []
  /-- Whether the document is complete without outside declarations, by its own word. -/
  standalone : Bool := false
  /-- Whether there may be declarations that were not read. -/
  incomplete : Bool := false
  /-- Whether further declarations still count. -/
  reading : Bool := true
  /-- The weights of the entities, once all are declared. -/
  weights : Weights := []
  bytes : Nat := 0
  deriving Inhabited

namespace Doctype

def entity? (d : Doctype) (name : String) : Option Entity :=
  d.entities.find? fun entity => entity.name == name

def lenient (d : Doctype) : Bool :=
  d.incomplete && !d.standalone

def rule? (d : Doctype) (element name : String) : Option AttributeRule :=
  d.attributes.find? fun rule => rule.element == element && rule.name == name

def weightOf? (d : Doctype) (names : List String) : Option Nat :=
  names.foldlM (fun n name =>
    if (d.entity? name).isSome then (d.weights.lookup name).map (n + ·) else some n) 0

def weighed (d : Doctype) : Doctype :=
  { d with weights := weightsOf d.entities }

end Doctype

/-! ### Attribute values -/

def valueChar (c : Char) : Char :=
  if isSpace c then ' ' else c

/-- The characters of an attribute value with its references replaced, where `expand` gives those of
an entity. -/
def expandedChars? (d : Doctype) (expand : Entity → Option (List Char)) (alphabet : Alphabet) :
    (fuel : Nat) → List Char → Option (List Char)
  | _, [] => some []
  | 0, _ => none
  | fuel + 1, '&' :: r => do
    let (reference, rest) ← reference? alphabet r
    let rest ← expandedChars? d expand alphabet fuel rest
    match reference with
    | .char c => return c :: rest
    | .entity name =>
      match d.entity? name with
      | none => if d.lenient then return rest else none
      | some entity => return (← expand entity) ++ rest
  | fuel + 1, c :: r =>
    if c = '<' then none
    else (expandedChars? d expand alphabet fuel r).map (valueChar c :: ·)

/-- The characters that an entity stands for in an attribute value. A chain of entities longer than
their number contains a cycle, so that number bounds the depth. -/
def entityChars? (d : Doctype) : (depth : Nat) → Entity → Option (List Char)
  | 0, _ => none
  | depth + 1, entity => do
    let text ← entity.text
    expandedChars? d (entityChars? d depth) .standard text.length text

def collapseSpaces (cs : List Char) : List Char :=
  (" ".intercalate (((String.ofList cs).splitOn " ").filter (· ≠ ""))).toList

def attributeValue? (d : Doctype) (isText : Bool) (source : List Char) : Option String := do
  let cs ← expandedChars? d (entityChars? d d.entities.length) d.alphabet source.length source
  return String.ofList (if isText then cs else collapseSpaces cs)

/-! ### Single declarations -/

/-- The text of an entity: character references are replaced at once, other references later. -/
def entityText? (alphabet : Alphabet) : (fuel : Nat) → List Char → Option (List Char)
  | _, [] => some []
  | 0, _ => none
  | _ + 1, '%' :: _ => none
  | fuel + 1, '&' :: '#' :: r => do
    let (reference, rest) ← reference? alphabet ('#' :: r)
    match reference with
    | .char c => (entityText? alphabet fuel rest).map (c :: ·)
    | .entity _ => none
  | fuel + 1, '&' :: r => do
    let (name, rest) ← plainName? alphabet r
    let rest ← after? [';'] rest
    (entityText? alphabet fuel rest).map fun text => '&' :: name ++ ';' :: text
  | fuel + 1, c :: r => (entityText? alphabet fuel r).map (c :: ·)

def externalId? : List DeclToken → Option (List DeclToken)
  | .word "SYSTEM" :: .literal _ :: rest => some rest
  | .word "PUBLIC" :: .literal publicId :: .literal _ :: rest =>
    if isPublicId publicId then some rest else none
  | _ => none

def Doctype.addEntity (d : Doctype) (name : String) (text : Option (List Char)) : Doctype :=
  if !d.reading || (predefined? name).isSome || (d.entity? name).isSome then d
  else { d with entities := d.entities ++ [⟨name, text⟩] }

def Doctype.checkedText? (d : Doctype) (literal : List Char) : Option (List Char) :=
  if d.reading then entityText? d.alphabet literal.length literal else some []

/-- An entity declaration. Parameter entities are checked but never used. -/
def Doctype.declareEntity? (d : Doctype) : List DeclToken → Option Doctype
  | [.word name, .literal literal] => do
    let text ← d.checkedText? literal
    return d.addEntity name (some text)
  | .word name :: rest => do
    match ← externalId? rest with
    | [] => return d.addEntity name none
    | [.word "NDATA", .word _] => return d.addEntity name none
    | _ => none
  | [.percent, .word _, .literal literal] => do
    let _ ← d.checkedText? literal
    return d
  | .percent :: .word _ :: rest => do
    match ← externalId? rest with
    | [] => return d
    | _ => none
  | _ => none

def isNotation : List DeclToken → Bool
  | [.word _, .word "PUBLIC", .literal publicId] => isPublicId publicId
  | .word _ :: rest => externalId? rest == some []
  | _ => false

def choice? (anyToken : Bool) : List DeclToken → Option (List DeclToken)
  | token :: next :: rest =>
    let fits := match token with
      | .word _ => true
      | .prefixedWord _ => anyToken
      | .nameToken _ => anyToken
      | _ => false
    if !fits then none
    else match next with
      | .closeParen => some rest
      | .bar => choice? anyToken rest
      | _ => none
  | _ => none

def attributeType? : List DeclToken → Option (Bool × List DeclToken)
  | .word "CDATA" :: rest => some (true, rest)
  | .word "NOTATION" :: .openParen :: rest => (choice? false rest).map ((false, ·))
  | .word name :: rest =>
    if name ∈ ["ID", "IDREF", "IDREFS", "ENTITY", "ENTITIES", "NMTOKEN", "NMTOKENS"] then
      some (false, rest)
    else none
  | .openParen :: rest => (choice? true rest).map ((false, ·))
  | _ => none

def DeclToken.qualified? : DeclToken → Option String
  | .word name => some name
  | .prefixedWord name => some name
  | _ => none

def Doctype.addRule (d : Doctype) (rule : AttributeRule) : Doctype :=
  if !d.reading || (d.rule? rule.element rule.name).isSome then d
  else { d with attributes := d.attributes ++ [rule] }

def Doctype.defaultValue? (d : Doctype) (isText : Bool) :
    List DeclToken → Option (Option String × List DeclToken)
  | .keyword "IMPLIED" :: rest => some (none, rest)
  | .keyword "REQUIRED" :: rest => some (none, rest)
  | .keyword "FIXED" :: .literal source :: rest => value source rest
  | .literal source :: rest => value source rest
  | _ => none
where
  value (source : List Char) (rest : List DeclToken) :
      Option (Option String × List DeclToken) :=
    if d.reading then do
      let names := referencesOf d.alphabet source.length source
      let weight ← if names.isEmpty then some 0 else d.weighed.weightOf? names
      if isTolerable d.bytes weight then
        return (some (← attributeValue? d isText source), rest)
      else none
    else some (none, rest)

def Doctype.declareAttributes? (element : String) :
    (fuel : Nat) → Doctype → List DeclToken → Option Doctype
  | _, d, [] => some d
  | 0, _, _ => none
  | fuel + 1, d, token :: rest => do
    let name ← token.qualified?
    let (isText, rest) ← attributeType? rest
    let (default, rest) ← d.defaultValue? isText rest
    declareAttributes? element fuel (d.addRule ⟨element, name, isText, default⟩) rest

def isMixedRest : List DeclToken → Bool
  | [.closeParen] => true
  | [.repeatedClose '*'] => true
  | .bar :: rest => alternatives rest
  | _ => false
where
  alternatives : List DeclToken → Bool
    | [token, .repeatedClose '*'] => token.qualified?.isSome
    | token :: .bar :: rest => token.qualified?.isSome && alternatives rest
    | _ => false

/-- Whether the tokens are the rest of a content model. The open groups each remember the connector
they use, and `wanted` says whether an item has to come next. -/
def isGroupRest (wanted : Bool) : (groups : List (Option DeclToken)) → List DeclToken → Bool
  | [], rest => rest.isEmpty
  | _, [] => false
  | group :: outer, token :: rest =>
    if wanted then
      match token with
      | .openParen => isGroupRest true (none :: group :: outer) rest
      | .word _ | .prefixedWord _ | .repeatedWord _ => isGroupRest false (group :: outer) rest
      | _ => false
    else
      match token with
      | .closeParen | .repeatedClose _ => isGroupRest false outer rest
      | .bar | .comma =>
        (group == none || group == some token) &&
          isGroupRest true (some token :: outer) rest
      | _ => false

def isElementRule : List DeclToken → Bool
  | name :: rest =>
    name.qualified?.isSome &&
      match rest with
      | [.word "EMPTY"] => true
      | [.word "ANY"] => true
      | .openParen :: .keyword "PCDATA" :: rest => isMixedRest rest
      | .openParen :: rest => isGroupRest true [none] rest
      | _ => false
  | [] => false

def Doctype.declare? (d : Doctype) (keyword : String) (tokens : List DeclToken) :
    Option Doctype :=
  match keyword with
  | "ENTITY" => d.declareEntity? tokens
  | "NOTATION" => if isNotation tokens then some d else none
  | "ELEMENT" => if isElementRule tokens then some d else none
  | "ATTLIST" =>
    match tokens with
    | token :: rest => do
      Doctype.declareAttributes? (← token.qualified?) tokens.length d rest
    | [] => none
  | _ => none

/-! ### The declarations together -/

/-- A reference to a parameter entity is not followed: from here on declarations may be missing. -/
def Doctype.skipParameter (d : Doctype) : Doctype :=
  { d with incomplete := true, reading := d.standalone }

/-- The declarations between square brackets, and what follows them. Each uses up a character. -/
def Doctype.subset? : (fuel : Nat) → Doctype → List Char → Option (Doctype × List Char)
  | 0, _, _ => none
  | fuel + 1, d, cs =>
    match skipSpaces cs with
    | ']' :: rest => if ([']', '>']).isPrefixOf rest then none else some (d, rest)
    | '%' :: rest => do
      let (_, rest) ← plainName? d.alphabet rest
      subset? fuel d.skipParameter (← after? [';'] rest)
    | '<' :: '?' :: rest => do subset? fuel d (← instruction? d.alphabet rest)
    | '<' :: '!' :: '-' :: '-' :: rest => do subset? fuel d (← comment? rest)
    | '<' :: '!' :: rest => do
      let (keyword, rest) ← plainName? d.alphabet rest
      match rest with
      | c :: _ =>
        if isSpace c then
          let (tokens, _, rest) ← declTokens? d.alphabet ['>'] rest.length rest
          subset? fuel (← d.declare? (String.ofList keyword) tokens) rest
        else none
      | [] => none
    | _ => none

def Doctype.read? (empty : Doctype) (cs : List Char) : Option (Doctype × List Char) := do
  let (tokens, last, rest) ← declTokens? empty.alphabet ['>', '['] cs.length cs
  let start : Doctype ← match tokens with
    | [name] => do
      let _ ← name.qualified?
      some empty
    | name :: external => do
      let _ ← name.qualified?
      if (← externalId? external).isEmpty then some { empty with incomplete := true } else none
    | [] => none
  if last = '>' then return (start, rest)
  else
    let (d, rest) ← Doctype.subset? rest.length start rest
    return (d.weighed, ← after? ['>'] (skipSpaces rest))

end OvfInspect.Xml
