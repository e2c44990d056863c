/-!
# Names

The name of an element or attribute is a word and the namespace it belongs to. Descriptors are read
by the word alone, which is the local name; only a namespace with a line feed keeps it hidden.
-/

namespace OvfInspect.Xml

structure Name where
  /-- The identifier of the namespace; empty for a name outside all namespaces. -/
  space : String
  word : String
  deriving DecidableEq, Repr

namespace Name

def expanded (name : Name) : String :=
  if name.space = "" then name.word
  else String.ofList ('\x7b' :: name.space.toList ++ '\x7d' :: name.word.toList)

def localName (name : Name) : String :=
  if '\n' ∈ name.space.toList then name.expanded else name.word

theorem localName_of_oneLine {name : Name} (h : '\n' ∉ name.space.toList) :
    name.localName = name.word := by
  rw [localName, if_neg h]

end Name

def afterLastBrace? (cs : List Char) : Option (List Char) :=
  if '\x7d' ∈ cs then some (cs.reverse.takeWhile (· != '\x7d')).reverse else none

/-- The text without a namespace in braces before it: what stands on the first line behind the last
closing brace. A text of another form is left alone. -/
def bareName (text : String) : String :=
  match text.toList with
  | '\x7b' :: r =>
    match afterLastBrace? (r.takeWhile (· != '\n')) with
    | some word => String.ofList word
    | none => text
  | _ => text

end OvfInspect.Xml
