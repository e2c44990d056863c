import OvfInspect.Xml.Name

/-!
# Elements

A document is a tree of elements. An element has its attributes in document order, the character
data up to its first child, its children, and the character data that follows its end.
-/

namespace OvfInspect.Xml

structure Element where
  name : Name
  attributes : List (Name × String)
  text : String
  children : List Element
  tail : String
  deriving Repr

mutual

/-- How many elements are nested in each other, from this one on. -/
def Element.depth : Element → Nat
  | ⟨_, _, _, children, _⟩ => depthOfAll children + 1

def depthOfAll : List Element → Nat
  | [] => 0
  | e :: rest => max e.depth (depthOfAll rest)

end

namespace Element

def localName (e : Element) : String :=
  e.name.localName

def childrenNamed (e : Element) (tag : String) : List Element :=
  e.children.filter fun child => child.localName == tag

def attribute? (e : Element) (name : String) : Option String :=
  (e.attributes.find? fun entry => entry.1.localName == name).map Prod.snd

def at? (e : Element) : List Nat → Option Element
  | [] => some e
  | i :: path => match e.children[i]? with
    | some child => child.at? path
    | none => none

end Element

end OvfInspect.Xml
