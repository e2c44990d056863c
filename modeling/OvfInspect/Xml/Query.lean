import OvfInspect.Fault
import OvfInspect.Narrated
import OvfInspect.Text.Blank

/-!
# Looking up children

Children and attributes are found by their local names. Every search for children is logged with
the number found. Where one child is wanted, several are an ambiguity.
-/

namespace OvfInspect.Xml.Element

/-- The children with the local name, with a message of how many there are. -/
def findAll {ε : Type} (e : Element) (tag : String) : Narrated ε (List Element) := do
  let found := e.childrenNamed tag
  .log (.spam s!"Found {found.length} <{tag}> elements under <{e.localName}>")
  pure found

def find (e : Element) (tag : String) : Narrated Ambiguity (Option Element) := do
  match ← e.findAll tag with
  | [] => pure none
  | [child] => pure (some child)
  | several => .fail ⟨tag, e.localName, several⟩

def trimmedText (e : Element) : String :=
  Text.trim e.text

def childText (e : Element) (tag : String) : Narrated Ambiguity (Option String) := do
  pure ((← e.find tag).map trimmedText)

end OvfInspect.Xml.Element
