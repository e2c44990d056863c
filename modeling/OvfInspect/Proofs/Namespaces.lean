import Mathlib.Data.List.TakeWhile
import OvfInspect.Proofs.Nesting

/-!
# Namespaces

A name is told by its word, whatever its namespace is. Trees that differ in the namespaces of elements and
attributes only are read alike, as `renamed_read_alike` says for all namespaces of one line.
-/

namespace OvfInspect

open Xml Reading

/-! ### Names in braces -/

/-- One word in two namespaces, both of one line. -/
structure SameWord (name name' : Name) : Prop where
  word : name.word = name'.word
  oneLine : '\n' ∉ name.space.toList
  oneLine' : '\n' ∉ name'.space.toList

theorem SameWord.localName_eq {name name' : Name} (h : SameWord name name') :
    name.localName = name'.localName := by
  rw [Name.localName_of_oneLine h.oneLine, Name.localName_of_oneLine h.oneLine', h.word]

/-- The trees differ at most in the namespaces of their elements and attributes. -/
inductive Renamed : Element → Element → Prop
  | intro {e e' : Element} (name : SameWord e.name e'.name)
      (attributes : List.Forall₂ (fun entry entry' => SameWord entry.1 entry'.1 ∧ entry.2 = entry'.2)
        e.attributes e'.attributes)
      (text : e.text = e'.text) (children : List.Forall₂ Renamed e.children e'.children) :
      Renamed e e'

variable {e e' : Element}

theorem Renamed.localName_eq (h : Renamed e e') : e.localName = e'.localName := by
  obtain ⟨name, -, -, -⟩ := h
  exact name.localName_eq

theorem Renamed.attribute?_eq (h : Renamed e e') (key : String) : e.attribute? key = e'.attribute? key := by
  obtain ⟨-, attributes, -, -⟩ := h
  unfold Element.attribute?
  generalize e.attributes = entries at attributes
  generalize e'.attributes = entries' at attributes
  induction attributes with
  | nil => rfl
  | cons same _ ih =>
    rw [List.find?_cons, List.find?_cons, same.1.localName_eq]
    split
    · exact congrArg some same.2
    · exact ih

theorem Renamed.filter (h : Renamed e e') (chosen : String → Bool) :
    List.Forall₂ Renamed (e.children.filter fun child => chosen child.localName)
      (e'.children.filter fun child => chosen child.localName) := by
  obtain ⟨-, -, -, children⟩ := h
  refine List.rel_filter ?_ children
  intro child child' same
  dsimp only
  rw [same.localName_eq]

mutual

theorem Renamed.depth_eq : ∀ {e e' : Element}, Renamed e e' → e.depth = e'.depth
  | ⟨_, _, _, _, _⟩, ⟨_, _, _, _, _⟩, .intro _ _ _ children => by
    rw [Element.depth, Element.depth, Renamed.depthOfAll_eq children]

theorem Renamed.depthOfAll_eq : ∀ {es es' : List Element}, List.Forall₂ Renamed es es' →
    depthOfAll es = depthOfAll es'
  | [], [], .nil => rfl
  | _ :: _, _ :: _, .cons first rest => by
    rw [depthOfAll, depthOfAll, first.depth_eq, Renamed.depthOfAll_eq rest]

end

/-! ### Readings of renamed trees -/

/-- Reading stops for one reason: the same, or several children that differ in namespaces only. -/
inductive SameCause : Malformed → Malformed → Prop
  | refl (cause : Malformed) : SameCause cause cause
  | ambiguous {a a' : Ambiguity} (tag : a.tag = a'.tag) (parent : a.parent = a'.parent)
      (found : List.Forall₂ Renamed a.found a'.found) : SameCause (.ambiguous a) (.ambiguous a')

/-- Both readings give the same, or stop for one reason. -/
abbrev ReadSame {α : Type} (x y : Reading α) : Prop :=
  Agree SameCause (· = ·) x.result y.result

theorem ReadSame.refl {α : Type} (x : Reading α) : ReadSame x x :=
  Agree.refl .refl x.result

/-- Where values are read from related things, what is read from the values in turn is the same. -/
theorem ReadSame.bind {α α' β : Type} {R : α → α' → Prop} {x : Reading α} {y : Reading α'}
    {f : α → Reading β} {g : α' → Reading β} (h : Agree SameCause R x.result y.result)
    (next : ∀ a b, R a b → ReadSame (f a) (g b)) : ReadSame (x >>= f) (y >>= g) := by
  unfold ReadSame
  rw [Narrated.result_bind, Narrated.result_bind]
  exact Agree.bind h next

theorem ReadSame.andThen {α β : Type} {x y : Reading α} {f g : α → Reading β} (h : ReadSame x y)
    (next : ∀ a, ReadSame (f a) (g a)) : ReadSame (x >>= f) (y >>= g) :=
  ReadSame.bind h fun a _ same => same ▸ next a

theorem ReadSame.mapM {β : Type} {es es' : List Element} {read : Element → Reading β}
    (related : List.Forall₂ Renamed es es') (h : ∀ e e', Renamed e e' → ReadSame (read e) (read e')) :
    ReadSame (es.mapM read) (es'.mapM read) := by
  unfold ReadSame
  rw [Narrated.result_mapM, Narrated.result_mapM]
  simpa only [List.forall₂_eq_eq_eq] using Agree.mapM related h

namespace Renamed

theorem childrenNamed (h : Renamed e e') (tag : String) :
    List.Forall₂ Renamed (e.childrenNamed tag) (e'.childrenNamed tag) :=
  h.filter (· == tag)

theorem child_agrees (h : Renamed e e') (tag : String) :
    Agree SameCause (Option.Rel Renamed) (child e tag).result (child e' tag).result := by
  unfold child Element.find
  rw [Narrated.result_mapFault, Narrated.result_mapFault, findAll_bind, findAll_bind]
  have related := h.childrenNamed tag
  generalize e.childrenNamed tag = es at related
  generalize e'.childrenNamed tag = es' at related
  cases related with
  | nil => exact .ok .none
  | cons first rest =>
    cases rest with
    | nil => exact .ok (.some first)
    | cons second rest => exact .error (.ambiguous rfl h.localName_eq (.cons first (.cons second rest)))

theorem trimmedText_eq (h : Renamed e e') : e.trimmedText = e'.trimmedText := by
  obtain ⟨-, -, text, -⟩ := h
  exact congrArg Text.trim text

theorem childText (h : Renamed e e') (tag : String) : ReadSame (childText e tag) (childText e' tag) := by
  have agree := h.child_agrees tag
  unfold ReadSame
  rw [childText_eq, childText_eq]
  generalize (child e tag).result = found at agree ⊢
  generalize (child e' tag).result = found' at agree ⊢
  cases agree with
  | error same => exact .error same
  | ok related =>
    cases related with
    | none => exact .ok rfl
    | some same => exact .ok (congrArg some same.trimmedText_eq)

theorem childNumber (h : Renamed e e') (tag : String) :
    ReadSame (childNumber e tag) (childNumber e' tag) :=
  (h.childText tag).andThen fun _ => .refl _

theorem sectionHead (h : Renamed e e') : ReadSame (sectionHead e) (sectionHead e') := by
  unfold Reading.sectionHead required
  rw [h.attribute?_eq]
  exact (ReadSame.refl _).andThen fun _ => (h.childText "Info").andThen fun _ => .refl _

theorem sectionOf {α : Type} {read : Element → Reading α} (h : Renamed e e')
    (same : ∀ {c c'}, Renamed c c' → ReadSame (read c) (read c')) (tag : String) :
    ReadSame (sectionOf e tag read) (sectionOf e' tag read) := by
  refine ReadSame.bind (h.child_agrees tag) fun found found' related => ?_
  cases related with
  | none => exact .refl _
  | some renamed => exact (same renamed).andThen fun _ => .refl _

/-- What is read from the children with a tag, when these are read one by one. -/
theorem findAll_bind {β : Type} {f g : List Element → Reading β} (h : Renamed e e') (tag : String)
    (same : ∀ {es es'}, List.Forall₂ Renamed es es' → ReadSame (f es) (g es')) :
    ReadSame (e.findAll tag >>= f) (e'.findAll tag >>= g) :=
  ReadSame.bind (.ok (h.childrenNamed tag)) fun _ _ => same

theorem file (h : Renamed e e') : FileReference.read e = FileReference.read e' := by
  unfold FileReference.read
  simp only [h.attribute?_eq]

theorem references (h : Renamed e e') : ReadSame (References.read e) (References.read e') := by
  refine h.sectionHead.andThen fun _ => h.findAll_bind "File" fun {es es'} related => ?_
  have same : es.mapM FileReference.read = es'.mapM FileReference.read := by
    induction related with
    | nil => rfl
    | cons first _ ih => rw [List.mapM_cons, List.mapM_cons, first.file, ih]
  rw [same]
  exact .refl _

theorem annotation (h : Renamed e e') : ReadSame ( Annotation.read e) ( Annotation.read e') :=
  h.sectionHead.andThen fun _ => (h.childText "Annotation").andThen fun _ => .refl _

theorem disk (h : Renamed e e') : Disk.read e = Disk.read e' := by
  unfold Disk.read
  simp only [h.attribute?_eq]

theorem diskSection (h : Renamed e e') : ReadSame (DiskSection.read e) (DiskSection.read e') := by
  refine h.sectionHead.andThen fun _ => h.findAll_bind "Disk" fun related => ?_
  rw [map_eq_map_of_forall₂ related fun same => same.disk]
  exact .refl _

theorem item (h : Renamed e e') : ReadSame (Item.read e) (Item.read e') := by
  refine h.findAll_bind "HostResource" fun related => ?_
  rw [map_eq_map_of_forall₂ related fun same => same.trimmedText_eq]
  refine (h.childNumber _).andThen fun _ => ?_
  refine (h.childText _).andThen fun _ => ?_
  refine (h.childText _).andThen fun _ => ?_
  refine (h.childText _).andThen fun _ => ?_
  refine (h.childNumber _).andThen fun _ => ?_
  refine (h.childText _).andThen fun _ => ?_
  refine (h.childText _).andThen fun _ => ?_
  exact (h.childText _).andThen fun _ => .refl _

theorem readAny (h : Renamed e e') : ReadSame (Item.readAny e) (Item.readAny e') := by
  unfold Item.readAny
  rw [h.localName_eq]
  split
  · exact h.item.andThen fun _ => .refl _
  · exact .refl _

theorem hardwareSection (h : Renamed e e') :
    ReadSame (HardwareSection.read e) (HardwareSection.read e') := by
  have children : List.Forall₂ Renamed e.children e'.children := by
    obtain ⟨-, -, -, children⟩ := h
    exact children
  exact (ReadSame.mapM children fun _ _ => readAny).andThen fun _ => .refl _

theorem virtualSystem (h : Renamed e e') : ReadSame (VirtualSystem.read e) (VirtualSystem.read e') := by
  unfold VirtualSystem.read
  rw [h.attribute?_eq]
  refine h.findAll_bind "VirtualHardwareSection" fun related => ?_
  refine (ReadSame.mapM related fun _ _ => hardwareSection).andThen fun _ => ?_
  exact (h.childText _).andThen fun _ => (h.childText _).andThen fun _ => .refl _

theorem readFrom (h : Renamed e e') : ReadSame ( Annotation.readFrom e) ( Annotation.readFrom e') := by
  refine (h.sectionOf annotation _).andThen fun own => ?_
  refine ReadSame.bind (h.child_agrees _) fun system system' related => ?_
  cases own with
  | some own => exact .refl _
  | none =>
    cases related with
    | none => exact .refl _
    | some renamed => exact renamed.sectionOf annotation _

/-- Namespaces make no difference to what is read, nor to where reading stops. -/
theorem ofRoot (h : Renamed e e') : ReadSame (Descriptor.ofRoot e) (Descriptor.ofRoot e') := by
  unfold Descriptor.ofRoot
  refine ReadSame.andThen (x := .log _) (y := .log _) (.ok rfl) fun _ => ?_
  refine h.readFrom.andThen fun _ => ?_
  refine (h.sectionOf references _).andThen fun _ => ?_
  refine (h.sectionOf virtualSystem _).andThen fun _ => ?_
  exact (h.sectionOf diskSection _).andThen fun _ => .refl _

end Renamed

/-! ### Outcomes of renamed trees -/

end OvfInspect
