import Mathlib.Data.List.Forall2
import OvfInspect.Proofs.Acceptance

/-!
# Parts of a descriptor

Each element of a descriptor is a part of it by its place in the tree, and of each part the reader looks
for a few attributes and children only. Elements that are alike in these are read alike, as
`SeenAlike.readAlike` says of every part; what else they hold has no influence.
-/

namespace OvfInspect

open Xml Reading

/-- What an element is for the reader, by its place in the tree. -/
inductive Part where
  | envelope
  | references
  | note
  | diskSection
  | system
  | hardware
  | file
  | disk
  | item
  /-- A child of which only the text is read. -/
  | text
  /-- An element that is passed over. -/
  | other
  deriving DecidableEq, Repr

namespace Part

/-- The attributes that are looked for. -/
def keys : Part → List String
  | references | note | diskSection => ["required"]
  | system => ["id"]
  | file => ["id", "href", "size"]
  | disk => ["diskId", "fileRef", "capacity", "capacityAllocationUnits"]
  | _ => []

/-- The children that may occur once at most, and what they are. -/
def once : Part → List (String × Part)
  | envelope => [("AnnotationSection", note), ("VirtualSystem", system),
      ("References", references), ("DiskSection", diskSection)]
  | references | diskSection => [("Info", text)]
  | note => [("Info", text), ("Annotation", text)]
  | system => [("AnnotationSection", note), ("Info", text), ("Name", text)]
  | item => Item.textTags.map fun tag => (tag, text)
  | _ => []

/-- The children that are read as a list, by their tags, and what they are. -/
def series : Part → List String × Part
  | references => (["File"], file)
  | diskSection => (["Disk"], disk)
  | system => (["VirtualHardwareSection"], hardware)
  | hardware => (Item.tags, item)
  | item => (["HostResource"], text)
  | _ => ([], other)

/-- What a child with the local name is. -/
def child (p : Part) (tag : String) : Part :=
  if tag ∈ p.series.1 then p.series.2 else (p.once.lookup tag).getD other

/-- The children that are read as a list. -/
def listed (p : Part) (e : Element) : List Element :=
  e.children.filter fun child => child.localName ∈ p.series.1

/-- What may be read from the part. A virtual system may also be asked for an annotation. -/
def Value : Part → Type
  | envelope => Descriptor
  | references => References
  | note => Annotation
  | diskSection => DiskSection
  | system => VirtualSystem ⊕ Option Annotation
  | hardware => HardwareSection
  | file => FileReference
  | disk => Disk
  | item => Item
  | text => String
  | other => Unit

/-- The value is read from the element. -/
def Reads : (p : Part) → p.Value → Element → Prop
  | envelope => Descriptor.ReadFrom
  | references => References.ReadFrom
  | note => Annotation.ReadFrom
  | diskSection => DiskSection.ReadFrom
  | system => fun value e => value.elim (fun system => system.ReadFrom e)
      (SectionFrom Annotation.ReadFrom e "AnnotationSection")
  | hardware => HardwareSection.ReadFrom
  | file => FileReference.ReadFrom
  | disk => fun disk e => Disk.read e = disk
  | item => Item.ReadFrom
  | text => fun s e => e.trimmedText = s
  | other => fun _ _ => True

/-- The same is read from both elements, or nothing from either. -/
def ReadAlike (p : Part) (e e' : Element) : Prop :=
  ∀ value, p.Reads value e ↔ p.Reads value e'

theorem ReadAlike.refl (p : Part) (e : Element) : p.ReadAlike e e := fun _ => .rfl

theorem ReadAlike.symm {p : Part} {e e' : Element} (h : p.ReadAlike e e') : p.ReadAlike e' e :=
  fun value => (h value).symm

theorem ReadAlike.trans {p : Part} {e e' e'' : Element} (h : p.ReadAlike e e')
    (h' : p.ReadAlike e' e'') : p.ReadAlike e e'' :=
  fun value => (h value).trans (h' value)

/-- Children of which one at most may occur are read alike one by one, or there are several of both. -/
def OnceAlike (p : Part) (es es' : List Element) : Prop :=
  List.Forall₂ p.ReadAlike es es' ∨ (1 < es.length ∧ 1 < es'.length)

end Part

/-- The elements are alike in all that is looked for in the part. -/
structure SeenAlike (p : Part) (e e' : Element) : Prop where
  text : e.text = e'.text
  keys : ∀ key ∈ p.keys, e.attribute? key = e'.attribute? key
  once : ∀ entry ∈ p.once, entry.2.OnceAlike (e.childrenNamed entry.1) (e'.childrenNamed entry.1)
  series : List.Forall₂ p.series.2.ReadAlike (p.listed e) (p.listed e')

variable {p : Part} {e e' : Element} {es es' : List Element}

/-! ### Lists of children -/

/-- A relation that holds of the elements on the left holds of those read alike. -/
theorem forall₂_of_alike {α : Type} {R : Element → α → Prop} {values : List α}
    (transfer : ∀ e e' a, p.ReadAlike e e' → R e a → R e' a)
    (alike : List.Forall₂ p.ReadAlike es es') (related : List.Forall₂ R es values) :
    List.Forall₂ R es' values := by
  induction alike generalizing values with
  | nil => exact related
  | cons first _ ih =>
    obtain _ | ⟨head, rest⟩ := related
    exact .cons (transfer _ _ _ first head) (ih rest)

theorem forall₂_flip_alike (alike : List.Forall₂ p.ReadAlike es es') :
    List.Forall₂ p.ReadAlike es' es :=
  (alike.imp fun _ _ h => h.symm).flip

namespace Part.OnceAlike

theorem symm (h : p.OnceAlike es es') : p.OnceAlike es' es :=
  h.imp forall₂_flip_alike And.symm

theorem forall₂_of_length_le (h : p.OnceAlike es es') (single : es.length ≤ 1) :
    List.Forall₂ p.ReadAlike es es' :=
  h.resolve_right fun several => Nat.not_lt.2 single several.1

theorem related {α : Type} {R : Element → α → Prop} {found : Option α} (h : p.OnceAlike es es')
    (transfer : ∀ e e' a, p.ReadAlike e e' → R e a → R e' a)
    (related : List.Forall₂ R es found.toList) : List.Forall₂ R es' found.toList := by
  refine forall₂_of_alike transfer (h.forall₂_of_length_le ?_) related
  rw [related.length_eq]
  exact exists_toList_iff.1 ⟨found, rfl⟩

end Part.OnceAlike

/-! ### Texts and heads -/

theorem trimmedText_eq (alike : Part.text.ReadAlike e e') : e.trimmedText = e'.trimmedText :=
  ((alike e.trimmedText).1 rfl).symm

theorem read_eq_of_alike (alike : Part.disk.ReadAlike e e') : Disk.read e = Disk.read e' :=
  ((alike (Disk.read e)).1 rfl).symm

namespace SeenAlike

theorem symm (h : SeenAlike p e e') : SeenAlike p e' e where
  text := h.text.symm
  keys key member := (h.keys key member).symm
  once entry member := (h.once entry member).symm
  series := forall₂_flip_alike h.series

theorem textFrom (h : SeenAlike p e e') {tag : String} (isText : (tag, Part.text) ∈ p.once)
    {found : Option String} (text : TextFrom e tag found) : TextFrom e' tag found := by
  have single : (e.childrenNamed tag).length ≤ 1 := by
    rw [← List.length_map Element.trimmedText, text]
    exact exists_toList_iff.1 ⟨found, rfl⟩
  have alike := (h.once _ isText).forall₂_of_length_le single
  rw [TextFrom, ← map_eq_map_of_forall₂ alike trimmedText_eq]
  exact text

theorem numberFrom (h : SeenAlike p e e') {tag : String} (isText : (tag, Part.text) ∈ p.once)
    {n : Option Int} (number : NumberFrom e tag n) : NumberFrom e' tag n := by
  obtain ⟨text, found, read⟩ := number
  exact ⟨text, h.textFrom isText found, read⟩

theorem headFrom (h : SeenAlike p e e') (flag : "required" ∈ p.keys)
    (info : ("Info", Part.text) ∈ p.once) {required : Option Bool} {text : Option String}
    (head : HeadFrom e required text) : HeadFrom e' required text where
  required := by rw [← h.keys _ flag]; exact head.required
  info := h.textFrom info head.info

/-- The children of one tag that are read as a list are the listed ones. -/
theorem childrenNamed_alike (h : SeenAlike p e e') {tag : String} {q : Part}
    (single : p.series = ([tag], q)) :
    List.Forall₂ q.ReadAlike (e.childrenNamed tag) (e'.childrenNamed tag) := by
  have same (e : Element) : p.listed e = e.childrenNamed tag := by
    unfold Part.listed Element.childrenNamed
    rw [single]
    apply List.filter_congr
    intro child _
    simp [Bool.beq_eq_decide_eq]
  have alike := h.series
  rwa [same, same, single] at alike

/-! ### The parts -/

theorem references (h : SeenAlike .references e e') {references : References}
    (reads : references.ReadFrom e) : references.ReadFrom e' where
  head := h.headFrom (by decide) (by decide) reads.head
  files := forall₂_of_alike (p := .file) (fun _ _ file alike => (alike file).1)
    (h.childrenNamed_alike rfl) reads.files

theorem annotation (h : SeenAlike .note e e') {note : Annotation} (reads : note.ReadFrom e) :
    note.ReadFrom e' where
  head := h.headFrom (by decide) (by decide) reads.head
  annotation := h.textFrom (by decide) reads.annotation

theorem diskSection (h : SeenAlike .diskSection e e') {disks : DiskSection}
    (reads : disks.ReadFrom e) : disks.ReadFrom e' where
  head := h.headFrom (by decide) (by decide) reads.head
  disks := by
    rw [← map_eq_map_of_forall₂ (h.childrenNamed_alike rfl) read_eq_of_alike]
    exact reads.disks

theorem item (h : SeenAlike .item e e') {item : Item} (reads : item.ReadFrom e) :
    item.ReadFrom e' where
  resourceType := h.numberFrom (by decide) reads.resourceType
  instanceId := h.textFrom (by decide) reads.instanceId
  parent := h.textFrom (by decide) reads.parent
  addressOnParent := h.textFrom (by decide) reads.addressOnParent
  hostResource := by
    rw [← map_eq_map_of_forall₂ (h.childrenNamed_alike rfl) trimmedText_eq]
    exact reads.hostResource
  virtualQuantity := h.numberFrom (by decide) reads.virtualQuantity
  virtualQuantityUnits := h.textFrom (by decide) reads.virtualQuantityUnits
  allocationUnits := h.textFrom (by decide) reads.allocationUnits
  elementName := h.textFrom (by decide) reads.elementName

theorem hardware (h : SeenAlike .hardware e e') {hardware : HardwareSection}
    (reads : hardware.ReadFrom e) : hardware.ReadFrom e' where
  items := forall₂_of_alike (p := .item) (fun _ _ item alike => (alike item).1) h.series reads.items

theorem sectionFrom (h : SeenAlike p e e') {tag : String} {q : Part} (isSection : (tag, q) ∈ p.once)
    {α : Type} {reads : α → Element → Prop} (transfer : ∀ e e' a, q.ReadAlike e e' → reads a e → reads a e')
    {found : Option α} (section_ : SectionFrom reads e tag found) : SectionFrom reads e' tag found :=
  (h.once _ isSection).related transfer section_

theorem system (h : SeenAlike .system e e') {system : VirtualSystem} (reads : system.ReadFrom e) :
    system.ReadFrom e' where
  id := by rw [← h.keys "id" (by decide)]; exact reads.id
  info := h.textFrom (by decide) reads.info
  name := h.textFrom (by decide) reads.name
  hardware := forall₂_of_alike (p := .hardware) (fun _ _ hardware alike => (alike hardware).1)
    (h.childrenNamed_alike rfl) reads.hardware

theorem annotationOf (h : SeenAlike p e e') (looked : ("AnnotationSection", Part.note) ∈ p.once)
    {note : Option Annotation} (section_ : SectionFrom Annotation.ReadFrom e "AnnotationSection" note) :
    SectionFrom Annotation.ReadFrom e' "AnnotationSection" note :=
  h.sectionFrom looked (fun _ _ note alike => (alike note).1) section_

theorem annotationFrom (h : SeenAlike .envelope e e') {note : Option Annotation}
    (chosen : AnnotationFrom e note) : AnnotationFrom e' note := by
  obtain ⟨own, system, ownFrom, systems, chosen⟩ := chosen
  have ownFrom' := h.annotationOf (by decide) ownFrom
  have alike : List.Forall₂ Part.system.ReadAlike (e.childrenNamed "VirtualSystem")
      (e'.childrenNamed "VirtualSystem") :=
    (h.once ("VirtualSystem", .system) (by decide)).forall₂_of_length_le
      (exists_toList_iff.1 ⟨system, systems⟩)
  rw [systems] at alike
  -- The system only matters where the package has no annotation of its own.
  cases system with
  | none =>
    have systems' := List.forall₂_nil_left_iff.1 alike
    exact ⟨own, none, ownFrom', systems', by cases own <;> exact chosen⟩
  | some s =>
    obtain ⟨s', rest, first, none, systems'⟩ := List.forall₂_cons_left_iff.1 alike
    obtain rfl := List.forall₂_nil_left_iff.1 none
    refine ⟨own, some s', ownFrom', systems', ?_⟩
    cases own with
    | some own => exact chosen
    | none => exact (first (.inr note)).1 chosen

theorem descriptor (h : SeenAlike .envelope e e') {d : Descriptor} (reads : d.ReadFrom e) :
    d.ReadFrom e' where
  annotation := h.annotationFrom reads.annotation
  references := h.sectionFrom (q := .references) (by decide) (fun _ _ found alike => (alike found).1)
    reads.references
  virtualSystem := h.sectionFrom (q := .system) (by decide) (fun _ _ found alike => (alike (.inl found)).1)
    reads.virtualSystem
  diskSection := h.sectionFrom (q := .diskSection) (by decide) (fun _ _ found alike => (alike found).1)
    reads.diskSection

theorem file (h : SeenAlike .file e e') {file : FileReference} (reads : file.ReadFrom e) :
    file.ReadFrom e' where
  id := by rw [← h.keys "id" (by decide)]; exact reads.id
  href := by rw [← h.keys "href" (by decide)]; exact reads.href
  size := by rw [← h.keys "size" (by decide)]; exact reads.size

theorem disk (h : SeenAlike .disk e e') : Disk.read e = Disk.read e' := by
  unfold Disk.read
  rw [h.keys "diskId" (by decide), h.keys "fileRef" (by decide), h.keys "capacity" (by decide),
    h.keys "capacityAllocationUnits" (by decide)]

/-- What is read from an element is read from one that is seen alike. -/
theorem reads (h : SeenAlike p e e') {value : p.Value} (reads : p.Reads value e) :
    p.Reads value e' := by
  cases p with
  | envelope => exact h.descriptor reads
  | references => exact h.references reads
  | note => exact h.annotation reads
  | diskSection => exact h.diskSection reads
  | system =>
    cases value with
    | inl system => exact h.system reads
    | inr note => exact h.annotationOf (by decide) reads
  | hardware => exact h.hardware reads
  | file => exact h.file reads
  | disk => exact h.disk.symm.trans reads
  | item => exact h.item reads
  | text => exact (congrArg Text.trim h.text).symm.trans reads
  | other => trivial

end SeenAlike

/-! ### Outcomes -/

end OvfInspect
