import OvfInspect.Descriptor.Reader
import OvfInspect.Proofs.Traversal

/-!
# What readers find

Each part of a descriptor stands to the element it is read from in a relation that speaks of children
and attributes only. The readers succeed just with the parts that are so related, as `ofRoot_ok_iff`
says of whole descriptors.
-/

namespace OvfInspect

open Xml Reading

/-! ### Children and numbers -/

/-- The text is that of the only child with the tag. -/
def TextFrom (e : Element) (tag : String) (text : Option String) : Prop :=
  (e.childrenNamed tag).map Element.trimmedText = text.toList

/-- The number is that in the text of the only child with the tag. -/
def NumberFrom (e : Element) (tag : String) (n : Option Int) : Prop :=
  ∃ text, TextFrom e tag text ∧ optionalNumber tag text = .ok n

theorem result_findAll {ε : Type} (e : Element) (tag : String) :
    (e.findAll tag : Narrated ε (List Element)).result = .ok (e.childrenNamed tag) := rfl

theorem findAll_bind {ε α : Type} (e : Element) (tag : String) (f : List Element → Narrated ε α) :
    (e.findAll tag >>= f).result = (f (e.childrenNamed tag)).result := by
  rw [Narrated.result_bind, result_findAll]
  rfl

theorem find_ok_iff {e : Element} {tag : String} {found : Option Element} :
    (e.find tag).result = .ok found ↔ e.childrenNamed tag = found.toList := by
  unfold Element.find
  rw [findAll_bind]
  cases e.childrenNamed tag with
  | nil => cases found <;> simp
  | cons first rest =>
    cases rest with
    | nil => cases found <;> simp
    | cons second rest => cases found <;> simp

theorem child_ok_iff {e : Element} {tag : String} {found : Option Element} :
    (child e tag).result = .ok found ↔ e.childrenNamed tag = found.toList := by
  unfold child
  rw [Narrated.result_mapFault, mapError_ok_iff, find_ok_iff]

theorem childText_ok_iff {e : Element} {tag : String} {text : Option String} :
    (childText e tag).result = .ok text ↔ TextFrom e tag text := by
  unfold childText Element.childText TextFrom
  rw [Narrated.result_mapFault, mapError_ok_iff, Narrated.bind_ok_iff]
  simp only [find_ok_iff, Narrated.pure_ok_iff]
  constructor
  · rintro ⟨found, children, rfl⟩
    rw [children]
    cases found <;> rfl
  · intro texts
    cases children : e.childrenNamed tag with
    | nil => exact ⟨none, rfl, by cases text <;> simp_all⟩
    | cons first rest => exact ⟨some first, by cases text <;> simp_all⟩

theorem childNumber_ok_iff {e : Element} {tag : String} {n : Option Int} :
    (childNumber e tag).result = .ok n ↔ NumberFrom e tag n := by
  unfold childNumber NumberFrom
  simp only [Narrated.bind_ok_iff, childText_ok_iff, Narrated.result_ofExcept]

/-! ### Sections -/

/-- The section is that in the only child with the tag. -/
def SectionFrom {α : Type} (reads : α → Element → Prop) (parent : Element) (tag : String)
    (found : Option α) : Prop :=
  List.Forall₂ (fun e a => reads a e) (parent.childrenNamed tag) found.toList

theorem sectionOf_ok_iff {α : Type} {read : Element → Reading α} {reads : α → Element → Prop}
    (spec : ∀ {e : Element} {a : α}, (read e).result = .ok a ↔ reads a e) {parent : Element} {tag : String}
    {found : Option α} :
    (sectionOf parent tag read).result = .ok found ↔ SectionFrom reads parent tag found := by
  unfold sectionOf SectionFrom
  simp only [Narrated.bind_ok_iff, child_ok_iff]
  constructor
  · rintro ⟨only, children, h⟩
    rw [children]
    cases only with
    | none =>
      obtain rfl := Narrated.pure_ok_iff.1 h
      exact .nil
    | some e =>
      obtain ⟨a, ha, h⟩ := Narrated.bind_ok_iff.1 h
      obtain rfl := Narrated.pure_ok_iff.1 h
      exact .cons (spec.1 ha) .nil
  · intro h
    cases found with
    | none => exact ⟨none, List.forall₂_nil_right_iff.1 h, rfl⟩
    | some a =>
      obtain ⟨e, rest, he, hrest, children⟩ := List.forall₂_cons_right_iff.1 h
      obtain rfl := List.forall₂_nil_right_iff.1 hrest
      exact ⟨some e, children, Narrated.bind_ok_iff.2 ⟨a, spec.2 he, rfl⟩⟩

/-! ### The parts of a descriptor -/

/-- The flag of a section and its text about itself. -/
structure HeadFrom (e : Element) (required : Option Bool) (info : Option String) : Prop where
  required : optionalFlag (e.attribute? "required") = .ok required
  info : TextFrom e "Info" info

theorem sectionHead_ok_iff {e : Element} {required : Option Bool} {info : Option String} :
    (sectionHead e).result = .ok (required, info) ↔ HeadFrom e required info := by
  unfold sectionHead Reading.required
  simp only [Narrated.bind_ok_iff, childText_ok_iff, Narrated.result_ofExcept, Narrated.pure_ok_iff,
    Prod.mk.injEq]
  constructor
  · rintro ⟨_, flag, _, text, rfl, rfl⟩
    exact ⟨flag, text⟩
  · rintro ⟨flag, text⟩
    exact ⟨required, flag, info, text, rfl, rfl⟩

/-- The file is described by the attributes. -/
structure FileReference.ReadFrom (file : FileReference) (e : Element) : Prop where
  id : e.attribute? "id" = file.id
  href : e.attribute? "href" = file.href
  size : optionalNumber "File size" (e.attribute? "size") = .ok file.size

theorem FileReference.read_ok_iff {e : Element} {file : FileReference} :
    FileReference.read e = .ok file ↔ file.ReadFrom e := by
  unfold FileReference.read
  constructor
  · intro h
    obtain ⟨size, hsize, h⟩ := ok_of_bind h
    obtain rfl := Except.ok.inj h
    exact ⟨rfl, rfl, hsize⟩
  · obtain ⟨id, href, size⟩ := file
    rintro ⟨rfl, rfl, hsize⟩
    exact bind_ok_iff.2 ⟨size, hsize, rfl⟩

structure References.ReadFrom (references : References) (e : Element) : Prop where
  head : HeadFrom e references.required references.info
  files : List.Forall₂ (fun child file => FileReference.ReadFrom file child) (e.childrenNamed "File")
    references.files

theorem References.read_ok_iff {e : Element} {references : References} :
    (References.read e).result = .ok references ↔ references.ReadFrom e := by
  unfold References.read
  simp only [Narrated.bind_ok_iff, findAll_bind, Narrated.result_ofExcept, Narrated.result_log_bind,
    Narrated.pure_ok_iff, mapM_ok_iff, FileReference.read_ok_iff, Prod.exists, sectionHead_ok_iff]
  constructor
  · rintro ⟨_, _, head, _, files, rfl⟩
    exact ⟨head, files⟩
  · rintro ⟨head, files⟩
    exact ⟨_, _, head, _, files, rfl⟩

structure Annotation.ReadFrom (note : Annotation) (e : Element) : Prop where
  head : HeadFrom e note.required note.info
  annotation : TextFrom e "Annotation" note.annotation

theorem Annotation.read_ok_iff {e : Element} {note : Annotation} :
    ( Annotation.read e).result = .ok note ↔ note.ReadFrom e := by
  unfold Annotation.read
  simp only [Narrated.bind_ok_iff, Narrated.pure_ok_iff, Prod.exists, sectionHead_ok_iff,
    childText_ok_iff]
  constructor
  · rintro ⟨_, _, head, _, text, rfl⟩
    exact ⟨head, text⟩
  · rintro ⟨head, text⟩
    exact ⟨_, _, head, _, text, rfl⟩

structure DiskSection.ReadFrom (disks : DiskSection) (e : Element) : Prop where
  head : HeadFrom e disks.required disks.info
  disks : (e.childrenNamed "Disk").map Disk.read = disks.disks

theorem DiskSection.read_ok_iff {e : Element} {disks : DiskSection} :
    (DiskSection.read e).result = .ok disks ↔ disks.ReadFrom e := by
  unfold DiskSection.read
  simp only [Narrated.bind_ok_iff, findAll_bind, Narrated.result_log_bind, Narrated.pure_ok_iff,
    Prod.exists, sectionHead_ok_iff]
  constructor
  · rintro ⟨_, _, head, rfl⟩
    exact ⟨head, rfl⟩
  · obtain ⟨required, info, disks⟩ := disks
    rintro ⟨head, rfl⟩
    exact ⟨_, _, head, rfl⟩

structure Item.ReadFrom (item : Item) (e : Element) : Prop where
  resourceType : NumberFrom e "ResourceType" item.resourceType
  instanceId : TextFrom e "InstanceID" item.instanceId
  parent : TextFrom e "Parent" item.parent
  addressOnParent : TextFrom e "AddressOnParent" item.addressOnParent
  hostResource : (e.childrenNamed "HostResource").map Element.trimmedText = item.hostResource
  virtualQuantity : NumberFrom e "VirtualQuantity" item.virtualQuantity
  virtualQuantityUnits : TextFrom e "VirtualQuantityUnits" item.virtualQuantityUnits
  allocationUnits : TextFrom e "AllocationUnits" item.allocationUnits
  elementName : TextFrom e "ElementName" item.elementName

theorem Item.read_ok_iff {e : Element} {item : Item} :
    (Item.read e).result = .ok item ↔ item.ReadFrom e := by
  unfold Item.read
  simp only [Narrated.bind_ok_iff, findAll_bind, Narrated.pure_ok_iff, childText_ok_iff,
    childNumber_ok_iff]
  constructor
  · rintro ⟨_, kind, _, id, _, parent, _, address, _, quantity, _, units, _, allocation, _, name, rfl⟩
    exact ⟨kind, id, parent, address, rfl, quantity, units, allocation, name⟩
  · obtain ⟨_, _, _, _, hostResource, _, _, _, _⟩ := item
    rintro ⟨kind, id, parent, address, rfl, quantity, units, allocation, name⟩
    exact ⟨_, kind, _, id, _, parent, _, address, _, quantity, _, units, _, allocation, _, name, rfl⟩

/-- The children that are items. -/
def itemChildren (e : Element) : List Element :=
  e.children.filter fun child => child.localName ∈ Item.tags

structure HardwareSection.ReadFrom (hardware : HardwareSection) (e : Element) : Prop where
  items : List.Forall₂ (fun child item => Item.ReadFrom item child) (itemChildren e) hardware.items

theorem readAny_ok_iff {e : Element} {found : Option Item} :
    (Item.readAny e).result = .ok found ↔
      if e.localName ∈ Item.tags then ∃ item, found = some item ∧ item.ReadFrom e
      else found = none := by
  unfold Item.readAny
  split
  · simp only [Narrated.bind_ok_iff, Narrated.pure_ok_iff, Item.read_ok_iff]
    constructor
    · rintro ⟨item, reads, rfl⟩
      exact ⟨item, rfl, reads⟩
    · rintro ⟨item, rfl, reads⟩
      exact ⟨item, reads, rfl⟩
  · rw [Narrated.result_log_bind, Narrated.pure_ok_iff, eq_comm]

/-- Reading all children and dropping those that are no items reads the children that are. -/
theorem mapM_readAny_ok_iff {children : List Element} {items : List Item} :
    (∃ found, children.mapM (fun e => (Item.readAny e).result) = .ok found ∧
      found.filterMap id = items) ↔
      List.Forall₂ (fun child item => Item.ReadFrom item child)
        (children.filter fun child => child.localName ∈ Item.tags) items := by
  simp only [mapM_ok_iff, readAny_ok_iff]
  induction children generalizing items with
  | nil => simp [eq_comm]
  | cons child children ih =>
    simp only [List.forall₂_cons_left_iff]
    by_cases isItem : child.localName ∈ Item.tags
    · simp only [isItem, if_true, List.filter_cons, decide_true, List.forall₂_cons_left_iff, ← ih]
      constructor
      · rintro ⟨_, ⟨_, found, ⟨item, rfl, reads⟩, rest, rfl⟩, rfl⟩
        exact ⟨item, _, reads, ⟨found, rest, rfl⟩, rfl⟩
      · rintro ⟨item, _, reads, ⟨found, rest, rfl⟩, rfl⟩
        exact ⟨_, ⟨_, found, ⟨item, rfl, reads⟩, rest, rfl⟩, rfl⟩
    · simp only [isItem, if_false, List.filter_cons, decide_false, Bool.false_eq_true, ← ih]
      constructor
      · rintro ⟨_, ⟨_, found, rfl, rest, rfl⟩, rfl⟩
        exact ⟨found, rest, rfl⟩
      · rintro ⟨found, rest, rfl⟩
        exact ⟨_, ⟨_, found, rfl, rest, rfl⟩, rfl⟩

theorem HardwareSection.read_ok_iff {e : Element} {hardware : HardwareSection} :
    (HardwareSection.read e).result = .ok hardware ↔ hardware.ReadFrom e := by
  unfold HardwareSection.read
  simp only [Narrated.bind_ok_iff, Narrated.result_log_bind, Narrated.pure_ok_iff,
    Narrated.result_mapM]
  constructor
  · rintro ⟨found, read, rfl⟩
    exact ⟨mapM_readAny_ok_iff.1 ⟨found, read, rfl⟩⟩
  · obtain ⟨items⟩ := hardware
    rintro ⟨reads⟩
    obtain ⟨found, read, rfl⟩ := mapM_readAny_ok_iff.2 reads
    exact ⟨found, read, rfl⟩

structure VirtualSystem.ReadFrom (system : VirtualSystem) (e : Element) : Prop where
  id : e.attribute? "id" = system.id
  info : TextFrom e "Info" system.info
  name : TextFrom e "Name" system.name
  hardware : List.Forall₂ (fun child hardware => HardwareSection.ReadFrom hardware child)
    (e.childrenNamed "VirtualHardwareSection") system.hardware

theorem VirtualSystem.read_ok_iff {e : Element} {system : VirtualSystem} :
    (VirtualSystem.read e).result = .ok system ↔ system.ReadFrom e := by
  unfold VirtualSystem.read
  simp only [findAll_bind, Narrated.bind_ok_iff, Narrated.pure_ok_iff, Narrated.result_mapM,
    mapM_ok_iff, HardwareSection.read_ok_iff, childText_ok_iff]
  constructor
  · rintro ⟨_, hardware, _, info, _, name, rfl⟩
    exact ⟨rfl, info, name, hardware⟩
  · obtain ⟨id, _, _, _⟩ := system
    rintro ⟨rfl, info, name, hardware⟩
    exact ⟨_, hardware, _, info, _, name, rfl⟩

/-! ### The whole descriptor -/

/-- The annotation is that of the whole package, or else that of its virtual system. -/
def AnnotationFrom (root : Element) (note : Option Annotation) : Prop :=
  ∃ own system, SectionFrom Annotation.ReadFrom root "AnnotationSection" own ∧
    root.childrenNamed "VirtualSystem" = Option.toList system ∧
    match own, system with
    | none, some e => SectionFrom Annotation.ReadFrom e "AnnotationSection" note
    | found, _ => note = found

theorem Annotation.readFrom_ok_iff {root : Element} {note : Option Annotation} :
    ( Annotation.readFrom root).result = .ok note ↔ AnnotationFrom root note := by
  unfold Annotation.readFrom AnnotationFrom
  simp only [Narrated.bind_ok_iff, child_ok_iff,
    sectionOf_ok_iff Annotation.read_ok_iff]
  constructor
  · rintro ⟨own, ownFrom, system, systems, h⟩
    refine ⟨own, system, ownFrom, systems, ?_⟩
    cases own with
    | some own => exact (Narrated.pure_ok_iff.1 h).symm
    | none =>
      cases system with
      | none => exact (Narrated.pure_ok_iff.1 h).symm
      | some e => exact (sectionOf_ok_iff Annotation.read_ok_iff).1 h
  · rintro ⟨own, system, ownFrom, systems, h⟩
    refine ⟨own, ownFrom, system, systems, ?_⟩
    cases own with
    | some own => exact Narrated.pure_ok_iff.2 h.symm
    | none =>
      cases system with
      | none => exact Narrated.pure_ok_iff.2 h.symm
      | some e => exact (sectionOf_ok_iff Annotation.read_ok_iff).2 h

structure Descriptor.ReadFrom (d : Descriptor) (root : Element) : Prop where
  annotation : AnnotationFrom root d.annotation
  references : SectionFrom References.ReadFrom root "References" d.references
  virtualSystem : SectionFrom VirtualSystem.ReadFrom root "VirtualSystem" d.virtualSystem
  diskSection : SectionFrom DiskSection.ReadFrom root "DiskSection" d.diskSection

/-- A descriptor is read from a tree just if it is related to the tree. -/
theorem ofRoot_ok_iff {root : Element} {d : Descriptor} :
    (Descriptor.ofRoot root).result = .ok d ↔ d.ReadFrom root := by
  unfold Descriptor.ofRoot
  simp only [Narrated.result_log_bind, Narrated.bind_ok_iff, Narrated.pure_ok_iff,
    Annotation.readFrom_ok_iff, sectionOf_ok_iff References.read_ok_iff,
    sectionOf_ok_iff VirtualSystem.read_ok_iff,
    sectionOf_ok_iff DiskSection.read_ok_iff]
  constructor
  · rintro ⟨_, note, _, references, _, system, _, disks, rfl⟩
    exact ⟨note, references, system, disks⟩
  · rintro ⟨note, references, system, disks⟩
    exact ⟨_, note, _, references, _, system, _, disks, rfl⟩

/-! ### Documents -/

variable {room : Nat} {root : Element} {content : Content}

/-- What parsing gives for a document with the tree. -/
def treeOutcome (room : Nat) (root : Element) : Except Fault Descriptor :=
  (Descriptor.ofRoot root).result.mapError (Malformed.fault room)

theorem treeOutcome_ok_iff {d : Descriptor} :
    treeOutcome room root = .ok d ↔ (Descriptor.ofRoot root).result = .ok d :=
  mapError_ok_iff

theorem parse_result_of_root (parsed : Xml.parse content = .ok root) :
    (Descriptor.parse room content).result = treeOutcome room root := by
  unfold Descriptor.parse
  rw [parsed]
  exact Narrated.result_mapFault _ _

/-- What is read from a document has nothing to do with the room for messages. -/
theorem parse_ok_iff_of_room (room' : Nat) {d : Descriptor} :
    (Descriptor.parse room content).result = .ok d ↔ (Descriptor.parse room' content).result = .ok d := by
  cases parsed : Xml.parse content with
  | error refusal =>
    unfold Descriptor.parse
    rw [parsed]
    cases refusal <;> exact Iff.rfl
  | ok root =>
    rw [parse_result_of_root parsed, parse_result_of_root parsed, treeOutcome_ok_iff, treeOutcome_ok_iff]

/-- Reading the tree stops at several children where only one may be, and one of them is nested deeper than
there is room to show. -/
def DeepAmbiguity (room : Nat) (root : Element) : Prop :=
  ∃ a, (Descriptor.ofRoot root).result = .error (.ambiguous a) ∧ ∃ e ∈ a.found, room < e.depth

instance (room : Nat) (root : Element) : Decidable (DeepAmbiguity room root) :=
  match result : (Descriptor.ofRoot root).result with
  | .error (.ambiguous a) =>
    decidable_of_iff (∃ e ∈ a.found, room < e.depth) (by simp [DeepAmbiguity, result])
  | .error .illFormed | .error (.number _ _) | .error (.boolean _) | .ok _ =>
    isFalse (by simp [DeepAmbiguity, result])

theorem parse_tooDeep_iff : (Descriptor.parse room content).result = .error .tooDeep ↔
    ∃ root, Xml.parse content = .ok root ∧ DeepAmbiguity room root := by
  cases parsed : Xml.parse content with
  | error refusal => cases refusal <;> simp [Descriptor.parse, parsed, Narrated.fail]
  | ok root =>
    rw [parse_result_of_root parsed, treeOutcome, mapError_error_iff]
    simp only [Malformed.fault_eq_tooDeep_iff, Except.ok.injEq, exists_eq_left', DeepAmbiguity]
    constructor
    · rintro ⟨_, failed, a, rfl, deep⟩
      exact ⟨a, failed, deep⟩
    · rintro ⟨a, failed, deep⟩
      exact ⟨_, failed, a, rfl, deep⟩

/-- The outcome of a tree that is not read: it is malformed, unless it is too deep to say so. -/
structure Unread (room : Nat) (root : Element) (outcome : Except Fault Descriptor) : Prop where
  shallow : ¬ DeepAmbiguity room root → ∃ cause, outcome = .error (.defect (.malformed cause))
  deep : DeepAmbiguity room root → outcome = .error .tooDeep

theorem unread_treeOutcome {cause : Malformed} (failed : (Descriptor.ofRoot root).result = .error cause) :
    Unread room root (treeOutcome room root) := by
  unfold treeOutcome
  rw [failed, Except.mapError]
  constructor
  · intro shallow
    refine ⟨cause, congrArg _ (Malformed.fault_of_ne_tooDeep fun tooDeep => shallow ?_)⟩
    obtain ⟨a, rfl, deep⟩ := Malformed.fault_eq_tooDeep_iff.1 tooDeep
    exact ⟨a, failed, deep⟩
  · rintro ⟨a, stopped, deep⟩
    obtain rfl := Except.error.inj (failed.symm.trans stopped)
    exact congrArg _ (Malformed.fault_eq_tooDeep_iff.2 ⟨a, rfl, deep⟩)

end OvfInspect
