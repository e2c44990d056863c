import OvfInspect.Proofs.Numerals
import OvfInspect.Proofs.Reading

/-!
# Written descriptors

A descriptor is written as a tree with an element or attribute for every value that it has. `Written`
leaves open which namespaces the names are in, how differently named children are mixed, which of its
tags an item has and where the annotation stands. `ofRoot_written` shows that the descriptor is read
back from all of these trees.
-/

namespace OvfInspect

open Xml Reading Number Text

/-! ### What can be written -/

def NoBlankEnds (s : String) : Prop :=
  (∀ c ∈ s.toList.head?, isBlank c = false) ∧ ∀ c ∈ s.toList.getLast?, isBlank c = false

instance : DecidablePred NoBlankEnds := fun s =>
  decidable_of_iff (s.toList.head?.all (!isBlank ·) = true ∧ s.toList.getLast?.all (!isBlank ·) = true)
    (by simp [NoBlankEnds, Option.all_eq_true])

def Decimal (n : Int) : Prop :=
  0 ≤ n ∧ n.toNat < 10 ^ maxDigits

structure References.Writable (references : References) : Prop where
  info : ∀ s ∈ references.info, NoBlankEnds s
  sizes : ∀ file ∈ references.files, ∀ n ∈ file.size, Decimal n

structure Annotation.Writable (note : Annotation) : Prop where
  info : ∀ s ∈ note.info, NoBlankEnds s
  annotation : ∀ s ∈ note.annotation, NoBlankEnds s

structure DiskSection.Writable (disks : DiskSection) : Prop where
  info : ∀ s ∈ disks.info, NoBlankEnds s

structure Item.Writable (item : Item) : Prop where
  numbers : ∀ n ∈ [item.resourceType, item.virtualQuantity], ∀ k ∈ n, Decimal k
  texts : ∀ text ∈ [item.instanceId, item.parent, item.addressOnParent, item.virtualQuantityUnits,
    item.allocationUnits, item.elementName], ∀ s ∈ text, NoBlankEnds s
  hostResource : ∀ s ∈ item.hostResource, NoBlankEnds s

structure VirtualSystem.Writable (system : VirtualSystem) : Prop where
  info : ∀ s ∈ system.info, NoBlankEnds s
  name : ∀ s ∈ system.name, NoBlankEnds s
  items : ∀ hardware ∈ system.hardware, ∀ item ∈ hardware.items, item.Writable

structure Descriptor.Writable (d : Descriptor) : Prop where
  references : ∀ references ∈ d.references, references.Writable
  annotation : ∀ note ∈ d.annotation, note.Writable
  virtualSystem : ∀ system ∈ d.virtualSystem, system.Writable
  diskSection : ∀ disks ∈ d.diskSection, disks.Writable

/-! ### Trees that a descriptor is written as -/

/-- The children are those of the groups, each group in its own order. -/
def Arranged (groups : List (List Element)) (children : List Element) : Prop :=
  children.Perm groups.flatten ∧ ∀ group ∈ groups, group.Sublist children

/-- Children with one tag, and what has to hold of each in turn. -/
structure Kind where
  tag : String
  forms : List (Element → Prop)

structure Kind.Group (kind : Kind) (group : List Element) : Prop where
  tagged : ∀ child ∈ group, child.localName = kind.tag
  forms : List.Forall₂ (fun form child => form child) kind.forms group

def HasChildren (kinds : List Kind) (e : Element) : Prop :=
  ∃ groups, Arranged groups e.children ∧ List.Forall₂ Kind.Group kinds groups

/-- The fields that have a value. -/
def present (fields : List (String × Option String)) : List (String × String) :=
  fields.filterMap fun field => field.2.map (Prod.mk field.1)

/-- The attributes are those of the fields that have a value, in any order. -/
def HasAttributes (fields : List (String × Option String)) (e : Element) : Prop :=
  (e.attributes.map fun entry => (entry.1.localName, entry.2)).Perm (present fields)

def HasText (s : String) (e : Element) : Prop :=
  e.text = s

def Kind.text (tag : String) (text : Option String) : Kind :=
  ⟨tag, text.toList.map HasText⟩

def Kind.number (tag : String) (n : Option Int) : Kind :=
  .text tag (n.map toString)

def FileReference.Written (file : FileReference) (e : Element) : Prop :=
  HasAttributes [("id", file.id), ("href", file.href), ("size", file.size.map toString)] e

structure References.Written (references : References) (e : Element) : Prop where
  attributes : HasAttributes [("required", references.required.map toString)] e
  children : HasChildren [.text "Info" references.info,
    ⟨"File", references.files.map FileReference.Written⟩] e

structure Annotation.Written (note : Annotation) (e : Element) : Prop where
  attributes : HasAttributes [("required", note.required.map toString)] e
  children : HasChildren [.text "Info" note.info, .text "Annotation" note.annotation] e

def Disk.Written (disk : Disk) (e : Element) : Prop :=
  HasAttributes [("diskId", disk.id), ("fileRef", disk.fileRef), ("capacity", disk.capacity),
    ("capacityAllocationUnits", disk.capacityUnits)] e

structure DiskSection.Written (disks : DiskSection) (e : Element) : Prop where
  attributes : HasAttributes [("required", disks.required.map toString)] e
  children : HasChildren [.text "Info" disks.info, ⟨"Disk", disks.disks.map Disk.Written⟩] e

structure Item.Written (item : Item) (e : Element) : Prop where
  tag : e.localName ∈ Item.tags
  children : HasChildren [.number "ResourceType" item.resourceType,
    .text "InstanceID" item.instanceId, .text "Parent" item.parent,
    .text "AddressOnParent" item.addressOnParent, ⟨"HostResource", item.hostResource.map HasText⟩,
    .number "VirtualQuantity" item.virtualQuantity,
    .text "VirtualQuantityUnits" item.virtualQuantityUnits,
    .text "AllocationUnits" item.allocationUnits, .text "ElementName" item.elementName] e

def HardwareSection.Written (hardware : HardwareSection) (e : Element) : Prop :=
  List.Forall₂ Item.Written hardware.items e.children

/-- The system is written with an annotation inside it if one is given. -/
structure VirtualSystem.Written (inside : Option Annotation) (system : VirtualSystem)
    (e : Element) : Prop where
  attributes : HasAttributes [("id", system.id)] e
  children : HasChildren [.text "Info" system.info, .text "Name" system.name,
    ⟨"AnnotationSection", inside.toList.map Annotation.Written⟩,
    ⟨"VirtualHardwareSection", system.hardware.map HardwareSection.Written⟩] e

/-- The sections of a descriptor whose annotation stands at the root or inside the virtual system. -/
def Descriptor.kinds (d : Descriptor) (own inside : Option Annotation) : List Kind :=
  [⟨"AnnotationSection", own.toList.map Annotation.Written⟩,
    ⟨"References", d.references.toList.map References.Written⟩,
    ⟨"VirtualSystem", d.virtualSystem.toList.map (VirtualSystem.Written inside)⟩,
    ⟨"DiskSection", d.diskSection.toList.map DiskSection.Written⟩]

inductive Descriptor.Written (d : Descriptor) (root : Element) : Prop where
  | ofPackage (children : HasChildren (d.kinds d.annotation none) root)
  | ofSystem (someSystem : d.virtualSystem.isSome = true)
      (children : HasChildren (d.kinds none d.annotation) root)

/-! ### Finding what was written -/

variable {e root : Element} {tag : String} {kinds : List Kind} {kind : Kind}
  {groups : List (List Element)}

theorem Kind.Group.filter_eq_self {group : List Element} (h : kind.Group group) :
    group.filter (fun child => child.localName == kind.tag) = group := by
  rw [List.filter_eq_self]
  intro child member
  exact beq_iff_eq.2 (h.tagged child member)

theorem Kind.Group.filter_eq_nil {group : List Element} (h : kind.Group group) (other : kind.tag ≠ tag) :
    group.filter (fun child => child.localName == tag) = [] := by
  rw [List.filter_eq_nil_iff]
  intro child member tagged
  rw [beq_iff_eq, h.tagged child member] at tagged
  exact other tagged

theorem filter_flatten_of_other (related : List.Forall₂ Kind.Group kinds groups)
    (other : tag ∉ kinds.map Kind.tag) :
    groups.flatten.filter (fun child => child.localName == tag) = [] := by
  induction related with
  | nil => rfl
  | cons group _ ih =>
    rw [List.map_cons, List.mem_cons, not_or] at other
    rw [List.flatten_cons, List.filter_append, group.filter_eq_nil (Ne.symm other.1), ih other.2,
      List.append_nil]

theorem filter_flatten_of_kind (related : List.Forall₂ Kind.Group kinds groups)
    (distinct : (kinds.map Kind.tag).Nodup) (member : kind ∈ kinds) :
    ∃ group ∈ groups, kind.Group group ∧
      groups.flatten.filter (fun child => child.localName == kind.tag) = group := by
  induction related with
  | nil => cases member
  | @cons first group kinds groups isGroup rest ih =>
    rw [List.map_cons, List.nodup_cons] at distinct
    rw [List.flatten_cons, List.filter_append]
    rcases List.mem_cons.1 member with rfl | member
    · refine ⟨group, List.mem_cons_self, isGroup, ?_⟩
      rw [isGroup.filter_eq_self, filter_flatten_of_other rest distinct.1, List.append_nil]
    · obtain ⟨found, isFound, group, filtered⟩ := ih distinct.2 member
      have other : first.tag ≠ kind.tag := by
        intro same
        rw [same] at distinct
        exact distinct.1 (List.mem_map_of_mem member)
      refine ⟨found, List.mem_cons_of_mem _ isFound, group, ?_⟩
      rw [isGroup.filter_eq_nil other, filtered, List.nil_append]

/-- However the kinds of children are mixed, those of one kind are found in their order. -/
theorem HasChildren.named (h : HasChildren kinds e) (kind : Kind)
    (distinct : (kinds.map Kind.tag).Nodup) (member : kind ∈ kinds) :
    List.Forall₂ (fun form child => form child) kind.forms (e.childrenNamed kind.tag) := by
  obtain ⟨groups, ⟨mixed, ordered⟩, related⟩ := h
  obtain ⟨group, isGroup, forms, filtered⟩ := filter_flatten_of_kind related distinct member
  have kept : group.Sublist (e.childrenNamed kind.tag) := by
    rw [← forms.filter_eq_self]
    exact (ordered group isGroup).filter _
  have all : (e.childrenNamed kind.tag).Perm group := by
    rw [← filtered]
    exact mixed.filter _
  rw [← kept.eq_of_length all.length_eq.symm]
  exact forms.forms

/-! ### Attributes -/

section Attributes

variable {fields : List (String × Option String)} {key : String} {value : Option String}

theorem filter_present_of_other (other : key ∉ fields.map Prod.fst) :
    (present fields).filter (fun entry => entry.1 == key) = [] := by
  rw [List.filter_eq_nil_iff]
  intro entry member
  obtain ⟨field, isField, given⟩ := List.mem_filterMap.1 member
  obtain ⟨_, -, rfl⟩ := Option.map_eq_some_iff.1 given
  rw [beq_iff_eq]
  rintro rfl
  exact other (List.mem_map_of_mem isField)

theorem filter_present (distinct : (fields.map Prod.fst).Nodup) (member : (key, value) ∈ fields) :
    (present fields).filter (fun entry => entry.1 == key) = (value.map (Prod.mk key)).toList := by
  have split (field : String × Option String) (rest : List (String × Option String)) :
      present (field :: rest) = (field.2.map (Prod.mk field.1)).toList ++ present rest := by
    obtain ⟨_, _ | _⟩ := field <;> rfl
  induction fields with
  | nil => cases member
  | cons first fields ih =>
    rw [List.map_cons, List.nodup_cons] at distinct
    rw [split, List.filter_append]
    rcases List.mem_cons.1 member with rfl | member
    · rw [filter_present_of_other distinct.1, List.append_nil]
      cases value <;> simp
    · have other : first.1 ≠ key := by
        intro same
        rw [same] at distinct
        exact distinct.1 (List.mem_map_of_mem member)
      rw [ih distinct.2 member]
      obtain ⟨_, _ | _⟩ := first <;> simp_all

theorem HasAttributes.attribute? (h : HasAttributes fields e) (distinct : (fields.map Prod.fst).Nodup)
    (member : (key, value) ∈ fields) : e.attribute? key = value := by
  have found := h.filter (fun entry => entry.1 == key)
  rw [filter_present distinct member] at found
  have only : (e.attributes.map fun entry => (entry.1.localName, entry.2)).filter
      (fun entry => entry.1 == key) = (value.map (Prod.mk key)).toList := by
    cases value with
    | none => exact List.perm_nil.1 found
    | some value => exact List.perm_singleton.1 found
  have first := congrArg List.head? only
  rw [List.head?_filter, List.find?_map] at first
  have values := congrArg (Option.map Prod.snd) first
  rw [Option.map_map] at values
  refine Eq.trans values ?_
  cases value <;> rfl

end Attributes

/-! ### Texts and numbers -/

theorem trim_eq_self {s : String} (h : NoBlankEnds s) : trim s = s := by
  rw [trim, trimBy_eq_self h.1 h.2, String.ofList_toList]

theorem texts_of_forms {texts : List String} {children : List Element}
    (writable : ∀ s ∈ texts, NoBlankEnds s)
    (h : List.Forall₂ (fun form child => form child) (texts.map HasText) children) :
    children.map Element.trimmedText = texts := by
  rw [List.forall₂_map_left_iff] at h
  induction h with
  | nil => rfl
  | @cons s child texts children text _ ih =>
    obtain ⟨first, rest⟩ := List.forall_mem_cons.1 writable
    rw [List.map_cons, ih rest, Element.trimmedText, show child.text = s from text, trim_eq_self first]

theorem textFrom_of_forms {text : Option String} (writable : ∀ s ∈ text, NoBlankEnds s)
    (h : List.Forall₂ (fun form child => form child) (Kind.text tag text).forms
      (e.childrenNamed tag)) : TextFrom e tag text :=
  texts_of_forms (fun s member => writable s (Option.mem_toList.1 member)) h

theorem noBlankEnds_repr (n : Nat) : NoBlankEnds n.repr := by
  obtain ⟨digits, -⟩ := toDigits_isDigit n
  unfold NoBlankEnds
  rw [Nat.toList_repr]
  exact ⟨fun c first => not_isBlank_of_isDigit (digits c (List.mem_of_head? first)),
    fun c last => not_isBlank_of_isDigit (digits c (List.mem_of_getLast? last))⟩

theorem optionalNumber_toString {field : String} {n : Option Int} (writable : ∀ k ∈ n, Decimal k) :
    optionalNumber field (n.map toString) = .ok n := by
  cases n with
  | none => rfl
  | some k =>
    obtain ⟨nonneg, short⟩ := writable k rfl
    obtain ⟨k, rfl⟩ := Int.eq_ofNat_of_zero_le nonneg
    have notEmpty : trim k.repr ≠ "" := by
      rw [trim_eq_self (noBlankEnds_repr k)]
      exact Nat.repr_ne_empty
    have text : toString (k : Int) = k.repr := rfl
    rw [Option.map_some, text]
    unfold optionalNumber
    dsimp only
    rw [Int.toNat_natCast] at short
    rw [if_neg notEmpty, readNatural_repr short]

theorem numberFrom_of_forms {n : Option Int} (writable : ∀ k ∈ n, Decimal k)
    (h : List.Forall₂ (fun form child => form child) (Kind.number tag n).forms
      (e.childrenNamed tag)) : NumberFrom e tag n := by
  refine ⟨n.map toString, textFrom_of_forms ?_ h, optionalNumber_toString writable⟩
  intro s member
  obtain ⟨k, given, rfl⟩ := Option.map_eq_some_iff.1 member
  obtain ⟨nonneg, -⟩ := writable k given
  obtain ⟨k, rfl⟩ := Int.eq_ofNat_of_zero_le nonneg
  exact noBlankEnds_repr k

theorem optionalFlag_toString (flag : Option Bool) :
    optionalFlag (flag.map toString) = .ok flag := by
  rcases flag with _ | _ | _ <;> rfl

theorem forall₂_of_forms {α : Type} {writes : α → Element → Prop} {reads : α → Element → Prop}
    {as : List α} {children : List Element} (read : ∀ a ∈ as, ∀ child, writes a child → reads a child)
    (h : List.Forall₂ (fun form child => form child) (as.map writes) children) :
    List.Forall₂ (fun child a => reads a child) children as := by
  rw [List.forall₂_map_left_iff] at h
  induction h with
  | nil => exact .nil
  | cons written _ ih =>
    obtain ⟨first, rest⟩ := List.forall_mem_cons.1 read
    exact .cons (first _ written) (ih rest)

/-! ### Reading what was written -/

theorem headFrom_of_written {required : Option Bool} {info : Option String}
    (attributes : HasAttributes [("required", required.map toString)] e)
    (text : TextFrom e "Info" info) : HeadFrom e required info := by
  refine ⟨?_, text⟩
  have distinct : ["required"].Nodup := by decide
  rw [attributes.attribute? distinct List.mem_cons_self]
  exact optionalFlag_toString required

theorem FileReference.Written.readFrom {file : FileReference} (written : file.Written e)
    (writable : ∀ n ∈ file.size, Decimal n) : file.ReadFrom e := by
  have distinct : ["id", "href", "size"].Nodup := by decide
  have size : e.attribute? "size" = file.size.map toString :=
    written.attribute? distinct (by simp)
  refine ⟨written.attribute? distinct (by simp), written.attribute? distinct (by simp), ?_⟩
  rw [size]
  exact optionalNumber_toString writable

theorem References.Written.readFrom {references : References} (written : references.Written e)
    (writable : references.Writable) : references.ReadFrom e := by
  have distinct : ["Info", "File"].Nodup := by decide
  have info : TextFrom e "Info" references.info :=
    textFrom_of_forms writable.info (written.children.named (.text "Info" _) distinct (by simp))
  refine ⟨headFrom_of_written written.attributes info, ?_⟩
  refine forall₂_of_forms ?_ (written.children.named
    ⟨"File", references.files.map FileReference.Written⟩ distinct (by simp))
  intro file member child fileWritten
  exact fileWritten.readFrom (writable.sizes file member)

theorem Annotation.Written.readFrom {note : Annotation} (written : note.Written e)
    (writable : note.Writable) : note.ReadFrom e := by
  have distinct : ["Info", "Annotation"].Nodup := by decide
  have info : TextFrom e "Info" note.info :=
    textFrom_of_forms writable.info (written.children.named (.text "Info" _) distinct (by simp))
  refine ⟨headFrom_of_written written.attributes info, ?_⟩
  exact textFrom_of_forms writable.annotation
    (written.children.named (.text "Annotation" _) distinct (by simp))

theorem Disk.Written.read_eq {disk : Disk} (written : disk.Written e) : Disk.read e = disk := by
  have distinct : ["diskId", "fileRef", "capacity", "capacityAllocationUnits"].Nodup := by decide
  have id : e.attribute? "diskId" = disk.id := written.attribute? distinct (by simp)
  have fileRef : e.attribute? "fileRef" = disk.fileRef := written.attribute? distinct (by simp)
  have capacity : e.attribute? "capacity" = disk.capacity := written.attribute? distinct (by simp)
  have units : e.attribute? "capacityAllocationUnits" = disk.capacityUnits :=
    written.attribute? distinct (by simp)
  rw [Disk.read, id, fileRef, capacity, units]

theorem DiskSection.Written.readFrom {disks : DiskSection} (written : disks.Written e)
    (writable : disks.Writable) : disks.ReadFrom e := by
  have distinct : ["Info", "Disk"].Nodup := by decide
  have info : TextFrom e "Info" disks.info :=
    textFrom_of_forms writable.info (written.children.named (.text "Info" _) distinct (by simp))
  refine ⟨headFrom_of_written written.attributes info, ?_⟩
  have related : List.Forall₂ (fun child disk => Disk.read child = disk) (e.childrenNamed "Disk")
      disks.disks := by
    refine forall₂_of_forms ?_ (written.children.named ⟨"Disk", disks.disks.map Disk.Written⟩ distinct
      (by simp))
    intro disk _ child diskWritten
    exact diskWritten.read_eq
  rwa [← List.forall₂_map_left_iff (R := Eq), List.forall₂_eq_eq_eq] at related

theorem Item.Written.readFrom {item : Item} (written : item.Written e) (writable : item.Writable) :
    item.ReadFrom e := by
  have distinct : ["ResourceType", "InstanceID", "Parent", "AddressOnParent", "HostResource",
    "VirtualQuantity", "VirtualQuantityUnits", "AllocationUnits", "ElementName"].Nodup := by decide
  have named := fun kind => written.children.named kind distinct
  exact {
    resourceType := numberFrom_of_forms (writable.numbers _ (by simp))
      (named (.number "ResourceType" item.resourceType) (by simp))
    instanceId := textFrom_of_forms (writable.texts _ (by simp))
      (named (.text "InstanceID" item.instanceId) (by simp))
    parent := textFrom_of_forms (writable.texts _ (by simp))
      (named (.text "Parent" item.parent) (by simp))
    addressOnParent := textFrom_of_forms (writable.texts _ (by simp))
      (named (.text "AddressOnParent" item.addressOnParent) (by simp))
    hostResource := texts_of_forms writable.hostResource
      (named ⟨"HostResource", item.hostResource.map HasText⟩ (by simp))
    virtualQuantity := numberFrom_of_forms (writable.numbers _ (by simp))
      (named (.number "VirtualQuantity" item.virtualQuantity) (by simp))
    virtualQuantityUnits := textFrom_of_forms (writable.texts _ (by simp))
      (named (.text "VirtualQuantityUnits" item.virtualQuantityUnits) (by simp))
    allocationUnits := textFrom_of_forms (writable.texts _ (by simp))
      (named (.text "AllocationUnits" item.allocationUnits) (by simp))
    elementName := textFrom_of_forms (writable.texts _ (by simp))
      (named (.text "ElementName" item.elementName) (by simp)) }

theorem HardwareSection.Written.readFrom {hardware : HardwareSection} (written : hardware.Written e)
    (writable : ∀ item ∈ hardware.items, item.Writable) : hardware.ReadFrom e := by
  have allItems : itemChildren e = e.children := by
    rw [itemChildren, List.filter_eq_self]
    intro child member
    obtain ⟨item, -, itemWritten⟩ := exists_of_forall₂ written member
    exact decide_eq_true itemWritten.tag
  have forms : List.Forall₂ (fun form child => form child) (hardware.items.map Item.Written)
      e.children := List.forall₂_map_left_iff.2 written
  refine ⟨?_⟩
  rw [allItems]
  refine forall₂_of_forms ?_ forms
  intro item member child itemWritten
  exact itemWritten.readFrom (writable item member)

theorem VirtualSystem.Written.readFrom {system : VirtualSystem} {inside : Option Annotation}
    (written : system.Written inside e) (writable : system.Writable) : system.ReadFrom e := by
  have distinct : ["Info", "Name", "AnnotationSection", "VirtualHardwareSection"].Nodup := by decide
  have single : ["id"].Nodup := by decide
  have id : e.attribute? "id" = system.id := written.attributes.attribute? single (by simp)
  have named := fun kind => written.children.named kind distinct
  refine ⟨id, textFrom_of_forms writable.info (named (.text "Info" system.info) (by simp)),
    textFrom_of_forms writable.name (named (.text "Name" system.name) (by simp)), ?_⟩
  refine forall₂_of_forms ?_
    (named ⟨"VirtualHardwareSection", system.hardware.map HardwareSection.Written⟩ (by simp))
  intro hardware member child hardwareWritten
  exact hardwareWritten.readFrom (writable.items hardware member)

/-! ### Whole descriptors -/

section Whole

variable {d : Descriptor} {own inside : Option Annotation}

theorem Descriptor.kinds_distinct : ((d.kinds own inside).map Kind.tag).Nodup :=
  (by decide : ["AnnotationSection", "References", "VirtualSystem", "DiskSection"].Nodup)

theorem sectionFrom_of_forms {α : Type} {writes : α → Element → Prop} {reads : α → Element → Prop}
    {found : Option α} (read : ∀ a ∈ found, ∀ child, writes a child → reads a child)
    (h : List.Forall₂ (fun form child => form child) (found.toList.map writes)
      (e.childrenNamed tag)) : SectionFrom reads e tag found :=
  forall₂_of_forms (fun a member => read a (Option.mem_toList.1 member)) h

/-- Annotations are found at the root and inside the element of the virtual system, where each was
written. -/
theorem annotations_of_written (children : HasChildren (d.kinds own inside) root)
    (ownWritable : ∀ note ∈ own, note.Writable) (insideWritable : ∀ note ∈ inside, note.Writable) :
    SectionFrom Annotation.ReadFrom root "AnnotationSection" own ∧
      ∃ system, root.childrenNamed "VirtualSystem" = Option.toList system ∧
        system.isSome = d.virtualSystem.isSome ∧
        ∀ e ∈ system, SectionFrom Annotation.ReadFrom e "AnnotationSection" inside := by
  have section_ {e : Element} {found : Option Annotation} (writable : ∀ note ∈ found, note.Writable)
      (forms : List.Forall₂ (fun form child => form child) (found.toList.map Annotation.Written)
        (e.childrenNamed "AnnotationSection")) :
      SectionFrom Annotation.ReadFrom e "AnnotationSection" found :=
    sectionFrom_of_forms (fun note member _ written => written.readFrom (writable note member)) forms
  have named := fun kind => children.named kind Descriptor.kinds_distinct
  refine ⟨section_ ownWritable (named ⟨"AnnotationSection", own.toList.map Annotation.Written⟩
    (by simp [Descriptor.kinds])), ?_⟩
  have systems := named
    ⟨"VirtualSystem", d.virtualSystem.toList.map (VirtualSystem.Written inside)⟩
    (by simp [Descriptor.kinds])
  rw [List.forall₂_map_left_iff] at systems
  cases someSystem : d.virtualSystem with
  | none =>
    rw [someSystem] at systems
    exact ⟨none, List.forall₂_nil_left_iff.1 systems, rfl, by simp⟩
  | some system =>
    rw [someSystem] at systems
    obtain ⟨e, rest, written, noMore, found⟩ := List.forall₂_cons_left_iff.1 systems
    obtain rfl := List.forall₂_nil_left_iff.1 noMore
    refine ⟨some e, found, rfl, ?_⟩
    rintro _ ⟨⟩
    have distinct : ["Info", "Name", "AnnotationSection", "VirtualHardwareSection"].Nodup := by decide
    exact section_ insideWritable (written.children.named
      ⟨"AnnotationSection", inside.toList.map Annotation.Written⟩ distinct (by simp))

theorem annotationFrom_of_written (written : d.Written root) (writable : d.Writable) :
    AnnotationFrom root d.annotation := by
  cases written with
  | ofPackage children =>
    obtain ⟨own, system, systems, -, inside⟩ :=
      annotations_of_written children writable.annotation (by simp)
    refine ⟨d.annotation, system, own, systems, ?_⟩
    cases d.annotation with
    | some note => rfl
    | none =>
      cases system with
      | none => rfl
      | some e => exact inside e rfl
  | ofSystem someSystem children =>
    obtain ⟨own, system, systems, same, inside⟩ :=
      annotations_of_written children (by simp) writable.annotation
    refine ⟨none, system, own, systems, ?_⟩
    cases system with
    | none =>
      rw [someSystem] at same
      cases same
    | some e => exact inside e rfl

theorem Descriptor.Written.readFrom (written : d.Written root) (writable : d.Writable) :
    d.ReadFrom root := by
  have note := annotationFrom_of_written written writable
  obtain ⟨own, inside, children⟩ : ∃ own inside, HasChildren (d.kinds own inside) root := by
    cases written with
    | ofPackage children => exact ⟨_, _, children⟩
    | ofSystem _ children => exact ⟨_, _, children⟩
  have named := fun kind => children.named kind Descriptor.kinds_distinct
  refine ⟨note, ?_, ?_, ?_⟩
  · apply sectionFrom_of_forms _ (named
      ⟨"References", d.references.toList.map References.Written⟩ (by simp [Descriptor.kinds]))
    exact fun references member _ written => written.readFrom (writable.references references member)
  · apply sectionFrom_of_forms _ (named
      ⟨"VirtualSystem", d.virtualSystem.toList.map (VirtualSystem.Written inside)⟩
      (by simp [Descriptor.kinds]))
    exact fun system member _ written => written.readFrom (writable.virtualSystem system member)
  · apply sectionFrom_of_forms _ (named
      ⟨"DiskSection", d.diskSection.toList.map DiskSection.Written⟩ (by simp [Descriptor.kinds]))
    exact fun disks member _ written => written.readFrom (writable.diskSection disks member)

end Whole

/-! ### Writing -/

/-- An element outside all namespaces with the fields that have a value and groups of children. -/
def plainElement (tag : String) (fields : List (String × Option String)) (text : String)
    (groups : List (List Element)) : Element :=
  ⟨⟨"", tag⟩, (present fields).map fun field => (⟨"", field.1⟩, field.2), text, groups.flatten, ""⟩

def leaves (tag : String) (texts : List String) : List Element :=
  texts.map fun s => plainElement tag [] s []

def FileReference.write (file : FileReference) : Element :=
  plainElement "File" [("id", file.id), ("href", file.href), ("size", file.size.map toString)] "" []

def References.write (references : References) : Element :=
  plainElement "References" [("required", references.required.map toString)] ""
    [leaves "Info" references.info.toList, references.files.map FileReference.write]

def Annotation.write (note : Annotation) : Element :=
  plainElement "AnnotationSection" [("required", note.required.map toString)] ""
    [leaves "Info" note.info.toList, leaves "Annotation" note.annotation.toList]

def Disk.write (disk : Disk) : Element :=
  plainElement "Disk" [("diskId", disk.id), ("fileRef", disk.fileRef), ("capacity", disk.capacity),
    ("capacityAllocationUnits", disk.capacityUnits)] "" []

def DiskSection.write (disks : DiskSection) : Element :=
  plainElement "DiskSection" [("required", disks.required.map toString)] ""
    [leaves "Info" disks.info.toList, disks.disks.map Disk.write]

def Item.write (tag : String) (item : Item) : Element :=
  plainElement tag [] ""
    [leaves "ResourceType" (item.resourceType.map toString).toList,
      leaves "InstanceID" item.instanceId.toList, leaves "Parent" item.parent.toList,
      leaves "AddressOnParent" item.addressOnParent.toList, leaves "HostResource" item.hostResource,
      leaves "VirtualQuantity" (item.virtualQuantity.map toString).toList,
      leaves "VirtualQuantityUnits" item.virtualQuantityUnits.toList,
      leaves "AllocationUnits" item.allocationUnits.toList,
      leaves "ElementName" item.elementName.toList]

def HardwareSection.write (tagOf : Item → String) (hardware : HardwareSection) : Element :=
  plainElement "VirtualHardwareSection" [] "" [hardware.items.map fun item => item.write (tagOf item)]

def VirtualSystem.write (tagOf : Item → String) (inside : Option Annotation)
    (system : VirtualSystem) : Element :=
  plainElement "VirtualSystem" [("id", system.id)] ""
    [leaves "Info" system.info.toList, leaves "Name" system.name.toList,
      inside.toList.map Annotation.write, system.hardware.map ( HardwareSection.write tagOf)]

/-- The descriptor with the annotation at the root or, if it has one, inside the virtual system. -/
def Descriptor.write (tagOf : Item → String) (nested : Bool) (d : Descriptor) : Element :=
  let (own, inside) := if nested && d.virtualSystem.isSome then (none, d.annotation)
    else (d.annotation, none)
  plainElement "Envelope" [] ""
    [own.toList.map Annotation.write, d.references.toList.map References.write,
      d.virtualSystem.toList.map ( VirtualSystem.write tagOf inside),
      d.diskSection.toList.map DiskSection.write]

section Writing

variable {fields : List (String × Option String)} {text : String}

theorem localName_plain (word : String) : Name.localName ⟨"", word⟩ = word :=
  Name.localName_of_oneLine (by simp)

theorem hasAttributes_plain : HasAttributes fields (plainElement tag fields text groups) := by
  unfold HasAttributes plainElement
  rw [List.map_map]
  refine List.Perm.of_eq ?_
  conv_rhs => rw [← List.map_id (present fields)]
  apply List.map_congr_left
  intro field _
  rw [Function.comp, localName_plain, id]

theorem hasChildren_plain (related : List.Forall₂ Kind.Group kinds groups) :
    HasChildren kinds (plainElement tag fields text groups) :=
  ⟨groups, ⟨.refl _, fun _ member => List.sublist_flatten_of_mem member⟩, related⟩

theorem group_map {α : Type} {writes : α → Element → Prop} {write : α → Element} {as : List α}
    (tagged : ∀ a, (write a).localName = tag) (written : ∀ a ∈ as, writes a (write a)) :
    Kind.Group ⟨tag, as.map writes⟩ (as.map write) := by
  constructor
  · intro child member
    obtain ⟨a, -, rfl⟩ := List.mem_map.1 member
    exact tagged a
  · rw [List.forall₂_map_left_iff, List.forall₂_map_right_iff, List.forall₂_same]
    exact written

theorem group_leaves (texts : List String) : Kind.Group ⟨tag, texts.map HasText⟩ (leaves tag texts) :=
  group_map (fun _ => localName_plain tag) fun _ _ => rfl

theorem FileReference.written_write (file : FileReference) : file.Written file.write :=
  hasAttributes_plain

theorem References.written_write (references : References) : references.Written references.write :=
  ⟨hasAttributes_plain, hasChildren_plain (.cons (group_leaves _) (.cons
    (group_map (fun _ => localName_plain "File") fun file _ => file.written_write) .nil))⟩

theorem Annotation.written_write (note : Annotation) : note.Written note.write :=
  ⟨hasAttributes_plain, hasChildren_plain (.cons (group_leaves _) (.cons (group_leaves _) .nil))⟩

theorem DiskSection.written_write (disks : DiskSection) : disks.Written disks.write :=
  ⟨hasAttributes_plain, hasChildren_plain (.cons (group_leaves _) (.cons
    (group_map (fun _ => localName_plain "Disk") fun _ _ => hasAttributes_plain) .nil))⟩

theorem Item.written_write {tag : String} (isTag : tag ∈ Item.tags) (item : Item) :
    item.Written (item.write tag) := by
  refine ⟨?_, hasChildren_plain ?_⟩
  · rw [show (item.write tag).localName = tag from localName_plain tag]
    exact isTag
  · iterate 9 refine .cons (group_leaves _) ?_
    exact .nil

variable {tagOf : Item → String}

theorem HardwareSection.written_write (isTag : ∀ item, tagOf item ∈ Item.tags)
    (hardware : HardwareSection) : hardware.Written (hardware.write tagOf) := by
  have children : (hardware.write tagOf).children =
      hardware.items.map fun item => item.write (tagOf item) := List.append_nil _
  unfold HardwareSection.Written
  rw [children, List.forall₂_map_right_iff, List.forall₂_same]
  exact fun item _ => item.written_write (isTag item)

theorem VirtualSystem.written_write (isTag : ∀ item, tagOf item ∈ Item.tags)
    (inside : Option Annotation) (system : VirtualSystem) :
    system.Written inside (system.write tagOf inside) := by
  refine ⟨hasAttributes_plain, hasChildren_plain ?_⟩
  refine .cons (group_leaves _) (.cons (group_leaves _) (.cons ?_ (.cons ?_ .nil)))
  · exact group_map (fun _ => localName_plain "AnnotationSection") fun note _ => note.written_write
  · exact group_map (fun _ => localName_plain "VirtualHardwareSection")
      fun hardware _ => hardware.written_write isTag

theorem Descriptor.written_write (isTag : ∀ item, tagOf item ∈ Item.tags) (nested : Bool)
    (d : Descriptor) : d.Written (d.write tagOf nested) := by
  have children (own inside : Option Annotation) :
      HasChildren (d.kinds own inside) (plainElement "Envelope" [] ""
        [own.toList.map Annotation.write, d.references.toList.map References.write,
          d.virtualSystem.toList.map ( VirtualSystem.write tagOf inside),
          d.diskSection.toList.map DiskSection.write]) := by
    refine hasChildren_plain (.cons ?_ (.cons ?_ (.cons ?_ (.cons ?_ .nil))))
    · exact group_map (fun _ => localName_plain "AnnotationSection") fun note _ => note.written_write
    · exact group_map (fun _ => localName_plain "References")
        fun references _ => references.written_write
    · exact group_map (fun _ => localName_plain "VirtualSystem")
        fun system _ => system.written_write isTag inside
    · exact group_map (fun _ => localName_plain "DiskSection") fun disks _ => disks.written_write
  unfold Descriptor.write
  split
  next own inside placed =>
    split at placed
    · next both =>
      obtain ⟨rfl, rfl⟩ := Prod.mk.inj placed
      exact .ofSystem ((Bool.and_eq_true _ _).mp both).2 (children _ _)
    · obtain ⟨rfl, rfl⟩ := Prod.mk.inj placed
      exact .ofPackage (children _ _)

end Writing

/-! ### The round trip -/

/-- A descriptor is read back from every tree that it is written as, and from the documents of these
trees; it is written with every choice of tags and of a place for its annotation. -/
theorem ofRoot_written (room : Nat) {d : Descriptor} (writable : d.Writable) :
    (∀ root, d.Written root → (Descriptor.ofRoot root).result = .ok d ∧
      ∀ content, Xml.parse content = .ok root → (Descriptor.parse room content).result = .ok d) ∧
    ∀ tagOf nested, (∀ item, tagOf item ∈ Item.tags) → d.Written (d.write tagOf nested) := by
  refine ⟨?_, fun tagOf nested isTag => Descriptor.written_write isTag nested d⟩
  intro root written
  have read : (Descriptor.ofRoot root).result = .ok d := ofRoot_ok_iff.2 (written.readFrom writable)
  refine ⟨read, ?_⟩
  intro content parsed
  rw [parse_result_of_root parsed, treeOutcome_ok_iff]
  exact read

theorem decimal_of_small {n : Int} (nonneg : 0 ≤ n) (small : n < 100) : Decimal n := by
  have limit : 10 ^ 2 ≤ 10 ^ maxDigits := Nat.pow_le_pow_right (by decide) (by decide)
  exact ⟨nonneg, by omega⟩

/-- A descriptor with a disk, an empty text and an annotation. -/
def diskDescriptor : Descriptor where
  references := some ⟨some true, none, [⟨some "f", some " a.vmdk", some 42⟩, ⟨none, none, none⟩]⟩
  annotation := some ⟨none, some "", some "two words"⟩
  virtualSystem := some { hardware := [⟨[{ resourceType := some 17, hostResource := ["ovf:/disk/d"] }]⟩] }
  diskSection := some ⟨none, none, [⟨some "d", some "f", some "1", none⟩]⟩

theorem ofRoot_written_disk : diskDescriptor.Writable ∧
    (Descriptor.ofRoot (diskDescriptor.write (fun _ => "StorageItem") true)).result =
      .ok diskDescriptor := by
  have writable : diskDescriptor.Writable := by
    refine ⟨?_, ?_, ?_, ?_⟩ <;> rintro _ ⟨⟩
    · exact ⟨by simp, by simp [decimal_of_small]⟩
    · refine ⟨?_, ?_⟩ <;> rintro _ ⟨⟩ <;> decide
    · refine ⟨by simp, by simp, ?_⟩
      intro hardware isHardware item isItem
      obtain rfl := List.mem_singleton.1 isHardware
      obtain rfl := List.mem_singleton.1 isItem
      refine ⟨by simp [decimal_of_small], by simp, ?_⟩
      intro s isText
      obtain rfl := List.mem_singleton.1 isText
      decide
    · exact ⟨by simp⟩
  obtain ⟨read, written⟩ := ofRoot_written 900 writable
  exact ⟨writable, (read _ (written (fun _ => "StorageItem") true fun _ => by decide)).1⟩

end OvfInspect
