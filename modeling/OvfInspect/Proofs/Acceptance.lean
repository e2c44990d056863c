import Mathlib.Data.List.Find
import OvfInspect.Proofs.Nesting
import OvfInspect.Proofs.Numerals

/-!
# Which documents are accepted

`Accepted` says of a tree, without reading it, that it has the form of a descriptor: which children may
occur once at most, and what has to stand in flags and numbers. Names count as a given function tells
them. `parse_accepts_iff` shows that just the documents of that form are read.
-/

namespace OvfInspect

open Xml Reading Number Text

/-! ### The form of a descriptor -/

def FlagText (s : String) : Prop :=
  trim s ∈ ["true", "false", "1", "0"]

def NumberText (s : String) : Prop :=
  (∀ c ∈ s.toList, isBlank c = true) ∨ ∃ n, Writes s n

section Form

variable (nameOf : Name → String)

def Xml.Element.named (e : Element) (tag : String) : List Element :=
  e.children.filter fun child => nameOf child.name == tag

def Xml.Element.valueOf (e : Element) (key : String) : Option String :=
  (e.attributes.find? fun entry => nameOf entry.1 == key).map Prod.snd

def AtMostOne (e : Element) (tag : String) : Prop :=
  (e.named nameOf tag).length ≤ 1

structure HeadAccepted (e : Element) : Prop where
  required : ∀ s, e.valueOf nameOf "required" = some s → FlagText s
  info : AtMostOne nameOf e "Info"

structure ReferencesAccepted (e : Element) : Prop where
  head : HeadAccepted nameOf e
  sizes : ∀ file ∈ e.named nameOf "File", ∀ s, file.valueOf nameOf "size" = some s → NumberText s

structure AnnotationAccepted (e : Element) : Prop where
  head : HeadAccepted nameOf e
  once : AtMostOne nameOf e "Annotation"

/-- The children of an item that hold one text each. -/
def Item.textTags : List String :=
  ["ResourceType", "InstanceID", "Parent", "AddressOnParent", "VirtualQuantity",
    "VirtualQuantityUnits", "AllocationUnits", "ElementName"]

def Item.numberTags : List String :=
  ["ResourceType", "VirtualQuantity"]

structure ItemAccepted (e : Element) : Prop where
  once : ∀ tag ∈ Item.textTags, AtMostOne nameOf e tag
  numbers : ∀ tag ∈ Item.numberTags, ∀ child ∈ e.named nameOf tag, NumberText child.trimmedText

structure SystemAccepted (e : Element) : Prop where
  info : AtMostOne nameOf e "Info"
  name : AtMostOne nameOf e "Name"
  items : ∀ hardware ∈ e.named nameOf "VirtualHardwareSection", ∀ child ∈ hardware.children,
    nameOf child.name ∈ Item.tags → ItemAccepted nameOf child

/-- The annotations of the whole package, or else those of its virtual systems. -/
def chosenAnnotations (root : Element) : List Element :=
  match root.named nameOf "AnnotationSection" with
  | [] => (root.named nameOf "VirtualSystem").flatMap fun e => e.named nameOf "AnnotationSection"
  | own => own

def sectionTags : List String :=
  ["AnnotationSection", "VirtualSystem", "References", "DiskSection"]

structure Accepted (root : Element) : Prop where
  sections : ∀ tag ∈ sectionTags, AtMostOne nameOf root tag
  oneAnnotation : (chosenAnnotations nameOf root).length ≤ 1
  annotations : ∀ e ∈ chosenAnnotations nameOf root, AnnotationAccepted nameOf e
  references : ∀ e ∈ root.named nameOf "References", ReferencesAccepted nameOf e
  system : ∀ e ∈ root.named nameOf "VirtualSystem", SystemAccepted nameOf e
  disks : ∀ e ∈ root.named nameOf "DiskSection", HeadAccepted nameOf e

end Form

/-! ### Flags and numbers -/

theorem exists_optionalFlag {text : Option String} :
    (∃ flag, optionalFlag text = .ok flag) ↔ ∀ s, text = some s → FlagText s := by
  cases text with
  | none => simp [optionalFlag]
  | some s =>
    simp only [optionalFlag, FlagText, Option.some.injEq, forall_eq', List.mem_cons, List.not_mem_nil,
      or_false]
    split
    · next yes => rcases yes with yes | yes <;> simp [yes]
    · next notYes =>
      split
      · next no => rcases no with no | no <;> simp [no]
      · next notNo =>
        rw [not_or] at notYes notNo
        simp [notYes, notNo]

theorem trim_eq_empty_iff {s : String} : trim s = "" ↔ ∀ c ∈ s.toList, isBlank c = true := by
  rw [trim, ← trimBy_eq_nil_iff, ← String.toList_inj, String.toList_ofList]
  rfl

theorem exists_optionalNumber (field : String) {text : Option String} :
    (∃ n, optionalNumber field text = .ok n) ↔ ∀ s, text = some s → NumberText s := by
  cases text with
  | none => simp [optionalNumber]
  | some s =>
    simp only [optionalNumber, NumberText, Option.some.injEq, forall_eq', ← trim_eq_empty_iff,
      ← readNatural_ok_iff]
    by_cases blank : trim s = ""
    · simp [blank]
    · rw [if_neg blank]
      cases readNatural s <;> simp [blank]

/-! ### Children -/

theorem exists_toList_iff {α : Type} {l : List α} : (∃ o : Option α, l = o.toList) ↔ l.length ≤ 1 := by
  constructor
  · rintro ⟨_ | a, rfl⟩ <;> simp
  · intro short
    match l with
    | [] => exact ⟨none, rfl⟩
    | [a] => exact ⟨some a, rfl⟩

variable {room : Nat} {e root : Element} {tag : String}

theorem childrenNamed_eq : e.childrenNamed tag = e.named Name.localName tag := rfl

theorem attribute?_eq {key : String} : e.attribute? key = e.valueOf Name.localName key := rfl

theorem exists_textFrom_iff : (∃ text, TextFrom e tag text) ↔ AtMostOne Name.localName e tag := by
  unfold TextFrom AtMostOne
  rw [exists_toList_iff, List.length_map, childrenNamed_eq]

theorem exists_numberFrom_iff : (∃ n, NumberFrom e tag n) ↔ AtMostOne Name.localName e tag ∧
    ∀ child ∈ e.named Name.localName tag, NumberText child.trimmedText := by
  have number {text : Option String} (found : TextFrom e tag text) :
      (∃ n, optionalNumber tag text = .ok n) ↔
        ∀ child ∈ e.named Name.localName tag, NumberText child.trimmedText := by
    rw [exists_optionalNumber]
    have texts : ∀ s, text = some s ↔ s ∈ (e.named Name.localName tag).map Element.trimmedText := by
      intro s
      rw [← childrenNamed_eq, found, Option.mem_toList]
    simp only [texts, List.mem_map, forall_exists_index, and_imp, forall_apply_eq_imp_iff₂]
  constructor
  · rintro ⟨n, text, found, read⟩
    exact ⟨exists_textFrom_iff.1 ⟨text, found⟩, (number found).1 ⟨n, read⟩⟩
  · rintro ⟨once, numbers⟩
    obtain ⟨text, found⟩ := exists_textFrom_iff.2 once
    obtain ⟨n, read⟩ := (number found).2 numbers
    exact ⟨n, text, found, read⟩

theorem exists_sectionFrom_iff {α : Type} {reads : α → Element → Prop} :
    (∃ found, SectionFrom reads e tag found) ↔ AtMostOne Name.localName e tag ∧
      ∀ child ∈ e.named Name.localName tag, ∃ a, reads a child := by
  unfold SectionFrom AtMostOne
  rw [← exists_forall₂_iff, childrenNamed_eq]
  constructor
  · rintro ⟨found, related⟩
    refine ⟨?_, found.toList, related⟩
    rw [related.length_eq]
    exact exists_toList_iff.1 ⟨found, rfl⟩
  · rintro ⟨once, as, related⟩
    rw [related.length_eq] at once
    obtain ⟨found, rfl⟩ := exists_toList_iff.2 once
    exact ⟨found, related⟩

/-! ### The parts of a descriptor -/

theorem exists_headFrom_iff :
    (∃ required info, HeadFrom e required info) ↔ HeadAccepted Name.localName e := by
  constructor
  · rintro ⟨required, info, head⟩
    exact ⟨exists_optionalFlag.1 ⟨required, head.required⟩, exists_textFrom_iff.1 ⟨info, head.info⟩⟩
  · intro accepted
    obtain ⟨required, flag⟩ := exists_optionalFlag.2 accepted.required
    obtain ⟨info, text⟩ := exists_textFrom_iff.2 accepted.info
    exact ⟨required, info, flag, text⟩

theorem exists_fileReadFrom_iff : (∃ file, FileReference.ReadFrom file e) ↔
    ∀ s, e.valueOf Name.localName "size" = some s → NumberText s := by
  rw [← attribute?_eq, ← exists_optionalNumber "File size"]
  constructor
  · rintro ⟨file, reads⟩
    exact ⟨file.size, reads.size⟩
  · rintro ⟨size, read⟩
    exact ⟨⟨_, _, size⟩, rfl, rfl, read⟩

theorem exists_referencesReadFrom_iff :
    (∃ references, References.ReadFrom references e) ↔ ReferencesAccepted Name.localName e := by
  constructor
  · rintro ⟨references, reads⟩
    have files := exists_forall₂_iff.1 ⟨_, reads.files⟩
    exact ⟨exists_headFrom_iff.1 ⟨_, _, reads.head⟩,
      fun file member => exists_fileReadFrom_iff.1 (files file member)⟩
  · intro accepted
    obtain ⟨required, info, head⟩ := exists_headFrom_iff.2 accepted.head
    obtain ⟨files, related⟩ := exists_forall₂_iff.2
      fun file member => exists_fileReadFrom_iff.2 (accepted.sizes file member)
    exact ⟨⟨required, info, files⟩, head, related⟩

theorem exists_annotationReadFrom_iff :
    (∃ note, Annotation.ReadFrom note e) ↔ AnnotationAccepted Name.localName e := by
  constructor
  · rintro ⟨note, reads⟩
    exact ⟨exists_headFrom_iff.1 ⟨_, _, reads.head⟩, exists_textFrom_iff.1 ⟨_, reads.annotation⟩⟩
  · intro accepted
    obtain ⟨required, info, head⟩ := exists_headFrom_iff.2 accepted.head
    obtain ⟨text, found⟩ := exists_textFrom_iff.2 accepted.once
    exact ⟨⟨required, info, text⟩, head, found⟩

theorem exists_diskSectionReadFrom_iff :
    (∃ disks, DiskSection.ReadFrom disks e) ↔ HeadAccepted Name.localName e := by
  rw [← exists_headFrom_iff]
  constructor
  · rintro ⟨disks, reads⟩
    exact ⟨_, _, reads.head⟩
  · rintro ⟨required, info, head⟩
    exact ⟨⟨required, info, _⟩, head, rfl⟩

theorem exists_itemReadFrom_iff :
    (∃ item, Item.ReadFrom item e) ↔ ItemAccepted Name.localName e := by
  constructor
  · rintro ⟨item, reads⟩
    obtain ⟨kindOnce, kinds⟩ := exists_numberFrom_iff.1 ⟨_, reads.resourceType⟩
    obtain ⟨quantityOnce, quantities⟩ := exists_numberFrom_iff.1 ⟨_, reads.virtualQuantity⟩
    refine ⟨?_, ?_⟩
    · simp only [Item.textTags, List.forall_mem_cons, List.not_mem_nil, false_imp_iff, implies_true,
        and_true]
      exact ⟨kindOnce, exists_textFrom_iff.1 ⟨_, reads.instanceId⟩,
        exists_textFrom_iff.1 ⟨_, reads.parent⟩, exists_textFrom_iff.1 ⟨_, reads.addressOnParent⟩,
        quantityOnce, exists_textFrom_iff.1 ⟨_, reads.virtualQuantityUnits⟩,
        exists_textFrom_iff.1 ⟨_, reads.allocationUnits⟩,
        exists_textFrom_iff.1 ⟨_, reads.elementName⟩⟩
    · simp only [Item.numberTags, List.forall_mem_cons, List.not_mem_nil, false_imp_iff, implies_true,
        and_true]
      exact ⟨kinds, quantities⟩
  · intro accepted
    have text (tag : String) (member : tag ∈ Item.textTags) : ∃ text, TextFrom e tag text :=
      exists_textFrom_iff.2 (accepted.once tag member)
    have number (tag : String) (isText : tag ∈ Item.textTags) (isNumber : tag ∈ Item.numberTags) :
        ∃ n, NumberFrom e tag n :=
      exists_numberFrom_iff.2 ⟨accepted.once tag isText, accepted.numbers tag isNumber⟩
    obtain ⟨kind, hkind⟩ := number "ResourceType" (by decide) (by decide)
    obtain ⟨id, hid⟩ := text "InstanceID" (by decide)
    obtain ⟨parent, hparent⟩ := text "Parent" (by decide)
    obtain ⟨address, haddress⟩ := text "AddressOnParent" (by decide)
    obtain ⟨quantity, hquantity⟩ := number "VirtualQuantity" (by decide) (by decide)
    obtain ⟨units, hunits⟩ := text "VirtualQuantityUnits" (by decide)
    obtain ⟨allocation, hallocation⟩ := text "AllocationUnits" (by decide)
    obtain ⟨name, hname⟩ := text "ElementName" (by decide)
    exact ⟨⟨kind, id, parent, address, _, quantity, units, allocation, name⟩, hkind, hid, hparent,
      haddress, rfl, hquantity, hunits, hallocation, hname⟩

theorem exists_hardwareReadFrom_iff : (∃ hardware, HardwareSection.ReadFrom hardware e) ↔
    ∀ child ∈ e.children, child.localName ∈ Item.tags → ItemAccepted Name.localName child := by
  have items : (∃ items, List.Forall₂ (fun child item => Item.ReadFrom item child)
      (itemChildren e) items) ↔
      ∀ child ∈ e.children, child.localName ∈ Item.tags → ItemAccepted Name.localName child := by
    simp only [exists_forall₂_iff, exists_itemReadFrom_iff, itemChildren, List.mem_filter,
      decide_eq_true_eq, and_imp]
  rw [← items]
  constructor
  · rintro ⟨hardware, reads⟩
    exact ⟨_, reads.items⟩
  · rintro ⟨found, related⟩
    exact ⟨⟨found⟩, ⟨related⟩⟩

theorem exists_systemReadFrom_iff :
    (∃ system, VirtualSystem.ReadFrom system e) ↔ SystemAccepted Name.localName e := by
  constructor
  · rintro ⟨system, reads⟩
    have hardware := exists_forall₂_iff.1 ⟨_, reads.hardware⟩
    exact ⟨exists_textFrom_iff.1 ⟨_, reads.info⟩, exists_textFrom_iff.1 ⟨_, reads.name⟩,
      fun child member => exists_hardwareReadFrom_iff.1 (hardware child member)⟩
  · intro accepted
    obtain ⟨info, hinfo⟩ := exists_textFrom_iff.2 accepted.info
    obtain ⟨name, hname⟩ := exists_textFrom_iff.2 accepted.name
    obtain ⟨hardware, related⟩ := exists_forall₂_iff.2
      fun child member => exists_hardwareReadFrom_iff.2 (accepted.items child member)
    exact ⟨⟨_, info, name, hardware⟩, rfl, hinfo, hname, related⟩

/-! ### Whole descriptors -/

theorem chosenAnnotations_of_own {nameOf : Name → String} {first : Element} {rest : List Element}
    (own : root.named nameOf "AnnotationSection" = first :: rest) :
    chosenAnnotations nameOf root = root.named nameOf "AnnotationSection" := by
  unfold chosenAnnotations
  rw [own]

theorem chosenAnnotations_of_system {nameOf : Name → String}
    (noOwn : root.named nameOf "AnnotationSection" = []) :
    chosenAnnotations nameOf root =
      (root.named nameOf "VirtualSystem").flatMap fun e => e.named nameOf "AnnotationSection" := by
  unfold chosenAnnotations
  rw [noOwn]

theorem exists_annotationFrom_iff : (∃ note, AnnotationFrom root note) ↔
    AtMostOne Name.localName root "AnnotationSection" ∧ AtMostOne Name.localName root "VirtualSystem" ∧
      (chosenAnnotations Name.localName root).length ≤ 1 ∧
      ∀ e ∈ chosenAnnotations Name.localName root, AnnotationAccepted Name.localName e := by
  have exists_section {e : Element} :
      (∃ found, SectionFrom Annotation.ReadFrom e "AnnotationSection" found) ↔
        AtMostOne Name.localName e "AnnotationSection" ∧
          ∀ child ∈ e.named Name.localName "AnnotationSection",
            AnnotationAccepted Name.localName child := by
    simp only [exists_sectionFrom_iff, exists_annotationReadFrom_iff]
  constructor
  · rintro ⟨note, own, system, ownFrom, systems, chosen⟩
    obtain ⟨once, forms⟩ := exists_section.1 ⟨own, ownFrom⟩
    refine ⟨once, exists_toList_iff.1 ⟨system, systems⟩, ?_⟩
    cases own with
    | some own =>
      obtain ⟨_, _, _, _, children⟩ := List.forall₂_cons_right_iff.1 ownFrom
      rw [chosenAnnotations_of_own children]
      exact ⟨once, forms⟩
    | none =>
      rw [chosenAnnotations_of_system (List.forall₂_nil_right_iff.1 ownFrom), ← childrenNamed_eq,
        systems]
      cases system with
      | none => simp
      | some e =>
        rw [Option.toList_some, List.flatMap_singleton]
        exact exists_section.1 ⟨note, chosen⟩
  · rintro ⟨once, systemOnce, chosenOnce, forms⟩
    obtain ⟨system, systems⟩ := exists_toList_iff.2 systemOnce
    cases own : root.named Name.localName "AnnotationSection" with
    | cons first rest =>
      rw [chosenAnnotations_of_own own] at forms
      obtain ⟨found, ownFrom⟩ := exists_section.2 ⟨once, forms⟩
      exact ⟨found, found, system, ownFrom, systems, by
        cases found with
        | some note => rfl
        | none =>
          have noOwn := List.forall₂_nil_right_iff.1 ownFrom
          rw [childrenNamed_eq, own] at noOwn
          cases noOwn⟩
    | nil =>
      have noneFrom : SectionFrom Annotation.ReadFrom root "AnnotationSection" none :=
        List.forall₂_nil_right_iff.2 own
      rw [chosenAnnotations_of_system own, systems] at chosenOnce forms
      cases system with
      | none => exact ⟨none, none, none, noneFrom, systems, rfl⟩
      | some e =>
        rw [Option.toList_some, List.flatMap_singleton] at chosenOnce forms
        obtain ⟨note, found⟩ := exists_section.2 ⟨chosenOnce, forms⟩
        exact ⟨note, none, some e, noneFrom, systems, found⟩

/-- A descriptor is read from just the trees that have the form of one. -/
theorem exists_readFrom_iff : (∃ d, Descriptor.ReadFrom d root) ↔ Accepted Name.localName root := by
  constructor
  · rintro ⟨d, reads⟩
    obtain ⟨annotationOnce, systemOnce, chosenOnce, annotations⟩ :=
      exists_annotationFrom_iff.1 ⟨_, reads.annotation⟩
    obtain ⟨referencesOnce, references⟩ := exists_sectionFrom_iff.1 ⟨_, reads.references⟩
    obtain ⟨-, systems⟩ := exists_sectionFrom_iff.1 ⟨_, reads.virtualSystem⟩
    obtain ⟨disksOnce, disks⟩ := exists_sectionFrom_iff.1 ⟨_, reads.diskSection⟩
    refine ⟨?_, chosenOnce, annotations,
      fun e member => exists_referencesReadFrom_iff.1 (references e member),
      fun e member => exists_systemReadFrom_iff.1 (systems e member),
      fun e member => exists_diskSectionReadFrom_iff.1 (disks e member)⟩
    simp only [sectionTags, List.forall_mem_cons, List.not_mem_nil, false_imp_iff, implies_true,
      and_true]
    exact ⟨annotationOnce, systemOnce, referencesOnce, disksOnce⟩
  · intro accepted
    have once (tag : String) (member : tag ∈ sectionTags) : AtMostOne Name.localName root tag :=
      accepted.sections tag member
    obtain ⟨note, hnote⟩ := exists_annotationFrom_iff.2 ⟨once "AnnotationSection" (by decide),
      once "VirtualSystem" (by decide), accepted.oneAnnotation, accepted.annotations⟩
    obtain ⟨references, hreferences⟩ := exists_sectionFrom_iff.2 ⟨once "References" (by decide),
      fun e member => exists_referencesReadFrom_iff.2 (accepted.references e member)⟩
    obtain ⟨system, hsystem⟩ := exists_sectionFrom_iff.2 ⟨once "VirtualSystem" (by decide),
      fun e member => exists_systemReadFrom_iff.2 (accepted.system e member)⟩
    obtain ⟨disks, hdisks⟩ := exists_sectionFrom_iff.2 ⟨once "DiskSection" (by decide),
      fun e member => exists_diskSectionReadFrom_iff.2 (accepted.disks e member)⟩
    exact ⟨⟨references, note, system, disks⟩, hnote, hreferences, hsystem, hdisks⟩

/-! ### Names -/

/-- The two functions tell the names of all elements and attributes of the tree alike. -/
def AgreeOn (f g : Name → String) (root : Element) : Prop :=
  ∀ path e, root.at? path = some e →
    f e.name = g e.name ∧ ∀ entry ∈ e.attributes, f entry.1 = g entry.1

/-- No namespace of an element or attribute of the tree has a line feed. -/
def OneLine (root : Element) : Prop :=
  ∀ path e, root.at? path = some e → '\n' ∉ e.name.space.toList ∧
    ∀ entry ∈ e.attributes, '\n' ∉ entry.1.space.toList

mutual

/-- `OneLine` as a check that can be run. -/
def isOneLine : Element → Bool
  | ⟨name, attributes, _, children, _⟩ => !name.space.toList.contains '\n' &&
    attributes.all (fun entry => !entry.1.space.toList.contains '\n') && areOneLine children

def areOneLine : List Element → Bool
  | [] => true
  | child :: rest => isOneLine child && areOneLine rest

end

theorem isOneLine_of_areOneLine {children : List Element} (h : areOneLine children = true) :
    ∀ child ∈ children, isOneLine child = true := by
  induction children with
  | nil => simp
  | cons child rest ih =>
    rw [areOneLine, Bool.and_eq_true] at h
    rw [List.forall_mem_cons]
    exact ⟨h.1, ih h.2⟩

theorem oneLine_of_isOneLine {root : Element} (h : isOneLine root = true) : OneLine root := by
  intro path
  induction path generalizing root with
  | nil =>
    intro e found
    obtain rfl := Option.some.inj found
    cases root
    rw [isOneLine, Bool.and_eq_true] at h
    simpa using h.1
  | cons i path ih =>
    intro e found
    cases root
    rw [isOneLine, Bool.and_eq_true] at h
    rw [Element.at?] at found
    split at found
    · next child isChild =>
      have plain := isOneLine_of_areOneLine h.2 child (List.mem_of_getElem? isChild)
      exact ih plain e found
    · cases found

section Agreement

variable {f g : Name → String} {inner : Element}

theorem AgreeOn.symm (agree : AgreeOn f g e) : AgreeOn g f e := fun path inner found =>
  ⟨(agree path inner found).1.symm, fun entry member => ((agree path inner found).2 entry member).symm⟩

theorem AgreeOn.child (agree : AgreeOn f g e) (member : inner ∈ e.children) : AgreeOn f g inner := by
  obtain ⟨i, found⟩ := List.getElem?_of_mem member
  intro path inmost h
  apply agree (i :: path) inmost
  rw [Element.at?, found]
  exact h

theorem named_congr (agree : AgreeOn f g e) (tag : String) : e.named f tag = e.named g tag := by
  unfold Element.named
  apply List.filter_congr
  intro child member
  rw [(agree.child member [] _ rfl).1]

theorem valueOf_congr (agree : AgreeOn f g e) (key : String) : e.valueOf f key = e.valueOf g key := by
  unfold Element.valueOf
  rw [List.find?_congr]
  intro entry member
  rw [(agree [] e rfl).2 entry member]

theorem AgreeOn.named (agree : AgreeOn f g e) (member : inner ∈ e.named g tag) : AgreeOn f g inner :=
  agree.child (List.mem_filter.1 member).1

theorem AgreeOn.atMostOne (agree : AgreeOn f g e) (once : AtMostOne f e tag) : AtMostOne g e tag := by
  rwa [AtMostOne, ← named_congr agree]

theorem AgreeOn.head (agree : AgreeOn f g e) (head : HeadAccepted f e) : HeadAccepted g e := by
  refine ⟨?_, agree.atMostOne head.info⟩
  rw [← valueOf_congr agree]
  exact head.required

theorem AgreeOn.references (agree : AgreeOn f g e) (accepted : ReferencesAccepted f e) :
    ReferencesAccepted g e := by
  refine ⟨agree.head accepted.head, ?_⟩
  intro file member
  rw [← valueOf_congr (agree.named member)]
  rw [← named_congr agree] at member
  exact accepted.sizes file member

theorem AgreeOn.annotation (agree : AgreeOn f g e) (accepted : AnnotationAccepted f e) :
    AnnotationAccepted g e :=
  ⟨agree.head accepted.head, agree.atMostOne accepted.once⟩

theorem AgreeOn.item (agree : AgreeOn f g e) (accepted : ItemAccepted f e) : ItemAccepted g e := by
  refine ⟨fun tag member => agree.atMostOne (accepted.once tag member), ?_⟩
  intro tag isNumber child member
  rw [← named_congr agree] at member
  exact accepted.numbers tag isNumber child member

theorem AgreeOn.system (agree : AgreeOn f g e) (accepted : SystemAccepted f e) :
    SystemAccepted g e := by
  refine ⟨agree.atMostOne accepted.info, agree.atMostOne accepted.name, ?_⟩
  intro hardware section_ child member isItem
  have agreeChild : AgreeOn f g child := (agree.named section_).child member
  rw [← named_congr agree] at section_
  rw [← (agreeChild [] child rfl).1] at isItem
  exact agreeChild.item (accepted.items hardware section_ child member isItem)

theorem chosenAnnotations_congr (agree : AgreeOn f g e) :
    chosenAnnotations f e = chosenAnnotations g e := by
  unfold chosenAnnotations
  rw [named_congr agree, named_congr agree]
  split
  · unfold List.flatMap
    rw [List.map_congr_left]
    intro system member
    exact named_congr (agree.named member) _
  · rfl

theorem AgreeOn.of_chosen (agree : AgreeOn f g e) (member : inner ∈ chosenAnnotations g e) :
    AgreeOn f g inner := by
  unfold chosenAnnotations at member
  split at member
  · obtain ⟨system, isSystem, member⟩ := List.mem_flatMap.1 member
    exact (agree.named isSystem).named member
  · exact agree.named member

theorem AgreeOn.accepted (agree : AgreeOn f g e) (accepted : Accepted f e) : Accepted g e := by
  refine ⟨fun tag member => agree.atMostOne (accepted.sections tag member), ?_, ?_, ?_, ?_, ?_⟩
  · rw [← chosenAnnotations_congr agree]
    exact accepted.oneAnnotation
  all_goals intro inner member
  · have agreeInner := agree.of_chosen member
    rw [← chosenAnnotations_congr agree] at member
    exact agreeInner.annotation (accepted.annotations inner member)
  all_goals
    have agreeInner := agree.named member
    rw [← named_congr agree] at member
  · exact agreeInner.references (accepted.references inner member)
  · exact agreeInner.system (accepted.system inner member)
  · exact agreeInner.head (accepted.disks inner member)

end Agreement

theorem agreeOn_of_oneLine (oneLine : OneLine e) : AgreeOn Name.localName Name.word e := by
  intro path inner found
  obtain ⟨name, attributes⟩ := oneLine path inner found
  exact ⟨Name.localName_of_oneLine name,
    fun entry member => Name.localName_of_oneLine (attributes entry member)⟩

theorem accepted_iff_of_oneLine (oneLine : OneLine root) :
    Accepted Name.localName root ↔ Accepted Name.word root :=
  ⟨(agreeOn_of_oneLine oneLine).accepted, (agreeOn_of_oneLine oneLine).symm.accepted⟩

theorem localName_ne_of_hidden {name : Name} (hidden : '\n' ∈ name.space.toList)
    (plain : tag.toList.head? ≠ some '\x7b') : name.localName ≠ tag := by
  rintro rfl
  apply plain
  have space : name.space ≠ "" := by
    intro empty
    rw [empty] at hidden
    simp at hidden
  rw [Name.localName, if_pos hidden, Name.expanded, if_neg space, String.toList_ofList]
  rfl

/-- A child in a namespace with a line feed is not found by its word. -/
theorem named_of_hidden (hidden : ∀ child ∈ e.children, '\n' ∈ child.name.space.toList)
    (plain : tag.toList.head? ≠ some '\x7b') : e.named Name.localName tag = [] := by
  unfold Element.named
  rw [List.filter_eq_nil_iff]
  intro child member
  rw [beq_iff_eq]
  exact localName_ne_of_hidden (hidden child member) plain

theorem accepted_of_hidden
    (hidden : ∀ child ∈ root.children, '\n' ∈ child.name.space.toList) :
    Accepted Name.localName root := by
  have none (tag : String) (plain : tag.toList.head? ≠ some '\x7b') :
      root.named Name.localName tag = [] := named_of_hidden hidden plain
  have nothingChosen : chosenAnnotations Name.localName root = [] := by
    rw [chosenAnnotations_of_system (none "AnnotationSection" (by decide)),
      none "VirtualSystem" (by decide), List.flatMap_nil]
  have plain : ∀ tag ∈ sectionTags, tag.toList.head? ≠ some '\x7b' := by decide
  refine ⟨?_, ?_, ?_, ?_, ?_, ?_⟩
  · intro tag member
    rw [AtMostOne, none tag (plain tag member)]
    exact Nat.zero_le 1
  · rw [nothingChosen]
    exact Nat.zero_le 1
  · simp [nothingChosen]
  · simp [none "References" (by decide)]
  · simp [none "VirtualSystem" (by decide)]
  · simp [none "DiskSection" (by decide)]

/-- A root with two reference sections in the namespace. -/
def referencesTwice (space : String) : Element :=
  ⟨⟨"", "Envelope"⟩, [], "", List.replicate 2 ⟨⟨space, "References"⟩, [], "", [], ""⟩, ""⟩

/-- A line feed in a namespace hides from the reader that a section occurs twice. -/
theorem referencesTwice_accepted {space : String} (hidden : '\n' ∈ space.toList) :
    (∃ d, (Descriptor.ofRoot (referencesTwice space)).result = .ok d) ∧
      ¬ Accepted Name.word (referencesTwice space) := by
  constructor
  · simp only [ofRoot_ok_iff, exists_readFrom_iff]
    apply accepted_of_hidden
    intro child member
    rw [List.eq_of_mem_replicate member]
    exact hidden
  · intro accepted
    have once : AtMostOne Name.word (referencesTwice space) "References" :=
      accepted.sections "References" (by decide)
    simp [AtMostOne, Element.named, referencesTwice] at once

/-! ### Documents -/

theorem parse_of_root_iff {content : Content} (parsed : Xml.parse content = .ok root) :
    (∃ d, (Descriptor.parse room content).result = .ok d) ↔ Accepted Name.localName root := by
  rw [parse_result_of_root parsed]
  simp only [treeOutcome_ok_iff, ofRoot_ok_iff, exists_readFrom_iff]

def filesDocument : String :=
  "<e:E xmlns:e='u'><e:References e:required=' true '><e:File e:size=' 12 '/></e:References></e:E>"

def twiceDocument : String := "<E><References/><References/></E>"

/-- Documents are read just if they have the form of a descriptor, by the names that the reader goes
by; without line feeds in namespaces these are the local names. What has another form is malformed, but for
sections that occur too often and are nested too deep to be shown. -/
theorem parse_accepts_iff (room : Nat) (content : Content) :
    ((∃ d, (Descriptor.parse room content).result = .ok d) ↔
      ∃ root, Xml.parse content = .ok root ∧ Accepted Name.localName root) ∧
    (∀ root, Xml.parse content = .ok root → OneLine root →
      ((∃ d, (Descriptor.parse room content).result = .ok d) ↔ Accepted Name.word root)) ∧
    ∀ root, Xml.parse content = .ok root → ¬ Accepted Name.localName root →
      Unread room root (Descriptor.parse room content).result := by
  refine ⟨⟨?_, ?_⟩, ?_, ?_⟩
  · rintro ⟨d, h⟩
    cases parsed : Xml.parse content with
    | ok root => exact ⟨root, rfl, (parse_of_root_iff parsed).1 ⟨d, h⟩⟩
    | error refusal =>
      unfold Descriptor.parse at h
      rw [parsed] at h
      cases refusal <;> cases h
  · rintro ⟨root, parsed, accepted⟩
    exact (parse_of_root_iff parsed).2 accepted
  · intro root parsed oneLine
    rw [parse_of_root_iff parsed, accepted_iff_of_oneLine oneLine]
  · intro root parsed refused
    rw [parse_result_of_root parsed]
    cases result : (Descriptor.ofRoot root).result with
    | ok d => exact absurd (exists_readFrom_iff.1 ⟨d, ofRoot_ok_iff.1 result⟩) refused
    | error cause => exact unread_treeOutcome result

/-- A document in a namespace is read by its local names, and one with a section twice is refused. -/
theorem parse_accepts_files :
    (∃ root, Xml.parse (.text filesDocument) = .ok root ∧ OneLine root ∧ Accepted Name.word root ∧
      ∃ d, (Descriptor.parse 900 (.text filesDocument)).result = .ok d) ∧
    ∃ root cause, Xml.parse (.text twiceDocument) = .ok root ∧ ¬ Accepted Name.localName root ∧
      (Descriptor.parse 900 (.text twiceDocument)).result = .error (.defect (.malformed cause)) := by
  constructor
  · have formed : (Xml.parse (.text filesDocument)).toOption.any isOneLine = true := by decide +kernel
    have read : (Descriptor.parse 900 (.text filesDocument)).result.toOption.isSome = true := by
      decide +kernel
    obtain ⟨root, parsed, plain⟩ := (Option.any_eq_true _ _).1 formed
    obtain ⟨d, read⟩ := Option.isSome_iff_exists.1 read
    have oneLine : OneLine root := oneLine_of_isOneLine plain
    have result : ∃ d, (Descriptor.parse 900 (.text filesDocument)).result = .ok d :=
      ⟨d, toOption_eq_some_iff.1 read⟩
    rw [toOption_eq_some_iff] at parsed
    exact ⟨root, parsed, oneLine, ((parse_accepts_iff 900 _).2.1 root parsed oneLine).1 result, result⟩
  · have formed : (Xml.parse (.text twiceDocument)).toOption.any (fun root =>
        decide (1 < (root.named Name.localName "References").length ∧ root.depth ≤ 900)) = true := by
      decide +kernel
    obtain ⟨root, parsed, shape⟩ := (Option.any_eq_true _ _).1 formed
    obtain ⟨twice, shallow⟩ := of_decide_eq_true shape
    rw [toOption_eq_some_iff] at parsed
    have refused : ¬ Accepted Name.localName root := fun accepted =>
      Nat.not_le.2 twice (accepted.sections "References" (by decide))
    obtain ⟨cause, result⟩ :=
      ((parse_accepts_iff 900 _).2.2 root parsed refused).shallow (shallow_of_depth_le shallow)
    exact ⟨root, cause, parsed, refused, result⟩

end OvfInspect
