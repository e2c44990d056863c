import OvfInspect.Descriptor.Model
import OvfInspect.Xml.Document
import OvfInspect.Xml.Query

/-!
# Reading descriptors

A descriptor is read from the elements and attributes that its model names, by their local names and
in whatever namespace. Everything else in the document is passed over. Sections and texts may occur
once at most; flags and numbers have to be written as such.
-/

namespace OvfInspect

open Xml

abbrev Reading := Narrated Malformed

namespace Reading

def childText (e : Element) (tag : String) : Reading (Option String) :=
  (e.childText tag).mapFault .ambiguous

def child (e : Element) (tag : String) : Reading (Option Element) :=
  (e.find tag).mapFault .ambiguous

def optionalNumber (field : String) (text : Option String) : Except Malformed (Option Int) :=
  match text with
  | none => .ok none
  | some s =>
    if Text.trim s = "" then .ok none
    else match Number.readNatural s with
      | .ok n => .ok (some n)
      | .error refusal => .error (.number field refusal)

def optionalFlag (text : Option String) : Except Malformed (Option Bool) :=
  match text with
  | none => .ok none
  | some s =>
    if Text.trim s ∈ ["true", "1"] then .ok (some true)
    else if Text.trim s ∈ ["false", "0"] then .ok (some false)
    else .error (.boolean s)

def required (e : Element) : Reading (Option Bool) :=
  .ofExcept (optionalFlag (e.attribute? "required"))

def sectionHead (e : Element) : Reading (Option Bool × Option String) := do
  let flag ← required e
  return (flag, ← childText e "Info")

/-- The section with the tag, if there is one. -/
def sectionOf {α : Type} (parent : Element) (tag : String) (read : Element → Reading α) :
    Reading (Option α) := do
  match ← child parent tag with
  | none => do
    .log (.debug ⟨"parser", "_optional_section", 196⟩ s!"No {tag} in descriptor")
    pure none
  | some e => do return some (← read e)

end Reading

open Reading

def FileReference.read (e : Element) : Except Malformed FileReference := do
  let size ← optionalNumber "File size" (e.attribute? "size")
  return ⟨e.attribute? "id", e.attribute? "href", size⟩

def References.read (e : Element) : Reading References := do
  let (flag, info) ← sectionHead e
  let files ← .ofExcept ((← e.findAll "File").mapM FileReference.read)
  .log (.verbose s!"Found {files.length} file reference(s)")
  return ⟨flag, info, files⟩

def Annotation.read (e : Element) : Reading Annotation := do
  let (flag, info) ← sectionHead e
  return ⟨flag, info, ← childText e "Annotation"⟩

def Disk.read (e : Element) : Disk :=
  ⟨e.attribute? "diskId", e.attribute? "fileRef", e.attribute? "capacity",
    e.attribute? "capacityAllocationUnits"⟩

def DiskSection.read (e : Element) : Reading DiskSection := do
  let (flag, info) ← sectionHead e
  let disks := (← e.findAll "Disk").map Disk.read
  .log (.verbose s!"Found {disks.length} disk(s) in DiskSection")
  return ⟨flag, info, disks⟩

def Reading.childNumber (e : Element) (field : String) : Reading (Option Int) := do
  .ofExcept (optionalNumber field (← childText e field))

def Item.read (e : Element) : Reading Item := do
  let hostResource := (← e.findAll "HostResource").map Element.trimmedText
  return {
    resourceType := ← childNumber e "ResourceType"
    instanceId := ← childText e "InstanceID"
    parent := ← childText e "Parent"
    addressOnParent := ← childText e "AddressOnParent"
    hostResource
    virtualQuantity := ← childNumber e "VirtualQuantity"
    virtualQuantityUnits := ← childText e "VirtualQuantityUnits"
    allocationUnits := ← childText e "AllocationUnits"
    elementName := ← childText e "ElementName" }

/-- The tags of hardware items in all versions of the format. -/
def Item.tags : List String := ["Item", "StorageItem", "EthernetPortItem"]

def Item.readAny (e : Element) : Reading (Option Item) :=
  if e.localName ∈ Item.tags then do return some (← Item.read e)
  else do
    .log (.spam s!"Ignoring <{e.localName}> in VirtualHardwareSection")
    return none

def HardwareSection.read (e : Element) : Reading HardwareSection := do
  let items := (← e.children.mapM Item.readAny).filterMap id
  .log (.verbose s!"Found {items.length} hardware item(s)")
  return ⟨items⟩

def VirtualSystem.read (e : Element) : Reading VirtualSystem := do
  let hardware ← (← e.findAll "VirtualHardwareSection").mapM HardwareSection.read
  return ⟨e.attribute? "id", ← childText e "Info", ← childText e "Name", hardware⟩

/-- The annotation of the whole package, or else that of its virtual system. -/
def Annotation.readFrom (root : Element) : Reading (Option Annotation) := do
  let ofPackage ← sectionOf root "AnnotationSection" Annotation.read
  let system ← child root "VirtualSystem"
  match ofPackage, system with
  | none, some e => sectionOf e "AnnotationSection" Annotation.read
  | found, _ => pure found

def Descriptor.ofRoot (root : Element) : Reading Descriptor := do
  .log (.spam s!"Parsing descriptor with root element <{root.localName}>")
  let annotation ← Annotation.readFrom root
  let references ← sectionOf root "References" References.read
  let system ← sectionOf root "VirtualSystem" VirtualSystem.read
  return ⟨references, annotation, system, ← sectionOf root "DiskSection" DiskSection.read⟩

/-- The descriptor in a document. An encoding that cannot be read is no defect of the descriptor but
a fault of its own, and so are elements in question that there is no room to show. -/
def Descriptor.parse (room : Nat) (content : Content) : Narrated Fault Descriptor :=
  match Xml.parse content with
  | .ok root => (Descriptor.ofRoot root).mapFault (Malformed.fault room)
  | .error .illFormed => .fail (.defect (.malformed .illFormed))
  | .error refusal => .fail (.document refusal)

end OvfInspect
