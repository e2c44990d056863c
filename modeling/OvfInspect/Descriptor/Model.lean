/-!
# Descriptors

A descriptor tells what a package holds: the files, the disks on them, and the hardware of a virtual
system. An absent value is none; a value that is present but empty is the empty text. Repeated
entries are lists in document order.
-/

namespace OvfInspect

structure FileReference where
  id : Option String
  href : Option String
  size : Option Int := none
  deriving DecidableEq, Repr, Inhabited

structure References where
  required : Option Bool := none
  info : Option String := none
  files : List FileReference := []
  deriving DecidableEq, Repr, Inhabited

structure Annotation where
  required : Option Bool := none
  info : Option String := none
  annotation : Option String := none
  deriving DecidableEq, Repr, Inhabited

structure Disk where
  id : Option String
  fileRef : Option String
  capacity : Option String := none
  capacityUnits : Option String := none
  deriving DecidableEq, Repr, Inhabited

structure DiskSection where
  required : Option Bool := none
  info : Option String := none
  disks : List Disk := []
  deriving DecidableEq, Repr, Inhabited

structure Item where
  resourceType : Option Int := none
  instanceId : Option String := none
  parent : Option String := none
  addressOnParent : Option String := none
  hostResource : List String := []
  virtualQuantity : Option Int := none
  virtualQuantityUnits : Option String := none
  allocationUnits : Option String := none
  elementName : Option String := none
  deriving DecidableEq, Repr, Inhabited

structure HardwareSection where
  items : List Item := []
  deriving DecidableEq, Repr, Inhabited

structure VirtualSystem where
  id : Option String := none
  info : Option String := none
  name : Option String := none
  hardware : List HardwareSection := []
  deriving DecidableEq, Repr, Inhabited

/-- A whole descriptor; each section may be absent. -/
structure Descriptor where
  references : Option References := none
  annotation : Option Annotation := none
  virtualSystem : Option VirtualSystem := none
  diskSection : Option DiskSection := none
  deriving DecidableEq, Repr, Inhabited

def Descriptor.files (d : Descriptor) : Option (List FileReference) :=
  d.references.map References.files

end OvfInspect
