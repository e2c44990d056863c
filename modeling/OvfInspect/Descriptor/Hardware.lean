import OvfInspect.Descriptor.Capacity
import OvfInspect.Descriptor.Model
import OvfInspect.Descriptor.Resource

/-!
# Hardware facts

The number of processors, the memory and the disks of a virtual system. The first item of a kind
decides. A disk is found in three steps: its item names a disk, the disk names a file, and the file
has a location. Controllers and the places of items on them have no influence.
-/

namespace OvfInspect

/-! ### The hardware of a descriptor -/

def virtualSystemOf (descriptor : Option Descriptor) : Except Fault VirtualSystem :=
  match descriptor with
  | none => .error (.defect .noDescriptor)
  | some d => match d.virtualSystem with
    | none => .error (.defect .noVirtualSystem)
    | some system => .ok system

def hardwareOf (system : Option VirtualSystem) : Narrated Fault HardwareSection :=
  match system with
  | none => .fail (.defect .noSystemForHardware)
  | some s => match s.hardware with
    | [] => .fail (.defect .noVirtualHardware)
    | [only] => pure only
    | first :: _ :: _ => do
      .log (.notice (s!"VirtualSystem has {s.hardware.length} VirtualHardwareSections; " ++
        "using the first one"))
      pure first

def descriptorHardware (descriptor : Option Descriptor) : Narrated Fault HardwareSection := do
  hardwareOf (some (← .ofExcept (virtualSystemOf descriptor)))

namespace HardwareSection

def itemsOf (hardware : HardwareSection) (kind : ResourceKind) : List Item :=
  hardware.items.filter fun item => item.resourceType == some (kind.code : Int)

end HardwareSection

/-! ### Processors and memory -/

def cpuCount (hardware : Option HardwareSection) : Narrated Fault Int :=
  match hardware with
  | none => .fail (.defect (.cpus .noHardware))
  | some h => match h.itemsOf .cpu with
    | [] => .fail (.defect (.cpus .noItem))
    | item :: _ => match item.virtualQuantity with
      | none => .fail (.defect (.cpus (.noQuantity item.instanceId)))
      | some n => do
        let entry : Log.Entry := .debug ⟨"hardware", "get_number_of_cpus", 182⟩
          s!"CPU count {n} from item {shown item.instanceId}"
        .log (entry.showing [n])
        pure n

def memoryMessage (megabytes : Nat) (item : Item) (quantity : Int) : String :=
  s!"Memory {megabytes} MB from item {shown item.instanceId} " ++
    s!"({quantity} {shown item.allocationUnits})"

def memoryInMb (hardware : Option HardwareSection) : Narrated Fault Nat :=
  match hardware with
  | none => .fail (.defect (.memory .noHardware))
  | some h => match h.itemsOf .memory with
    | [] => .fail (.defect (.memory .noItem))
    | item :: _ => match item.virtualQuantity with
      | none => .fail (.defect (.memory (.noQuantity item.instanceId)))
      | some n => do
        let megabytes ← quantityInMb (.number n) item.allocationUnits
        let entry : Log.Entry :=
          .debug ⟨"hardware", "get_memory_in_mb", 212⟩ (memoryMessage megabytes item n)
        .log (entry.showing [(megabytes : Int), n])
        pure megabytes

/-! ### Disks -/

structure DiskInfo where
  location : Option String
  sizeInGb : Nat
  deriving DecidableEq, Repr

def diskReferenceStart : List Char := "ovf:/disk/".toList

def dropFinalLineFeed (cs : List Char) : List Char :=
  if cs.getLast? = some '\n' then cs.dropLast else cs

/-- The disk that a host resource names: what follows the fixed start, without a final line feed,
has to be a text of one line that is not empty. -/
def diskIdOf? (hostResource : String) : Option String :=
  let cs := hostResource.toList
  if diskReferenceStart.isPrefixOf cs then
    let id := dropFinalLineFeed (cs.drop diskReferenceStart.length)
    if id ≠ [] ∧ '\n' ∉ id then some (String.ofList id) else none
  else none

def Item.diskId (item : Item) : Except Fault String :=
  match (item.hostResource.head?).bind diskIdOf? with
  | some id => .ok id
  | none => .error (.unsupported (.hostResource item.hostResource.head?))

/-- The last disk with the identifier. -/
def diskById? (disks : List Disk) (id : String) : Option Disk :=
  disks.reverse.find? fun disk => disk.id == some id

/-- The last file with the identifier that a disk refers to. A disk without a reference has no
file. -/
def fileById? (files : List FileReference) (reference : Option String) : Option FileReference :=
  reference.bind fun id => files.reverse.find? fun file => file.id == some id

def diskMessage (item : Item) (id : String) (href : Option String) (gigabytes : Nat) : String :=
  s!"Disk item {shown item.instanceId} (parent {shown item.parent}) -> disk {id} -> " ++
    s!"file {shown href}, {gigabytes} GB"

def diskInfo (disks : List Disk) (files : List FileReference) (item : Item) :
    Narrated Fault DiskInfo := do
  let id ← .ofExcept item.diskId
  match diskById? disks id with
  | none => .fail (.defect (.diskNotFound id))
  | some disk => match fileById? files disk.fileRef with
    | none => .fail (.defect (.fileNotFound disk.fileRef id))
    | some file => do
      let gigabytes ← capacityInGb (.ofText disk.capacity) disk.capacityUnits
      let entry : Log.Entry := .verbose (diskMessage item id file.href gigabytes)
      .log (entry.showing [(gigabytes : Int)])
      pure ⟨file.href, gigabytes⟩

/-- The disks of all disk items, in the order of the items. -/
def diskInfos (hardware : Option HardwareSection) (diskSection : Option DiskSection)
    (files : Option (List FileReference)) : Narrated Fault (List DiskInfo) :=
  match hardware with
  | none => .fail (.defect (.disks .noHardware))
  | some h =>
    let disks := (diskSection.map DiskSection.disks).getD []
    if disks.isEmpty then .fail (.defect (.disks .noDisks))
    else match files with
      | none => .fail (.defect (.disks .noFiles))
      | some files => do
        match h.itemsOf .hardDisk with
        | [] => .fail (.defect (.disks .noDiskItems))
        | items => items.mapM (diskInfo disks files)

end OvfInspect
