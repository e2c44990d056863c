import OvfInspect.Descriptor.Hardware
import OvfInspect.Descriptor.Reader
import OvfInspect.Storage.World

/-!
# Loading packages

The descriptor of a package is found and read, and then every file that it lists is looked up, in
order. The first that is missing makes the package incomplete.
-/

namespace OvfInspect.Package

open Storage

def descriptorSuffix : String := ".ovf"

def check (client : Client) (package : String) (file : FileReference) : Narrated Fault Unit := do
  match ← (client.find package file.href).attempt with
  | .ok _ =>
    .log (.verbose s!"Found reference {shown file.id} ({shown file.href}) in package")
  | .error (.storage failure) => .fail (.defect (.notInPackage file.href package failure))
  | .error fault => .fail fault

def validate (client : Client) (descriptor : Option Descriptor) (package : String) :
    Narrated Fault Descriptor :=
  match descriptor with
  | none => .fail (.input .noDescriptor)
  | some d => match d.files with
    | none => do
      .log (.verbose "Descriptor has no References; nothing to check")
      pure d
    | some files => do
      files.forM (check client package)
      pure d

def content (client : Client) (package : String) : Narrated Fault (Handle × Xml.Content) := do
  let handle ← client.find package (some descriptorSuffix)
  return (handle, ← client.read handle)

def load (room : Nat) (client : Client) (package : String) : Narrated Fault Descriptor := do
  let (handle, content) ← content client package
  .log (.verbose s!"Read {content.size} bytes of OVF descriptor from {handle.path}")
  validate client (some (← Descriptor.parse room content)) package

/-- The descriptor of a package, although a file may be missing. -/
def loadUnchecked (room : Nat) (client : Client) (package : String) :
    Narrated Fault Descriptor := do
  Descriptor.parse room (← content client package).2

structure LocatedDisk where
  location : String
  sizeInGb : Nat
  deriving DecidableEq, Repr

/-- A disk with its location. No client joins a name that is absent; nor does one find it, so that
loading has ended before. -/
def locate (client : Client) (package : String) (disk : DiskInfo) :
    Narrated Fault LocatedDisk := do
  match disk.location with
  | none => .fail (.absent .href)
  | some href => return ⟨← client.join package href, disk.sizeInGb⟩

/-- The descriptor of a package and its disks, in the order of the hardware items. -/
def loadWithDisks (room : Nat) (client : Client) (package : String) :
    Narrated Fault (Descriptor × List LocatedDisk) := do
  let descriptor ← load room client package
  let hardware ← descriptorHardware (some descriptor)
  let disks ← diskInfos (some hardware) descriptor.diskSection descriptor.files
  return (descriptor, ← disks.mapM (locate client package))

end OvfInspect.Package
