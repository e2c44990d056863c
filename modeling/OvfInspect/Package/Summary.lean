import OvfInspect.Descriptor.Hardware
import OvfInspect.Storage.Client
import OvfInspect.Text.Column

/-!
# Summaries

The text that describes a package: its location between two rules, the annotation, processors,
memory, disks and files. What cannot be known of the hardware is shown as unknown. How much is shown
is the choice of the user; more detail adds lines and changes none.
-/

namespace OvfInspect

open Text

inductive Detail where
  | brief
  | standard
  | full
  deriving DecidableEq, Repr

namespace Detail

/-- The word for a choice of detail. The standard needs none. -/
def word? : Detail → Option String
  | brief => some "brief"
  | standard => none
  | full => some "verbose"

def ofWord? (word : Option String) : Option Detail :=
  [brief, standard, full].find? fun detail => detail.word? == word

theorem ofWord?_word? (detail : Detail) : ofWord? detail.word? = some detail := by
  cases detail <;> decide

end Detail

namespace Package

structure Facts where
  cpus : Option Int := none
  memoryInMb : Option Nat := none
  disks : Option (List DiskInfo) := none
  deriving DecidableEq, Repr

/-- The value of a computation, or none if the input is at fault. -/
def ifKnown {α : Type} (operation : String) (x : Narrated Fault α) :
    Narrated Fault (Option α) :=
  (some <$> x).orElse fun fault =>
    if fault.isInput then do
      .log (.verbose (operation ++ ": " ++ fault.message))
      pure none
    else .fail fault

def factsOf (descriptor : Descriptor) (hardware : HardwareSection) : Narrated Fault Facts := do
  let cpus ← ifKnown "get_number_of_cpus" (cpuCount (some hardware))
  let memory ← ifKnown "get_memory_in_mb" (memoryInMb (some hardware))
  let disks ← ifKnown "get_disk_infos"
    (diskInfos (some hardware) descriptor.diskSection descriptor.files)
  pure ⟨cpus, memory, disks⟩

def facts (package : String) (descriptor : Descriptor) : Narrated Fault Facts := do
  match ← (descriptorHardware (some descriptor)).attempt with
  | .ok hardware => factsOf descriptor hardware
  | .error fault =>
    if fault.isDefect then do
      .log (.verbose ("No virtual hardware in " ++ package ++ ": " ++ fault.message))
      pure {}
    else .fail fault

/-! ### Lines -/

def written (n : Int) : Except Fault String :=
  if Number.writable n then .ok (toString n) else .error .unwritable

def unknown : String := "unknown"

def factLines (facts : Facts) : Except Fault (List String) := do
  let cpus ← match facts.cpus with
    | some n => written n
    | none => .ok unknown
  let memory ← match facts.memoryInMb with
    | some n => (written n).map (· ++ " MB")
    | none => .ok unknown
  return ["CPUs:    " ++ cpus, "Memory:  " ++ memory]

def diskLocation (disk : DiskInfo) : Except Fault String :=
  match disk.location with
  | some location => .ok location
  | none => .error (.absent .href)

/-- The line for one disk; in full detail another one gives the location in the package. -/
def diskLines (client : Storage.Client) (package : String) (detail : Detail) (width : Nat)
    (disk : DiskInfo) : Narrated Fault (List String) := do
  let location ← .ofExcept (diskLocation disk)
  let size ← .ofExcept (written disk.sizeInGb)
  let line := "  " ++ padRight width location ++ " " ++ padLeft 5 size ++ " GB"
  if detail = .full then
    return [line, "    " ++ (← client.join package location)]
  else return [line]

def disksLines (client : Storage.Client) (package : String) (detail : Detail) (facts : Facts) :
    Narrated Fault (List String) :=
  match facts.disks with
  | none => pure ["Disks:   " ++ unknown]
  | some disks => do
    let count := "Disks:   " ++ toString disks.length
    if detail = .brief then return [count]
    else
      let locations ← .ofExcept (disks.mapM diskLocation)
      let width := (locations.map String.length).foldl max 0
      return count :: (← disks.mapM (diskLines client package detail width)).flatten

def fileLine (file : FileReference) : Except Fault String := do
  let size ← match file.size with
    | some bytes => (Size.render bytes 0).mapError Fault.size
    | none => .ok "unknown size"
  match file.id, file.href with
  | some id, some href =>
    return "  " ++ padRight 10 id ++ " " ++ padRight 20 href ++ " " ++ padLeft 10 size
  | none, _ => .error (.absent .identifier)
  | _, none => .error (.absent .href)

def fileLines (detail : Detail) (descriptor : Descriptor) : Except Fault (List String) :=
  match detail, descriptor.files with
  | .full, some files => do
    return ("Files:   " ++ toString files.length) :: (← files.mapM fileLine)
  | _, _ => .ok []

def titleLines (columns : Int) (package : String) : List String :=
  let rule := String.ofList (List.replicate (columns - 1).toNat '-')
  [rule, package, rule]

def annotationLines (detail : Detail) (descriptor : Descriptor) : List String :=
  match detail, descriptor.annotation.bind Annotation.annotation with
  | .brief, _ => []
  | _, some text => if text = "" then [] else ["Annotation: " ++ text]
  | _, none => []

/-- The summary of a package, for a terminal of so many columns. -/
def summaryLines (client : Storage.Client) (columns : Int) (detail : Detail) (package : String)
    (descriptor : Descriptor) : Narrated Fault (List String) := do
  let facts ← facts package descriptor
  let about ← .ofExcept (factLines facts)
  let disks ← disksLines client package detail facts
  let files ← .ofExcept (fileLines detail descriptor)
  return titleLines columns package ++ annotationLines detail descriptor ++ about ++ disks ++ files

def summary (client : Storage.Client) (columns : Int) (detail : Detail) (package : String)
    (descriptor : Descriptor) : Narrated Fault String := do
  return "\n".intercalate (← summaryLines client columns detail package descriptor)

end Package

end OvfInspect
