import OvfInspect.Command.Settings
import OvfInspect.Console
import OvfInspect.Package.Loader

/-!
# Running commands

The disks command stops at the first fault. The info command goes on to the next package when one
is at fault, and asks before it shows a package of which a file is missing.
-/

namespace OvfInspect

open Storage

namespace Command

def openPackage (world : World) (package : String) : Narrated Fault Client := do
  let client ← world.openPackage package
  .log (.verbose ("Reading " ++ package ++ " using " ++ client.backend.name))
  pure client

def printLine (line : String) : Narrated Fault Unit :=
  .tell (.printed line)

/-! ### Disks -/

def diskLine (disk : Package.LocatedDisk) : Except Fault String := do
  return disk.location ++ " " ++ (← Package.written disk.sizeInGb) ++ " GB"

def printDisks (world : World) (package : String) : Narrated Fault Unit := do
  let client ← openPackage world package
  let (_, found) ← Package.loadWithDisks world.room client package
  .log (.info ⟨"disks", "run", 50⟩
    ("Resolved " ++ toString found.length ++ " disk(s) in " ++ package))
  found.forM fun disk => do printLine (← .ofExcept (diskLine disk))

/-! ### Summaries -/

def incompletePrompt (fault : Fault) : String :=
  fault.message ++ "\nDisplay information anyway?"

/-- The descriptor of a package. If a file is missing the user decides. -/
def loadOrAsk (room : Nat) (console : Console) (client : Client) (package : String) :
    Dialogue Descriptor := do
  match ← (Dialogue.silent (Package.load room client package)).attempt with
  | .ok descriptor => return descriptor
  | .error fault =>
    if fault.isIncomplete then
      if ← console.confirm (incompletePrompt fault) then
        .silent (Package.loadUnchecked room client package)
      else .silent (.fail fault)
    else .silent (.fail fault)

def prepare (world : World) (console : Console) (package : String) :
    Dialogue (Client × Descriptor) := do
  let client ← openPackage world package
  return (client, ← loadOrAsk world.room console client package)

/-- Print the summary of one package, or log why there is none. -/
def describe (world : World) (console : Console) (detail : Detail) (package : String) :
    Dialogue Unit := do
  match ← (prepare world console package).attempt with
  | .ok (client, descriptor) =>
    .silent do printLine (← Package.summary client console.columns detail package descriptor)
  | .error fault =>
    if fault.isDefect || fault.isStorage then
      .silent <| .log <| .error ⟨"info", "run", 138⟩
        ("Unable to display information for " ++ package ++ ": " ++ fault.message)
    else .silent (.fail fault)

def describeAll (world : World) (console : Console) (detail : Detail) : List String → Dialogue Unit
  | [] => pure ()
  | first :: others => do
    describe world console detail first
    others.forM fun package => do
      printLine ""
      describe world console detail package

def work (world : World) (console : Console) : Command → Dialogue Unit
  | plain => pure ()
  | reader _ => pure ()
  | disks package => package.forM fun package => Dialogue.silent (printDisks world package)
  | info packages detail => describeAll world console detail (packageNames packages)

def run (world : World) (console : Console) (command : Command) : Dialogue Unit :=
  match command.problem? with
  | some problem => Dialogue.silent (.fail (.input problem))
  | none => command.work world console

end Command

end OvfInspect
