import OvfInspect.Command.Options
import OvfInspect.Storage.World

/-!
# Commands and their settings

A command holds the settings it was given last. A setting is checked when it is given: a local
package has to exist, and the detail of a summary has to be known. `problem?` says what a command
lacks before it can run.
-/

namespace OvfInspect

open Storage

/-- The commands. The first two do nothing by themselves: the one needs no settings, the other reads
a package. -/
inductive Command where
  | plain
  | reader (package : Option String)
  /-- Print the location and size of each disk of a package. -/
  | disks (package : Option String)
  /-- Print the summaries of the packages that a value lists. -/
  | info (packages : Value) (detail : Detail)
  deriving Repr

/-- Check that a package exists. Whether a remote one does is not known before it is read. -/
def Storage.World.checkPackage (world : World) (package : String) : Except Fault Unit :=
  if isRemote package || world.files.exists? package then .ok ()
  else .error (.input (.packageMissing package))

def Storage.World.checkNamed (world : World) (value : Value) : Except Fault Unit :=
  match value with
  | .text package => world.checkPackage package
  | _ => .error (.missingOption "package")

namespace Command

def name : Command → String
  | plain => "Command"
  | reader _ => "ReadCommand"
  | disks _ => "OVFXDisks"
  | info _ _ => "OVFXInfo"

def all : List Command := [plain, reader none, disks none, info .absent .standard]

def acceptPackage (world : World) (value : Value) : Except Fault (Option String) := do
  if value.isAbsent then return none
  else
    world.checkNamed value
    return value.text?

def acceptPackages (world : World) (value : Value) : Except Fault Value :=
  match value.elements? with
  | none => .error (.absent .packages)
  | some packages => do
    packages.forM world.checkNamed
    return value

def packageNames (value : Value) : List String :=
  (value.elements?.getD []).filterMap Value.text?

def settingNames : Command → List String
  | plain => []
  | reader _ => ["package"]
  | disks _ => ["package"]
  | info _ _ => ["package_list", "verbosity"]

def setting? : Command → (name : String) → Option Value
  | reader package, "package" => some (.ofText? package)
  | disks package, "package" => some (.ofText? package)
  | info packages _, "package_list" => some packages
  | info _ detail, "verbosity" => some (.ofText? detail.word?)
  | _, _ => none

/-- The command with one setting given anew. What is no setting of the command leaves it alone. -/
def give (world : World) (name : String) (value : Value) :
    Command → Except Fault Command
  | reader package => do
    if name = "package" then return reader (← acceptPackage world value)
    else return reader package
  | disks package => do
    if name = "package" then return disks (← acceptPackage world value)
    else return disks package
  | info packages detail => do
    if name = "package_list" then
      return info (← acceptPackages world value) detail
    else if name = "verbosity" then return info packages (← Detail.ofValue value)
    else return info packages detail
  | plain => return plain

def takeEach (world : World) (options : Options) :
    List String → Command → Except Fault Unit × Command
  | [], command => (.ok (), command)
  | name :: names, command =>
    match (do command.give world name (← options.value name)) with
    | .ok changed => takeEach world options names changed
    | .error fault => (.error fault, command)

/-- Give a command the settings that are among the options. -/
def take (world : World) (options : Options) (command : Command) : Except Fault Unit × Command :=
  takeEach world options command.settingNames command

def configure (world : World) (options : Options) (command : Command) :
    Narrated Fault Unit × Command :=
  let (outcome, configured) := command.take world options
  (do
    .log (.spam ("Configuring " ++ command.name ++ " from " ++ options.shown))
    .ofExcept outcome, configured)

def register : Command → Except Fault Unit
  | disks _ => .error (.notProvided "No implementation of add_subparser()")
  | info _ _ => .error (.notProvided "No implementation of add_subparser()")
  | _ => .ok ()

def problem? : Command → Option InputProblem
  | plain => none
  | reader package => if package.isNone then some .noPackage else none
  | disks package => if package.isNone then some .noPackage else none
  | info packages _ => if packages.isSomething then none else some .noPackages

def readiness (command : Command) : Bool × String :=
  match command.problem? with
  | some problem => (false, problem.message)
  | none => (true, "Ready to go!")

end Command

end OvfInspect
