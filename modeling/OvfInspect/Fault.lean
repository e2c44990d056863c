import OvfInspect.Log.Template
import OvfInspect.Number.Natural
import OvfInspect.Size
import OvfInspect.Storage.Failure
import OvfInspect.Xml.Charset
import OvfInspect.Xml.Printer

/-!
# Faults

Every way in which an operation of the library can fail, as a cause. The wording of all faults is in
`Fault.message`. `Fault.isInput` tells the faults that are the package's or the user's.
-/

namespace OvfInspect

def shown (text : Option String) : String :=
  text.getD "None"

inductive UnsupportedValue where
  | allocationUnits (given : Option String)
  | capacity (given : Option String)
  | hostResource (given : Option String)
  deriving DecidableEq, Repr

namespace UnsupportedValue

def wording (given kind expected : String) : String :=
  "Unsupported value '" ++ given ++ "' for " ++ kind ++ " - expected " ++ expected

def supportedUnits : List String :=
  ["byte * 2^20", "byte * 2^30", "byte * 2^40"]

def message : UnsupportedValue → String
  | allocationUnits given =>
    wording (shown given) "allocation units" (Text.quotedList supportedUnits)
  | capacity given => wording (shown given) "capacity" "a non-negative integer"
  | hostResource given => wording (shown given) "disk host resource" "ovf:/disk/<diskId>"

end UnsupportedValue

def quotedLimit : Nat := 200

def Number.Refusal.message : Number.Refusal → String
  | .notNatural given => "'" ++ shown given ++ "' is not a non-negative integer"
  | .strayCharacter given =>
    "invalid literal for int() with base 10: " ++
      String.ofList ((Text.quoted given).toList.take quotedLimit)
  | .tooManyDigits count => excessMessage count

structure Xml.Ambiguity where
  tag : String
  parent : String
  found : List Xml.Element

/-- Whether there is room for a message that shows all elements in question: an element is written
level by level, and no more levels than the room can be open at a time. -/
def Xml.Ambiguity.fits (room : Nat) (a : Xml.Ambiguity) : Bool :=
  a.found.all fun e => e.depth ≤ room

def Xml.Ambiguity.message (a : Xml.Ambiguity) : String :=
  "Found multiple matching <" ++ a.tag ++ "> children under <" ++ a.parent ++ ">:\n" ++
    "\n".intercalate (a.found.map Xml.Element.render)

/-- What makes a descriptor unreadable. -/
inductive Malformed where
  | illFormed
  | ambiguous (ambiguity : Xml.Ambiguity)
  | number (field : String) (refusal : Number.Refusal)
  | boolean (given : String)

def Malformed.message : Malformed → String
  | illFormed => "Unable to parse OVF descriptor"
  | ambiguous ambiguity => ambiguity.message
  | number field refusal => field ++ ": " ++ refusal.message
  | boolean given => "'" ++ given ++ "' is not a valid boolean"

inductive ResourceGap where
  | noHardware
  | noQuantity (item : Option String)
  | noItem
  deriving DecidableEq, Repr

/-- What keeps the disks from being known as a whole. -/
inductive DiskGap where
  | noHardware
  | noDisks
  | noFiles
  | noDiskItems
  deriving DecidableEq, Repr

inductive Defect where
  | malformed (cause : Malformed)
  | noDescriptor
  | noVirtualSystem
  | noSystemForHardware
  | noVirtualHardware
  | cpus (gap : ResourceGap)
  | memory (gap : ResourceGap)
  | disks (gap : DiskGap)
  | diskNotFound (id : String)
  | fileNotFound (reference : Option String) (disk : String)
  | notInPackage (href : Option String) (package : String) (cause : Storage.Failure)

namespace Defect

def message : Defect → String
  | malformed cause => cause.message
  | noDescriptor => "OVF descriptor cannot be nil"
  | noVirtualSystem => "OVF descriptor error: VirtualSystem must be defined to import"
  | noSystemForHardware => "virtual system is nil, can't extract Virtual hardware"
  | noVirtualHardware => "virtual hardware is nil or empty"
  | cpus .noHardware | memory .noHardware | disks .noHardware => "virtual hardware cannot be nil"
  | cpus (.noQuantity item) => "CPU item " ++ shown item ++ " has no VirtualQuantity"
  | cpus .noItem => "Number of CPUs not found"
  | memory (.noQuantity item) => "memory item " ++ shown item ++ " has no VirtualQuantity"
  | memory .noItem => "Memory not found"
  | disks .noDisks => "disk section cannot be nil or empty"
  | disks .noFiles => "file references cannot be nil"
  | disks .noDiskItems => "no disks found in OVF descriptor"
  | diskNotFound id =>
    "disk with reference " ++ id ++ " couldn't be found in OVF descriptor"
  | fileNotFound reference disk =>
    "file reference '" ++ shown reference ++ "' of disk " ++ disk ++
      " couldn't be found in OVF descriptor"
  | notInPackage href package _ =>
    "OVF reference " ++ shown href ++ " not found in OVF package in " ++ package

end Defect

inductive InputProblem where
  | noDescriptor
  | packageMissing (package : String)
  | noPackage
  | noPackages
  | badVerbosity
  deriving DecidableEq, Repr

def InputProblem.message : InputProblem → String
  | noDescriptor => "OVF descriptor cannot be nil"
  | packageMissing package => "Specified package " ++ package ++ " does not exist!"
  | noPackage => "PACKAGE is a mandatory argument!"
  | noPackages => "At least one package must be specified"
  | badVerbosity => "Verbosity must be 'brief', 'verbose', or None"

/-- A value that is needed but absent. -/
inductive Gap where
  | href
  | identifier
  | suffix
  | packages
  deriving DecidableEq, Repr

inductive PathProblem where
  | zeroCharacter
  | noSlash
  deriving DecidableEq, Repr

inductive Fault where
  /-- A number of units or their exponent cannot be read. -/
  | number (refusal : Number.Refusal)
  /-- A number has too many digits to be written. -/
  | unwritable
  | size (refusal : Size.Refusal)
  | unsupported (value : UnsupportedValue)
  | input (problem : InputProblem)
  | defect (defect : Defect)
  | ambiguous (ambiguity : Xml.Ambiguity)
  /-- An element is nested too deep to be shown. -/
  | tooDeep
  | document (refusal : Xml.Refusal)
  | storage (failure : Storage.Failure)
  | absent (gap : Gap)
  | path (problem : PathProblem)
  /-- An archive or its packing is damaged. -/
  | damaged (damage : Storage.Damage)
  /-- The links of an archive lead round in a circle. -/
  | linkCycle
  /-- The abstract command or client lacks the operation. -/
  | notProvided (operation : String)
  /-- A command was given options that lack one of its own, or have it in another form. -/
  | missingOption (name : String)
  /-- Values and a message template do not fit. -/
  | template (misfit : Log.Misfit)
  /-- Lines cannot be filled to a width below one. -/
  | badWidth (width : Int)
  | interrupted
  /-- The user's input ended at a question. -/
  | inputEnded

namespace Fault

def sizeMessage : Size.Refusal → String
  | .negativeUnit => "base_shift must not be negative"
  | .outOfRange => "int too large to convert to float"
  | .unnamedUnit => "list index out of range"

def documentMessage : Xml.Refusal → String
  | .illFormed => "not well-formed"
  | .unknownEncoding name => "unknown encoding: " ++ name
  | .notTextEncoding name =>
    "'" ++ name ++ "' is not a text encoding; use codecs.decode() to handle arbitrary codecs"
  | .multiByteEncoding => "multi-byte encodings are not supported"
  | .refusingEncoding name => "encoding not usable: " ++ name

def message : Fault → String
  | number refusal => refusal.message
  | unwritable => Number.unwritableMessage
  | template .unwritable => Number.unwritableMessage
  | template misfit => misfit.message
  | size refusal => sizeMessage refusal
  | unsupported value => value.message
  | input problem => problem.message
  | defect d => d.message
  | ambiguous ambiguity => ambiguity.message
  | tooDeep => "maximum recursion depth exceeded"
  | document refusal => documentMessage refusal
  | storage failure => failure.message
  | absent .href => "a reference has no location"
  | absent .identifier => "a reference has no identifier"
  | absent .suffix => "no name was given"
  | absent .packages => "no packages were given"
  | path .zeroCharacter => "embedded null byte"
  | path .noSlash => "substring not found"
  | damaged damage => damage.message
  | linkCycle => "maximum recursion depth exceeded"
  | notProvided operation => operation
  | missingOption name => name
  | badWidth width => "invalid width " ++ toString width ++ " (must be > 0)"
  | interrupted => ""
  | inputEnded => ""

def isDefect : Fault → Bool
  | defect _ => true
  | _ => false

/-- Whether the fault is one of the input: a defect, an unsupported value, or a wrong option. -/
def isInput : Fault → Bool
  | unsupported _ => true
  | input _ => true
  | defect _ => true
  | _ => false

def isIncomplete : Fault → Bool
  | defect (.notInPackage _ _ _) => true
  | _ => false

def isStorage : Fault → Bool
  | storage _ => true
  | _ => false

end Fault

def Xml.Ambiguity.fault (room : Nat) (a : Xml.Ambiguity) : Fault :=
  if a.fits room then .ambiguous a else .tooDeep

/-- The fault of a descriptor. An ambiguity is a defect once there is a message of it. -/
def Malformed.fault (room : Nat) : Malformed → Fault
  | ambiguous a => if a.fits room then .defect (.malformed (.ambiguous a)) else .tooDeep
  | cause => .defect (.malformed cause)

theorem Xml.Ambiguity.not_fits_iff {room : Nat} {a : Xml.Ambiguity} :
    a.fits room = false ↔ ∃ e ∈ a.found, room < e.depth := by
  simp [fits]

namespace Malformed

variable {room : Nat} {cause : Malformed}

theorem fault_eq_tooDeep_iff : cause.fault room = .tooDeep ↔
    ∃ a, cause = .ambiguous a ∧ ∃ e ∈ a.found, room < e.depth := by
  simp only [← Xml.Ambiguity.not_fits_iff]
  cases cause with
  | ambiguous a => cases fits : a.fits room <;> simp [fault, fits]
  | _ => simp [fault]

theorem fault_of_ne_tooDeep (shown : cause.fault room ≠ .tooDeep) :
    cause.fault room = .defect (.malformed cause) := by
  cases cause with
  | ambiguous a => exact if_pos (Decidable.by_contra fun large => shown (if_neg large))
  | _ => rfl

end Malformed

end OvfInspect
