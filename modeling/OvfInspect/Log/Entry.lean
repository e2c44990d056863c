import OvfInspect.Log.Level
import OvfInspect.Number.Natural

/-!
# Log entries

An entry is one message, its level and the place in the program it comes from. Messages of the
three levels beside the usual ones come from the logging facility itself.
-/

namespace OvfInspect.Log

structure Origin where
  unit : String
  function : String
  line : Int
  deriving DecidableEq, Repr

/-- What issues a message: a line of the program, or the logging facility under its own name. -/
inductive Source where
  | program (origin : Origin)
  | facility (function : String)
  deriving DecidableEq, Repr

structure Stamp where
  /-- The time of day. -/
  clock : String
  /-- The lines at which the functions of the logging facility issue messages. -/
  facilityLine : String → Int
  deriving Inhabited

def Source.origin (stamp : Stamp) : Source → Origin
  | program origin => origin
  | facility function => ⟨"__init__", function, stamp.facilityLine function⟩

structure Entry where
  level : Level
  source : Source
  message : String
  /-- Whether all numbers in the message can be written. -/
  isLegible : Bool := true
  deriving DecidableEq, Repr

namespace Entry

def spam (message : String) : Entry := ⟨.spam, .facility "spam", message, true⟩
def verbose (message : String) : Entry := ⟨.verbose, .facility "verbose", message, true⟩
def notice (message : String) : Entry := ⟨.notice, .facility "notice", message, true⟩
def debug (origin : Origin) (message : String) : Entry := ⟨.debug, .program origin, message, true⟩
def info (origin : Origin) (message : String) : Entry := ⟨.info, .program origin, message, true⟩
def warning (origin : Origin) (message : String) : Entry :=
  ⟨.warning, .program origin, message, true⟩
def error (origin : Origin) (message : String) : Entry := ⟨.error, .program origin, message, true⟩

/-- The entry, whose message shows the numbers. -/
def showing (numbers : List Int) (entry : Entry) : Entry :=
  { entry with isLegible := numbers.all Number.writable }

end Entry

def atLeast (level : Level) (entries : List Entry) : List Entry :=
  entries.filter fun entry => level ≤ entry.level

end OvfInspect.Log
