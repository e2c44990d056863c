/-!
# Log levels

A level is a severity: the higher, the more urgent. Nine severities have names, and eight of them
form the ladder along which a user asks for more or fewer messages.
-/

namespace OvfInspect.Log

structure Level where
  severity : Int
  deriving DecidableEq, Repr

namespace Level

def spam : Level := ⟨5⟩
def debug : Level := ⟨10⟩
def verbose : Level := ⟨15⟩
def info : Level := ⟨20⟩
def notice : Level := ⟨25⟩
def warning : Level := ⟨30⟩
def success : Level := ⟨35⟩
def error : Level := ⟨40⟩
def critical : Level := ⟨50⟩

instance : LE Level := ⟨fun a b => a.severity ≤ b.severity⟩

instance (a b : Level) : Decidable (a ≤ b) :=
  inferInstanceAs (Decidable (a.severity ≤ b.severity))

def named : List (Level × String) :=
  [(spam, "SPAM"), (debug, "DEBUG"), (verbose, "VERBOSE"), (info, "INFO"), (notice, "NOTICE"),
   (warning, "WARNING"), (success, "SUCCESS"), (error, "ERROR"), (critical, "CRITICAL"),
   (⟨0⟩, "NOTSET")]

def name (level : Level) : String :=
  ((named.find? fun entry => entry.1 == level).map Prod.snd).getD s!"Level {level.severity}"

def ofName? (name : String) : Option Level :=
  (named.find? fun entry => entry.2 == name).map Prod.fst

/-- The levels a user can ask for, quietest first. -/
def ladder : List Level :=
  [critical, error, warning, notice, info, verbose, debug, spam]

/-- The rung of the level that is shown without any wish of the user. -/
def defaultRung : Nat := 3

/-- The level `delta` rungs noisier than the default; beyond the ends it stays at the end. -/
def adjusted (delta : Int) : Level :=
  let rung := max 0 (min ((defaultRung : Int) + delta) ((ladder.length : Int) - 1))
  (ladder[rung.toNat]?).getD spam

end Level

end OvfInspect.Log
