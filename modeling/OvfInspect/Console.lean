import OvfInspect.Dialogue
import OvfInspect.Text.Blank
import OvfInspect.Text.Lines
import OvfInspect.Text.Wrap

/-!
# Consoles

Where commands ask for confirmation, and how many columns they may fill. A terminal asks the user
until the answer can be understood; a silent console gives one answer to everything. With force,
either agrees by itself and says so in the log.
-/

namespace OvfInspect

/-- What a command needs of its user interface. -/
structure Console where
  columns : Int
  confirm : String → Dialogue Bool

def agree (prompt : String) : Narrated Fault Bool := do
  .log (.warning ⟨"ui", "confirm", 84⟩ ("Automatically agreeing to '" ++ prompt ++ "'"))
  pure true

structure SilentConsole where
  force : Bool := false
  response : Bool := true
  columns : Int := 80
  deriving DecidableEq, Repr

def SilentConsole.console (settings : SilentConsole) : Console where
  columns := settings.columns
  confirm prompt := if settings.force then agree prompt else pure settings.response

namespace Terminal

def decision? (text : String) : Option Bool :=
  let word := (Text.trim text).toLower
  if word ∈ ["", "y", "yes"] then some true
  else if word ∈ ["n", "no"] then some false
  else none

def complaint : String := "Please enter 'y' or 'n'"

/-- Ask until an answer decides. An interrupt or the end of the answers is a fault. -/
def ask (question : String) : List Answer → Narrated Fault Bool × List Answer
  | [] => (do .tell (.prompted question); .fail .inputEnded, [])
  | .interrupt :: rest => (do .tell (.prompted question); .fail .interrupted, rest)
  | .typed text :: rest =>
    match decision? text with
    | some decided => (do .tell (.prompted question); pure decided, rest)
    | none =>
      let (again, left) := ask question rest
      (do .tell (.prompted question); .tell (.printed complaint); again, left)

/-- The question that a prompt becomes: its lines, each filled to the width, and a mark that yes is
the default. -/
def question (width : Nat) (prompt : String) : String :=
  "\n".intercalate ((Text.lines prompt).map (Text.fill width)) ++ " [y] "

def console (columns : Nat) (force : Bool) : Console where
  columns := columns
  confirm prompt :=
    if force then agree prompt else ⟨ask (question (columns - 1) prompt)⟩

end Terminal

end OvfInspect
