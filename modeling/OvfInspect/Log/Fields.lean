import OvfInspect.Log.Layout
import OvfInspect.Log.Template

/-!
# Records given by fields

A log record can be given as values by name. Its message is made from a template, and every part of
its line from a field; a field that the verbosity leaves out may hold anything. An account of a
failure and of the calls that led to the record follow the line, each on lines of its own.
-/

namespace OvfInspect.Log

abbrev Fields := List (String × Value)

namespace Fields

def valueOr (fields : Fields) (name : String) (default : Value) : Value :=
  (fields.lookup name).getD default

def arguments (fields : Fields) : List Value :=
  match fields.valueOr "args" .absent with
  | .list values => values
  | _ => []

def message (fields : Fields) : Except Misfit String :=
  fillTemplate (fields.valueOr "msg" (.text "")) fields.arguments

/-! ### The time -/

def firstSecond : Int := -67768040609740800

def lastSecond : Int := 67768036191676799

/-- The last second whose year can be written. -/
def lastWrittenSecond : Int := 67767976233532799

def secondsOf (value : Value) : Except Misfit Int := do
  let seconds := (← need value.rational?).floor
  if seconds < -9223372036854775808 ∨ 9223372036854775807 < seconds then .error .outOfRange
  else if seconds < firstSecond ∨ lastSecond < seconds then .error .distantTime
  else if lastWrittenSecond < seconds then .error .outOfRange
  else .ok seconds

def time (fields : Fields) : Except Misfit String := do
  return timeOfDay (← secondsOf (fields.valueOr "created" (.number 0)))

def millisPlace : Place := { zeros := true, width := 3 }

def millis (fields : Fields) : Except Misfit String := do
  return String.ofList (← millisPlace.shown .whole (fields.valueOr "msecs" (.number 0)))

/-! ### The line -/

def levelName (fields : Fields) : Except Misfit String :=
  match fields.valueOr "levelname" (.text "Level None") with
  | .list _ => .error .mismatch
  | .record _ => .error .mismatch
  | value => do return (← legible value).plain

def text (fields : Fields) (name : String) (default : Value) : Except Misfit String := do
  return (← legible (fields.valueOr name default)).plain

/-- The number of the line, cut off behind the point. -/
def line (fields : Fields) : Except Misfit Int := do
  legibleNumber (← need (wholePart? (fields.valueOr "lineno" (.number 0))))

def partBelow {α : Type} (limit verbosity : Level) (default : α) (part : Except Misfit α) :
    Except Misfit α :=
  if verbosity ≤ limit then part else .ok default

def record (verbosity : Level) (fields : Fields) : Except Misfit Record := do
  let message ← fields.message
  let time ← partBelow .debug verbosity "" fields.time
  let levelName ← fields.levelName
  let millis ← partBelow .debug verbosity "" fields.millis
  let unit ← partBelow .info verbosity "" (fields.text "module" (.text ""))
  let line ← partBelow .debug verbosity 0 fields.line
  let function ← partBelow .verbose verbosity "" (fields.text "funcName" .absent)
  return ⟨levelName, time ++ "." ++ millis, ⟨unit, function, line⟩, message⟩

/-! ### What follows the line -/

/-- A text on a new line after another. -/
def onNewLine (before after : String) : String :=
  (if before.endsWith "\n" then before else before ++ "\n") ++ after

def followedBy (before : String) (value : Value) : Except Misfit String :=
  if value.isSomething then match value with
    | .text after => .ok (onNewLine before after)
    | _ => .error .mismatch
  else .ok before

def noFailure : String := "NoneType: None"

/-- The account of a failure that is given as kind, value and trace. Only one without value and
trace can be told. -/
def accountOf (failure : Value) : Except Misfit String :=
  match failure with
  | .list (_ :: .absent :: .absent :: _) => .ok noFailure
  | .list (_ :: _ :: _ :: _) => .error .foreignPart
  | .list _ => .error .shortRow
  | .text s => if s.length < 3 then .error .shortRow else .error .foreignPart
  | .record _ => .error .namedParts
  | _ => .error .mismatch

/-- The account of the failure that a record is about. A text of it is taken as it is. -/
def account (fields : Fields) : Except Misfit Value :=
  let told := fields.valueOr "exc_text" .absent
  let failure := fields.valueOr "exc_info" .absent
  if failure.isSomething && !told.isSomething then do return .text (← accountOf failure)
  else .ok told

def render (verbosity : Level) (fields : Fields) : Except Misfit String := do
  let shown := (← fields.record verbosity).render verbosity
  let shown ← followedBy shown (← fields.account)
  followedBy shown (fields.valueOr "stack_info" .absent)

end Fields

end OvfInspect.Log
