import OvfInspect.Log.Entry
import OvfInspect.Text.Column

/-!
# The layout of log lines

A line begins with the name of its level, coloured for a terminal. The noisier the verbosity, the
more of the time and the origin stands between the name and the message.
-/

namespace OvfInspect.Log

open Text

/-- A time in whole seconds, counted from a midnight, and thousandths. -/
structure Clock where
  seconds : Int
  millis : Nat
  deriving DecidableEq, Repr

structure Record where
  levelName : String
  clock : String
  origin : Origin
  message : String
  deriving DecidableEq, Repr

def zeroPadded (width n : Nat) : String :=
  let ds := (toString n).toList
  String.ofList (List.replicate (width - ds.length) '0' ++ ds)

def timeOfDay (seconds : Int) : String :=
  let ofDay := (seconds % 86400).toNat
  zeroPadded 2 (ofDay / 3600) ++ ":" ++ zeroPadded 2 (ofDay / 60 % 60) ++ ":" ++
    zeroPadded 2 (ofDay % 60)

def Clock.text (clock : Clock) : String :=
  timeOfDay clock.seconds ++ "." ++ zeroPadded 3 clock.millis

def displayAttribute (code : String) : String :=
  "\x1b[" ++ code ++ "m"

def colour (levelName : String) : String :=
  match levelName with
  | "DEBUG" => displayAttribute "34"
  | "VERBOSE" => displayAttribute "36"
  | "INFO" => displayAttribute "32"
  | "NOTICE" => displayAttribute "33"
  | "WARNING" => displayAttribute "31"
  | "ERROR" => displayAttribute "37" ++ displayAttribute "41"
  | "CRITICAL" => displayAttribute "35" ++ displayAttribute "1"
  | _ => ""

/-- What stands before the message: the level's name, and the parts of the context that are shown
at the verbosity and below it. -/
def context (verbosity : Level) (record : Record) : List String :=
  [padRight 7 record.levelName] ++
    (if verbosity ≤ .debug then [record.clock] else []) ++
    (if verbosity ≤ .info then [padRight 15 record.origin.unit] else []) ++
    (if verbosity ≤ .debug then [padLeft 4 (toString record.origin.line)] else []) ++
    (if verbosity ≤ .verbose then [padLeft 31 record.origin.function ++ "()"] else [])

def Record.render (verbosity : Level) (record : Record) : String :=
  colour record.levelName ++ " : ".intercalate (context verbosity record) ++ " :" ++
    displayAttribute "0" ++ " " ++ record.message

def Entry.record (stamp : Stamp) (entry : Entry) : Record :=
  ⟨entry.level.name, stamp.clock, entry.source.origin stamp, entry.message⟩

end OvfInspect.Log
