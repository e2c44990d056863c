import OvfInspect.Command.Run
import OvfInspect.CommandLine.Help
import OvfInspect.Log.Logger

/-!
# Sessions

A session serves one user at a terminal. It reads command lines and runs their commands, and keeps
between them whether it agrees by itself, the settings of its commands, and its handler for the log.
A run sets all of these anew and takes the handler away at its end.
-/

namespace OvfInspect

open CommandLine Log

inductive Shown where
  | output (text : String)
  | complaint (text : String)
  | question (text : String)
  deriving DecidableEq, Repr

inductive Ending (α : Type) where
  | value (a : α)
  | exit (code : Nat)
  | fault (fault : Fault)

/-- The texts that stand for the objects of a session in its messages: its commands, and the readers
of their words. They tell where in memory the objects are. -/
structure ObjectTexts where
  command : Verb → String
  reader : Verb → String
  deriving Inhabited

structure Surroundings where
  world : Storage.World
  /-- Whether both input and output are a terminal. -/
  interactive : Bool
  stamp : Stamp
  objects : ObjectTexts

structure Session where
  owner : Nat
  columns : Nat
  force : Bool := true
  handler : Option Handler := none
  logger : Logger := {}
  disks : Command := .disks none
  info : Command := .info .absent .standard
  deriving Repr

/-- The outcome of a request: the session afterwards, what was shown, how the request ended, and the
answers that are left. -/
structure Turn (α : Type) where
  session : Session
  shown : List Shown
  ending : Ending α
  answers : List Answer

namespace Session

def usualColumns : Int := 80

/-- The columns to fill: those given, or those of the environment, or the usual ones. Zero stands
for none given. -/
def columnsOf (given environment : Option Int) : Int :=
  match given.filter (· ≠ 0), environment.filter (0 < ·) with
  | some columns, _ => columns
  | none, some columns => columns
  | none, none => usualColumns

def start (owner : Nat) (columns : Int) (logger : Logger) : Except Fault Session :=
  if columns < 2 then .error (.badWidth (columns - 1))
  else .ok { owner, columns := columns.toNat, logger }

/-! ### The log -/

def setVerbosity (level : Level) (session : Session) : Session :=
  let handler : Handler := ⟨session.owner, level, level⟩
  let logger := if session.handler.isSome then session.logger.exchange handler
    else session.logger.attach handler
  { session with handler := some handler, logger := { logger with level } }

/-- Log more than by default by so many rungs, or less. -/
def adjustVerbosity (delta : Int) (session : Session) : Session :=
  session.setVerbosity (Level.adjusted delta)

def verbosityEntry (level : Level) : Entry :=
  .debug ⟨"cli", "set_verbosity", 223⟩ ("Logging at level " ++ level.name)

def resetLogging (session : Session) : Session :=
  if session.handler.isSome then
    { session with handler := none, logger := session.logger.detach session.owner }
  else session

def shownOf (session : Session) (stamp : Stamp) : Event → List Shown
  | .logged entry => (session.logger.lines stamp entry).map fun line => .complaint (line ++ "\n")
  | .printed line => [.output (line ++ "\n")]
  | .prompted question => [.question question]
  | .requested _ => []
  | .called _ => []

def shownAll (session : Session) (stamp : Stamp) (events : List Event) : List Shown :=
  events.flatMap (session.shownOf stamp)

def logEntry (around : Surroundings) (entry : Entry) (session : Session) : List Shown :=
  session.shownOf around.stamp (.logged entry)

/-! ### Commands -/

def console (session : Session) : Console :=
  Terminal.console session.columns session.force

def confirm (around : Surroundings) (prompt : String) (answers : List Answer)
    (session : Session) : Turn Bool :=
  let (told, left) := (session.console.confirm prompt).run answers
  { session
    shown := session.shownAll around.stamp told.events
    ending := match told.result with
      | .ok agreed => .value agreed
      | .error fault => .fault fault
    answers := left }

def detailOf (order : Order) : Detail :=
  let wishes := order.flags.map Flag.wish
  if .brief ∈ wishes then .brief else if .full ∈ wishes then .full else .standard

def ownOptions (order : Order) : Options :=
  match order.verb with
  | .disks => [("package", .ofText? order.operands.head?)]
  | .info =>
    [("verbosity", .ofText? (detailOf order).word?), ("package_list", .texts order.operands)]

/-- The options that a line gives its command. The command itself is among them, and what reads its
words. -/
def optionsOf (objects : ObjectTexts) (line : Line) (order : Order) (force : Bool) : Options :=
  [("force", .flag force), ("quiet", .number (line.count .quieter)),
    ("verbose", .number (line.count .louder))] ++ ownOptions order ++
  [("subparser", .object (objects.reader order.verb)),
    ("command", .object (objects.command order.verb))]

def command (session : Session) : Verb → Command
  | .disks => session.disks
  | .info => session.info

def keep (session : Session) (command : Command) : Verb → Session
  | .disks => { session with disks := command }
  | .info => { session with info := command }

def aborted : List Shown × Ending Nat :=
  ([.complaint "\nAborted by user.\n"], .value 1)

/-- What the user sees of the end of a command, and how the run ends. -/
def endingOf (verb : Verb) : Except Fault Unit → List Shown × Ending Nat
  | .ok _ => ([], .value 0)
  | .error (.storage failure) => ([.output (failure.summary ++ "\n")], .value 1)
  | .error .interrupted => aborted
  | .error .inputEnded => aborted
  | .error (.damaged .packingEnded) => aborted
  | .error (.damaged damage) =>
    if damage.isOfSystem then ([.output (damage.message ++ "\n")], .value 1)
    else ([], .fault (.damaged damage))
  | .error fault =>
    if fault.isInput then
      let stop := Stop.misuse (.verb verb) (.input fault.message)
      ([.complaint stop.complaint], .exit stop.code)
    else ([], .fault fault)

def perform (around : Surroundings) (line : Line) (order : Order) (answers : List Answer)
    (session : Session) : Turn Nat :=
  let (configured, command) := (session.command order.verb).configure around.world
    (optionsOf around.objects line order session.force)
  let (told, left) := (do
    configured
    command.run around.world session.console : Dialogue Unit).run answers
  let (atEnd, ending) := endingOf order.verb told.result
  { session := session.keep command order.verb
    shown := session.shownAll around.stamp told.events ++ atEnd
    ending, answers := left }

def stopped {α : Type} (stop : Stop) (answers : List Answer) (session : Session) : Turn α :=
  { session
    shown := [.output (stop.output session.columns), .complaint stop.complaint]
    ending := .exit stop.code
    answers }

/-- Whether a line has the session agree by itself: by its flag, or because nobody can answer. -/
def forced (around : Surroundings) (line : Line) : Bool :=
  line.force || !around.interactive

def runLine (around : Surroundings) (line : Line) (answers : List Answer)
    (session : Session) : Turn Nat :=
  let level := Level.adjusted line.loudness
  let ready := { session with force := forced around line }.setVerbosity level
  let turn := match line.order with
    | none => ready.stopped (.misuse .program .noCommand) answers
    | some order => ready.perform around line order answers
  { turn with
    session := turn.session.resetLogging
    shown := ready.logEntry around (verbosityEntry level) ++ turn.shown }

def read (words : List String) (answers : List Answer) (session : Session) : Turn Line :=
  match Line.read words with
  | .ok line => { session, shown := [], ending := .value line, answers }
  | .error stop => session.stopped stop answers

def run (around : Surroundings) (words : List String) (answers : List Answer)
    (session : Session) : Turn Nat :=
  match Line.read words with
  | .ok line => session.runLine around line answers
  | .error stop => session.stopped stop answers

end Session

end OvfInspect
