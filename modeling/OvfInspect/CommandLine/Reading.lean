import OvfInspect.CommandLine.Words

/-!
# Reading command lines

The words before the command belong to the program, those after it to the command. A wish for help
or the version ends the reading, as does the first misuse. Words that are not understood are
reported last.
-/

namespace OvfInspect.CommandLine

inductive Stop where
  | help (topic : Topic)
  | version
  | misuse (topic : Topic) (problem : Misuse)
  deriving DecidableEq, Repr

def Stop.code : Stop → Nat
  | misuse _ _ => 2
  | _ => 0

/-- Add flags one by one to those that were given before. -/
def give (topic : Topic) (before : List Flag) : List Flag → Except Stop (List Flag)
  | [] => .ok before
  | flag :: rest =>
    match before.find? fun other => other.wish.excludes flag.wish with
    | some other => .error (.misuse topic (.conflict flag other))
    | none => match flag.wish with
      | .help => .error (.help topic)
      | .version => .error .version
      | _ => give topic (before ++ [flag]) rest

/-! ### The words of a command -/

/-- How far the operands have been read. -/
inductive Operands where
  | none
  /-- More may follow at once. -/
  | begun (given : List String)
  /-- No more are taken. -/
  | complete (given : List String)
  deriving DecidableEq, Repr

structure Progress where
  flags : List Flag := []
  operands : Operands := .none
  strangers : List String := []
  deriving DecidableEq, Repr

namespace Progress

def interrupted (progress : Progress) : Progress :=
  match progress.operands with
  | .begun given => { progress with operands := .complete given }
  | _ => progress

def reject (progress : Progress) (text : String) : Progress :=
  { progress with strangers := progress.strangers ++ [text] }

def operand (arity : Arity) (progress : Progress) (text : String) : Progress :=
  match progress.operands, arity with
  | .none, _ => { progress with operands := .begun [text] }
  | .begun given, .many => { progress with operands := .begun (given ++ [text]) }
  | .begun given, .one => { progress with operands := .complete given }.reject text
  | .complete _, _ => progress.reject text

def divider (progress : Progress) : Progress :=
  match progress.operands with
  | .complete _ => progress.reject dividerText
  | _ => progress

def step (verb : Verb) (progress : Progress) : Word → Except Stop Progress
  | .operand text => .ok (progress.operand verb.arity text)
  | .divider => .ok progress.divider
  | .flags given => do
    return { progress.interrupted with flags := ← give (.verb verb) progress.flags given }
  | .refused misuse => .error (.misuse (.verb verb) misuse)
  | .stranger text => .ok (progress.interrupted.reject text)

end Progress

structure Order where
  verb : Verb
  flags : List Flag
  operands : List String
  deriving DecidableEq, Repr

/-- Read the words of a command. What is not understood is handed back. -/
def readOrder (verb : Verb) (words : List String) : Except Stop (Order × List String) := do
  let classified ← (classifyAll (.verb verb) words).mapError (Stop.misuse (.verb verb))
  let progress ← classified.foldlM (Progress.step verb) {}
  match progress.operands with
  | .none => .error (.misuse (.verb verb) .noOperand)
  | .begun given => return (⟨verb, progress.flags, given⟩, progress.strangers)
  | .complete given => return (⟨verb, progress.flags, given⟩, progress.strangers)

/-! ### The words of the program -/

structure Line where
  flags : List Flag
  order : Option Order
  deriving DecidableEq, Repr

/-- Read the words of a command line from the left, each as it was given and as what it is. -/
def readWords (flags : List Flag) (strangers : List String) :
    List (String × Word) → Except Stop (Line × List String)
  | [] => .ok (⟨flags, none⟩, strangers)
  | (text, word) :: rest =>
    let command := fun (name : String) =>
      match Verb.ofName? name with
      | none => .error (.misuse .program (.unknownCommand name))
      | some verb => do
        let (order, more) ← readOrder verb (rest.map Prod.fst)
        return (⟨flags, some order⟩, strangers ++ more)
    match word with
    | .operand name => command name
    | .divider =>
      if rest.isEmpty then .ok (⟨flags, none⟩, strangers ++ [text]) else command text
    | .flags given => do readWords (← give .program flags given) strangers rest
    | .refused misuse => .error (.misuse .program misuse)
    | .stranger text => readWords flags (strangers ++ [text]) rest

def Line.read (words : List String) : Except Stop Line := do
  let classified ← (classifyAll .program words).mapError (Stop.misuse .program)
  let (line, strangers) ← readWords [] [] (words.zip classified)
  if strangers.isEmpty then return line
  else .error (.misuse .program (.unrecognized strangers))

namespace Line

def force (line : Line) : Bool :=
  line.flags.any fun flag => flag.wish == .force

def count (wish : Wish) (line : Line) : Nat :=
  line.flags.countP fun flag => flag.wish == wish

/-- How much more the user wishes to see in the log; a negative number is for less. -/
def loudness (line : Line) : Int :=
  (line.count .louder : Int) - line.count .quieter

end Line

end OvfInspect.CommandLine
