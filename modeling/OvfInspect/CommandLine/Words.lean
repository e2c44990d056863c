import OvfInspect.CommandLine.Grammar
import OvfInspect.Text.Digit

/-!
# The words of a command line

What each word of a command line is, given the flags of a topic: an operand, flags, or a word that
only looks like flags. Flags can be given by their letters, several in one word, or by the beginning
of a word that fits no other. After two dashes all words are operands.
-/

namespace OvfInspect.CommandLine

inductive Word where
  | operand (text : String)
  | divider
  | flags (given : List Flag)
  /-- Flags of which one is given an argument. -/
  | refused (misuse : Misuse)
  /-- A word like a flag that is none of the topic. -/
  | stranger (text : String)
  deriving DecidableEq, Repr

def dividerText : String := "--"

/-- A word after two dashes, or the two dashes themselves, as it was given. -/
def Word.text? : Word → Option String
  | operand text => some text
  | divider => some dividerText
  | _ => none

def splitArgument? (cs : List Char) : Option (String × String) :=
  match cs.dropWhile (· ≠ '=') with
  | [] => none
  | _ :: argument => some (String.ofList (cs.takeWhile (· ≠ '=')), String.ofList argument)

/-- Whether the digits may stand in a number: some of them, with at most one point before the
last. -/
def isNumeral (cs : List Char) : Bool :=
  let whole := cs.takeWhile Text.isDigit
  match cs.dropWhile Text.isDigit with
  | [] => !whole.isEmpty
  | '.' :: fraction => !fraction.isEmpty && fraction.all Text.isDigit
  | _ => false

def looksNegative (cs : List Char) : Bool :=
  match cs with
  | '-' :: rest => isNumeral (if rest.getLast? = some '\n' then rest.dropLast else rest)
  | _ => false

/-- A flag and those whose letters follow its own in a word. Letters that are no flag are an argument
of the flag before them. -/
def letters (topic : Topic) (flag : Flag) : List Char → Except Misuse (List Flag)
  | [] => .ok [flag]
  | c :: rest =>
    match topic.flagOfLetter? c with
    | some next => (letters topic next rest).map (flag :: ·)
    | none => .error (.argument flag (String.ofList (c :: rest)))

def Word.ofLetters (topic : Topic) (flag : Flag) (following : List Char) : Word :=
  match letters topic flag following with
  | .ok given => flags given
  | .error misuse => refused misuse

/-- The word of a flag with an argument behind an equals sign. The argument of a letter is taken for
further letters. -/
def Word.ofArgument (topic : Topic) (flag : Flag) (start argument : String) : Word :=
  if start.startsWith dividerText || argument = "" then refused (.argument flag argument)
  else ofLetters topic flag argument.toList

def beginning (topic : Topic) (start : String) : List Flag :=
  topic.flags.filter fun flag => flag.long.startsWith start

def leftover (text : String) : Word :=
  if looksNegative text.toList || text.contains ' ' then .operand text else .stranger text

/-- A word of two dashes and the beginning of a flag's word. -/
def abbreviation (topic : Topic) (text : String) : Except Misuse Word :=
  let (start, argument?) := match splitArgument? text.toList with
    | some (start, argument) => (start, some argument)
    | none => (text, none)
  match beginning topic start with
  | [] => .ok (leftover text)
  | [flag] => .ok (match argument? with
    | some argument => .refused (.argument flag argument)
    | none => .flags [flag])
  | several => .error (.ambiguous text several)

/-- What a word is that begins with a dash and is no flag in full. -/
def partial? (topic : Topic) (text : String) : Except Misuse Word :=
  match text.toList with
  | '-' :: '-' :: _ => abbreviation topic text
  | '-' :: letter :: rest =>
    match topic.flagOfLetter? letter with
    | some flag => .ok (Word.ofLetters topic flag rest)
    | none => .ok (leftover text)
  | _ => .ok (.operand text)

def classify (topic : Topic) (text : String) : Except Misuse Word :=
  if !text.startsWith "-" then .ok (.operand text)
  else match topic.flagOf? text with
    | some flag => .ok (.flags [flag])
    | none => match splitArgument? text.toList with
      | some (start, argument) =>
        match topic.flagOf? start with
        | some flag => .ok (Word.ofArgument topic flag start argument)
        | none => partial? topic text
      | none => partial? topic text

def classifyAll (topic : Topic) : List String → Except Misuse (List Word)
  | [] => .ok []
  | text :: rest =>
    if text = dividerText then .ok (.divider :: rest.map Word.operand)
    else do
      let word ← classify topic text
      return word :: (← classifyAll topic rest)

end OvfInspect.CommandLine
