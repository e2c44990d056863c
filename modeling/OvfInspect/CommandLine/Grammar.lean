import OvfInspect.Text.Quoted

/-!
# The grammar of command lines

Which flags and operands the program and its commands take, and how they are described. No flag has
an argument.
-/

namespace OvfInspect.CommandLine

inductive Wish where
  | help
  | version
  | force
  | quieter
  | louder
  | brief
  | full
  deriving DecidableEq, Repr

/-- Whether two wishes cannot be had together. -/
def Wish.excludes : Wish → Wish → Bool
  | quieter, louder => true
  | louder, quieter => true
  | brief, full => true
  | full, brief => true
  | _, _ => false

structure Flag where
  letter : Char
  word : String
  wish : Wish
  about : String
  deriving DecidableEq, Repr

namespace Flag

def short (flag : Flag) : String :=
  "-" ++ String.singleton flag.letter

def long (flag : Flag) : String :=
  "--" ++ flag.word

end Flag

/-- How many operands there are: one, or at least one. -/
inductive Arity where
  | one
  | many
  deriving DecidableEq, Repr

inductive Verb where
  | disks
  | info
  deriving DecidableEq, Repr

/-- What can be asked about: the program or one of its commands. -/
inductive Topic where
  | program
  | verb (verb : Verb)
  deriving DecidableEq, Repr

namespace Verb

def names : Verb → List String
  | disks => ["disks"]
  | info => ["info", "describe"]

def all : List Verb := [disks, info]

def allNames : List String :=
  all.flatMap names

def ofName? (name : String) : Option Verb :=
  all.find? fun verb => name ∈ verb.names

def arity : Verb → Arity
  | disks => .one
  | info => .many

def about : Verb → String
  | disks => "List the disk images of an OVF package"
  | info => "Generate a description of an OVF package"

def operandAbout : Verb → String
  | disks => "OVF descriptor, OVA file, or package URL"
  | info => "OVF descriptor(s) and/or OVA file(s) to describe"

end Verb

def operandName : String := "PACKAGE"

def commandName : String := "<command>"

def helpFlag : Flag := ⟨'h', "help", .help, "show this help message and exit"⟩

namespace Topic

def title : Topic → String
  | program => "ovfx"
  | verb .disks => "ovfx disks"
  | verb .info => "ovfx info"

def forms : Topic → List String
  | program =>
    ["ovfx --help", "ovfx --version", "ovfx <command> --help",
     "ovfx <options> <command> <command-options>"]
  | verb .disks => ["ovfx disks --help", "ovfx disks PACKAGE"]
  | verb .info => ["ovfx info --help", "ovfx info [-b | -v] PACKAGE [PACKAGE ...]"]

def flags : Topic → List Flag
  | program =>
    [helpFlag,
     ⟨'V', "version", .version, "show program's version number and exit"⟩,
     ⟨'f', "force", .force, "Answer 'yes' to any confirmation prompt"⟩,
     ⟨'q', "quiet", .quieter, "Log less (repeatable)"⟩,
     ⟨'v', "verbose", .louder, "Log more (repeatable)"⟩]
  | verb .disks => [helpFlag]
  | verb .info =>
    [helpFlag,
     ⟨'b', "brief", .brief, "Brief output (shorter)"⟩,
     ⟨'v', "verbose", .full, "Verbose output (longer)"⟩]

def flagOfLetter? (topic : Topic) (letter : Char) : Option Flag :=
  topic.flags.find? fun flag => flag.letter == letter

def flagOf? (topic : Topic) (text : String) : Option Flag :=
  topic.flags.find? fun flag => text == flag.short || text == flag.long

def usage (topic : Topic) : String :=
  "usage: " ++ String.join (topic.forms.map fun form => "\n  " ++ form)

end Topic

inductive Misuse where
  /-- The beginning of a word fits several flags. -/
  | ambiguous (given : String) (candidates : List Flag)
  | argument (flag : Flag) (given : String)
  /-- Two flags exclude each other. -/
  | conflict (flag other : Flag)
  | unknownCommand (given : String)
  | noOperand
  | unrecognized (given : List String)
  | noCommand
  /-- The command finds its input at fault. -/
  | input (message : String)
  deriving DecidableEq, Repr

def Flag.title (flag : Flag) : String :=
  flag.short ++ "/" ++ flag.long

def Misuse.message : Misuse → String
  | ambiguous given candidates =>
    "ambiguous option: " ++ given ++ " could match " ++
      ", ".intercalate (candidates.map Flag.long)
  | argument flag given =>
    "argument " ++ flag.title ++ ": ignored explicit argument " ++ Text.quoted given
  | conflict flag other =>
    "argument " ++ flag.title ++ ": not allowed with argument " ++ other.title
  | unknownCommand given =>
    "argument " ++ commandName ++ ": invalid choice: " ++ Text.quoted given ++
      " (choose from " ++ ", ".intercalate (Verb.allNames.map Text.quoted) ++ ")"
  | noOperand => "the following arguments are required: " ++ operandName
  | unrecognized given => "unrecognized arguments: " ++ " ".intercalate given
  | noCommand => "too few arguments"
  | input message => message

end OvfInspect.CommandLine
