import OvfInspect.CommandLine.Reading
import OvfInspect.Text.Column
import OvfInspect.Text.Wrap
import OvfInspect.Version

/-!
# Help

The help for a topic: its usage, a description, and the flags, operands and commands, each with what
it is about. What is said about an entry stands in a column of its own, beside the entry if that is
short enough and below it otherwise.
-/

namespace OvfInspect.CommandLine

open Text

structure HelpEntry where
  title : String
  about : Option String := none
  depth : Nat := 1
  deriving DecidableEq, Repr

structure HelpBlock where
  heading : String
  entries : List HelpEntry
  deriving DecidableEq, Repr

def stepColumns : Nat := 2

/-- The rightmost column at which the second column of the help begins. -/
def furthestColumn : Nat := 24

def aboutColumns : Nat := 20

/-- The columns that the second column of the help has in any case. -/
def leastAboutColumns : Nat := 11

def indented (columns : Nat) (text : String) : String :=
  String.ofList (List.replicate columns ' ') ++ text

/-- The column at which the texts about entries begin: right of the longest entry, unless the width
of the help is too small for that. -/
def aboutColumn (width : Nat) (blocks : List HelpBlock) : Nat :=
  let titles := blocks.flatMap fun block => block.entries.map fun entry => entry.title.length
  min (titles.foldl max 0 + 2 * stepColumns)
    (min furthestColumn (max (width - aboutColumns) (2 * stepColumns)))

def HelpEntry.lines (width column : Nat) (entry : HelpEntry) : List String :=
  let title := indented (entry.depth * stepColumns) entry.title
  match entry.about.map (wrap (max (width - column) leastAboutColumns)) with
  | none | some [] => [title]
  | some (first :: rest) =>
    if title.length + stepColumns ≤ column then
      (padRight column title ++ first) :: rest.map (indented column)
    else title :: (first :: rest).map (indented column)

def HelpBlock.lines (width column : Nat) (block : HelpBlock) : List String :=
  (block.heading ++ ":") :: block.entries.flatMap (HelpEntry.lines width column)

def purpose : String :=
  "A tool for inspecting Open Virtualization Format (.ovf, .ova) packages and resolving the " ++
    "CPU, memory and disk requirements of the virtual machine they describe."

def Topic.description (columns : Nat) : Topic → String
  | program => longVersion ++ "\n" ++ fill (columns - 1) purpose
  | verb .disks =>
    "Resolve each virtual disk of the given OVF or OVA to its disk image and\n" ++
      "print the image location and disk capacity in GB, in the order the\n" ++
      "virtual hardware attaches them."
  | verb .info => "Show a summary of the contents of the given OVF(s) and/or OVA(s)."

def Flag.entry (flag : Flag) : HelpEntry :=
  ⟨flag.short ++ ", " ++ flag.long, some flag.about, 1⟩

def Verb.entry (verb : Verb) : HelpEntry :=
  let title := match verb.names with
    | [] => ""
    | [name] => name
    | name :: others => name ++ " (" ++ ", ".intercalate others ++ ")"
  ⟨title, some verb.about, 2⟩

def Topic.blocks (topic : Topic) : List HelpBlock :=
  let flags : HelpBlock := ⟨"options", topic.flags.map Flag.entry⟩
  match topic with
  | program => [flags, ⟨"commands", ⟨commandName, none, 1⟩ :: Verb.all.map Verb.entry⟩]
  | verb v => [⟨"positional arguments", [⟨operandName, some v.operandAbout, 1⟩]⟩, flags]

/-- The help for a topic. Its entries leave the last two columns of the terminal free. -/
def Topic.help (columns : Nat) (topic : Topic) : String :=
  let width := columns - 2
  let column := aboutColumn width topic.blocks
  "\n\n".intercalate ([topic.usage, topic.description columns] ++
    topic.blocks.map fun block => "\n".intercalate (block.lines width column)) ++ "\n"

namespace Stop

def output (columns : Nat) : Stop → String
  | help topic => topic.help columns
  | version => longVersion ++ "\n"
  | misuse _ _ => ""

def complaint : Stop → String
  | misuse topic problem =>
    topic.usage ++ "\n" ++ topic.title ++ ": error: " ++ problem.message ++ "\n"
  | _ => ""

end Stop

end OvfInspect.CommandLine
