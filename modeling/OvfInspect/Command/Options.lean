import OvfInspect.Package.Summary
import OvfInspect.Text.Identifier
import OvfInspect.Value

/-!
# Options

The options that a command is configured with: names and values, in the order in which they were
given. A command takes its own from among them and ignores the others.
-/

namespace OvfInspect

abbrev Options := List (String × Value)

namespace Options

/-- All options as a message shows them. Those whose names are no identifiers are gathered behind
the others. -/
def shown (options : Options) : String :=
  let (plain, others) := options.partition fun option => Text.isIdentifier option.1
  let gathered := if others.isEmpty then [] else ["**" ++ (Value.record others).quoted]
  let texts := (plain.map fun option => option.1 ++ "=" ++ option.2.quoted) ++ gathered
  "Namespace(" ++ ", ".intercalate texts ++ ")"

def value (options : Options) (name : String) : Except Fault Value :=
  match options.lookup name with
  | some value => .ok value
  | none => .error (.missingOption name)

end Options

def Detail.ofValue (value : Value) : Except Fault Detail :=
  let chosen := match value with
    | .absent => Detail.ofWord? none
    | .text word => Detail.ofWord? (some word)
    | _ => none
  match chosen with
  | some detail => .ok detail
  | none => .error (.input .badVerbosity)

end OvfInspect
