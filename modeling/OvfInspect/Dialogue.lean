import OvfInspect.Fault
import OvfInspect.Narrated

/-!
# Dialogues

A dialogue is a narrated computation that may put questions to the user. The user's answers are a
list; a dialogue takes what it needs from the front and leaves the rest to those that follow, also
when it ends in a fault.
-/

namespace OvfInspect

inductive Answer where
  | typed (text : String)
  | interrupt
  deriving DecidableEq, Repr

/-- A computation that uses up answers. -/
structure Dialogue (α : Type) where
  run : List Answer → Narrated Fault α × List Answer

namespace Dialogue

variable {α β : Type}

def silent (x : Narrated Fault α) : Dialogue α :=
  ⟨fun answers => (x, answers)⟩

instance : MonadLift (Narrated Fault) Dialogue := ⟨silent⟩

def andThen (d : Dialogue α) (f : α → Dialogue β) : Dialogue β :=
  ⟨fun answers =>
    let (x, left) := d.run answers
    match x.result with
    | .ok a =>
      let (y, rest) := (f a).run left
      (⟨x.events ++ y.events, y.result⟩, rest)
    | .error e => (⟨x.events, .error e⟩, left)⟩

instance : Monad Dialogue where
  pure a := silent (.value a)
  bind := andThen

def attempt (d : Dialogue α) : Dialogue (Except Fault α) :=
  ⟨fun answers => ((d.run answers).1.attempt, (d.run answers).2)⟩

def orElse (d : Dialogue α) (handler : Fault → Dialogue α) : Dialogue α := do
  match ← d.attempt with
  | .ok a => pure a
  | .error fault => handler fault

end Dialogue

end OvfInspect
