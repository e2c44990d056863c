import OvfInspect.Log.Entry

/-!
# Computations that tell what they do

A narrated computation has a result, which is a value or a fault, and the events on the way to it
in the order in which they happened. A fault ends a computation but not its story: the events
before it are kept.
-/

namespace OvfInspect

structure Request where
  method : String
  url : String
  timeout : Option Rat
  deriving DecidableEq, Repr

inductive Call where
  /-- Look for an object, by name or extension; a missing name is none. -/
  | find (base : String) (wanted : Option String)
  | read (path : String)
  | join (base name : String)
  deriving DecidableEq, Repr

/-- What an observer sees of a computation. -/
inductive Event where
  | logged (entry : Log.Entry)
  | requested (request : Request)
  | called (call : Call)
  | printed (line : String)
  | prompted (question : String)
  deriving DecidableEq, Repr

/-- The events of a computation, and its value or its fault. -/
structure Narrated (ε α : Type) where
  events : List Event
  result : Except ε α

namespace Narrated

variable {ε ε' α β : Type}

def value (a : α) : Narrated ε α := ⟨[], .ok a⟩

def fail (e : ε) : Narrated ε α := ⟨[], .error e⟩

def tell (event : Event) : Narrated ε Unit := ⟨[event], .ok ()⟩

def log (entry : Log.Entry) : Narrated ε Unit := tell (.logged entry)

def ofExcept (result : Except ε α) : Narrated ε α := ⟨[], result⟩

def andThen (x : Narrated ε α) (f : α → Narrated ε β) : Narrated ε β :=
  match x.result with
  | .ok a => ⟨x.events ++ (f a).events, (f a).result⟩
  | .error e => ⟨x.events, .error e⟩

instance : Monad (Narrated ε) where
  pure := value
  bind := andThen

def mapFault (f : ε → ε') (x : Narrated ε α) : Narrated ε' α :=
  ⟨x.events, x.result.mapError f⟩

/-- The same computation, with its outcome as a value. -/
def attempt (x : Narrated ε α) : Narrated ε' (Except ε α) :=
  ⟨x.events, .ok x.result⟩

/-- Go on after a fault with the computation that it selects. -/
def orElse (x : Narrated ε α) (handler : ε → Narrated ε' α) : Narrated ε' α :=
  match x.result with
  | .ok a => ⟨x.events, .ok a⟩
  | .error e => ⟨x.events ++ (handler e).events, (handler e).result⟩

/-- Whether an event is a message from the level on that cannot be written. -/
def isIllegible (level : Log.Level) : Event → Bool
  | .logged entry => decide (level ≤ entry.level) && !entry.isLegible
  | _ => false

/-- The computation as an observer lets it go on who writes down all messages from a level on: it
ends before the first message that cannot be written. -/
def watched (level : Log.Level) (illegible : ε) (x : Narrated ε α) : Narrated ε α :=
  if x.events.any (isIllegible level) then
    ⟨x.events.takeWhile fun event => !isIllegible level event, .error illegible⟩
  else x

/-! ### What the operations do to events and result -/

@[simp] theorem events_pure (a : α) : (pure a : Narrated ε α).events = [] := rfl

@[simp] theorem result_pure (a : α) : (pure a : Narrated ε α).result = .ok a := rfl

theorem bind_of_ok {x : Narrated ε α} {a : α} (h : x.result = .ok a) (f : α → Narrated ε β) :
    (x >>= f) = ⟨x.events ++ (f a).events, (f a).result⟩ := by
  simp [bind, andThen, h]

theorem bind_of_error {x : Narrated ε α} {e : ε} (h : x.result = .error e)
    (f : α → Narrated ε β) : (x >>= f) = ⟨x.events, .error e⟩ := by
  simp [bind, andThen, h]

@[simp] theorem result_bind (x : Narrated ε α) (f : α → Narrated ε β) :
    (x >>= f).result = x.result.bind fun a => (f a).result := by
  cases h : x.result with
  | ok a => simp [bind_of_ok h, Except.bind]
  | error e => simp [bind_of_error h, Except.bind]

@[simp] theorem result_mapFault (f : ε → ε') (x : Narrated ε α) :
    (x.mapFault f).result = x.result.mapError f := rfl

@[simp] theorem events_mapFault (f : ε → ε') (x : Narrated ε α) :
    (x.mapFault f).events = x.events := rfl

theorem andThen_assoc {γ : Type} (x : Narrated ε α) (f : α → Narrated ε β)
    (g : β → Narrated ε γ) : (x.andThen f).andThen g = x.andThen fun a => (f a).andThen g := by
  rcases x with ⟨events, a | a⟩
  · rfl
  · rcases h : f a with ⟨more, b | b⟩ <;> simp [andThen, h]

instance : LawfulMonad (Narrated ε) :=
  LawfulMonad.mk' (Narrated ε)
    (fun x => by rcases x with ⟨events, a | a⟩ <;> simp [Functor.map, andThen, value])
    (fun a f => by simp [bind, andThen, pure, value])
    (fun x f g => andThen_assoc x f g)

def entries (events : List Event) : List Log.Entry :=
  events.filterMap fun event => match event with
    | .logged entry => some entry
    | _ => none

def requests (events : List Event) : List Request :=
  events.filterMap fun event => match event with
    | .requested request => some request
    | _ => none

def calls (events : List Event) : List Call :=
  events.filterMap fun event => match event with
    | .called call => some call
    | _ => none

def printed (events : List Event) : List String :=
  events.filterMap fun event => match event with
    | .printed line => some line
    | _ => none

end Narrated

end OvfInspect
