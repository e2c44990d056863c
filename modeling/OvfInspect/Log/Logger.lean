import OvfInspect.Log.Layout

/-!
# The logger

The logger passes on what is urgent enough, and every handler attached to it shows what is urgent
enough for that handler. Handlers belong to owners, each of which has at most one.
-/

namespace OvfInspect.Log

/-- What shows log entries on behalf of an owner: entries from the threshold on, laid out for the
verbosity. -/
structure Handler where
  owner : Nat
  threshold : Level
  verbosity : Level
  deriving DecidableEq, Repr

structure Logger where
  level : Level := ⟨0⟩
  handlers : List Handler := []
  deriving DecidableEq, Repr

namespace Logger

/-- The level from which entries are passed on. A logger whose level was never set passes on
warnings. -/
def effective (logger : Logger) : Level :=
  if logger.level = ⟨0⟩ then .warning else logger.level

def lines (logger : Logger) (stamp : Stamp) (entry : Entry) : List String :=
  if logger.effective ≤ entry.level then
    (logger.handlers.filter fun handler => handler.threshold ≤ entry.level).map fun handler =>
      (entry.record stamp).render handler.verbosity
  else []

def attach (logger : Logger) (handler : Handler) : Logger :=
  { logger with handlers := logger.handlers ++ [handler] }

def exchange (logger : Logger) (handler : Handler) : Logger :=
  { logger with handlers := logger.handlers.map fun other =>
      if other.owner = handler.owner then handler else other }

def detach (logger : Logger) (owner : Nat) : Logger :=
  { logger with handlers := logger.handlers.filter fun handler => handler.owner ≠ owner }

end Logger

end OvfInspect.Log
