import OvfInspect.Number.Decimal

/-!
# Sizes in bytes

A size is shown with four significant digits in the binary unit that leaves a number below 1024.
Fractions of a byte are rounded away.
-/

namespace OvfInspect.Size

open Number

inductive Refusal where
  /-- The given unit is smaller than the byte. -/
  | negativeUnit
  /-- The number is beyond the range of binary numbers. -/
  | outOfRange
  /-- The unit needed has no name. -/
  | unnamedUnit
  deriving DecidableEq, Repr

def units : List String :=
  ["B", "KiB", "MiB", "GiB", "TiB", "PiB", "EiB", "ZiB", "YiB"]

def risingSteps (q : Rat) : Nat :=
  if q < 1024 then 0 else Nat.log2 q.floor.toNat / 10

def descend : (unit : Nat) → Rat → Except Refusal (Nat × Rat)
  | 0, q => .ok (0, q)
  | unit + 1, q =>
    if q < 1 then
      if q * 1024 ≤ -binaryBound then .error .outOfRange else descend unit (q * 1024)
    else .ok (unit + 1, q)

/-- The size of `q` units, where unit 0 is the byte and each further one 1024 times as large. -/
def render (q : Rat) (unit : Int) : Except Refusal String :=
  if unit < 0 then .error .negativeUnit
  else match toBinary? q with
    | none => .error .outOfRange
    | some start => do
      let steps := risingSteps start
      let (shown, amount) ← descend (unit.toNat + steps) (start / (1024 : Rat) ^ steps)
      let amount : Rat := if shown = 0 then (roundHalfEven amount : Rat) else amount
      match units[shown]? with
      | none => .error .unnamedUnit
      | some name => .ok (significant 4 amount ++ " " ++ name)

end OvfInspect.Size
