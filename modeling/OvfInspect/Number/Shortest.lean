import OvfInspect.Number.Decimal

/-!
# Shortest digits

The text of a binary number is the decimal number of the fewest digits that reads back as it, and of
several the one that is nearest.
-/

namespace OvfInspect.Number

structure Binary where
  isNegative : Bool
  size : Rat
  deriving DecidableEq, Repr, Inhabited

def Binary.value (b : Binary) : Rat :=
  if b.isNegative then -b.size else b.size

def Binary.ofRat? (q : Rat) : Option Binary :=
  (toBinary? q).map fun nearest =>
    ⟨nearest < 0, if nearest < 0 then -nearest else nearest⟩

/-- A candidate of `count` digits for the text of a binary number, given as a natural number of
units, if it reads back. -/
def readsBack (q unit : Rat) (candidate : Nat) : Bool :=
  toBinary? (candidate * unit) == some q

def nearer (q unit : Rat) (below above : Nat) : Nat :=
  let distance := q / unit - below
  if distance < 1 / 2 then below
  else if 1 / 2 < distance then above
  else if below % 2 = 0 then below else above

def shortCandidate? (count : Nat) (q : Rat) : Option (Nat × Rat) :=
  let unit := tenPower (decimalExponent q + 1 - count)
  let below := (q / unit).floor.toNat
  let above := below + 1
  match readsBack q unit below, readsBack q unit above with
  | true, true => some (nearer q unit below above, unit)
  | true, false => some (below, unit)
  | false, true => some (above, unit)
  | false, false => none

def mostDigits : Nat := 17

def shortestDigits (q : Rat) : List Char × Int :=
  if q = 0 then (['0'], 0)
  else
    let counts := (List.range mostDigits).map (· + 1)
    match counts.findSome? fun count => shortCandidate? count q with
    | some (candidate, unit) =>
      (dropZeros (Nat.toDigits 10 candidate), decimalExponent (candidate * unit))
    | none => roundedDigits mostDigits q

/-- The exponent from which on numbers are written with a power of ten. -/
def largestPositional : Int := 16

/-- The text of a binary number. A whole number has one zero behind the point while it is written
positionally. -/
def Binary.text (b : Binary) : String :=
  let (ds, exponent) := shortestDigits b.size
  let shown :=
    if smallestPositional ≤ exponent ∧ exponent < largestPositional then
      if (ds.length : Int) ≤ exponent + 1 then positional true ds exponent ++ ['0']
      else positional true ds exponent
    else withPower false ds exponent
  String.ofList (if b.isNegative then '-' :: shown else shown)

end OvfInspect.Number
