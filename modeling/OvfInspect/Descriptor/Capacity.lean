import OvfInspect.Fault
import OvfInspect.Narrated

/-!
# Capacities and quantities

An amount is a natural number of allocation units, which are named by a product such as
`byte * 2^30`. Capacities are given in whole gibibytes, quantities in whole mebibytes. A capacity
that is not zero is never rounded down to zero.
-/

namespace OvfInspect

open Text

inductive AllocationUnit where
  | mebibyte
  | gibibyte
  | tebibyte
  deriving DecidableEq, Repr

namespace AllocationUnit

def exponent : AllocationUnit → Nat
  | mebibyte => 20
  | gibibyte => 30
  | tebibyte => 40

def all : List AllocationUnit := [mebibyte, gibibyte, tebibyte]

def ofExponent? (n : Nat) : Option AllocationUnit :=
  all.find? fun unit => unit.exponent == n

def afterSigns? (signs cs : List Char) : Option (List Char) :=
  let cs := cs.dropWhile isBlank
  if (cs.take signs.length).map Char.toLower = signs then some (cs.drop signs.length) else none

def exponentDigits? (cs : List Char) : Option (List Char) := do
  let rest ← afterSigns? ['b', 'y', 't', 'e'] cs
  let rest ← afterSigns? ['*'] rest
  let rest ← afterSigns? ['2'] rest
  let rest ← afterSigns? ['^'] rest
  let rest := rest.dropWhile isBlank
  let digits := rest.takeWhile isDigit
  if digits ≠ [] ∧ (rest.dropWhile isDigit).all isBlank then some digits else none

/-- Read a unit. An exponent with too many digits is a fault of its own. -/
def read (text : Option String) : Except Fault AllocationUnit :=
  let refused := Fault.unsupported (.allocationUnits text)
  match exponentDigits? ((text.getD "").toList) with
  | none => .error refused
  | some digits =>
    if Number.maxDigits < digits.length then .error (.number (.tooManyDigits digits.length))
    else match ofExponent? (digitsValue digits) with
      | some unit => .ok unit
      | none => .error refused

end AllocationUnit

inductive Amount where
  | absent
  | text (s : String)
  | number (n : Int)
  deriving DecidableEq, Repr

namespace Amount

def ofText : Option String → Amount
  | none => absent
  | some s => text s

def given : Amount → Option String
  | absent => none
  | text s => some s
  | number n => some (toString n)

/-- The natural number of an amount. A number is written to be looked at. -/
def natural : Amount → Except Fault Nat
  | absent => .error (.number (.notNatural none))
  | text s => (Number.readNatural s).mapError .number
  | number n =>
    if !Number.writable n then .error .unwritable
    else if n < 0 then .error (.number (.notNatural (some (toString n))))
    else .ok n.toNat

theorem natural_number {n : Int} (writable : Number.writable n = true) (nonneg : 0 ≤ n) :
    (number n).natural = .ok n.toNat := by
  rw [natural, writable, Bool.not_true, if_neg Bool.false_ne_true, if_neg (Int.not_lt.2 nonneg)]

/-- The natural number of a capacity or quantity. The fault shows the amount, unless it cannot be
written. -/
def counted (amount : Amount) : Except Fault Nat :=
  match amount.natural with
  | .ok n => .ok n
  | .error .unwritable => .error .unwritable
  | .error _ => .error (.unsupported (.capacity amount.given))

end Amount

/-- The number times two to the power of `shift`, rounded down, but not to zero. -/
def scaled (n : Nat) (shift : Int) : Narrated Fault Nat :=
  if 0 ≤ shift then pure (n <<< shift.toNat)
  else
    let whole := n >>> (-shift).toNat
    if whole = 0 ∧ 0 < n then do
      .log (.verbose s!"Rounding {n} * 2^{shift} up to 1")
      pure 1
    else pure whole

def Amount.inUnitsOf (base : Nat) (amount : Amount) (units : Option String) :
    Narrated Fault Nat := do
  let n ← .ofExcept amount.counted
  let unit ← .ofExcept (AllocationUnit.read units)
  scaled n ((unit.exponent : Int) - base)

def capacityInGb (capacity : Amount) (units : Option String) : Narrated Fault Nat :=
  capacity.inUnitsOf 30 units

def quantityInMb (quantity : Amount) (units : Option String) : Narrated Fault Nat :=
  quantity.inUnitsOf 20 units

end OvfInspect
