import OvfInspect.Number.Binary

/-!
# Numbers in decimal digits

A number that is not negative is rounded to a count of digits, or to a count of places behind the
point; a half goes to the even neighbour. The digits are laid out positionally or with a power of
ten.
-/

namespace OvfInspect.Number

def digitCount (n : Nat) : Nat :=
  (Nat.toDigits 10 n).length

def decimalExponent (q : Rat) : Int :=
  if 1 ≤ q then (digitCount q.floor.toNat : Int) - 1
  else -(digitCount ((q.den - 1) / q.num.toNat) : Int)

def tenPower (exponent : Int) : Rat :=
  (10 : Rat) ^ exponent

/-- The first `count` digits of a number after rounding, and the exponent of the first. -/
def roundedDigits (count : Nat) (q : Rat) : List Char × Int :=
  if q = 0 then (List.replicate count '0', 0)
  else
    let exponent := decimalExponent q
    let scaled := roundHalfEvenNat (q * tenPower ((count : Int) - 1 - exponent))
    if scaled = Nat.pow 10 count then
      (Nat.toDigits 10 (Nat.pow 10 (count - 1)), exponent + 1)
    else (Nat.toDigits 10 scaled, exponent)

def dropZeros (ds : List Char) : List Char :=
  match ds with
  | [] => []
  | first :: rest => first :: (rest.reverse.dropWhile (· == '0')).reverse

/-- Digits before the point and those after it. A point that nothing follows is left out unless it
is to be kept. -/
def withPoint (keepPoint : Bool) (whole fraction : List Char) : List Char :=
  if fraction.isEmpty && !keepPoint then whole else whole ++ '.' :: fraction

def positional (keepPoint : Bool) (ds : List Char) (exponent : Int) : List Char :=
  if exponent < 0 then
    withPoint keepPoint ['0'] (List.replicate ((-exponent).toNat - 1) '0' ++ ds)
  else
    let places := exponent.toNat + 1
    withPoint keepPoint (ds.take places ++ List.replicate (places - ds.length) '0') (ds.drop places)

def exponentText (exponent : Int) : List Char :=
  let ds := Nat.toDigits 10 exponent.natAbs
  (if exponent < 0 then '-' else '+') :: List.replicate (2 - ds.length) '0' ++ ds

def withPower (keepPoint : Bool) (ds : List Char) (exponent : Int) : List Char :=
  withPoint keepPoint (ds.take 1) (ds.drop 1) ++ 'e' :: exponentText exponent

def fixedPoint (keepPoint : Bool) (places : Nat) (q : Rat) : List Char :=
  let ds := Nat.toDigits 10 (roundHalfEvenNat (q * tenPower places))
  let ds := List.replicate (places + 1 - ds.length) '0' ++ ds
  withPoint keepPoint (ds.take (ds.length - places)) (ds.drop (ds.length - places))

def scientific (keepPoint : Bool) (places : Nat) (q : Rat) : List Char :=
  let (ds, exponent) := roundedDigits (places + 1) q
  withPower keepPoint ds exponent

def smallestPositional : Int := -4

/-- A number to `count` significant digits: positionally while its whole part fits into those digits
and it is not too small, and with a power of ten otherwise. Zeros at the end are kept only together
with the point. -/
def general (keepZeros : Bool) (count : Nat) (q : Rat) : List Char :=
  let count := max count 1
  let (ds, exponent) := roundedDigits count q
  let ds := if keepZeros then ds else dropZeros ds
  if smallestPositional ≤ exponent ∧ exponent < count then positional keepZeros ds exponent
  else withPower keepZeros ds exponent

def significant (count : Nat) (q : Rat) : String :=
  String.ofList <|
    if q < 0 then '-' :: general false count (-q) else general false count q

end OvfInspect.Number
