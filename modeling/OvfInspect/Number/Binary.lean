/-!
# Numbers of 53 binary digits

Sizes are computed with numbers of 53 binary digits, the common floating-point format of 64 bits.
A quantity is first replaced by the nearest such number; all later steps scale by powers of two
and are exact.
-/

namespace OvfInspect.Number

def roundHalfEvenNat (q : Rat) : Nat :=
  let whole := q.num.toNat / q.den
  let rest := q.num.toNat % q.den
  if 2 * rest < q.den then whole
  else if q.den < 2 * rest then whole + 1
  else whole + whole % 2

def roundHalfEven (q : Rat) : Int :=
  if q < 0 then -(roundHalfEvenNat (-q)) else roundHalfEvenNat q

/-- The exponent of the largest power of two that is not above a positive fraction. -/
def binaryExponent (q : Rat) : Int :=
  let guess : Int := (Nat.log2 q.num.toNat : Int) - (Nat.log2 q.den : Int)
  if (2 : Rat) ^ guess ≤ q then guess else guess - 1

def binaryBound : Rat := (2 : Rat) ^ (1024 : Nat)

/-- The nearest number of 53 binary digits that is a multiple of `2 ^ -1074`, or none if it would
reach the bound. -/
def toBinary? (q : Rat) : Option Rat :=
  if q = 0 then some 0
  else
    let size := if q < 0 then -q else q
    let unit : Rat := (2 : Rat) ^ max (binaryExponent size - 52) (-1074)
    let nearest : Rat := (roundHalfEvenNat (size / unit) : Rat) * unit
    if binaryBound ≤ nearest then none
    else some (if q < 0 then -nearest else nearest)

end OvfInspect.Number
