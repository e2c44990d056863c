import OvfInspect.Text.Blank
import OvfInspect.Text.Digit

/-!
# Natural numbers in text

A natural number is written as one run of decimal digits of any script with blanks around it. No
sign, point or separator is accepted, and at most `maxDigits` digits are read or written.
-/

namespace OvfInspect.Number

open Text

/-- The most digits a number may have to be read from text or written as text. -/
def maxDigits : Nat := 4300

def excessMessage (count : Nat) : String :=
  "Exceeds the limit (" ++ toString maxDigits ++
    " digits) for integer string conversion: value has " ++ toString count ++
    " digits; use sys.set_int_max_str_digits() to increase the limit"

def unwritableMessage : String :=
  "Exceeds the limit (" ++ toString maxDigits ++
    " digits) for integer string conversion; use sys.set_int_max_str_digits() to increase " ++
    "the limit"

inductive Refusal where
  /-- The text is not a run of digits between blanks, or there is no text. -/
  | notNatural (given : Option String)
  /-- The digits stand between separators that only look like blanks. -/
  | strayCharacter (given : String)
  /-- There are more than `maxDigits` digits. -/
  | tooManyDigits (count : Nat)
  deriving DecidableEq, Repr

def paddedDigits? (cs : List Char) : Option (List Char) :=
  let ds := trimBy isBlank cs
  if ds ≠ [] ∧ ds.all isDigit then some ds else none

/-- Blanks that may surround a number: all but the four ASCII separators. -/
def isPadding (c : Char) : Bool :=
  isBlank c && !(28 ≤ c.toNat && c.toNat ≤ 31)

/-- Read a natural number. Of two faults a stray character before the digits is reported first,
then the number of digits, then a stray character after them. -/
def readNatural (s : String) : Except Refusal Nat :=
  match paddedDigits? s.toList with
  | none => .error (.notNatural (some s))
  | some ds =>
    if !((s.toList.dropWhile isPadding).head?.any isDigit) then .error (.strayCharacter s)
    else if maxDigits < ds.length then .error (.tooManyDigits ds.length)
    else if !((dropEndWhile isPadding s.toList).getLast?.any isDigit) then
      .error (.strayCharacter s)
    else .ok (digitsValue ds)

def writable (n : Int) : Bool :=
  n.natAbs < Nat.pow 10 maxDigits

end OvfInspect.Number
