import OvfInspect.Number.Natural

/-!
# Integers in text

An integer may have a sign, blanks around it, and single low lines between its digits. Octal numbers
may have a mark of their base before the digits.
-/

namespace OvfInspect.Number

open Text

def groups : List Char → List (List Char)
  | [] => [[]]
  | '_' :: rest => [] :: groups rest
  | c :: rest => match groups rest with
    | [] => [[c]]
    | first :: others => (c :: first) :: others

/-- The digits of a number, without the low lines between groups of them. -/
def groupedDigits? (isDigit : Char → Bool) (cs : List Char) : Option (List Char) :=
  let parts := groups cs
  if parts.all fun part => !part.isEmpty && part.all isDigit then some parts.flatten else none

def signed : List Char → Bool × List Char
  | '-' :: rest => (true, rest)
  | '+' :: rest => (false, rest)
  | cs => (false, cs)

def withSign (isNegative : Bool) (value : Nat) : Int :=
  if isNegative then -(value : Int) else value

def isOctalDigit (c : Char) : Bool :=
  '0' ≤ c && c ≤ '7'

def withoutOctalMark : List Char → List Char
  | '0' :: 'o' :: '_' :: rest => rest
  | '0' :: 'O' :: '_' :: rest => rest
  | '0' :: 'o' :: rest => rest
  | '0' :: 'O' :: rest => rest
  | cs => cs

/-- The octal number in a text with blanks around it. No text at all stands for zero. -/
def octal? (cs : List Char) : Option Int :=
  match trimBy isBlank cs with
  | [] => some 0
  | cs =>
    let (isNegative, rest) := signed (trimBy isPadding cs)
    (groupedDigits? isOctalDigit (withoutOctalMark rest)).map fun ds =>
      withSign isNegative (Nat.ofDigitChars 8 ds 0)

inductive IntegerRefusal where
  | notInteger
  /-- There are more than `maxDigits` digits. -/
  | tooManyDigits (count : Nat)
  deriving DecidableEq, Repr

def readInteger (cs : List Char) : Except IntegerRefusal Int :=
  let (isNegative, rest) := signed (trimBy isPadding cs)
  match groupedDigits? isDigit rest with
  | none => .error .notInteger
  | some ds =>
    if maxDigits < ds.length then .error (.tooManyDigits ds.length)
    else .ok (withSign isNegative (digitsValue ds))

end OvfInspect.Number
