import OvfInspect.Value

/-!
# Places in templates

A place in a message template says how one value is shown: as a text, as a number in one of several
forms, or as a character. It may ask for a width, which blanks or zeros fill, and for a precision.
-/

namespace OvfInspect.Log

inductive Misfit where
  /-- Values and places do not fit in number or kind. -/
  | mismatch
  /-- A number is beyond the range of what its place can show. -/
  | outOfRange
  /-- A number has too many digits to be written. -/
  | unwritable
  /-- The message would be larger than any memory. -/
  | tooLarge
  | incomplete
  /-- A width in digits is beyond all bounds. -/
  | wideWidth
  /-- A precision in digits is beyond all bounds. -/
  | widePrecision
  /-- The letter at an index of the template does not say how to show a value. -/
  | unknownLetter (letter : Char) (index : Nat)
  | shortRow
  /-- Values have names where they should stand in a row. -/
  | namedParts
  /-- A value is no part of an account of a failure. -/
  | foreignPart
  /-- A time is in a year beyond all calendars. -/
  | distantTime
  deriving DecidableEq, Repr

inductive Conversion where
  | plain
  | quoted
  | plainQuoted
  | whole
  | octal
  | hexadecimal (large : Bool)
  | fixed
  | scientific (large : Bool)
  | general (large : Bool)
  | character
  deriving DecidableEq, Repr

def Conversion.ofLetter? : Char → Option Conversion
  | 's' => some plain
  | 'r' => some quoted
  | 'a' => some plainQuoted
  | 'd' | 'i' | 'u' => some whole
  | 'o' => some octal
  | 'x' => some (hexadecimal false)
  | 'X' => some (hexadecimal true)
  | 'f' | 'F' => some fixed
  | 'e' => some (scientific false)
  | 'E' => some (scientific true)
  | 'g' => some (general false)
  | 'G' => some (general true)
  | 'c' => some character
  | _ => none

/-- What a place asks for beside its conversion. -/
structure Place where
  leftward : Bool := false
  /-- A number that is not negative has a plus. -/
  plus : Bool := false
  /-- A number that is not negative has a blank in place of the sign. -/
  blank : Bool := false
  /-- The base of a number is marked, and its point is kept. -/
  marked : Bool := false
  zeros : Bool := false
  width : Nat := 0
  precision : Option Nat := none
  deriving DecidableEq, Repr

/-- A number as it is written: a sign, a mark of its base, and digits. -/
structure Numeral where
  isNegative : Bool
  mark : List Char
  digits : List Char
  deriving DecidableEq, Repr

namespace Place

def fill (place : Place) (cs : List Char) : List Char :=
  let blanks := List.replicate (place.width - cs.length) ' '
  if place.leftward then cs ++ blanks else blanks ++ cs

def sign (place : Place) (isNegative : Bool) : List Char :=
  if isNegative then ['-']
  else if place.plus then ['+']
  else if place.blank then [' ']
  else []

def fillNumeral (place : Place) (numeral : Numeral) : List Char :=
  let head := place.sign numeral.isNegative ++ numeral.mark
  let zeros := if place.zeros && !place.leftward then
      List.replicate (place.width - (head.length + numeral.digits.length)) '0'
    else []
  place.fill (head ++ zeros ++ numeral.digits)

def fillText (place : Place) (s : String) : List Char :=
  place.fill (match place.precision with
    | none => s.toList
    | some count => s.toList.take count)

def withZeros (place : Place) (ds : List Char) : List Char :=
  List.replicate (place.precision.getD 0 - ds.length) '0' ++ ds

/-- A whole number to a base, with the mark of the base where marks are asked for. -/
def wholeNumeral (place : Place) (base : Nat) (mark : List Char) (n : Int) : Numeral :=
  ⟨n < 0, if place.marked then mark else [], place.withZeros (Nat.toDigits base n.natAbs)⟩

def usualPrecision : Nat := 6

def realNumeral (place : Place) (form : Bool → Nat → Rat → List Char) (large : Bool)
    (number : Number.Binary) : Numeral :=
  let ds := form place.marked (place.precision.getD usualPrecision) number.size
  ⟨number.isNegative, [], if large then ds.map Char.toUpper else ds⟩

end Place

def plainQuotedText (value : Value) : String :=
  String.join (value.quoted.toList.map fun c =>
    if c.toNat < 128 then String.singleton c else Text.codePointEscape c)

def wholePart? : Value → Option Int
  | .real b => some (if b.isNegative then -b.size.floor else b.size.floor)
  | value => value.whole?

def binaryOf (value : Value) : Except Misfit Number.Binary :=
  match value with
  | .real b => .ok b
  | value => match value.whole? with
    | none => .error .mismatch
    | some n => match Number.Binary.ofRat? n with
      | none => .error .outOfRange
      | some b => .ok b

def characterOf (value : Value) : Except Misfit Char :=
  match value with
  | .text s => match s.toList with
    | [c] => .ok c
    | _ => .error .mismatch
  | value => match value.whole? with
    | none => .error .mismatch
    | some n => if n < 0 ∨ 0x10FFFF < n then .error .outOfRange else .ok (Char.ofNat n.toNat)

def need {α : Type} (part : Option α) : Except Misfit α :=
  match part with
  | some a => .ok a
  | none => .error .mismatch

def legible (value : Value) : Except Misfit Value :=
  if value.writable then .ok value else .error .unwritable

def legibleNumber (n : Int) : Except Misfit Int :=
  if Number.writable n then .ok n else .error .unwritable

/-- The precision from which on a whole number is out of range. -/
def wholePrecisionLimit : Nat := 1 <<< 31 - 3

def Place.shownWhole (place : Place) (base : Nat) (mark : List Char) (large : Bool) (n : Int) :
    Except Misfit (List Char) :=
  if wholePrecisionLimit ≤ place.precision.getD 0 then .error .outOfRange
  else do
    let n ← if base = 10 then legibleNumber n else .ok n
    let numeral := place.wholeNumeral base mark n
    let raise := fun cs : List Char => if large then cs.map Char.toUpper else cs
    return place.fillNumeral
      { numeral with mark := raise numeral.mark, digits := raise numeral.digits }

def Place.shown (place : Place) (conversion : Conversion) (value : Value) :
    Except Misfit (List Char) :=
  match conversion with
  | .plain => do return place.fillText (← legible value).plain
  | .quoted => do return place.fillText (← legible value).quoted
  | .plainQuoted => do return place.fillText (plainQuotedText (← legible value))
  | .whole => do place.shownWhole 10 [] false (← need (wholePart? value))
  | .octal => do place.shownWhole 8 ['0', 'o'] false (← need value.whole?)
  | .hexadecimal large => do place.shownWhole 16 ['0', 'x'] large (← need value.whole?)
  | .fixed => do
    return place.fillNumeral (place.realNumeral Number.fixedPoint false (← binaryOf value))
  | .scientific large => do
    return place.fillNumeral (place.realNumeral Number.scientific large (← binaryOf value))
  | .general large => do
    return place.fillNumeral (place.realNumeral Number.general large (← binaryOf value))
  | .character => do return place.fill [← characterOf value]

end OvfInspect.Log
