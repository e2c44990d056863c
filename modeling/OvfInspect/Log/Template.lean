import OvfInspect.Log.Place

/-!
# Message templates

A template is a text with places for values. Each place takes the next value, and a star in a place
takes one more for a width or a precision. All values have to be used.
-/

namespace OvfInspect.Log

namespace Misfit

def shownLetter (letter : Char) : Char :=
  if 31 ≤ letter.toNat ∧ letter.toNat ≤ 126 then letter else '?'

def message : Misfit → String
  | mismatch => "values and places do not fit"
  | outOfRange => "number out of range"
  | unwritable => "number has too many digits"
  | tooLarge => ""
  | incomplete => "incomplete format"
  | shortRow => "row of values too short"
  | namedParts => "values have names"
  | foreignPart => "no part of an account of a failure"
  | distantTime => "Value too large for defined data type"
  | wideWidth => "width too big"
  | widePrecision => "precision too big"
  | unknownLetter letter index =>
    "unsupported format character '" ++ String.singleton (shownLetter letter) ++ "' (0x" ++
      Text.hexDigits 1 letter.toNat ++ ") at index " ++ toString index

end Misfit

/-- What is still to be read: the rest of a template and the values that are left. -/
structure Unread where
  rest : List Char
  values : List Value

namespace Unread

def nextValue (unread : Unread) : Except Misfit (Value × Unread) :=
  match unread.values with
  | [] => .error .mismatch
  | value :: others => .ok (value, { unread with values := others })

def size (limit : Nat) (beyond : Misfit) (unread : Unread) :
    Except Misfit (Option Int × Unread) :=
  match unread.rest with
  | '*' :: rest => do
    let (value, unread) ← { unread with rest }.nextValue
    let n ← need value.whole?
    if n < -(limit : Int) - 1 ∨ (limit : Int) < n then .error .outOfRange
    else .ok (some n, unread)
  | cs =>
    let ds := cs.takeWhile Char.isDigit
    if ds.isEmpty then .ok (none, unread)
    else
      let n := Nat.ofDigitChars 10 ds 0
      if limit < n then .error beyond
      else .ok (some n, { unread with rest := cs.drop ds.length })

end Unread

def widthLimit : Nat := 1 <<< 63 - 1

def precisionLimit : Nat := 1 <<< 31 - 1

def memoryLimit : Nat := 1 <<< 32

def Place.wish (place : Place) : Char → Place
  | '-' => { place with leftward := true }
  | '+' => { place with plus := true }
  | ' ' => { place with blank := true }
  | '#' => { place with marked := true }
  | '0' => { place with zeros := true }
  | _ => place

def isWish (c : Char) : Bool :=
  c ∈ ['-', '+', ' ', '#', '0']

/-- The place with a width; below zero it asks for the blanks behind the value as well. -/
def Place.widened (place : Place) : Option Int → Place
  | none => place
  | some n => { place with width := n.natAbs, leftward := place.leftward || decide (n < 0) }

def Unread.precision (unread : Unread) : Except Misfit (Option Nat × Unread) :=
  match unread.rest with
  | '.' :: rest => do
    let (n, unread) ← { unread with rest }.size precisionLimit .widePrecision
    return (some (n.getD 0).toNat, unread)
  | _ => .ok (none, unread)

def isVoid (c : Char) : Bool :=
  c ∈ ['h', 'l', 'L']

def Unread.place (unread : Unread) : Except Misfit (Place × Char × Unread) := do
  if unread.rest.head? = some '(' then .error .mismatch
  else
    let wishes := unread.rest.takeWhile isWish
    let unread := { unread with rest := unread.rest.drop wishes.length }
    let (width, unread) ← unread.size widthLimit .wideWidth
    let (precision, unread) ← unread.precision
    let rest := match unread.rest with
      | c :: rest => if isVoid c then rest else c :: rest
      | [] => []
    match rest with
    | [] => .error .incomplete
    | letter :: rest =>
      let place := (wishes.foldl Place.wish {}).widened width
      .ok ({ place with precision }, letter, { unread with rest })

/-- What the place that comes next shows. The index of its letter is counted back from the end of
the template. -/
def Unread.fillPlace (length : Nat) (unread : Unread) : Except Misfit (List Char × Unread) := do
  let (place, letter, unread) ← unread.place
  let (value, unread) ← unread.nextValue
  match Conversion.ofLetter? letter with
  | none => .error (.unknownLetter letter (length - unread.rest.length - 1))
  | some conversion =>
    if memoryLimit ≤ place.width then .error .tooLarge
    else return (← place.shown conversion value, unread)

/-- Fill all places. Each uses up a character of the template at least. Two marks of a place side by
side stand for the character itself. -/
def Unread.fill (length : Nat) : (fuel : Nat) → Unread → Except Misfit (List Char)
  | _, ⟨[], []⟩ => .ok []
  | _, ⟨[], _ :: _⟩ => .error .mismatch
  | 0, _ => .ok []
  | fuel + 1, ⟨'%' :: '%' :: rest, values⟩ => do
    return '%' :: (← (⟨rest, values⟩ : Unread).fill length fuel)
  | fuel + 1, ⟨'%' :: rest, values⟩ => do
    let (cs, unread) ← (⟨rest, values⟩ : Unread).fillPlace length
    return cs ++ (← unread.fill length fuel)
  | fuel + 1, ⟨c :: rest, values⟩ => do
    return c :: (← (⟨rest, values⟩ : Unread).fill length fuel)

/-- The message of a template and its values. Without values the template is the message. -/
def fillTemplate (template : Value) (values : List Value) : Except Misfit String := do
  let template := (← legible template).plain
  if values.isEmpty then return template
  else return String.ofList (← (⟨template.toList, values⟩ : Unread).fill template.length
    template.length)

end OvfInspect.Log
