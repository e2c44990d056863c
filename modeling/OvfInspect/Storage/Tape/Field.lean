import OvfInspect.Storage.Damage
import OvfInspect.Storage.Tape.Block

/-!
# Fields of headers

A field holds a text, which a zero ends, or a number. Numbers are written in octal digits; large ones
in bytes behind a mark.
-/

namespace OvfInspect.Storage.Tape

/-- Why there is no header or no number where one should be. -/
abbrev Stop := NoHeader ⊕ Damage

def Stop.noHeader (problem : NoHeader) : Stop := .inl problem

def Stop.damage (damage : Damage) : Stop := .inr damage

/-! ### Texts -/

def strayCharacter (byte : UInt8) : Char :=
  Char.ofNat (0x10FF00 + byte.toNat)

/-- The text of bytes. Bytes that belong to no character become characters of their own. -/
def charactersOf : (fuel : Nat) → List UInt8 → List Char
  | 0, _ => []
  | _, [] => []
  | fuel + 1, byte :: rest =>
    let sizes := [1, 2, 3, 4]
    let whole? := sizes.findSome? fun size =>
      (String.fromUTF8? ⟨((byte :: rest).take size).toArray⟩).bind fun text =>
        match text.toList with
        | [c] => some (c, size)
        | _ => none
    match whole? with
    | some (c, size) => c :: charactersOf fuel (rest.drop (size - 1))
    | none => strayCharacter byte :: charactersOf fuel rest

def textOf (bytes : List UInt8) : String :=
  match String.fromUTF8? ⟨bytes.toArray⟩ with
  | some text => text
  | none => String.ofList (charactersOf bytes.length bytes)

def beforeZero (bytes : List UInt8) : List UInt8 :=
  bytes.takeWhile (· ≠ 0)

def field (block : List UInt8) (offset size : Nat) : List UInt8 :=
  (block.drop offset).take size

def textField (block : List UInt8) (offset size : Nat) : String :=
  textOf (beforeZero (field block offset size))

/-! ### Numbers -/

/-- The mark of a number in bytes that is not negative. -/
def bytesMark : UInt8 := 128

def negativeBytesMark : UInt8 := 255

def bytesValue (bytes : List UInt8) : Nat :=
  bytes.foldl (fun n (byte : UInt8) => 256 * n + byte.toNat) 0

def numberIn (bytes : List UInt8) : Except Stop Int :=
  match bytes with
  | [] => .error (.damage .missingField)
  | mark :: rest =>
    if mark = bytesMark then .ok (bytesValue rest)
    else if mark = negativeBytesMark then
      .ok ((bytesValue rest : Int) - (Nat.pow 256 rest.length : Nat))
    else
      let shown := beforeZero bytes
      let number := Number.octal? (shown.map fun (byte : UInt8) => Char.ofNat byte.toNat)
      match shown.all (· < 128), number with
      | true, some n => .ok n
      | _, _ => .error (.noHeader .badField)

def numberField? (block : List UInt8) (offset size : Nat) : Except Stop Int :=
  numberIn (field block offset size)

end OvfInspect.Storage.Tape
