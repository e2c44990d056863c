import OvfInspect.Storage.Archive
import OvfInspect.Storage.Tape.Field

/-!
# Settings

A list of settings says what does not fit into the fields of a header. A setting is written with its
length before it, a key, an equals sign, a value and a line feed. Settings are kept in the order in
which their keys came first.
-/

namespace OvfInspect.Storage.Tape

abbrev Settings := List (String × String)

def Settings.has (settings : Settings) (key : String) : Bool :=
  (settings.lookup key).isSome

/-- The settings with one given anew, which keeps its place. -/
def Settings.put (settings : Settings) (key value : String) : Settings :=
  if settings.has key then
    settings.map fun setting => if setting.1 = key then (key, value) else setting
  else settings ++ [(key, value)]

abbrev WrittenSetting := List UInt8 × List UInt8

def isDigitByte (byte : UInt8) : Bool :=
  48 ≤ byte && byte ≤ 57

def digitsNumber (bytes : List UInt8) : Nat :=
  bytes.foldl (fun n (byte : UInt8) => 10 * n + (byte.toNat - 48)) 0

def lengthDigits : Nat := 20

def leastLength : Nat := 5

def firstSetting (bytes : List UInt8) : Except NoHeader (WrittenSetting × Nat) :=
  let digits := bytes.takeWhile isDigitByte
  let length := digitsNumber digits
  let inside := (bytes.take (length - 1)).drop (digits.length + 1)
  let key := inside.takeWhile (· ≠ 61)
  let isFramed := !digits.isEmpty && digits.length ≤ lengthDigits &&
    bytes[digits.length]? == some 32 && leastLength ≤ length && length ≤ bytes.length &&
    !key.isEmpty && key.length < inside.length && bytes[length - 1]? == some 10
  if isFramed then .ok ((key, inside.drop (key.length + 1)), length) else .error .badField

/-- The settings of a list. The list ends with its bytes or with a zero. -/
def writtenSettings : (fuel : Nat) → List UInt8 → Except NoHeader (List WrittenSetting)
  | _, [] => .ok []
  | 0, _ => .ok []
  | fuel + 1, bytes =>
    if bytes.head? = some 0 then .ok []
    else do
      let (setting, length) ← firstSetting bytes
      return setting :: (← writtenSettings fuel (bytes.drop length))

def Settings.putAll (settings : Settings) (written : List WrittenSetting) : Settings :=
  written.foldl (fun settings setting => settings.put (textOf setting.1) (textOf setting.2))
    settings

def integerIn (text : String) : Except Stop Int :=
  (Number.readInteger text.toList).mapError fun refusal =>
    .damage (.number (Text.quoted text) refusal)

/-- The integer in a setting, where everything else stands for zero. -/
def integerOrZero (text : String) : Int :=
  (Number.readInteger text.toList).toOption.getD 0

end OvfInspect.Storage.Tape
