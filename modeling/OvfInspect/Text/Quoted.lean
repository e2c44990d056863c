import OvfInspect.Text.Printable

/-!
# Quoted texts

A text between quotes on one line: apostrophes, or double quotes when only the apostrophe occurs
inside. The quote in use and the backslash are escaped, as is every character that is not printable.
-/

namespace OvfInspect.Text

def hexDigits (width n : Nat) : String :=
  let ds := Nat.toDigits 16 n
  String.ofList (List.replicate (width - ds.length) '0' ++ ds)

def codePointEscape (c : Char) : String :=
  if c.toNat ≤ 0xFF then "\\x" ++ hexDigits 2 c.toNat
  else if c.toNat ≤ 0xFFFF then "\\u" ++ hexDigits 4 c.toNat
  else "\\U" ++ hexDigits 8 c.toNat

def quotedChar (quote c : Char) : String :=
  if c = quote ∨ c = '\\' then String.ofList ['\\', c]
  else if c = '\t' then "\\t"
  else if c = '\n' then "\\n"
  else if c = '\r' then "\\r"
  else if isPrintable c then String.singleton c
  else codePointEscape c

/-- The quote that needs fewer escapes: the apostrophe unless only it occurs in the text. -/
def quoteFor (s : String) : Char :=
  if s.contains '\'' && !s.contains '"' then '"' else '\''

def quoted (s : String) : String :=
  let quote := quoteFor s
  String.singleton quote ++ String.join (s.toList.map (quotedChar quote)) ++
    String.singleton quote

def quotedList (xs : List String) : String :=
  "[" ++ ", ".intercalate (xs.map quoted) ++ "]"

end OvfInspect.Text
