/-!
# Columns

Texts filled up with spaces to a column's width, which is counted in characters. A text that is
wider than its column is left alone.
-/

namespace OvfInspect.Text

def padRight (width : Nat) (s : String) : String :=
  s ++ String.ofList (List.replicate (width - s.length) ' ')

def padLeft (width : Nat) (s : String) : String :=
  String.ofList (List.replicate (width - s.length) ' ') ++ s

end OvfInspect.Text
