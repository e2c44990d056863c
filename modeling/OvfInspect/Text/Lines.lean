/-!
# Lines

A text falls into lines at each line end: line feed, carriage return, the pair of both, vertical
tab, form feed, three of the ASCII separators and the three line ends of Unicode. A line end
closes a line, so none follows a final one.
-/

namespace OvfInspect.Text

def isLineEnd (c : Char) : Bool :=
  let n := c.toNat
  (10 ≤ n && n ≤ 13) || (28 ≤ n && n ≤ 30) || n == 0x85 || n == 0x2028 || n == 0x2029

/-- The lines of `cs`, where `line` holds the characters of the current line, last first. -/
def linesFrom (line : List Char) : List Char → List (List Char)
  | [] => if line.isEmpty then [] else [line.reverse]
  | '\r' :: '\n' :: r => line.reverse :: linesFrom [] r
  | c :: r => if isLineEnd c then line.reverse :: linesFrom [] r else linesFrom (c :: line) r

def lines (s : String) : List String :=
  (linesFrom [] s.toList).map String.ofList

end OvfInspect.Text
