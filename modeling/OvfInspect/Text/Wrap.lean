import OvfInspect.Text.Blank

/-!
# Filling lines

A text is broken into lines of at most a given width. Breaks fall between words; a word wider than
a line is cut. Spaces at a break are dropped, those at the very beginning are kept.
-/

namespace OvfInspect.Text

def expandTabsFrom (column : Nat) : List Char → List Char
  | [] => []
  | c :: r =>
    if c = '\t' then
      List.replicate (8 - column % 8) ' ' ++ expandTabsFrom (column + (8 - column % 8)) r
    else c :: expandTabsFrom (if c = '\n' ∨ c = '\r' then 0 else column + 1) r

/-- A word, or the run of spaces between two words. -/
abbrev Piece := List Char

def pieces : List Char → List Piece
  | [] => []
  | c :: r =>
    match pieces r with
    | (d :: p) :: rest =>
      if (c == ' ') == (d == ' ') then (c :: d :: p) :: rest else [c] :: (d :: p) :: rest
    | rest => [c] :: rest

def Piece.isBlank (p : Piece) : Bool :=
  p.all Text.isBlank

def takeFitting (room : Nat) : List Piece → List Piece × List Piece
  | [] => ([], [])
  | p :: rest =>
    if p.length ≤ room then
      let (line, others) := takeFitting (room - p.length) rest
      (p :: line, others)
    else ([], p :: rest)

def cutLong (width : Nat) (line : List Piece) : List Piece → List Piece × List Piece
  | [] => (line, [])
  | p :: rest =>
    if width < p.length then
      let room := width - line.flatten.length
      (line ++ [p.take room], p.drop room :: rest)
    else (line, p :: rest)

def dropBlankEnd (line : List Piece) : List Piece :=
  if line.getLast?.any Piece.isBlank then line.dropLast else line

/-- Put the pieces on lines. A blank piece does not begin a line unless it is the first of all.
Each round uses up a piece or a character, so their number bounds the rounds. -/
def fillPieces (width : Nat) : Nat → Bool → List Piece → List (List Char)
  | 0, _, _ => []
  | _ + 1, _, [] => []
  | rounds + 1, begun, p :: rest =>
    let available := if begun && p.isBlank then rest else p :: rest
    let (fitting, others) := takeFitting width available
    let (full, others) := cutLong width fitting others
    let line := dropBlankEnd full
    if line.isEmpty then fillPieces width rounds begun others
    else line.flatten :: fillPieces width rounds true others

def wrap (width : Nat) (s : String) : List String :=
  let cs := (expandTabsFrom 0 s.toList).map fun c => if isAsciiBlank c then ' ' else c
  let ps := pieces cs
  (fillPieces width (cs.length + ps.length) false ps).map String.ofList

def fill (width : Nat) (s : String) : String :=
  "\n".intercalate (wrap width s)

end OvfInspect.Text
