import OvfInspect.Text.Lines

/-!
# Line ends

A text falls into lines that have no line end inside. `lines_intercalate` says that lines which are joined are
told apart again.
-/

namespace OvfInspect.Text

/-- The text has no line end. -/
def SingleLine (s : String) : Prop :=
  ∀ c ∈ s.toList, isLineEnd c = false

theorem linesFrom_pair (line rest : List Char) :
    linesFrom line ('\r' :: '\n' :: rest) = line.reverse :: linesFrom [] rest := by
  rw [linesFrom]

theorem linesFrom_cons (line : List Char) {c : Char} {rest : List Char}
    (unpaired : ∀ others, c = '\r' → rest = '\n' :: others → False) :
    linesFrom line (c :: rest) =
      if isLineEnd c then line.reverse :: linesFrom [] rest else linesFrom (c :: line) rest := by
  rw [linesFrom]
  exact unpaired

theorem linesFrom_lineFeed (line rest : List Char) :
    linesFrom line ('\n' :: rest) = line.reverse :: linesFrom [] rest :=
  (linesFrom_cons line fun _ same => absurd same (by decide)).trans (if_pos (by decide))

variable {cs line : List Char} {s last : String} {front : List String}

theorem linesFrom_cons_of_not_isLineEnd (line : List Char) {c : Char} (inside : isLineEnd c = false)
    (rest : List Char) : linesFrom line (c :: rest) = linesFrom (c :: line) rest := by
  rw [linesFrom_cons, inside]
  · rfl
  · rintro _ rfl
    exact absurd inside (by decide)

/-! ### Lines that are joined -/

theorem linesFrom_append_lineFeed (inside : ∀ c ∈ cs, isLineEnd c = false) (line rest : List Char) :
    linesFrom line (cs ++ '\n' :: rest) = (line.reverse ++ cs) :: linesFrom [] rest := by
  induction cs generalizing line with
  | nil => simpa using linesFrom_lineFeed line rest
  | cons c cs ih =>
    obtain ⟨first, others⟩ := List.forall_mem_cons.1 inside
    rw [List.cons_append, linesFrom_cons_of_not_isLineEnd line first, ih others]
    simp

theorem linesFrom_of_inside (inside : ∀ c ∈ cs, isLineEnd c = false) (some : line.reverse ++ cs ≠ []) :
    linesFrom line cs = [line.reverse ++ cs] := by
  induction cs generalizing line with
  | nil =>
    have nonempty : line ≠ [] := by simpa using some
    simp [linesFrom, nonempty]
  | cons c cs ih =>
    obtain ⟨first, others⟩ := List.forall_mem_cons.1 inside
    rw [linesFrom_cons_of_not_isLineEnd line first, ih others (by simp)]
    simp

/-- Lines that are joined by line feeds are told apart again, but for an empty one at the end. -/
theorem lines_intercalate (inside : ∀ l ∈ front, SingleLine l) (insideLast : SingleLine last) (some : last ≠ "") :
    lines ("\n".intercalate (front ++ [last])) = front ++ [last] := by
  induction front with
  | nil =>
    have chars : last.toList ≠ [] := by simpa using some
    rw [List.nil_append, String.intercalate_singleton, lines, linesFrom_of_inside insideLast (by simpa using chars)]
    simp
  | cons l front ih =>
    obtain ⟨first, others⟩ := List.forall_mem_cons.1 inside
    have told := ih others
    have lineFeed : "\n".toList = ['\n'] := rfl
    unfold lines at told ⊢
    rw [List.cons_append, String.intercalate_cons_of_ne_nil (by simp), String.toList_append, String.toList_append,
      lineFeed, List.append_assoc, List.singleton_append, linesFrom_append_lineFeed first, List.map_cons, told]
    simp

/-! ### What lines hold -/

theorem inside_of_mem_linesFrom (inside : ∀ c ∈ line, isLineEnd c = false) :
    ∀ l ∈ linesFrom line cs, ∀ c ∈ l, isLineEnd c = false := by
  have whole (line : List Char) (inside : ∀ c ∈ line, isLineEnd c = false) :
      ∀ c ∈ line.reverse, isLineEnd c = false := by simpa using inside
  induction line, cs using linesFrom.induct with
  | case1 line isEmpty => simp [linesFrom, isEmpty]
  | case2 line notEmpty =>
    rw [linesFrom, if_neg notEmpty]
    exact List.forall_mem_singleton.2 (whole line inside)
  | case3 line rest ih =>
    rw [linesFrom_pair]
    exact List.forall_mem_cons.2 ⟨whole line inside, ih (by simp)⟩
  | case4 line c rest unpaired isEnd ih =>
    rw [linesFrom_cons line unpaired, if_pos isEnd]
    exact List.forall_mem_cons.2 ⟨whole line inside, ih (by simp)⟩
  | case5 line c rest unpaired notEnd ih =>
    rw [linesFrom_cons line unpaired, if_neg notEnd]
    exact ih (List.forall_mem_cons.2 ⟨by simpa using notEnd, inside⟩)

theorem singleLine_of_mem_lines : ∀ l ∈ lines s, SingleLine l := by
  rw [lines, List.forall_mem_map]
  intro cs member c inside
  rw [String.toList_ofList] at inside
  exact inside_of_mem_linesFrom (by simp) cs member c inside

end OvfInspect.Text
