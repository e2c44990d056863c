import Mathlib.Data.List.Basic
import OvfInspect.Proofs.LineEnds
import OvfInspect.Text.Wrap

/-!
# Lines that are filled

A text that is filled to a width is cut into lines which are no wider. `length_of_mem_wrap` says so, and
`ink_wrap` that every character which is not blank stands on a line, in the order of the text.
-/

namespace OvfInspect.Text

/-- The characters that are not blank. -/
def ink (cs : List Char) : List Char :=
  cs.filter fun c => !isBlank c

/-- The characters of the pieces and their number, which bounds the rounds of filling. -/
def volume (ps : List Piece) : Nat :=
  ps.flatten.length + ps.length

/-- What a round of filling puts on its line, and what it leaves. -/
def fillRound (width : Nat) (begun : Bool) (p : Piece) (rest : List Piece) : List Piece × List Piece :=
  let fitted := takeFitting width (if begun && p.isBlank then rest else p :: rest)
  let cut := cutLong width fitted.1 fitted.2
  (dropBlankEnd cut.1, cut.2)

variable {width rounds : Nat} {begun : Bool} {p : Piece} {rest ps line : List Piece} {cs : List Char}
  {s l : String}

theorem fillPieces_succ : fillPieces width (rounds + 1) begun (p :: rest) =
    if (fillRound width begun p rest).1.isEmpty then
      fillPieces width rounds begun (fillRound width begun p rest).2
    else (fillRound width begun p rest).1.flatten ::
      fillPieces width rounds true (fillRound width begun p rest).2 := rfl

@[simp] theorem ink_append (cs more : List Char) : ink (cs ++ more) = ink cs ++ ink more :=
  List.filter_append ..

theorem ink_eq_nil_of_blank (blank : ∀ c ∈ cs, isBlank c = true) : ink cs = [] := by
  simpa [ink] using blank

@[simp] theorem volume_append (ps rest : List Piece) : volume (ps ++ rest) = volume ps + volume rest := by
  simp only [volume, List.flatten_append, List.length_append]
  omega

@[simp] theorem volume_cons (p : Piece) (rest : List Piece) : volume (p :: rest) = p.length + 1 + volume rest := by
  simp only [volume, List.flatten_cons, List.length_append, List.length_cons]
  omega

/-! ### The lines of a text -/

theorem isBlank_of_isLineEnd {c : Char} (isEnd : isLineEnd c = true) : isBlank c = true := by
  simp only [isLineEnd, isBlank, Bool.or_eq_true, Bool.and_eq_true, decide_eq_true_eq, beq_iff_eq] at isEnd ⊢
  omega

theorem ink_cons_of_blank {c : Char} (blank : isBlank c = true) (cs : List Char) : ink (c :: cs) = ink cs := by
  simp [ink, blank]

theorem ink_linesFrom (line cs : List Char) : ink (linesFrom line cs).flatten = ink (line.reverse ++ cs) := by
  induction line, cs using linesFrom.induct with
  | case1 line isEmpty =>
    obtain rfl := List.isEmpty_iff.1 isEmpty
    rfl
  | case2 line notEmpty =>
    rw [linesFrom, if_neg notEmpty]
    simp
  | case3 line rest ih =>
    have pair : ink ('\r' :: '\n' :: rest) = ink rest := by
      rw [ink_cons_of_blank (by decide), ink_cons_of_blank (by decide)]
    rw [linesFrom_pair, List.flatten_cons, ink_append, ih, ink_append line.reverse, pair]
    rfl
  | case4 line c rest unpaired isEnd ih =>
    rw [linesFrom_cons line unpaired, if_pos isEnd, List.flatten_cons, ink_append, ih,
      ink_append line.reverse (c :: rest), ink_cons_of_blank (isBlank_of_isLineEnd isEnd)]
    rfl
  | case5 line c rest unpaired notEnd ih =>
    rw [linesFrom_cons line unpaired, if_neg notEnd, ih]
    simp

theorem ink_lines (s : String) : ink ((lines s).flatMap String.toList) = ink s.toList := by
  have flat : (lines s).flatMap String.toList = (linesFrom [] s.toList).flatten := by
    rw [lines, List.flatMap_map]
    simp [List.flatMap_def]
  rw [flat, ink_linesFrom]
  rfl

/-! ### The steps of a round -/

theorem takeFitting_append (room : Nat) (ps : List Piece) :
    (takeFitting room ps).1 ++ (takeFitting room ps).2 = ps := by
  induction ps generalizing room with
  | nil => rfl
  | cons p rest ih =>
    rw [takeFitting]
    split
    · simpa using ih (room - p.length)
    · rfl

theorem length_takeFitting (room : Nat) (ps : List Piece) : (takeFitting room ps).1.flatten.length ≤ room := by
  induction ps generalizing room with
  | nil => simp [takeFitting]
  | cons p rest ih =>
    rw [takeFitting]
    split
    · next fits =>
      have more := ih (room - p.length)
      simp only [List.flatten_cons, List.length_append]
      omega
    · simp

theorem takeFitting_cons_eq_nil (none : (takeFitting width (p :: rest)).1 = []) : width < p.length := by
  rw [takeFitting] at none
  split at none
  · cases none
  · next wide => exact Nat.not_le.1 wide

theorem flatten_cutLong (width : Nat) (line ps : List Piece) :
    (cutLong width line ps).1.flatten ++ (cutLong width line ps).2.flatten = line.flatten ++ ps.flatten := by
  cases ps with
  | nil => rfl
  | cons p rest =>
    rw [cutLong]
    split
    · simp only [List.flatten_append, List.flatten_cons, List.flatten_nil, List.append_nil, List.append_assoc]
      rw [← List.append_assoc (List.take _ p), List.take_append_drop]
    · rfl

theorem length_cutLong (fits : line.flatten.length ≤ width) (ps : List Piece) :
    (cutLong width line ps).1.flatten.length ≤ width := by
  cases ps with
  | nil => exact fits
  | cons p rest =>
    rw [cutLong]
    split
    · simp only [List.flatten_append, List.flatten_cons, List.flatten_nil, List.append_nil, List.length_append,
        List.length_take]
      omega
    · exact fits

theorem volume_cutLong (width : Nat) (line ps : List Piece) : volume (cutLong width line ps).2 ≤ volume ps := by
  cases ps with
  | nil => exact Nat.le_refl _
  | cons p rest =>
    rw [cutLong]
    split
    · simp only [volume_cons, List.length_drop]
      omega
    · exact Nat.le_refl _

theorem dropBlankEnd_cases (line : List Piece) : dropBlankEnd line = line ∨
    ∃ last : Piece, last.isBlank = true ∧ line = dropBlankEnd line ++ [last] := by
  unfold dropBlankEnd
  split
  · next blank =>
    obtain ⟨last, isLast, isBlank⟩ := (Option.any_eq_true _ _).1 blank
    exact .inr ⟨last, isBlank, (List.dropLast_append_getLast? last isLast).symm⟩
  · exact .inl rfl

theorem sublist_dropBlankEnd (line : List Piece) : (dropBlankEnd line).flatten.Sublist line.flatten := by
  rcases dropBlankEnd_cases line with same | ⟨last, -, split⟩
  · rw [same]
  · conv_rhs => rw [split, List.flatten_append]
    exact List.sublist_append_left _ _

theorem ink_dropBlankEnd (line : List Piece) : ink (dropBlankEnd line).flatten = ink line.flatten := by
  rcases dropBlankEnd_cases line with same | ⟨last, blank, split⟩
  · rw [same]
  · conv_rhs => rw [split]
    have none : ink last = [] := ink_eq_nil_of_blank (List.all_eq_true.1 blank)
    simp [none]

/-! ### A round -/

theorem length_fillRound (width : Nat) (begun : Bool) (p : Piece) (rest : List Piece) :
    (fillRound width begun p rest).1.flatten.length ≤ width :=
  Nat.le_trans (sublist_dropBlankEnd _).length_le (length_cutLong (length_takeFitting width _) _)

theorem ink_fillRound (width : Nat) (begun : Bool) (p : Piece) (rest : List Piece) :
    ink (fillRound width begun p rest).1.flatten ++ ink (fillRound width begun p rest).2.flatten =
      ink (p :: rest).flatten := by
  have available : ink (if begun && p.isBlank then rest else p :: rest).flatten = ink (p :: rest).flatten := by
    split
    · next blank =>
      have none : ink p = [] := ink_eq_nil_of_blank (List.all_eq_true.1 ((Bool.and_eq_true _ _).mp blank).2)
      simp [none]
    · rfl
  unfold fillRound
  rw [ink_dropBlankEnd, ← ink_append, flatten_cutLong, ← List.flatten_append, takeFitting_append, available]

theorem sublist_fillRound (width : Nat) (begun : Bool) (p : Piece) (rest : List Piece) :
    ((fillRound width begun p rest).1.flatten ++ (fillRound width begun p rest).2.flatten).Sublist
      (p :: rest).flatten := by
  have available : (if begun && p.isBlank then rest else p :: rest).flatten.Sublist (p :: rest).flatten := by
    split
    · exact List.sublist_append_right p rest.flatten
    · exact List.Sublist.refl _
  unfold fillRound
  dsimp only
  refine ((sublist_dropBlankEnd _).append_right _).trans ?_
  rwa [flatten_cutLong, ← List.flatten_append, takeFitting_append]

/-- A round uses up a piece, or characters of the first one if that is too wide. -/
theorem volume_fillRound (positive : 0 < width) (begun : Bool) (p : Piece) (rest : List Piece) :
    volume (fillRound width begun p rest).2 < volume (p :: rest) := by
  unfold fillRound
  dsimp only
  generalize isAvailable : (if begun && p.isBlank then rest else p :: rest) = available
  have parts := congrArg volume (takeFitting_append width available)
  have cut := volume_cutLong width (takeFitting width available).1 (takeFitting width available).2
  rw [volume_append] at parts
  split at isAvailable
  · subst isAvailable
    rw [volume_cons]
    omega
  · subst isAvailable
    cases fitting : (takeFitting width (p :: rest)).1 with
    | cons q others =>
      rw [fitting, volume_cons] at parts
      rw [fitting] at cut
      omega
    | nil =>
      have wide := takeFitting_cons_eq_nil fitting
      have all := takeFitting_append width (p :: rest)
      rw [fitting, List.nil_append] at all
      rw [all, cutLong, if_pos wide]
      simp only [List.flatten_nil, List.length_nil, volume_cons, List.length_drop]
      omega

/-! ### All rounds -/

theorem length_of_mem_fillPieces : ∀ l ∈ fillPieces width rounds begun ps, l.length ≤ width := by
  induction rounds generalizing begun ps with
  | zero => simp [fillPieces]
  | succ rounds ih =>
    cases ps with
    | nil => simp [fillPieces]
    | cons p rest =>
      rw [fillPieces_succ]
      split
      · exact ih
      · exact List.forall_mem_cons.2 ⟨length_fillRound width begun p rest, ih⟩

/-- There are rounds enough to put all characters on lines that are not blank. -/
theorem ink_fillPieces (positive : 0 < width) (enough : volume ps ≤ rounds) :
    ink (fillPieces width rounds begun ps).flatten = ink ps.flatten := by
  induction rounds generalizing begun ps with
  | zero =>
    have none : ps.flatten = [] := List.length_eq_zero_iff.1 (by unfold volume at enough; omega)
    rw [none]
    rfl
  | succ rounds ih =>
    cases ps with
    | nil => rfl
    | cons p rest =>
      have less := volume_fillRound positive begun p rest
      rw [fillPieces_succ, ← ink_fillRound width begun p rest]
      split
      · next isEmpty =>
        rw [ih (by omega), List.isEmpty_iff.1 isEmpty]
        rfl
      · rw [List.flatten_cons, ink_append, ih (by omega)]

theorem sublist_fillPieces : (fillPieces width rounds begun ps).flatten.Sublist ps.flatten := by
  induction rounds generalizing begun ps with
  | zero => exact List.nil_sublist _
  | succ rounds ih =>
    cases ps with
    | nil => exact List.nil_sublist _
    | cons p rest =>
      have round := sublist_fillRound width begun p rest
      rw [fillPieces_succ]
      split
      · exact ih.trans ((List.sublist_append_right _ _).trans round)
      · rw [List.flatten_cons]
        exact (ih.append_left _).trans round

/-! ### Whole texts -/

theorem flatten_pieces (cs : List Char) : (pieces cs).flatten = cs := by
  induction cs with
  | nil => rfl
  | cons c cs ih =>
    rw [pieces]
    split
    · next d p rest shape =>
      rw [shape, List.flatten_cons] at ih
      split
      · rw [List.flatten_cons, List.cons_append, ih]
      · rw [List.flatten_cons, List.flatten_cons, ih]
        rfl
    · rw [List.flatten_cons, ih]
      rfl

theorem mem_expandTabsFrom {column : Nat} {c : Char} (member : c ∈ expandTabsFrom column cs) :
    c = ' ' ∨ c ∈ cs := by
  induction cs generalizing column with
  | nil => simp [expandTabsFrom] at member
  | cons d cs ih =>
    rw [expandTabsFrom] at member
    split at member
    · rcases List.mem_append.1 member with space | inside
      · exact .inl (List.eq_of_mem_replicate space)
      · exact (ih inside).imp_right (List.mem_cons_of_mem _)
    · rcases List.mem_cons.1 member with rfl | inside
      · exact .inr List.mem_cons_self
      · exact (ih inside).imp_right (List.mem_cons_of_mem _)

theorem ink_expandTabsFrom (column : Nat) (cs : List Char) : ink (expandTabsFrom column cs) = ink cs := by
  induction cs generalizing column with
  | nil => rfl
  | cons c cs ih =>
    rw [expandTabsFrom]
    split
    · next isTab =>
      have none : ink (List.replicate (8 - column % 8) ' ') = [] := by
        apply ink_eq_nil_of_blank
        intro c member
        rw [List.eq_of_mem_replicate member]
        decide
      have tab : ink (c :: cs) = ink cs := by
        rw [isTab]
        rfl
      rw [ink_append, none, ih, tab, List.nil_append]
    · simp only [ink, List.filter_cons] at ih ⊢
      rw [ih]

/-- The characters that are filled into lines: tabs are spaces, and so are the other blanks of ASCII. -/
def spaced (s : String) : List Char :=
  (expandTabsFrom 0 s.toList).map fun c => if isAsciiBlank c then ' ' else c

theorem mem_spaced {c : Char} (member : c ∈ spaced s) : c = ' ' ∨ c ∈ s.toList := by
  obtain ⟨d, inside, rfl⟩ := List.mem_map.1 member
  split
  · exact .inl rfl
  · exact mem_expandTabsFrom inside

theorem ink_spaced (s : String) : ink (spaced s) = ink s.toList := by
  rw [← ink_expandTabsFrom 0 s.toList]
  unfold spaced
  induction expandTabsFrom 0 s.toList with
  | nil => rfl
  | cons c cs ih =>
    simp only [ink, List.map_cons, List.filter_cons] at ih ⊢
    rw [ih]
    by_cases ascii : isAsciiBlank c
    · have blank := isBlank_of_isAsciiBlank ascii
      simp [ascii, blank, show isBlank ' ' = true by decide]
    · simp [ascii]

theorem wrap_eq (width : Nat) (s : String) : wrap width s =
    (fillPieces width (volume (pieces (spaced s))) false (pieces (spaced s))).map String.ofList := by
  unfold volume
  rw [flatten_pieces]
  rfl

theorem length_of_mem_wrap : ∀ l ∈ wrap width s, l.length ≤ width := by
  rw [wrap_eq, List.forall_mem_map]
  intro cs member
  rw [String.length_ofList]
  exact length_of_mem_fillPieces cs member

theorem mem_of_mem_wrap : ∀ l ∈ wrap width s, ∀ c ∈ l.toList, c = ' ' ∨ c ∈ s.toList := by
  rw [wrap_eq, List.forall_mem_map]
  intro cs member c inside
  rw [String.toList_ofList] at inside
  have among := sublist_fillPieces.subset (List.mem_flatten_of_mem member inside)
  rw [flatten_pieces] at among
  exact mem_spaced among

/-- All characters that are not blank stand on the lines, in the order of the text. -/
theorem ink_wrap (positive : 0 < width) (s : String) :
    ink ((wrap width s).flatMap String.toList) = ink s.toList := by
  have lines : ((wrap width s).flatMap String.toList) =
      (fillPieces width (volume (pieces (spaced s))) false (pieces (spaced s))).flatten := by
    rw [wrap_eq, List.flatMap_map]
    simp [List.flatMap_def]
  rw [lines, ink_fillPieces positive (Nat.le_refl _), flatten_pieces, ink_spaced]

end OvfInspect.Text
