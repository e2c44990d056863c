import OvfInspect.Proofs.Confirmation
import OvfInspect.Proofs.FilledLines
import OvfInspect.Proofs.LineEnds
import OvfInspect.Proofs.Numerals

/-!
# The width of questions

A prompt is filled to the columns of the terminal, and a mark is put behind its last line. All lines of a
question fit but perhaps the last one, for which the mark may be too much: `question_width` says when.
-/

namespace OvfInspect

open Text

/-! ### Joined lines -/

variable {width : Nat} {prompt line : String}

theorem intercalate_append_singleton (front : List String) (last mark : String) :
    "\n".intercalate (front ++ [last]) ++ mark = "\n".intercalate (front ++ [last ++ mark]) := by
  by_cases some : front = []
  · subst some
    simp
  · rw [String.intercalate_append_of_ne_nil some (by simp), String.intercalate_append_of_ne_nil some (by simp)]
    simp [String.append_assoc]

theorem intercalate_dropLast (lines' : List String) :
    "\n".intercalate (lines'.dropLast ++ [lines'.getLastD ""]) = "\n".intercalate lines' := by
  rcases lines'.eq_nil_or_concat' with rfl | ⟨front, last, rfl⟩
  · rfl
  · simp

namespace Terminal

/-- The lines that a text is filled into. A text without a word is an empty line. -/
def filledLines (width : Nat) (s : String) : List String :=
  if wrap width s = [] then [""] else wrap width s

/-- The lines that the lines of a prompt are filled into. -/
def filledPrompt (width : Nat) (prompt : String) : List String :=
  (lines prompt).flatMap (filledLines width)

/-- The columns up to the last character that is not blank. -/
def visibleLength (line : String) : Nat :=
  (dropEndWhile isBlank line.toList).length

/-! ### Filled prompts -/

theorem filledLines_ne_nil (width : Nat) (s : String) : filledLines width s ≠ [] := by
  unfold filledLines
  split
  · simp
  · assumption

theorem intercalate_filledLines (width : Nat) (s : String) : "\n".intercalate (filledLines width s) = fill width s := by
  unfold filledLines fill
  split
  · next none => rw [none]; rfl
  · rfl

theorem intercalate_flatMap_filledLines (width : Nat) (texts : List String) :
    "\n".intercalate (texts.flatMap (filledLines width)) = "\n".intercalate (texts.map (fill width)) := by
  induction texts with
  | nil => rfl
  | cons s texts ih =>
    by_cases single : texts = []
    · subst single
      simp [intercalate_filledLines]
    · have others : texts.flatMap (filledLines width) ≠ [] := by
        obtain ⟨t, rest, rfl⟩ := List.exists_cons_of_ne_nil single
        simp [filledLines_ne_nil]
      rw [List.flatMap_cons, String.intercalate_append_of_ne_nil (filledLines_ne_nil width s) others,
        intercalate_filledLines, ih, List.map_cons, String.intercalate_cons_of_ne_nil (by simpa using single)]

theorem question_eq (width : Nat) (prompt : String) : question width prompt =
    "\n".intercalate ((filledPrompt width prompt).dropLast ++ [(filledPrompt width prompt).getLastD "" ++ " [y] "]) := by
  unfold question
  rw [← intercalate_append_singleton, intercalate_dropLast, filledPrompt, intercalate_flatMap_filledLines]

theorem mem_filledPrompt (member : line ∈ filledPrompt width prompt) :
    line = "" ∨ ∃ text ∈ lines prompt, line ∈ wrap width text := by
  obtain ⟨text, isLine, inside⟩ := List.mem_flatMap.1 member
  unfold filledLines at inside
  split at inside
  · exact .inl (List.mem_singleton.1 inside)
  · exact .inr ⟨text, isLine, inside⟩

theorem length_of_mem_filledPrompt (member : line ∈ filledPrompt width prompt) :
    line.length ≤ width := by
  rcases mem_filledPrompt member with rfl | ⟨text, -, inside⟩
  · simp
  · exact length_of_mem_wrap line inside

theorem singleLine_of_mem_filledPrompt (member : line ∈ filledPrompt width prompt) :
    SingleLine line := by
  rcases mem_filledPrompt member with rfl | ⟨text, isLine, inside⟩
  · intro c none
    simp at none
  · intro c among
    rcases mem_of_mem_wrap line inside c among with rfl | inText
    · decide
    · exact singleLine_of_mem_lines text isLine c inText

theorem ink_filledLines (positive : 0 < width) (s : String) :
    ink ((filledLines width s).flatMap String.toList) = ink s.toList := by
  rw [← ink_wrap positive s]
  unfold filledLines
  split
  · next none =>
    rw [none]
    rfl
  · rfl

theorem ink_filledPrompt (positive : 0 < width) (prompt : String) :
    ink ((filledPrompt width prompt).flatMap String.toList) = ink prompt.toList := by
  rw [← ink_lines prompt, filledPrompt]
  induction lines prompt with
  | nil => rfl
  | cons s texts ih => rw [List.flatMap_cons, List.flatMap_append, ink_append, ih, ink_filledLines positive,
      List.flatMap_cons, ink_append]

/-! ### Lines of a question -/

theorem lines_question (width : Nat) (prompt : String) : lines (question width prompt) =
    (filledPrompt width prompt).dropLast ++ [(filledPrompt width prompt).getLastD "" ++ " [y] "] := by
  have inside : ∀ l ∈ (filledPrompt width prompt).dropLast, SingleLine l :=
    fun l member => singleLine_of_mem_filledPrompt (List.dropLast_subset _ member)
  have insideLast : SingleLine ((filledPrompt width prompt).getLastD "" ++ " [y] ") := by
    unfold SingleLine
    rw [String.toList_append, List.forall_mem_append]
    refine ⟨?_, by simp [isLineEnd]⟩
    rcases (filledPrompt width prompt).eq_nil_or_concat' with none | ⟨front, last, split⟩
    · rw [none]
      simp
    · rw [split, List.getLastD_concat]
      exact singleLine_of_mem_filledPrompt (by rw [split]; simp)
  rw [question_eq, lines_intercalate inside insideLast]
  intro none
  have length := congrArg String.length none
  simp at length

theorem visibleLength_le (line : String) : visibleLength line ≤ line.length := by
  have kept := (List.dropWhile_suffix isBlank (l := line.toList.reverse)).length_le
  rw [List.length_reverse, String.length_toList] at kept
  simpa [visibleLength, dropEndWhile] using kept

theorem visibleLength_append_mark (line : String) : visibleLength (line ++ " [y] ") = line.length + 4 := by
  have mark : (line ++ " [y] ").toList = (line.toList ++ [' ', '[', 'y', ']']) ++ [' '] := by simp
  unfold visibleLength
  rw [mark, dropEndWhile_append (by simp [isBlank]), dropEndWhile_eq_self]
  · rw [List.length_append, String.length_toList]
    rfl
  · simp [show isBlank ']' = false by decide +kernel]

/-- Only the last line of a question may be too wide, by the mark behind it. -/
theorem visibleLength_question_iff (width : Nat) (prompt : String) :
    (∀ line ∈ lines (question width prompt), visibleLength line ≤ width) ↔
      ((filledPrompt width prompt).getLastD "").length + 4 ≤ width := by
  rw [lines_question, List.forall_mem_append, List.forall_mem_singleton, visibleLength_append_mark]
  refine and_iff_right fun line member => ?_
  exact (visibleLength_le line).trans (length_of_mem_filledPrompt (List.dropLast_subset _ member))

/-! ### Questions that are put -/

variable {question : String} {answers : List Answer}

theorem events_ask (question : String) (answers : List Answer) :
    .prompted question ∈ (ask question answers).1.events ∧
    ∀ event ∈ (ask question answers).1.events, event = .prompted question ∨ event = .printed complaint := by
  induction answers with
  | nil => exact ⟨List.mem_singleton_self _, by simp [ask, Narrated.tell, Narrated.fail, bind, Narrated.andThen]⟩
  | cons answer answers ih =>
    by_cases unclear : Unclear answer
    · rw [ask_of_unclear unclear]
      exact ⟨List.mem_cons_self, List.forall_mem_cons.2 ⟨.inl rfl, List.forall_mem_cons.2 ⟨.inr rfl, ih.2⟩⟩⟩
    · obtain ⟨outcome, decides⟩ := not_forall_not.1 unclear
      rw [ask_of_decides decides]
      exact ⟨List.mem_singleton_self _, List.forall_mem_singleton.2 (.inl rfl)⟩

end Terminal

namespace Session

open Terminal

variable {session : Session}

/-- A session that asks shows no other question than that of the prompt, and shows it at least once. -/
theorem question_mem_shown_iff (asking : session.force = false) (around : Surroundings) (prompt question : String)
    (answers : List Answer) : .question question ∈ (session.confirm around prompt answers).shown ↔
      question = Terminal.question (session.columns - 1) prompt := by
  obtain ⟨asked, only⟩ := events_ask (Terminal.question (session.columns - 1) prompt) answers
  rw [confirm_eq (run_confirm_of_asking asking prompt answers)]
  unfold shownAll
  rw [List.mem_flatMap]
  constructor
  · rintro ⟨event, member, shown⟩
    rcases only event member with rfl | rfl
    · exact Shown.question.inj (List.mem_singleton.1 shown)
    · cases List.mem_singleton.1 shown
  · rintro rfl
    exact ⟨_, asked, List.mem_singleton_self _⟩

/-- The question that a session puts is its prompt in lines that leave the last column free, with a mark behind
the last one. All of them fit, but the mark makes the last one too wide just if that leaves less than five
columns free. -/
theorem question_width (asking : session.force = false) (wide : 2 ≤ session.columns) (around : Surroundings)
    (prompt : String) (answers : List Answer) :
    let filled := filledPrompt (session.columns - 1) prompt
    (∃ question, .question question ∈ (session.confirm around prompt answers).shown) ∧
    ∀ question, .question question ∈ (session.confirm around prompt answers).shown →
      lines question = filled.dropLast ++ [filled.getLastD "" ++ " [y] "] ∧
      ink (filled.flatMap String.toList) = ink prompt.toList ∧
      (∀ line ∈ filled, line.length ≤ session.columns - 1) ∧
      ((∀ line ∈ lines question, visibleLength line ≤ session.columns - 1) ↔
        (filled.getLastD "").length + 5 ≤ session.columns) := by
  intro filled
  refine ⟨⟨_, (question_mem_shown_iff asking around prompt _ answers).2 rfl⟩, fun question shown => ?_⟩
  obtain rfl := (question_mem_shown_iff asking around prompt question answers).1 shown
  refine ⟨lines_question _ prompt, ink_filledPrompt (by omega) prompt,
    fun line member => length_of_mem_filledPrompt member, ?_⟩
  rw [visibleLength_question_iff]
  change (filled.getLastD "").length + 4 ≤ _ ↔ _
  omega

/-- On 40 columns the question about a missing file fits. On 30 columns its last line has room for the prompt,
but not for the mark. -/
theorem question_width_marked :
    let around : Surroundings := ⟨⟨⟨[], []⟩, [], 900⟩, true, default, default⟩
    let prompt := "OVF reference disk1.vmdk not found in OVF package in vm\nDisplay information anyway?"
    let session (columns : Nat) : Session := { owner := 0, columns, force := false }
    (∃ question, .question question ∈ ((session 40).confirm around prompt [.typed "y"]).shown ∧
      ∀ line ∈ lines question, visibleLength line ≤ 39) ∧
    ∃ question, .question question ∈ ((session 30).confirm around prompt [.typed "y"]).shown ∧
      ¬ ∀ line ∈ lines question, visibleLength line ≤ 29 := by
  intro around prompt session
  constructor
  · obtain ⟨⟨question, shown⟩, all⟩ :=
      @question_width (session 40) rfl (by decide) around prompt [.typed "y"]
    exact ⟨question, shown, (all question shown).2.2.2.2 (by decide +kernel)⟩
  · obtain ⟨⟨question, shown⟩, all⟩ :=
      @question_width (session 30) rfl (by decide) around prompt [.typed "y"]
    exact ⟨question, shown, fun fits => absurd ((all question shown).2.2.2.1 fits) (by decide +kernel)⟩

end Session

end OvfInspect
