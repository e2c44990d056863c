import Mathlib.Data.List.Forall2
import OvfInspect.CommandLine.Reading

/-!
# Reading a line with a package

Options of the program stand before the command, and the package behind it. Such a line is read as the
command with its package, unless two of the options exclude each other.
-/

namespace OvfInspect.CommandLine

/-- The flag says how the program runs, and not to do something else instead. -/
def Flag.IsOption (flag : Flag) : Prop :=
  flag.wish = .force ∨ flag.wish = .quieter ∨ flag.wish = .louder

/-- The word gives flags of the program that are options. -/
def Gives (word : String) (given : List Flag) : Prop :=
  classify .program word = .ok (.flags given) ∧ ∀ flag ∈ given, flag.IsOption

/-- The word is one or several options of the program: in full, by their letters or by a beginning. -/
def IsOption (word : String) : Prop :=
  ∃ given, Gives word given

variable {topic : Topic} {word package name : String} {options : List String} {given : List Flag}

/-! ### Words -/

theorem not_gives_divider : ¬ Gives dividerText given := by
  rintro ⟨isFlags, -⟩
  have ambiguous : classify .program dividerText =
      .error (.ambiguous dividerText (Topic.flags .program)) := by decide +kernel
  cases ambiguous.symm.trans isFlags

theorem classify_operand (h : word.startsWith "-" = false) :
    classify topic word = .ok (.operand word) := by
  unfold classify
  rw [h]
  rfl

theorem ne_divider (h : word.startsWith "-" = false) : word ≠ dividerText := by
  rintro rfl
  exact absurd h (by decide +kernel)

theorem classifyAll_cons (h : word ≠ dividerText) (words : List String) :
    classifyAll topic (word :: words) = do
      let first ← classify topic word
      return first :: (← classifyAll topic words) := by
  rw [classifyAll, if_neg h]

theorem classifyAll_operands {operands : List String}
    (h : ∀ word ∈ operands, word.startsWith "-" = false) :
    classifyAll topic operands = .ok (operands.map .operand) := by
  induction operands with
  | nil => rfl
  | cons word operands ih =>
    obtain ⟨first, rest⟩ := List.forall_mem_cons.1 h
    rw [classifyAll_cons (ne_divider first), classify_operand first, ih rest]
    rfl

theorem classifyAll_append {words : List String} {gifts : List (List Flag)} {classified : List Word}
    (given : List.Forall₂ Gives options gifts) (isRest : classifyAll .program words = .ok classified) :
    classifyAll .program (options ++ words) = .ok (gifts.map .flags ++ classified) := by
  induction given with
  | nil => exact isRest
  | @cons word _ _ _ first _ ih =>
    have notDivider : word ≠ dividerText := by
      rintro rfl
      exact not_gives_divider first
    rw [List.cons_append, classifyAll_cons notDivider, first.1, ih]
    rfl

/-! ### Flags -/

theorem give_options (topic : Topic) (before : List Flag) (h : ∀ flag ∈ given, flag.IsOption) :
    give topic before given = .ok (before ++ given) ∨
      ∃ flag other, give topic before given = .error (.misuse topic (.conflict flag other)) := by
  induction given generalizing before with
  | nil => exact .inl (by rw [List.append_nil]; rfl)
  | cons flag given ih =>
    obtain ⟨isOption, rest⟩ := List.forall_mem_cons.1 h
    rw [give]
    cases before.find? fun other => other.wish.excludes flag.wish with
    | some other => exact .inr ⟨flag, other, rfl⟩
    | none =>
      have taken := ih (before ++ [flag]) rest
      rw [List.append_assoc] at taken
      rcases isOption with isOption | isOption | isOption <;> rw [isOption] <;> exact taken

/-! ### Lines -/

/-- What follows the options is read with their flags, unless two of them exclude each other. -/
theorem readWords_options (flags : List Flag) {gifts : List (List Flag)} {rest : List (String × Word)}
    (h : List.Forall₂ Gives options gifts) :
    (∃ taken, readWords flags [] (options.zip (gifts.map .flags) ++ rest) = readWords taken [] rest) ∨
      ∃ flag other, readWords flags [] (options.zip (gifts.map .flags) ++ rest) =
        .error (.misuse .program (.conflict flag other)) := by
  induction h generalizing flags with
  | nil => exact .inl ⟨flags, rfl⟩
  | cons first _ ih =>
    rw [List.map_cons, List.zip_cons_cons, List.cons_append, readWords]
    rcases give_options .program flags first.2 with taken | ⟨flag, other, excluded⟩
    · rw [taken]
      exact ih _
    · rw [excluded]
      exact .inr ⟨flag, other, rfl⟩

theorem readOrder_operand {verb : Verb} (h : package.startsWith "-" = false) :
    readOrder verb [package] = .ok (⟨verb, [], [package]⟩, []) := by
  have classified : classifyAll (.verb verb) [package] = .ok [.operand package] :=
    classifyAll_operands (List.forall_mem_singleton.2 h)
  rw [readOrder, classified]
  rfl

theorem readWords_command {verb : Verb} (named : Verb.ofName? name = some verb)
    (operand : package.startsWith "-" = false) (flags : List Flag) (word : Word) :
    readWords flags [] [(name, .operand name), (package, word)] =
      .ok (⟨flags, some ⟨verb, [], [package]⟩⟩, []) := by
  rw [readWords]
  dsimp only
  rw [named]
  have isRead : readOrder verb ([(package, word)].map Prod.fst) = _ := readOrder_operand operand
  dsimp only
  rw [isRead]
  rfl

theorem exists_gifts (h : ∀ word ∈ options, IsOption word) :
    ∃ gifts, List.Forall₂ Gives options gifts := by
  induction options with
  | nil => exact ⟨[], .nil⟩
  | cons word options ih =>
    obtain ⟨⟨given, first⟩, rest⟩ := List.forall_mem_cons.1 h
    obtain ⟨gifts, isGiven⟩ := ih rest
    exact ⟨given :: gifts, .cons first isGiven⟩

/-- A line of options, a command and a package is read as such, unless options exclude each other. -/
theorem read_package {verb : Verb} (isOption : ∀ word ∈ options, IsOption word)
    (named : Verb.ofName? name = some verb) (noFlag : name.startsWith "-" = false)
    (operand : package.startsWith "-" = false) :
    (∃ flags, Line.read (options ++ [name, package]) = .ok ⟨flags, some ⟨verb, [], [package]⟩⟩) ∨
      ∃ flag other, Line.read (options ++ [name, package]) =
        .error (.misuse .program (.conflict flag other)) := by
  obtain ⟨gifts, isGiven⟩ := exists_gifts isOption
  have isOperand : ∀ word ∈ [name, package], word.startsWith "-" = false :=
    List.forall_mem_cons.2 ⟨noFlag, List.forall_mem_singleton.2 operand⟩
  have sameLength : options.length = (gifts.map Word.flags).length := by
    rw [List.length_map]
    exact isGiven.length_eq
  have classified := classifyAll_append isGiven (classifyAll_operands isOperand)
  unfold Line.read
  rw [classified]
  dsimp only [Except.mapError, bind, Except.bind]
  rw [List.zip_append sameLength]
  rcases readWords_options [] isGiven with ⟨flags, taken⟩ | ⟨flag, other, excluded⟩
  · left
    rw [taken]
    have isRead : readWords flags [] ([name, package].zip ([name, package].map .operand)) = _ :=
      readWords_command named operand flags (.operand package)
    rw [isRead]
    exact ⟨flags, rfl⟩
  · right
    rw [excluded]
    exact ⟨flag, other, rfl⟩

end OvfInspect.CommandLine
