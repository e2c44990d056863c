import Mathlib.Data.List.Induction
import Mathlib.Data.Nat.Digits.Defs
import OvfInspect.Number.Integer
import OvfInspect.Proofs.Numerals

/-!
# Two ways to recognize a number

A natural number is first recognized by a pattern and then read as an integer, which by itself also takes
signs and low lines. `naturals_read_exactly` says that for a text without separators both agree: the texts
that are read are the digits with blanks around them, and each is read as the value of its digits.
-/

namespace OvfInspect

open Text Number

/-- The text holds none of the four separators of ASCII. -/
def Unseparated (s : String) : Prop :=
  ∀ c ∈ s.toList, c.toNat < 28 ∨ 31 < c.toNat

/-- The text is a run of digits with blanks around it. -/
def IsNumeral (s : String) (digits : List Char) : Prop :=
  digits ≠ [] ∧ (∀ c ∈ digits, isDigit c = true) ∧
    ∃ before after, s.toList = before ++ digits ++ after ∧ ∀ c ∈ before ++ after, isBlank c = true

/-- Blanks, digits and blanks, after which the text ends, or only a line feed follows. -/
def MatchesPattern (s : String) : Prop :=
  ∃ before digits after feed, s.toList = before ++ digits ++ after ++ feed ∧
    (∀ c ∈ before ++ after, isBlank c = true) ∧ digits ≠ [] ∧ (∀ c ∈ digits, isDigit c = true) ∧
    (feed = [] ∨ feed = ['\n'])

variable {s : String} {cs digits before after : List Char} {n : Nat}

/-! ### Values -/

theorem digitsValue_eq_ofDigits (isDigits : ∀ c ∈ digits, isDigit c = true) :
    digitsValue digits = Nat.ofDigits 10 (digits.filterMap digitValue?).reverse := by
  induction digits using List.reverseRecOn with
  | nil => rfl
  | append_singleton digits d ih =>
    obtain ⟨rest, last⟩ := List.forall_mem_append.1 isDigits
    have digit : isDigit d = true := last d (List.mem_singleton_self d)
    obtain ⟨v, value⟩ := Option.isSome_iff_exists.1 digit
    have step : digitsValue (digits ++ [d]) = 10 * digitsValue digits + v := by
      simp [digitsValue, value]
    rw [step, ih rest]
    simp [value, Nat.ofDigits_cons, Nat.add_comm]

/-! ### The pattern -/

theorem matchesPattern_iff : MatchesPattern s ↔ ∃ digits, IsNumeral s digits := by
  constructor
  · rintro ⟨before, digits, after, feed, shape, blanks, nonempty, isDigits, isEnd⟩
    refine ⟨digits, nonempty, isDigits, before, after ++ feed, by rw [shape, List.append_assoc], ?_⟩
    rw [← List.append_assoc, List.forall_mem_append]
    refine ⟨blanks, ?_⟩
    rcases isEnd with rfl | rfl
    · simp
    · simp [show isBlank '\n' = true by decide]
  · rintro ⟨digits, nonempty, isDigits, before, after, shape, blanks⟩
    exact ⟨before, digits, after, [], by rw [shape, List.append_nil], blanks, nonempty, isDigits, .inl rfl⟩

theorem paddedDigits?_iff_isNumeral : paddedDigits? s.toList = some digits ↔ IsNumeral s digits :=
  paddedDigits?_iff

theorem isPadding_of_isBlank {c : Char} (other : c.toNat < 28 ∨ 31 < c.toNat) (blank : isBlank c = true) :
    isPadding c = true := by
  simp only [isPadding, blank, Bool.true_and, Bool.not_eq_true', Bool.and_eq_false_iff, decide_eq_false_iff_not]
  omega

theorem Unseparated.padding (unseparated : Unseparated s) (shape : s.toList = before ++ digits ++ after)
    (blanks : ∀ c ∈ before ++ after, isBlank c = true) : ∀ c ∈ before ++ after, isPadding c = true := by
  intro c member
  refine isPadding_of_isBlank (unseparated c ?_) (blanks c member)
  rw [shape]
  simp only [List.mem_append] at member ⊢
  tauto

theorem readNatural_of_unseparated (unseparated : Unseparated s) : readNatural s =
    match paddedDigits? s.toList with
    | none => .error (.notNatural (some s))
    | some digits =>
      if maxDigits < digits.length then .error (.tooManyDigits digits.length) else .ok (digitsValue digits) := by
  unfold readNatural
  cases found : paddedDigits? s.toList with
  | none => rfl
  | some digits =>
    obtain ⟨nonempty, isDigits, before, after, shape, blanks⟩ := paddedDigits?_iff.1 found
    obtain ⟨first, last⟩ := (searches_iff nonempty isDigits blanks).2 (unseparated.padding shape blanks)
    rw [shape]
    dsimp only
    rw [first, last, if_neg (by decide)]
    split
    · rfl
    · rw [if_neg (by decide)]

/-! ### Integers -/

theorem groups_of_unmarked (unmarked : ∀ c ∈ cs, c ≠ '_') : groups cs = [cs] := by
  induction cs with
  | nil => rfl
  | cons c cs ih =>
    obtain ⟨first, rest⟩ := List.forall_mem_cons.1 unmarked
    rw [groups, ih rest]
    exact first

theorem not_isDigit_sign : isDigit '-' = false ∧ isDigit '+' = false ∧ isDigit '_' = false := by
  decide +kernel

theorem groupedDigits?_of_digits (nonempty : digits ≠ []) (isDigits : ∀ c ∈ digits, isDigit c = true) :
    groupedDigits? isDigit digits = some digits := by
  have unmarked : ∀ c ∈ digits, c ≠ '_' := by
    rintro c member rfl
    exact absurd (isDigits _ member) (by simp [not_isDigit_sign])
  unfold groupedDigits?
  rw [groups_of_unmarked unmarked]
  simpa [nonempty] using isDigits

theorem signed_of_digits (isDigits : ∀ c ∈ digits, isDigit c = true) : signed digits = (false, digits) := by
  cases digits with
  | nil => rfl
  | cons c digits =>
    have first := isDigits c List.mem_cons_self
    unfold signed
    split
    · next same =>
      obtain ⟨rfl, -⟩ := List.cons.inj same
      simp [not_isDigit_sign] at first
    · next same =>
      obtain ⟨rfl, -⟩ := List.cons.inj same
      simp [not_isDigit_sign] at first
    · rfl

/-- Digits with padding around them are read as an integer, unless they are too many. -/
theorem readInteger_of_padded (padding : ∀ c ∈ before ++ after, isPadding c = true) (nonempty : digits ≠ [])
    (isDigits : ∀ c ∈ digits, isDigit c = true) : readInteger (before ++ digits ++ after) =
      if maxDigits < digits.length then .error (.tooManyDigits digits.length) else .ok (digitsValue digits) := by
  obtain ⟨front, back⟩ := List.forall_mem_append.1 padding
  have unpadded : ∀ c ∈ digits, isPadding c = false := by
    intro c member
    have notBlank := not_isBlank_of_isDigit (isDigits c member)
    simp [isPadding, notBlank]
  have trimmed : trimBy isPadding (before ++ digits ++ after) = digits :=
    trimBy_append front back (fun c first => unpadded c (List.mem_of_head? first))
      fun c last => unpadded c (List.mem_of_getLast? last)
  unfold readInteger
  rw [trimmed, signed_of_digits isDigits]
  simp only [groupedDigits?_of_digits nonempty isDigits, withSign, Bool.false_eq_true, if_false]

/-! ### Numerals -/

variable {refusal : Refusal}

theorem readNatural_of_isNumeral (unseparated : Unseparated s) (numeral : IsNumeral s digits) : readNatural s =
    if maxDigits < digits.length then .error (.tooManyDigits digits.length) else .ok (digitsValue digits) := by
  rw [readNatural_of_unseparated unseparated, paddedDigits?_iff_isNumeral.2 numeral]

theorem readNatural_of_not_isNumeral (unseparated : Unseparated s) (other : ∀ digits, ¬ IsNumeral s digits) :
    readNatural s = .error (.notNatural (some s)) := by
  have none : paddedDigits? s.toList = none :=
    Option.eq_none_iff_forall_ne_some.2 fun digits found => other digits (paddedDigits?_iff_isNumeral.1 found)
  rw [readNatural_of_unseparated unseparated, none]

theorem IsNumeral.unique {other : List Char} (numeral : IsNumeral s digits) (again : IsNumeral s other) :
    digits = other := by
  rw [← paddedDigits?_iff_isNumeral] at numeral again
  exact Option.some.inj (numeral.symm.trans again)

theorem readNatural_error_iff (unseparated : Unseparated s) : readNatural s = .error refusal ↔
    ((∀ digits, ¬ IsNumeral s digits) ∧ refusal = .notNatural (some s)) ∨
      ∃ digits, IsNumeral s digits ∧ maxDigits < digits.length ∧ refusal = .tooManyDigits digits.length := by
  by_cases isNumeral : ∃ digits, IsNumeral s digits
  · obtain ⟨digits, numeral⟩ := isNumeral
    rw [readNatural_of_isNumeral unseparated numeral]
    constructor
    · intro refused
      split at refused
      · next long => exact .inr ⟨digits, numeral, long, (Except.error.inj refused).symm⟩
      · cases refused
    · rintro (⟨other, -⟩ | ⟨digits', numeral', long, rfl⟩)
      · exact absurd numeral (other digits)
      · rw [numeral.unique numeral', if_pos long]
  · rw [not_exists] at isNumeral
    rw [readNatural_of_not_isNumeral unseparated isNumeral]
    constructor
    · intro refused
      exact .inl ⟨isNumeral, (Except.error.inj refused).symm⟩
    · rintro (⟨-, rfl⟩ | ⟨digits, numeral, -⟩)
      · rfl
      · exact absurd numeral (isNumeral digits)

theorem readNatural_ok_iff_isNumeral (unseparated : Unseparated s) : readNatural s = .ok n ↔
    ∃ digits, IsNumeral s digits ∧ digits.length ≤ maxDigits ∧ n = digitsValue digits := by
  constructor
  · intro read
    by_cases isNumeral : ∃ digits, IsNumeral s digits
    · obtain ⟨digits, numeral⟩ := isNumeral
      rw [readNatural_of_isNumeral unseparated numeral] at read
      split at read
      · cases read
      · next short => exact ⟨digits, numeral, Nat.not_lt.1 short, (Except.ok.inj read).symm⟩
    · rw [readNatural_of_not_isNumeral unseparated (not_exists.1 isNumeral)] at read
      cases read
  · rintro ⟨digits, numeral, short, rfl⟩
    rw [readNatural_of_isNumeral unseparated numeral, if_neg (Nat.not_lt.2 short)]

/-- On what the pattern lets through, reading an integer gives what reading a natural number gives. -/
theorem readInteger_of_isNumeral (unseparated : Unseparated s) (numeral : IsNumeral s digits) {i : Int} :
    readInteger s.toList = .ok i ↔ ∃ n : Nat, i = n ∧ readNatural s = .ok n := by
  rw [readNatural_of_isNumeral unseparated numeral]
  obtain ⟨nonempty, isDigits, before, after, shape, blanks⟩ := numeral
  rw [shape, readInteger_of_padded (unseparated.padding shape blanks) nonempty isDigits]
  split
  · simp
  · constructor
    · intro read
      exact ⟨_, (Except.ok.inj read).symm, rfl⟩
    · rintro ⟨n, rfl, read⟩
      rw [Except.ok.inj read]

theorem isDigit_of_zeros {zeros : List Char} (zero : ∀ c ∈ zeros, digitValue? c = some 0) (n : Nat) :
    ∀ c ∈ zeros ++ Nat.toDigits 10 n, isDigit c = true := by
  rw [List.forall_mem_append]
  refine ⟨?_, (toDigits_isDigit n).1⟩
  intro c member
  rw [isDigit, zero c member, Option.isSome_some]

/-- A text without separators is read just if it is a run of at most `maxDigits` digits with blanks around
it, and then as the value of the digits in base ten; all others are refused. What the pattern lets through is
never read as another integer. -/
theorem naturals_read_exactly (unseparated : Unseparated s) :
    (∀ n, readNatural s = .ok n ↔ ∃ digits, IsNumeral s digits ∧ digits.length ≤ maxDigits ∧
      n = Nat.ofDigits 10 (digits.filterMap digitValue?).reverse) ∧
    (∀ refusal, readNatural s = .error refusal ↔
      ((∀ digits, ¬ IsNumeral s digits) ∧ refusal = .notNatural (some s)) ∨
        ∃ digits, IsNumeral s digits ∧ maxDigits < digits.length ∧ refusal = .tooManyDigits digits.length) ∧
    (∀ n before zeros after, s.toList = before ++ (zeros ++ Nat.toDigits 10 n) ++ after →
      (∀ c ∈ before ++ after, isBlank c = true) → (∀ c ∈ zeros, digitValue? c = some 0) →
      (zeros ++ Nat.toDigits 10 n).length ≤ maxDigits → readNatural s = .ok n) ∧
    (MatchesPattern s ↔ ∃ digits, IsNumeral s digits) ∧
    (MatchesPattern s → ∀ i, readInteger s.toList = .ok i ↔ ∃ n : Nat, i = n ∧ readNatural s = .ok n) := by
  refine ⟨fun n => ?_, fun refusal => readNatural_error_iff unseparated, ?_, matchesPattern_iff, ?_⟩
  · rw [readNatural_ok_iff_isNumeral unseparated]
    constructor
    · rintro ⟨digits, numeral, short, rfl⟩
      exact ⟨digits, numeral, short, digitsValue_eq_ofDigits numeral.2.1⟩
    · rintro ⟨digits, numeral, short, rfl⟩
      exact ⟨digits, numeral, short, (digitsValue_eq_ofDigits numeral.2.1).symm⟩
  · intro n before zeros after shape blanks zero short
    have nonempty : zeros ++ Nat.toDigits 10 n ≠ [] := by simp [Nat.toDigits_ne_nil]
    refine (readNatural_ok_iff_isNumeral unseparated).2
      ⟨_, ⟨nonempty, isDigit_of_zeros zero n, before, after, shape, blanks⟩, short, ?_⟩
    rw [digitsValue_zeros zero, (toDigits_isDigit n).2]
  · intro isMatch i
    obtain ⟨digits, numeral⟩ := matchesPattern_iff.1 isMatch
    exact readInteger_of_isNumeral unseparated numeral

/-- Digits of two scripts behind a wide space and before a line feed are read. A sign is refused, though the
text would be an integer. -/
theorem naturals_read_exactly_signed :
    Unseparated "\u2003٠4٧\n" ∧ readNatural "\u2003٠4٧\n" = .ok 47 ∧
    Unseparated "+3" ∧ (readInteger "+3".toList = .ok 3 ∧ ¬ MatchesPattern "+3" ∧
      readNatural "+3" = .error (.notNatural (some "+3"))) := by
  have unseparated : Unseparated "\u2003٠4٧\n" := by simp [Unseparated]
  have unseparated' : Unseparated "+3" := by simp [Unseparated]
  obtain ⟨read, -⟩ := naturals_read_exactly unseparated
  obtain ⟨-, refused, -, pattern, -⟩ := naturals_read_exactly unseparated'
  have none : paddedDigits? "+3".toList = none := by decide +kernel
  have other : ∀ digits, ¬ IsNumeral "+3" digits := by
    intro digits numeral
    rw [← paddedDigits?_iff_isNumeral, none] at numeral
    cases numeral
  refine ⟨unseparated, ?_, unseparated', by decide +kernel, ?_, (refused _).2 (.inl ⟨other, rfl⟩)⟩
  · refine (read 47).2 ⟨['٠', '4', '٧'], ?_, by decide, by decide +kernel⟩
    exact paddedDigits?_iff_isNumeral.1 (by decide +kernel)
  · intro isMatch
    obtain ⟨digits, numeral⟩ := pattern.1 isMatch
    exact other digits numeral

end OvfInspect
