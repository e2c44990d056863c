import OvfInspect.Proofs.UnitTexts

/-!
# The grammar of units

A text that names a unit can be taken apart in only one way. `units_read_once` says which texts are read,
each as the unit of its exponent, and that other blanks, other cases and more zeros before the exponent
change nothing.
-/

namespace OvfInspect.AllocationUnit

open Text

/-- The parts of a text such as `byte * 2^30`: the word, the exponent, and what stands before and behind
each of the signs. -/
structure Spelling where
  lead : List Char
  word : List Char
  beforeStar : List Char
  beforeTwo : List Char
  beforeCaret : List Char
  beforeDigits : List Char
  digits : List Char
  tail : List Char

namespace Spelling

def text (p : Spelling) : List Char :=
  p.lead ++ (p.word ++ (p.beforeStar ++ '*' :: (p.beforeTwo ++ '2' :: (p.beforeCaret ++ '^' ::
    (p.beforeDigits ++ (p.digits ++ p.tail))))))

def blanks (p : Spelling) : List Char :=
  p.lead ++ p.beforeStar ++ p.beforeTwo ++ p.beforeCaret ++ p.beforeDigits ++ p.tail

/-- The word is written in letters of either case, the exponent in digits of any script, of which there are
not too many, and all else is white space. -/
structure Proper (p : Spelling) : Prop where
  blank : ∀ c ∈ p.blanks, isBlank c = true
  word : p.word.map Char.toLower = ['b', 'y', 't', 'e']
  nonempty : p.digits ≠ []
  digit : ∀ c ∈ p.digits, isDigit c = true
  short : p.digits.length ≤ Number.maxDigits

/-- The second has the digits of the first, perhaps with zeros before them. -/
def PaddedTo (p q : Spelling) : Prop :=
  ∃ zeros, q.digits = zeros ++ p.digits ∧ ∀ c ∈ zeros, digitValue? c = some 0

variable {p q : Spelling} {s t : String} {e : Nat} {unit : AllocationUnit}

/-! ### Reading the parts -/

theorem exists_spelling_iff {cs : List Char} : (∃ p : Spelling, p.text = cs ∧ p.Proper ∧
      digitsValue p.digits = e) ↔
    ∃ digits, Spells cs digits ∧ digits.length ≤ Number.maxDigits ∧ digitsValue digits = e := by
  constructor
  · rintro ⟨p, rfl, proper, value⟩
    refine ⟨p.digits, ⟨p.word, p.lead, p.beforeStar, p.beforeTwo, p.beforeCaret, p.beforeDigits, p.tail,
      by simp [text], proper.blank, proper.word, proper.nonempty, proper.digit⟩, proper.short, value⟩
  · rintro ⟨digits, ⟨word, w₀, w₁, w₂, w₃, w₄, w₅, rfl, blank, lower, nonempty, digit⟩, short, value⟩
    exact ⟨⟨w₀, word, w₁, w₂, w₃, w₄, digits, w₅⟩, by simp [text],
      ⟨blank, lower, nonempty, digit, short⟩, value⟩

/-- A text is read as a unit if it has parts of which the digits write the exponent. -/
theorem read_iff_spelling : AllocationUnit.read (some s) = .ok unit ↔
    ∃ p : Spelling, p.text = s.toList ∧ p.Proper ∧ digitsValue p.digits = unit.exponent :=
  read_ok_iff.trans exists_spelling_iff.symm

theorem exists_exponent_iff : (∃ unit : AllocationUnit, unit.exponent = e) ↔ e = 20 ∨ e = 30 ∨ e = 40 := by
  constructor
  · rintro ⟨unit, rfl⟩
    cases unit
    · exact .inl rfl
    · exact .inr (.inl rfl)
    · exact .inr (.inr rfl)
  · rintro (rfl | rfl | rfl)
    · exact ⟨.mebibyte, rfl⟩
    · exact ⟨.gibibyte, rfl⟩
    · exact ⟨.tebibyte, rfl⟩

/-! ### Only one way to take a text apart -/

/-- What satisfies a property up to the first character that does not is determined by the text. -/
theorem append_unique {property : Char → Bool} {front front' rest rest' : List Char}
    (same : front ++ rest = front' ++ rest') (all : ∀ c ∈ front, property c = true)
    (all' : ∀ c ∈ front', property c = true) (stop : ∀ c ∈ rest.head?, property c = false)
    (stop' : ∀ c ∈ rest'.head?, property c = false) : front = front' ∧ rest = rest' := by
  have rests : rest = rest' := by
    have dropped := congrArg (List.dropWhile property) same
    rwa [List.dropWhile_append_of_pos all, List.dropWhile_append_of_pos all', dropWhile_eq_self stop,
      dropWhile_eq_self stop'] at dropped
  exact ⟨List.append_cancel_right (rests ▸ same), rests⟩

theorem sign_unique {sign : Char} {front front' rest rest' : List Char} (notBlank : isBlank sign = false)
    (same : front ++ sign :: rest = front' ++ sign :: rest') (blank : ∀ c ∈ front, isBlank c = true)
    (blank' : ∀ c ∈ front', isBlank c = true) : front = front' ∧ rest = rest' := by
  have stop (rest : List Char) : ∀ c ∈ (sign :: rest).head?, isBlank c = false := by
    intro c isFirst
    rwa [← Option.some.inj isFirst]
  obtain ⟨fronts, rests⟩ := append_unique same blank blank' (stop rest) (stop rest')
  exact ⟨fronts, (List.cons.inj rests).2⟩

theorem head_word {word rest : List Char} (lower : word.map Char.toLower = ['b', 'y', 't', 'e']) :
    ∀ c ∈ (word ++ rest).head?, isBlank c = false := by
  intro c isFirst
  cases word with
  | nil => cases lower
  | cons first word =>
    obtain rfl : first = c := Option.some.inj isFirst
    rw [← Bool.not_eq_true]
    intro blank
    rw [List.map_cons, toLower_of_isBlank blank] at lower
    rw [(List.cons.inj lower).1] at blank
    cases blank

theorem head_digits {digits rest : List Char} (nonempty : digits ≠ [])
    (digit : ∀ c ∈ digits, isDigit c = true) : ∀ c ∈ (digits ++ rest).head?, isBlank c = false := by
  intro c isFirst
  rw [List.head?_append_of_ne_nil _ nonempty] at isFirst
  exact not_isBlank_of_isDigit (digit c (List.mem_of_head? isFirst))

theorem head_tail {tail : List Char} (blank : ∀ c ∈ tail, isBlank c = true) :
    ∀ c ∈ tail.head?, isDigit c = false :=
  fun c isFirst => not_isDigit_of_isBlank (blank c (List.mem_of_head? isFirst))

/-- The parts of a text are determined by it, each from the one before it on. -/
theorem Proper.unique (proper : p.Proper) (proper' : q.Proper) (same : p.text = q.text) : p = q := by
  have blank := proper.blank
  have blank' := proper'.blank
  simp only [blanks, List.forall_mem_append] at blank blank'
  obtain ⟨⟨⟨⟨⟨lead, star⟩, two⟩, caret⟩, digits⟩, tail⟩ := blank
  obtain ⟨⟨⟨⟨⟨lead', star'⟩, two'⟩, caret'⟩, digits'⟩, tail'⟩ := blank'
  obtain ⟨leads, same⟩ := append_unique same lead lead' (head_word proper.word) (head_word proper'.word)
  have length : p.word.length = q.word.length := by
    rw [← List.length_map (f := Char.toLower), proper.word, ← proper'.word, List.length_map]
  obtain ⟨words, same⟩ := List.append_inj same length
  obtain ⟨stars, same⟩ := sign_unique (by decide) same star star'
  obtain ⟨twos, same⟩ := sign_unique (by decide) same two two'
  obtain ⟨carets, same⟩ := sign_unique (by decide) same caret caret'
  obtain ⟨fronts, same⟩ := append_unique same digits digits' (head_digits proper.nonempty proper.digit)
    (head_digits proper'.nonempty proper'.digit)
  obtain ⟨exponents, tails⟩ := append_unique same proper.digit proper'.digit (head_tail tail) (head_tail tail')
  cases p
  cases q
  simp only [mk.injEq]
  exact ⟨leads, words, stars, twos, carets, fronts, exponents, tails⟩

theorem Proper.exists_iff (proper : p.Proper) :
    (∃ q : Spelling, q.text = p.text ∧ q.Proper ∧ digitsValue q.digits = e) ↔ digitsValue p.digits = e := by
  constructor
  · rintro ⟨q, same, proper', value⟩
    rwa [proper.unique proper' same.symm]
  · exact fun value => ⟨p, rfl, proper, value⟩

/-! ### Zeros before the exponent -/

theorem PaddedTo.digitsValue_eq (padded : p.PaddedTo q) : digitsValue q.digits = digitsValue p.digits := by
  obtain ⟨zeros, digits, zero⟩ := padded
  rw [digits, digitsValue_zeros zero]

end Spelling

/-- A text is read as the unit with an exponent just if it is spelled with that exponent, which is that of a
unit. No text has two spellings, and spellings that differ in blanks, in cases and in zeros before the
exponent are read alike. -/
theorem units_read_once :
    (∀ (s : String) (e : Nat), (∃ unit, AllocationUnit.read (some s) = .ok unit ∧ unit.exponent = e) ↔
      (∃ p : Spelling, p.text = s.toList ∧ p.Proper ∧ digitsValue p.digits = e) ∧
        (e = 20 ∨ e = 30 ∨ e = 40)) ∧
    (∀ p q : Spelling, p.Proper → q.Proper → p.text = q.text → p = q) ∧
    ∀ (s t : String) (p q : Spelling) (unit : AllocationUnit), p.text = s.toList → p.Proper →
      q.text = t.toList → q.Proper → p.PaddedTo q →
      (AllocationUnit.read (some s) = .ok unit ↔ AllocationUnit.read (some t) = .ok unit) := by
  refine ⟨fun s e => ?_, fun p q proper proper' same => proper.unique proper' same, ?_⟩
  · simp only [Spelling.read_iff_spelling, ← Spelling.exists_exponent_iff]
    constructor
    · rintro ⟨unit, spelled, rfl⟩
      exact ⟨spelled, unit, rfl⟩
    · rintro ⟨spelled, unit, rfl⟩
      exact ⟨unit, spelled, rfl⟩
  · intro s t p q unit isText proper isText' proper' padded
    rw [Spelling.read_iff_spelling, Spelling.read_iff_spelling, ← isText, ← isText', proper.exists_iff,
      proper'.exists_iff, padded.digitsValue_eq]

/-- The spelling of `byte * 2^30`. -/
def closeSpelling : Spelling :=
  ⟨[], ['b', 'y', 't', 'e'], [' '], [' '], [], [], ['3', '0'], []⟩

/-- The same unit in other cases, with a zero before the exponent and blanks of several kinds. -/
def wideSpelling : Spelling :=
  ⟨['\t'], ['B', 'y', 'T', 'E'], [], ['\u2003'], ['\n', ' '], [' '], ['0', '3', '0'], ['\n']⟩

theorem proper_closeSpelling : closeSpelling.Proper :=
  ⟨List.all_eq_true.1 (by decide +kernel), by decide, by decide, List.all_eq_true.1 (by decide +kernel),
    by decide⟩

theorem proper_wideSpelling : wideSpelling.Proper :=
  ⟨List.all_eq_true.1 (by decide +kernel), by decide, by decide, List.all_eq_true.1 (by decide +kernel),
    by decide⟩

/-- Both spellings are read as gibibytes, and neither text has another one. -/
theorem units_read_once_wide :
    AllocationUnit.read (some "byte * 2^30") = .ok .gibibyte ∧
    AllocationUnit.read (some "\tByTE*\u20032\n ^ 030\n") = .ok .gibibyte ∧
    ∀ p : Spelling, p.Proper → p.text = "\tByTE*\u20032\n ^ 030\n".toList → p = wideSpelling := by
  obtain ⟨isRead, unique, alike⟩ := units_read_once
  have close : closeSpelling.text = "byte * 2^30".toList := by decide
  have wide : wideSpelling.text = "\tByTE*\u20032\n ^ 030\n".toList := by decide
  obtain ⟨unit, read, exponent⟩ := (isRead "byte * 2^30" 30).2
    ⟨⟨closeSpelling, close, proper_closeSpelling, by decide +kernel⟩, .inr (.inl rfl)⟩
  have gibibyte : unit = .gibibyte := by
    cases unit
    · cases exponent
    · rfl
    · cases exponent
  rw [gibibyte] at read
  refine ⟨read, ?_, fun p proper same => unique p _ proper proper_wideSpelling (same.trans wide.symm)⟩
  exact (alike _ _ _ _ _ close proper_closeSpelling wide proper_wideSpelling
    ⟨['0'], rfl, List.forall_mem_singleton.2 (by decide +kernel)⟩).1 read

end OvfInspect.AllocationUnit
