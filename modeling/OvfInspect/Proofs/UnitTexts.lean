import OvfInspect.Descriptor.Capacity
import OvfInspect.Proofs.Numerals

/-!
# Texts of units

A unit is written as a power of two, such as `byte * 2^30`. `exponentDigits?_iff` says which texts have an
exponent, and `read_ok_iff` and `read_tooManyDigits_iff` what becomes of it.
-/

namespace OvfInspect.AllocationUnit

open Text

/-- The text is the product of a byte and a power of two with the digits as its exponent. The letters
may be of either case, and blanks may be anywhere but inside the word and the number. -/
def Spells (cs digits : List Char) : Prop :=
  ∃ byte w₀ w₁ w₂ w₃ w₄ w₅,
    cs = w₀ ++ byte ++ w₁ ++ '*' :: w₂ ++ '2' :: w₃ ++ '^' :: w₄ ++ digits ++ w₅ ∧
    (∀ c ∈ w₀ ++ w₁ ++ w₂ ++ w₃ ++ w₄ ++ w₅, isBlank c = true) ∧
    byte.map Char.toLower = ['b', 'y', 't', 'e'] ∧ digits ≠ [] ∧ ∀ c ∈ digits, isDigit c = true

/-! ### Signs after blanks -/

variable {cs rest digits : List Char}

theorem toLower_of_isBlank {c : Char} (h : isBlank c = true) : c.toLower = c := by
  unfold Char.toLower
  rw [dif_neg]
  rintro ⟨low, high⟩
  have low : 65 ≤ c.toNat := low
  have high : c.toNat ≤ 90 := high
  simp [isBlank] at h
  omega

/-- The code is neither one of a small letter of ASCII nor one of a capital. -/
def IsSign (c : Char) : Prop :=
  c.toNat < 97 ∧ (c.toNat < 65 ∨ 90 < c.toNat)

instance (c : Char) : Decidable (IsSign c) :=
  inferInstanceAs (Decidable (_ ∧ _))

theorem toLower_eq_iff {c sign : Char} (isSign : IsSign sign) : c.toLower = sign ↔ c = sign := by
  obtain ⟨notSmall, notCapital⟩ := isSign
  unfold Char.toLower
  split
  · next upper =>
    -- A capital is given a code from 97 on, and is no sign itself.
    have low : 65 ≤ c.val.toNat := upper.1
    have high : c.val.toNat ≤ 90 := upper.2
    constructor
    · rintro rfl
      have code : (c.val + 32).toNat < 97 := notSmall
      rw [UInt32.toNat_add, show (32 : UInt32).toNat = 32 from rfl] at code
      omega
    · rintro rfl
      have same : c.val.toNat = c.toNat := rfl
      omega
  · rfl

theorem afterSigns?_iff {first : Char} {more : List Char} (notBlank : isBlank first = false) :
    afterSigns? (first :: more) cs = some rest ↔ ∃ blanks word, cs = blanks ++ (word ++ rest) ∧
      (∀ c ∈ blanks, isBlank c = true) ∧ word.map Char.toLower = first :: more := by
  unfold afterSigns?
  dsimp only
  constructor
  · intro h
    split at h
    · next signs =>
      obtain rfl := Option.some.inj h
      refine ⟨cs.takeWhile isBlank, _, ?_, fun c member => List.mem_takeWhile_imp member, signs⟩
      rw [List.take_append_drop, List.takeWhile_append_dropWhile]
    · cases h
  · rintro ⟨blanks, word, rfl, allBlank, signs⟩
    -- No blank belongs to the word, since its first letter in lower case is the first sign.
    have start : (word ++ rest).dropWhile isBlank = word ++ rest := by
      apply dropWhile_eq_self
      intro c isFirst
      cases word with
      | nil => cases signs
      | cons head tail =>
        obtain rfl : head = c := Option.some.inj isFirst
        cases blank : isBlank head with
        | false => rfl
        | true =>
          rw [List.map_cons, toLower_of_isBlank blank] at signs
          rw [(List.cons.inj signs).1, notBlank] at blank
          cases blank
    have length : (first :: more).length = word.length := by rw [← signs, List.length_map]
    rw [List.dropWhile_append_of_pos allBlank, start, length, List.take_left, List.drop_left, if_pos signs]

theorem afterSigns?_sign_iff {sign : Char} (notBlank : isBlank sign = false) (isSign : IsSign sign) :
    afterSigns? [sign] cs = some rest ↔ ∃ blanks, cs = blanks ++ sign :: rest ∧
      ∀ c ∈ blanks, isBlank c = true := by
  rw [afterSigns?_iff notBlank]
  constructor
  · rintro ⟨blanks, word, rfl, allBlank, signs⟩
    obtain ⟨c, rfl⟩ := List.length_eq_one_iff.1 (by simpa using congrArg List.length signs)
    obtain rfl := (toLower_eq_iff isSign).1 (List.cons.inj signs).1
    exact ⟨blanks, rfl, allBlank⟩
  · rintro ⟨blanks, rfl, allBlank⟩
    exact ⟨blanks, [sign], rfl, allBlank, by rw [List.map_singleton, (toLower_eq_iff isSign).2 rfl]⟩

/-! ### The exponent -/

theorem numberOf_iff :
    (if (rest.dropWhile isBlank).takeWhile isDigit ≠ [] ∧
        ((rest.dropWhile isBlank).dropWhile isDigit).all isBlank then
      some ((rest.dropWhile isBlank).takeWhile isDigit) else none) = some digits ↔
    ∃ before after, rest = before ++ digits ++ after ∧ (∀ c ∈ before ++ after, isBlank c = true) ∧
      digits ≠ [] ∧ ∀ c ∈ digits, isDigit c = true := by
  constructor
  · intro h
    split at h
    · next shape =>
      obtain rfl := Option.some.inj h
      refine ⟨rest.takeWhile isBlank, (rest.dropWhile isBlank).dropWhile isDigit, ?_, ?_, shape.1,
        fun c member => List.mem_takeWhile_imp member⟩
      · rw [List.append_assoc, List.takeWhile_append_dropWhile, List.takeWhile_append_dropWhile]
      · rw [List.forall_mem_append]
        exact ⟨fun c member => List.mem_takeWhile_imp member, List.all_eq_true.1 shape.2⟩
    · cases h
  · rintro ⟨before, after, rfl, blanks, nonempty, allDigits⟩
    obtain ⟨blanksBefore, blanksAfter⟩ := List.forall_mem_append.1 blanks
    have start : (digits ++ after).dropWhile isBlank = digits ++ after := by
      apply dropWhile_eq_self
      intro c isFirst
      rw [List.head?_append_of_ne_nil _ nonempty] at isFirst
      exact not_isBlank_of_isDigit (allDigits c (List.mem_of_head? isFirst))
    -- A blank is not a digit, so the run of digits ends with the first blank behind it.
    have noMore : ∀ c ∈ after.head?, isDigit c = false := by
      intro c isFirst
      exact not_isDigit_of_isBlank (blanksAfter c (List.mem_of_head? isFirst))
    have run : after.takeWhile isDigit = [] := by
      cases after with
      | nil => rfl
      | cons c after => exact List.takeWhile_cons_of_neg (by simp [noMore c rfl])
    rw [List.append_assoc, List.dropWhile_append_of_pos blanksBefore, start,
      List.takeWhile_append_of_pos allDigits, List.dropWhile_append_of_pos allDigits, run,
      dropWhile_eq_self noMore, List.append_nil, if_pos ⟨nonempty, List.all_eq_true.2 blanksAfter⟩]

theorem exponentDigits?_iff : exponentDigits? cs = some digits ↔ Spells cs digits := by
  unfold exponentDigits? Spells
  simp only [Option.bind_eq_bind, Option.bind_eq_some_iff, numberOf_iff,
    afterSigns?_iff (show isBlank 'b' = false by decide),
    afterSigns?_sign_iff (show isBlank '*' = false by decide) (by decide),
    afterSigns?_sign_iff (show isBlank '2' = false by decide) (by decide),
    afterSigns?_sign_iff (show isBlank '^' = false by decide) (by decide)]
  constructor
  · rintro ⟨_, ⟨w₀, byte, rfl, h₀, word⟩, _, ⟨w₁, rfl, h₁⟩, _, ⟨w₂, rfl, h₂⟩, _, ⟨w₃, rfl, h₃⟩, w₄, w₅,
      rfl, h₄, nonempty, allDigits⟩
    refine ⟨byte, w₀, w₁, w₂, w₃, w₄, w₅, by simp, ?_, word, nonempty, allDigits⟩
    rw [List.forall_mem_append] at h₄
    simp only [List.forall_mem_append]
    exact ⟨⟨⟨⟨⟨h₀, h₁⟩, h₂⟩, h₃⟩, h₄.1⟩, h₄.2⟩
  · rintro ⟨byte, w₀, w₁, w₂, w₃, w₄, w₅, rfl, blanks, word, nonempty, allDigits⟩
    simp only [List.forall_mem_append] at blanks
    obtain ⟨⟨⟨⟨⟨h₀, h₁⟩, h₂⟩, h₃⟩, h₄⟩, h₅⟩ := blanks
    refine ⟨_, ⟨w₀, byte, ?_, h₀, word⟩, _, ⟨w₁, rfl, h₁⟩, _, ⟨w₂, rfl, h₂⟩, _, ⟨w₃, rfl, h₃⟩, w₄, w₅, rfl, ?_,
      nonempty, allDigits⟩
    · simp
    · rw [List.forall_mem_append]
      exact ⟨h₄, h₅⟩

/-! ### Units -/

variable {units : Option String} {unit : AllocationUnit}

theorem ofExponent?_eq_some_iff {n : Nat} : ofExponent? n = some unit ↔ unit.exponent = n := by
  unfold ofExponent? all
  constructor
  · intro found
    simpa using List.find?_some found
  · rintro rfl
    cases unit <;> rfl

/-- A text is read as the unit whose exponent it writes, with no more digits than can be read. -/
theorem read_ok_iff : AllocationUnit.read units = .ok unit ↔
    ∃ digits, Spells (units.getD "").toList digits ∧ digits.length ≤ Number.maxDigits ∧
      digitsValue digits = unit.exponent := by
  unfold AllocationUnit.read
  simp only [← exponentDigits?_iff]
  cases exponentDigits? (units.getD "").toList with
  | none => simp
  | some digits =>
    simp only [Option.some.injEq, exists_eq_left']
    split
    · next long => simp [Nat.not_le.2 long]
    · next short =>
      rw [eq_comm (b := unit.exponent), ← ofExponent?_eq_some_iff]
      cases ofExponent? (digitsValue digits) <;> simp [Nat.not_lt.1 short]

/-- The text writes a power of two with more digits in the exponent than can be read. -/
def TooLong (units : Option String) (count : Nat) : Prop :=
  ∃ digits, Spells (units.getD "").toList digits ∧ digits.length = count ∧ Number.maxDigits < count

theorem read_tooManyDigits_iff {count : Nat} :
    AllocationUnit.read units = .error (.number (.tooManyDigits count)) ↔ TooLong units count := by
  unfold AllocationUnit.read TooLong
  simp only [← exponentDigits?_iff]
  cases exponentDigits? (units.getD "").toList with
  | none => simp
  | some digits =>
    simp only [Option.some.injEq, exists_eq_left']
    split
    · next long =>
      constructor
      · intro h
        cases h
        exact ⟨rfl, long⟩
      · rintro ⟨rfl, -⟩
        rfl
    · next short =>
      constructor
      · intro h
        split at h <;> cases h
      · rintro ⟨rfl, long⟩
        exact absurd long short

end OvfInspect.AllocationUnit
