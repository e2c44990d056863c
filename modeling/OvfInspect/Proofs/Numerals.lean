import Mathlib.Algebra.Group.Nat.Defs
import Mathlib.Data.List.Induction
import Mathlib.Data.List.TakeWhile
import OvfInspect.Number.Natural
import OvfInspect.Proofs.Traversal

/-!
# Numerals

A numeral is a run of digits with white space around it. `readNatural_ok_iff` shows that just the
numerals are read, each as the number that its digits write, and `readNatural_repr` that every number
of at most `maxDigits` digits is read back from its decimal text.
-/

namespace OvfInspect

open Text Number

/-- The text writes the number in a run of digits, which are not too many, between white space. -/
def Writes (s : String) (n : Nat) : Prop :=
  ∃ before digits after, s.toList = before ++ digits ++ after ∧
    (∀ c ∈ before ++ after, isPadding c = true) ∧ digits ≠ [] ∧ (∀ c ∈ digits, isDigit c = true) ∧
    digits.length ≤ maxDigits ∧ n = digitsValue digits

/-! ### Blanks and digits -/

theorem isBlank_of_isPadding {c : Char} (h : isPadding c = true) : isBlank c = true :=
  ((Bool.and_eq_true _ _).mp h).1

/-- The code points of blanks, which are white space in every field. -/
def blankCode (n : Nat) : Bool :=
  (9 ≤ n && n ≤ 13) || (28 ≤ n && n ≤ 32) || n == 0x85 || n == 0xA0 || n == 0x1680 ||
    (0x2000 ≤ n && n ≤ 0x200A) || n == 0x2028 || n == 0x2029 || n == 0x202F || n == 0x205F ||
    n == 0x3000

theorem blankCode_zeroDigits :
    ∀ base ∈ zeroDigits, ∀ k ∈ List.range 10, blankCode (base + k) = false := by
  decide +kernel

theorem not_isBlank_of_isDigit {c : Char} (h : isDigit c = true) : isBlank c = false := by
  obtain ⟨n, value⟩ := Option.isSome_iff_exists.1 h
  obtain ⟨base, found, -⟩ := Option.map_eq_some_iff.1 value
  have bounds := List.find?_some found
  simp only [Bool.and_eq_true, decide_eq_true_eq] at bounds
  have code := blankCode_zeroDigits base (List.mem_of_find?_eq_some found) (c.toNat - base)
    (List.mem_range.2 (by omega))
  rw [show base + (c.toNat - base) = c.toNat by omega] at code
  exact code

theorem not_isDigit_of_isBlank {c : Char} (h : isBlank c = true) : isDigit c = false := by
  cases digit : isDigit c with
  | false => rfl
  | true => rw [not_isBlank_of_isDigit digit] at h; cases h

/-! ### Trimming -/

variable {p : Char → Bool} {before middle after cs : List Char}

theorem dropEndWhile_append (h : ∀ c ∈ after, p c = true) :
    dropEndWhile p (middle ++ after) = dropEndWhile p middle := by
  unfold dropEndWhile
  rw [List.reverse_append, List.dropWhile_append_of_pos]
  intro c hc
  exact h c (List.mem_reverse.1 hc)

theorem trimBy_append (hbefore : ∀ c ∈ before, p c = true) (hafter : ∀ c ∈ after, p c = true)
    (first : ∀ c ∈ middle.head?, p c = false) (last : ∀ c ∈ middle.getLast?, p c = false) :
    trimBy p (before ++ middle ++ after) = middle := by
  unfold trimBy
  rw [List.append_assoc, List.dropWhile_append_of_pos hbefore]
  cases middle with
  | nil =>
    rw [List.nil_append, List.dropWhile_eq_nil_iff.2 hafter]
    rfl
  | cons c middle =>
    rw [dropWhile_eq_self (by simpa using first), dropEndWhile_append hafter,
      dropEndWhile_eq_self last]

theorem exists_trimBy (p : Char → Bool) (cs : List Char) :
    ∃ before after, cs = before ++ trimBy p cs ++ after ∧ (∀ c ∈ before, p c = true) ∧
      ∀ c ∈ after, p c = true := by
  refine ⟨cs.takeWhile p, ((cs.dropWhile p).reverse.takeWhile p).reverse, ?_, ?_, ?_⟩
  · unfold trimBy dropEndWhile
    rw [List.append_assoc, ← List.reverse_append, List.takeWhile_append_dropWhile,
      List.reverse_reverse, List.takeWhile_append_dropWhile]
  · exact fun c hc => List.mem_takeWhile_imp hc
  · exact fun c hc => List.mem_takeWhile_imp (List.mem_reverse.1 hc)

theorem trimBy_eq_nil_iff : trimBy p cs = [] ↔ ∀ c ∈ cs, p c = true := by
  constructor
  · intro h
    obtain ⟨before, after, shape, hbefore, hafter⟩ := exists_trimBy p cs
    rw [h, List.append_nil] at shape
    rw [shape]
    exact fun c hc => (List.mem_append.1 hc).elim (hbefore c) (hafter c)
  · intro h
    have trimmed : trimBy p (cs ++ [] ++ []) = [] :=
      trimBy_append h (by simp) (by simp) (by simp)
    simpa using trimmed

/-! ### Reading numerals -/

theorem paddedDigits?_iff {digits : List Char} : paddedDigits? cs = some digits ↔
    digits ≠ [] ∧ (∀ c ∈ digits, isDigit c = true) ∧
      ∃ before after, cs = before ++ digits ++ after ∧ ∀ c ∈ before ++ after, isBlank c = true := by
  unfold paddedDigits?
  dsimp only
  constructor
  · intro h
    split at h
    · next shape =>
      obtain rfl := Option.some.inj h
      obtain ⟨before, after, hcs, hbefore, hafter⟩ := exists_trimBy isBlank cs
      exact ⟨shape.1, List.all_eq_true.1 shape.2, before, after, hcs,
        fun c hc => (List.mem_append.1 hc).elim (hbefore c) (hafter c)⟩
    · cases h
  · rintro ⟨nonempty, allDigits, before, after, rfl, blanks⟩
    have notBlank : ∀ c ∈ digits, isBlank c = false :=
      fun c hc => not_isBlank_of_isDigit (allDigits c hc)
    have trimmed : trimBy isBlank (before ++ digits ++ after) = digits :=
      trimBy_append (fun c hc => blanks c (List.mem_append_left _ hc))
        (fun c hc => blanks c (List.mem_append_right _ hc))
        (fun c hc => notBlank c (List.mem_of_head? hc))
        (fun c hc => notBlank c (List.mem_of_getLast? hc))
    rw [trimmed, if_pos ⟨nonempty, List.all_eq_true.2 allDigits⟩]

/-- A search for the first digit passes over padding only, not over the other blanks. -/
theorem head_isDigit_iff {d : Char} {rest : List Char} (digit : isDigit d = true)
    (blanks : ∀ c ∈ before, isBlank c = true) :
    ((before ++ d :: rest).dropWhile isPadding).head?.any isDigit = true ↔
      ∀ c ∈ before, isPadding c = true := by
  induction before with
  | nil =>
    have notPadding : isPadding d ≠ true := by
      intro padding
      have notBlank := not_isBlank_of_isDigit digit
      rw [isBlank_of_isPadding padding] at notBlank
      cases notBlank
    simp [List.dropWhile_cons_of_neg notPadding, digit]
  | cons c before ih =>
    obtain ⟨blank, blanks⟩ := List.forall_mem_cons.1 blanks
    by_cases padding : isPadding c = true
    · rw [List.cons_append, List.dropWhile_cons_of_pos padding, ih blanks]
      simp [padding]
    · rw [List.cons_append, List.dropWhile_cons_of_neg padding]
      simp [padding, not_isDigit_of_isBlank blank]

theorem getLast_isDigit_iff {d : Char} {rest : List Char} (digit : isDigit d = true)
    (blanks : ∀ c ∈ after, isBlank c = true) :
    (dropEndWhile isPadding (rest ++ [d] ++ after)).getLast?.any isDigit = true ↔
      ∀ c ∈ after, isPadding c = true := by
  have search : ((after.reverse ++ d :: rest.reverse).dropWhile isPadding).head?.any isDigit = true ↔
      ∀ c ∈ after.reverse, isPadding c = true :=
    head_isDigit_iff digit fun c hc => blanks c (List.mem_reverse.1 hc)
  rw [dropEndWhile, List.getLast?_reverse]
  simpa using search

/-- The two searches of `readNatural` show the blanks around the digits to be padding. -/
theorem searches_iff {digits : List Char} (nonempty : digits ≠ [])
    (allDigits : ∀ c ∈ digits, isDigit c = true) (blanks : ∀ c ∈ before ++ after, isBlank c = true) :
    (((before ++ digits ++ after).dropWhile isPadding).head?.any isDigit = true ∧
      (dropEndWhile isPadding (before ++ digits ++ after)).getLast?.any isDigit = true) ↔
      ∀ c ∈ before ++ after, isPadding c = true := by
  obtain ⟨blanksBefore, blanksAfter⟩ := List.forall_mem_append.1 blanks
  rw [List.forall_mem_append]
  refine and_congr ?_ ?_
  · obtain ⟨d, rest, rfl⟩ := List.exists_cons_of_ne_nil nonempty
    rw [List.append_assoc]
    exact head_isDigit_iff (allDigits d List.mem_cons_self) blanksBefore
  · obtain rfl | ⟨rest, d, rfl⟩ := digits.eq_nil_or_concat'
    · exact absurd rfl nonempty
    · rw [← List.append_assoc]
      exact getLast_isDigit_iff (allDigits d (by simp)) blanksAfter

/-- The numerals are read, each as the number that its digits write, and nothing else is. -/
theorem readNatural_ok_iff {s : String} {n : Nat} : readNatural s = .ok n ↔ Writes s n := by
  unfold readNatural Writes
  constructor
  · intro h
    split at h
    · cases h
    · next digits found =>
      obtain ⟨nonempty, allDigits, before, after, shape, blanks⟩ := paddedDigits?_iff.1 found
      split at h
      · cases h
      · next first =>
        split at h
        · cases h
        · next short =>
          split at h
          · cases h
          · next last =>
            simp only [Bool.not_eq_true, Bool.not_eq_false'] at first last
            rw [shape] at first last
            exact ⟨before, digits, after, shape,
              (searches_iff nonempty allDigits blanks).1 ⟨first, last⟩, nonempty, allDigits,
              Nat.le_of_not_lt short, (Except.ok.inj h).symm⟩
  · rintro ⟨before, digits, after, shape, padding, nonempty, allDigits, short, rfl⟩
    have blanks : ∀ c ∈ before ++ after, isBlank c = true :=
      fun c hc => isBlank_of_isPadding (padding c hc)
    obtain ⟨first, last⟩ := (searches_iff nonempty allDigits blanks).2 padding
    rw [paddedDigits?_iff.2 ⟨nonempty, allDigits, before, after, shape, blanks⟩, shape]
    dsimp only
    rw [first, last, if_neg (by decide), if_neg (by omega), if_neg (by decide)]

/-! ### Numbers with few digits -/

theorem digitsValue_lt (ds : List Char) : digitsValue ds < 10 ^ ds.length := by
  induction ds using List.reverseRecOn with
  | nil => exact Nat.one_pos
  | append_singleton ds d ih =>
    have digit : (digitValue? d).getD 0 < 10 := by
      cases value : digitValue? d with
      | none => decide
      | some n => exact digitValue?_lt_ten value
    have last : digitsValue (ds ++ [d]) = 10 * digitsValue ds + (digitValue? d).getD 0 := by
      rw [digitsValue, digitsValue, List.foldl_append]
      rfl
    rw [last, List.length_append, List.length_singleton, Nat.pow_succ]
    omega

theorem writable_natCast {n : Nat} (small : n < 10 ^ maxDigits) : writable n = true := by
  unfold writable
  rw [Int.natAbs_natCast, Nat.pow_eq, decide_eq_true small]

theorem writable_of_readNatural {s : String} {n : Nat} (isRead : readNatural s = .ok n) :
    writable n = true := by
  obtain ⟨_, digits, _, -, -, -, -, short, rfl⟩ := readNatural_ok_iff.1 isRead
  exact writable_natCast ((digitsValue_lt digits).trans_le (Nat.pow_le_pow_right (by decide) short))

/-! ### Decimal text -/

theorem digitValue?_digitChar : ∀ d < 10, digitValue? (Nat.digitChar d) = some d := by
  decide +kernel

theorem digitsValue_append_digitChar (cs : List Char) {d : Nat} (h : d < 10) :
    digitsValue (cs ++ [Nat.digitChar d]) = 10 * digitsValue cs + d := by
  simp only [digitsValue, List.foldl_append, List.foldl_cons, List.foldl_nil,
    digitValue?_digitChar d h, Option.getD_some]

theorem toDigits_isDigit (n : Nat) :
    (∀ c ∈ Nat.toDigits 10 n, isDigit c = true) ∧ digitsValue (Nat.toDigits 10 n) = n := by
  induction n using Nat.strongRecOn with
  | ind n ih =>
    have isDigit_digitChar {d : Nat} (h : d < 10) : isDigit (Nat.digitChar d) = true := by
      rw [isDigit, digitValue?_digitChar d h, Option.isSome_some]
    by_cases small : n < 10
    · rw [Nat.toDigits_of_lt_base small]
      refine ⟨by simpa using isDigit_digitChar small, ?_⟩
      simpa [digitsValue] using digitsValue_append_digitChar [] small
    · obtain ⟨digits, value⟩ := ih (n / 10) (by omega)
      have last : n % 10 < 10 := Nat.mod_lt n (by decide)
      rw [Nat.toDigits_of_base_le (by decide) (by omega)]
      refine ⟨?_, ?_⟩
      · rw [List.forall_mem_append]
        exact ⟨digits, by simpa using isDigit_digitChar last⟩
      · rw [digitsValue_append_digitChar _ last, value, Nat.div_add_mod]

theorem digitsValue_zeros {zeros : List Char} (zero : ∀ c ∈ zeros, digitValue? c = some 0)
    (digits : List Char) : digitsValue (zeros ++ digits) = digitsValue digits := by
  unfold digitsValue
  rw [List.foldl_append]
  congr 1
  induction zeros with
  | nil => rfl
  | cons c zeros ih =>
    obtain ⟨first, rest⟩ := List.forall_mem_cons.1 zero
    rw [List.foldl_cons, first]
    exact ih rest

theorem readNatural_repr {n : Nat} (h : n < 10 ^ maxDigits) : readNatural n.repr = .ok n := by
  obtain ⟨digits, value⟩ := toDigits_isDigit n
  refine readNatural_ok_iff.2 ⟨[], Nat.toDigits 10 n, [], ?_, ?_, Nat.toDigits_ne_nil, digits, ?_,
    value.symm⟩
  · rw [Nat.toList_repr, List.nil_append, List.append_nil]
  · intro c hc
    cases hc
  · exact (Nat.length_toDigits_le_iff (by decide) (by decide)).2 h

end OvfInspect
