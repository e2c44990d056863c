import OvfInspect.Proofs.DiskJoin
import OvfInspect.Proofs.UnitTexts

/-!
# Converting amounts

An amount of units is a number of bytes, which is counted in whole gibibytes or mebibytes. `amounts_converted`
says how the two counts come from the bytes and what that makes of larger amounts and other units.
-/

namespace OvfInspect

open Text Number

/-- The number, but one in place of a zero that stands for a positive amount. -/
def atLeastOne (amount whole : Nat) : Nat :=
  if whole = 0 ∧ 0 < amount then 1 else whole

/-- The bytes of an amount of units. -/
def byteCount (n : Nat) (unit : AllocationUnit) : Nat :=
  n * 2 ^ unit.exponent

/-- The text is the number in decimal with white space around it. -/
def WritesPadded (s : String) (n : Nat) : Prop :=
  ∃ before after : String, s = before ++ n.repr ++ after ∧
    ∀ c ∈ before.toList ++ after.toList, isPadding c = true

/-! ### Counting in larger units -/

theorem atLeastOne_eq_zero_iff {n whole : Nat} (none : n = 0 → whole = 0) : atLeastOne n whole = 0 ↔ n = 0 := by
  unfold atLeastOne
  split <;> omega

theorem atLeastOne_mono {n n' whole whole' : Nat} (more : n ≤ n') (wholes : whole ≤ whole') :
    atLeastOne n whole ≤ atLeastOne n' whole' := by
  unfold atLeastOne
  split <;> split <;> omega

theorem atLeastOne_of_pos {n whole : Nat} (pos : 0 < n → 0 < whole) : atLeastOne n whole = whole := by
  unfold atLeastOne
  rw [if_neg]
  rintro ⟨rfl, amount⟩
  exact absurd (pos amount) (by decide)

/-- A count of whole parts leaves out less than one part, and exceeds the amount only where it is one in
place of zero. -/
theorem atLeastOne_div_bounds (n : Nat) {bytes part : Nat} (positive : 0 < part) :
    (atLeastOne n (bytes / part) * part ≤ bytes ∨
      atLeastOne n (bytes / part) = 1 ∧ 0 < n ∧ bytes < part) ∧
    bytes < (atLeastOne n (bytes / part) + 1) * part := by
  have floor : bytes / part * part ≤ bytes := Nat.div_mul_le_self bytes part
  have next : bytes < (bytes / part + 1) * part := by
    rw [Nat.mul_comm]
    exact Nat.lt_mul_div_succ bytes positive
  unfold atLeastOne
  split
  · next raised =>
    have small : bytes < part := (Nat.div_eq_zero_iff_lt positive).1 raised.1
    exact ⟨.inr ⟨rfl, raised.2, small⟩, by omega⟩
  · exact ⟨.inl floor, next⟩

/-- Scaling by a power of two, up or down, counts the bytes in parts of another power of two. -/
theorem result_scaled_sub (n a b : Nat) :
    (scaled n ((a : Int) - b)).result = .ok (atLeastOne n (n * 2 ^ a / 2 ^ b)) := by
  unfold scaled
  split
  · next up =>
    obtain ⟨k, rfl⟩ : ∃ k, a = k + b := ⟨a - b, by omega⟩
    have shift : ((k + b : Nat) - (b : Int)).toNat = k := by omega
    have whole : n * 2 ^ (k + b) / 2 ^ b = n * 2 ^ k := by
      rw [Nat.pow_add, ← Nat.mul_assoc, Nat.mul_div_cancel _ (Nat.two_pow_pos b)]
    have kept : atLeastOne n (n * 2 ^ k) = n * 2 ^ k :=
      atLeastOne_of_pos fun positive => Nat.mul_pos positive (Nat.two_pow_pos k)
    rw [shift, whole, kept, Nat.shiftLeft_eq]
    rfl
  · next down =>
    obtain ⟨k, rfl⟩ : ∃ k, b = a + k := ⟨b - a, by omega⟩
    have shift : (-((a : Int) - (a + k : Nat))).toNat = k := by omega
    have whole : n * 2 ^ a / 2 ^ (a + k) = n / 2 ^ k := by
      rw [Nat.pow_add, Nat.mul_comm n, Nat.mul_div_mul_left _ _ (Nat.two_pow_pos a)]
    rw [shift, whole, Nat.shiftRight_eq_div_pow]
    unfold atLeastOne
    dsimp only
    split <;> rfl

variable {n m : Nat} {s : String} {units : Option String} {unit larger : AllocationUnit}

theorem exponent_bounds (unit : AllocationUnit) : 20 ≤ unit.exponent ∧ unit.exponent ≤ 40 := by
  cases unit <;> decide

theorem byteCount_mono (more : n ≤ m) (units : unit.exponent ≤ larger.exponent) :
    byteCount n unit ≤ byteCount m larger :=
  Nat.mul_le_mul more (Nat.pow_le_pow_right (by decide) units)

/-- So many units are as many bytes as 1024 times that number of the next smaller unit. -/
theorem byteCount_smaller (next : unit.exponent + 10 = larger.exponent) :
    byteCount (1024 * n) unit = byteCount n larger := by
  unfold byteCount
  rw [← next, Nat.pow_add, Nat.mul_comm 1024 n, Nat.mul_assoc, Nat.mul_comm 1024]

theorem mebibytes_of_bytes (n : Nat) (unit : AllocationUnit) :
    n * 2 ^ (unit.exponent - 20) * 2 ^ 20 = byteCount n unit := by
  rw [Nat.mul_assoc, ← Nat.pow_add, Nat.sub_add_cancel (exponent_bounds unit).1]
  rfl

theorem mebibytes_div (n : Nat) (unit : AllocationUnit) :
    n * 2 ^ (unit.exponent - 20) / 1024 = byteCount n unit / 2 ^ 30 := by
  rw [← mebibytes_of_bytes, show 2 ^ 30 = 1024 * 2 ^ 20 by decide,
    Nat.mul_div_mul_right _ _ (Nat.two_pow_pos 20)]

/-! ### Amounts in texts and numbers -/

theorem readNatural_of_writesPadded (small : n < 10 ^ maxDigits) (writes : WritesPadded s n) :
    readNatural s = .ok n := by
  obtain ⟨before, after, rfl, padding⟩ := writes
  obtain ⟨digits, value⟩ := toDigits_isDigit n
  refine readNatural_ok_iff.2 ⟨before.toList, Nat.toDigits 10 n, after.toList, ?_, padding,
    Nat.toDigits_ne_nil, digits, ?_, value.symm⟩
  · rw [String.toList_append, String.toList_append, Nat.toList_repr]
  · exact (Nat.length_toDigits_le_iff (by decide) (by decide)).2 small

theorem natural_text (small : n < 10 ^ maxDigits) (writes : WritesPadded s n) :
    (Amount.text s).natural = .ok n := by
  rw [Amount.natural, readNatural_of_writesPadded small writes]
  rfl

theorem natural_natCast (small : n < 10 ^ maxDigits) : (Amount.number n).natural = .ok n :=
  Amount.natural_number (writable_natCast small) (Int.natCast_nonneg n)

theorem result_inUnitsOf {amount : Amount} (base : Nat) (counted : amount.natural = .ok n)
    (accepted : AllocationUnit.read units = .ok unit) :
    (amount.inUnitsOf base units).result = .ok (atLeastOne n (byteCount n unit / 2 ^ base)) := by
  unfold Amount.inUnitsOf Amount.counted
  rw [counted, accepted]
  exact result_scaled_sub n unit.exponent base

theorem capacityInGb_ok (small : n < 10 ^ maxDigits) (writes : WritesPadded s n)
    (accepted : AllocationUnit.read units = .ok unit) :
    (capacityInGb (.text s) units).result = .ok (atLeastOne n (byteCount n unit / 2 ^ 30)) :=
  result_inUnitsOf 30 (natural_text small writes) accepted

theorem quantityInMb_ok (small : n < 10 ^ maxDigits) (accepted : AllocationUnit.read units = .ok unit) :
    (quantityInMb (.number n) units).result = .ok (n * 2 ^ (unit.exponent - 20)) := by
  have whole : byteCount n unit / 2 ^ 20 = n * 2 ^ (unit.exponent - 20) := by
    rw [← mebibytes_of_bytes, Nat.mul_div_cancel _ (Nat.two_pow_pos 20)]
  have kept : atLeastOne n (n * 2 ^ (unit.exponent - 20)) = n * 2 ^ (unit.exponent - 20) :=
    atLeastOne_of_pos fun positive => Nat.mul_pos positive (Nat.two_pow_pos _)
  have converted := result_inUnitsOf 20 (natural_natCast small) accepted
  rwa [whole, kept] at converted

/-! ### Capacities and quantities -/

/-- How the gibibytes of a capacity and the mebibytes of a quantity count the same number of units. -/
structure Counted (n : Nat) (unit : AllocationUnit) (gibibytes mebibytes : Nat) : Prop where
  gibibytes_eq : gibibytes = atLeastOne n (n * 2 ^ unit.exponent / 2 ^ 30)
  mebibytes_eq : mebibytes = n * 2 ^ (unit.exponent - 20)
  zero_iff : gibibytes = 0 ↔ n = 0
  /-- Only one gibibyte in place of a part of one is more than the bytes. -/
  within : gibibytes * 2 ^ 30 ≤ n * 2 ^ unit.exponent ∨
    gibibytes = 1 ∧ 0 < n ∧ n * 2 ^ unit.exponent < 2 ^ 30
  short : n * 2 ^ unit.exponent < (gibibytes + 1) * 2 ^ 30
  alike : gibibytes = atLeastOne n (mebibytes / 1024)

theorem counted_bytes (n : Nat) (unit : AllocationUnit) :
    Counted n unit (atLeastOne n (byteCount n unit / 2 ^ 30)) (n * 2 ^ (unit.exponent - 20)) := by
  obtain ⟨within, short⟩ := @atLeastOne_div_bounds n (byteCount n unit) (2 ^ 30) (Nat.two_pow_pos 30)
  refine ⟨rfl, rfl, ?_, within, short, by rw [mebibytes_div]⟩
  apply atLeastOne_eq_zero_iff
  rintro rfl
  rw [byteCount, Nat.zero_mul, Nat.zero_div]

/-- An amount is converted to whole gibibytes, but at least one if it is not zero, and to all its mebibytes.
The gibibytes grow with number and unit, and are the same for 1024 times the number of the next smaller
unit. -/
theorem amounts_converted (small : n < 10 ^ maxDigits) (writes : WritesPadded s n)
    (accepted : AllocationUnit.read units = .ok unit) :
    ∃ gibibytes mebibytes : Nat,
      (capacityInGb (.text s) units).result = .ok gibibytes ∧
      (quantityInMb (.number n) units).result = .ok mebibytes ∧
      Counted n unit gibibytes mebibytes ∧
      (∀ m t units' larger, m < 10 ^ maxDigits → WritesPadded t m →
        AllocationUnit.read units' = .ok larger → n ≤ m → unit.exponent ≤ larger.exponent →
        ∃ more, (capacityInGb (.text t) units').result = .ok more ∧ gibibytes ≤ more) ∧
      (∀ t units' smaller, 1024 * n < 10 ^ maxDigits → WritesPadded t (1024 * n) →
        AllocationUnit.read units' = .ok smaller → smaller.exponent + 10 = unit.exponent →
        (capacityInGb (.text t) units').result = .ok gibibytes) := by
  refine ⟨_, _, capacityInGb_ok small writes accepted, quantityInMb_ok small accepted, counted_bytes n unit, ?_, ?_⟩
  · intro m t units' larger smallToo writesToo acceptedToo more exponents
    refine ⟨_, capacityInGb_ok smallToo writesToo acceptedToo, atLeastOne_mono more ?_⟩
    exact Nat.div_le_div_right (byteCount_mono more exponents)
  · intro t units' smaller smallToo writesToo acceptedToo next
    have same : atLeastOne (1024 * n) (byteCount n unit / 2 ^ 30) = atLeastOne n (byteCount n unit / 2 ^ 30) := by
      simp only [atLeastOne, Nat.mul_pos_iff_of_pos_left (show 0 < 1024 by decide)]
    rw [capacityInGb_ok smallToo writesToo acceptedToo, byteCount_smaller next, same]

/-- Three gibibytes are as much as 3072 mebibytes, and five mebibytes are one gibibyte when rounded up. -/
theorem amounts_converted_raised :
    WritesPadded " 3\n" 3 ∧ WritesPadded "3072" 3072 ∧ WritesPadded "\t5" 5 ∧
    (capacityInGb (.text " 3\n") (some "BYTE * 2^30")).result = .ok 3 ∧
    (quantityInMb (.number 3) (some "BYTE * 2^30")).result = .ok 3072 ∧
    (capacityInGb (.text "3072") (some "byte*2^020")).result = .ok 3 ∧
    (capacityInGb (.text "\t5") (some "byte*2^020")).result = .ok 1 ∧
    (quantityInMb (.number 5) (some "byte*2^020")).result = .ok 5 := by
  have three : WritesPadded " 3\n" 3 := ⟨" ", "\n", by decide, List.all_eq_true.1 (by decide +kernel)⟩
  have many : WritesPadded "3072" 3072 := ⟨"", "", by decide, List.all_eq_true.1 (by decide +kernel)⟩
  have five : WritesPadded "\t5" 5 := ⟨"\t", "", by decide, List.all_eq_true.1 (by decide +kernel)⟩
  have gibibyte : AllocationUnit.read (some "BYTE * 2^30") = .ok .gibibyte :=
    toOption_eq_some_iff.1 (by decide +kernel)
  have mebibyte : AllocationUnit.read (some "byte*2^020") = .ok .mebibyte :=
    toOption_eq_some_iff.1 (by decide +kernel)
  obtain ⟨_, _, capacity, quantity, ⟨rfl, rfl, -⟩, -, smaller⟩ :=
    amounts_converted (by decide +kernel) three gibibyte
  obtain ⟨_, _, capacity', quantity', ⟨rfl, rfl, -⟩, -⟩ :=
    amounts_converted (by decide +kernel) five mebibyte
  exact ⟨three, many, five, capacity, quantity, smaller _ _ _ (by decide +kernel) many mebibyte rfl, capacity',
    quantity'⟩

end OvfInspect
