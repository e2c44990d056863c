/-!
# Decimal digits

The decimal digits of all scripts and their values. Each script's digits are ten consecutive
characters, so the table holds the zeros only.
-/

namespace OvfInspect.Text

/-- The code points of the zeros of all decimal digit systems, in increasing order. -/
def zeroDigits : List Nat :=
  [48, 1632, 1776, 1984, 2406, 2534, 2662, 2790, 2918, 3046, 3174, 3302, 3430, 3558, 3664, 3792,
   3872, 4160, 4240, 6112, 6160, 6470, 6608, 6784, 6800, 6992, 7088, 7232, 7248, 42528, 43216,
   43264, 43472, 43504, 43600, 44016, 65296, 66720, 68912, 69734, 69872, 69942, 70096, 70384,
   70736, 70864, 71248, 71360, 71472, 71904, 72016, 72784, 73040, 73120, 92768, 92864, 93008,
   120782, 120792, 120802, 120812, 120822, 123200, 123632, 125264, 130032]

def digitValue? (c : Char) : Option Nat :=
  (zeroDigits.find? fun base => base ≤ c.toNat && c.toNat < base + 10).map (c.toNat - ·)

def isDigit (c : Char) : Bool :=
  (digitValue? c).isSome

def digitsValue (ds : List Char) : Nat :=
  ds.foldl (fun n d => 10 * n + (digitValue? d).getD 0) 0

theorem digitValue?_lt_ten {c : Char} {n : Nat} (h : digitValue? c = some n) : n < 10 := by
  obtain ⟨base, found, rfl⟩ := Option.map_eq_some_iff.1 h
  have bounds := List.find?_some found
  simp only [Bool.and_eq_true, decide_eq_true_eq] at bounds
  omega

end OvfInspect.Text
