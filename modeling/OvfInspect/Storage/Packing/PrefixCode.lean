import OvfInspect.Storage.Packing.Bits

/-!
# Prefix codes

Symbols are written as codes of different lengths, of which none begins with another one. The
lengths alone say what the codes are: those of one length follow each other in the order of their
symbols, and shorter ones come first.
-/

namespace OvfInspect.Storage.Packing

/-- A prefix code: how many codes there are of each length from one bit on, and the symbols in the
order of their codes. -/
structure PrefixCode where
  counts : List Nat
  symbols : Array Nat
  deriving Repr

namespace PrefixCode

def symbolsOf (lengths : Array Nat) (length : Nat) : Array Nat :=
  (Array.range lengths.size).filter fun symbol => lengths[symbol]? = some length

def ofLengths (longest : Nat) (lengths : Array Nat) : PrefixCode where
  counts := (List.range longest).map fun n => (symbolsOf lengths (n + 1)).size
  symbols := (Array.range longest).flatMap fun n => symbolsOf lengths (n + 1)

/-- How many codes of the greatest length are left over. The number is negative if there are more
codes than fit. -/
def room (code : PrefixCode) : Int :=
  code.counts.foldl (fun (left : Int) (count : Nat) => 2 * left - count) 1

def isSingleBit (code : PrefixCode) : Bool :=
  code.counts.tail.all (· = 0)

/-- The symbol of the code that comes next, of which some bits have been read. `first` is the first
code that has their number or begins with one that has, and `index` counts the shorter codes. -/
def search (order : BitOrder) (refusal : Damage) (symbols : Array Nat) :
    (counts : List Nat) → (bits first index : Nat) → Undoing Nat
  | [], _, _, _ => throw refusal
  | count :: counts, bits, first, index => do
    let bits := 2 * bits + (← nextBit order)
    if bits < 2 * first + count then return symbols.getD (index + (bits - 2 * first)) 0
    else search order refusal symbols counts bits (2 * first + count) (index + count)

def next (code : PrefixCode) (order : BitOrder) (refusal : Damage) : Undoing Nat :=
  search order refusal code.symbols code.counts 0 0 0

end PrefixCode

end OvfInspect.Storage.Packing
