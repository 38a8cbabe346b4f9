/-!
Canonical prefix codes. A code is given by how many codewords there are of each length and by the
symbols in codeword order; codewords of one length are consecutive numbers, and each length starts
where the one before it left off.
-/

namespace Raster.Backend

structure PrefixCode where
  counts : List Nat
  symbols : Array Nat

namespace PrefixCode

/--
Reads one bit after another until they make up a codeword: `code` holds the bits so far, `first`
the first codeword of the length at hand, and `index` the number of shorter codewords.
-/
def search (symbols : Array Nat) (bit : Nat → Nat) :
    List Nat → Nat → Nat → Nat → Nat → Option (Nat × Nat)
  | [], _, _, _, _ => none
  | count :: longer, length, code, first, index =>
      let code := code + bit length
      if code < first + count then
        (symbols[index + (code - first)]?).map fun symbol => (symbol, length + 1)
      else search symbols bit longer (length + 1) (2 * code) (2 * (first + count)) (index + count)

def lookup? (code : PrefixCode) (bit : Nat → Nat) : Option (Nat × Nat) :=
  search code.symbols bit code.counts 0 0 0 0

def spare? : List Nat → Nat → Option Nat
  | [], spare => some spare
  | count :: longer, spare =>
      if count ≤ 2 * spare then spare? longer (2 * spare - count) else none

def fits (counts : List Nat) : Bool := (spare? counts 1).isSome

def isComplete (counts : List Nat) : Bool := spare? counts 1 == some 0

def symbolsOfLength (lengths : Array Nat) (length : Nat) : Array Nat :=
  (Array.range lengths.size).filter fun symbol => lengths[symbol]? == some length

def ofLengths (longest : Nat) (lengths : Array Nat) : PrefixCode where
  counts := (List.range longest).map fun shorter => (symbolsOfLength lengths (shorter + 1)).size
  symbols := (Array.range longest).flatMap fun shorter => symbolsOfLength lengths (shorter + 1)

end PrefixCode

end Raster.Backend
