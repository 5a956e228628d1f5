/-
Bitwise operators on integers of any size, read in infinite two's complement: a negative number `-(n + 1)` is the
complement of `n`.
-/

namespace Treewalk.Bits

/-- The bits of `m` that are not bits of `n`. -/
def without (m n : Nat) : Nat := m ^^^ (m &&& n)

def complement : Int → Int
  | .ofNat n => .negSucc n
  | .negSucc n => .ofNat n

def and : Int → Int → Int
  | .ofNat m, .ofNat n => .ofNat (m &&& n)
  | .ofNat m, .negSucc n => .ofNat (without m n)
  | .negSucc m, .ofNat n => .ofNat (without n m)
  | .negSucc m, .negSucc n => .negSucc (m ||| n)

def or : Int → Int → Int
  | .ofNat m, .ofNat n => .ofNat (m ||| n)
  | .ofNat m, .negSucc n => .negSucc (without n m)
  | .negSucc m, .ofNat n => .negSucc (without m n)
  | .negSucc m, .negSucc n => .negSucc (m &&& n)

def xor : Int → Int → Int
  | .ofNat m, .ofNat n => .ofNat (m ^^^ n)
  | .ofNat m, .negSucc n => .negSucc (m ^^^ n)
  | .negSucc m, .ofNat n => .negSucc (m ^^^ n)
  | .negSucc m, .negSucc n => .ofNat (m ^^^ n)

/-- `n · 2 ^ count`. -/
def shiftLeft (n : Int) (count : Nat) : Int := n <<< count

/-- The floor of `n / 2 ^ count`; past the length of `n` only its sign is left. -/
def shiftRight (n : Int) (count : Nat) : Int :=
  if n.natAbs.log2 < count then (if n < 0 then -1 else 0) else n >>> count

end Treewalk.Bits
