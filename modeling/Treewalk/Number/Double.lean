/-
Binary64 numbers as exact data. A finite number is a sign, a significand and a power of two; arithmetic is carried out
exactly on integers and rounded once, to the nearest representable number with ties to even.
-/

namespace Treewalk

namespace Double

/-- The exponent of the subnormal numbers and of zero. -/
def leastExponent : Int := -1074

/-- The exponent of the largest finite numbers. -/
def greatestExponent : Int := 971

/-- `2 ^ 52`, the weight of the leading bit of a full significand. -/
def leadingBit : Nat := 0x10000000000000

/-- A significand of at most 53 bits, and of exactly 53 above the least exponent. -/
structure Shaped (m : Nat) (e : Int) : Prop where
  lt : m < 2 * leadingBit
  least : leastExponent ≤ e
  full : leadingBit ≤ m ∨ e = leastExponent

/-- The shape of a finite number, whose exponent is bounded on both sides. -/
structure Canonical (m : Nat) (e : Int) : Prop extends Shaped m e where
  greatest : e ≤ greatestExponent

instance (m : Nat) (e : Int) : Decidable (Canonical m e) :=
  decidable_of_iff ((m < 2 * leadingBit ∧ leastExponent ≤ e ∧ (leadingBit ≤ m ∨ e = leastExponent)) ∧
      e ≤ greatestExponent)
    ⟨fun h => ⟨⟨h.1.1, h.1.2.1, h.1.2.2⟩, h.2⟩, fun h => ⟨⟨h.lt, h.least, h.full⟩, h.greatest⟩⟩

end Double

/-- A binary64 number: not-a-number, a signed infinity, or `± significand · 2 ^ exponent` in the one way that has the
shape. -/
inductive Double where
  | nan
  | infinite (negative : Bool)
  | finite (negative : Bool) (significand : Nat) (exponent : Int) (canonical : Double.Canonical significand exponent)
deriving DecidableEq, Inhabited

namespace Double

/-! ## Parts -/

def zero (negative : Bool) : Double := .finite negative 0 leastExponent (by decide)

def one : Double := .finite false leadingBit (-52) (by decide)

def two : Double := .finite false leadingBit (-51) (by decide)

def isFinite : Double → Bool
  | .finite .. => true
  | _ => false

def isNaN : Double → Bool
  | .nan => true
  | _ => false

def isZero : Double → Bool
  | .finite _ 0 .. => true
  | _ => false

/-- The sign bit; a not-a-number has none. -/
def isNegative : Double → Bool
  | .nan => false
  | .infinite negative => negative
  | .finite negative .. => negative

def neg : Double → Double
  | .nan => .nan
  | .infinite negative => .infinite (!negative)
  | .finite negative m e h => .finite (!negative) m e h

def abs : Double → Double
  | .nan => .nan
  | .infinite _ => .infinite false
  | .finite _ m e h => .finite false m e h

/-! ## Rounding -/

/-- The integer nearest to `num / den`, ties to even. -/
def halfEven (num den : Nat) : Nat :=
  let quotient := num / den
  let rest := num % den
  if den < 2 * rest ∨ (2 * rest = den ∧ quotient % 2 = 1) then quotient + 1 else quotient

/-- Whether `2 ^ k ≤ num / den`. -/
def atLeastPow (num den : Nat) (k : Int) : Bool :=
  if 0 ≤ k then decide (den <<< k.toNat ≤ num) else decide (den ≤ num <<< (-k).toNat)

/-- The largest `k` with `2 ^ k ≤ num / den`, for positive arguments. -/
def floorLog2 (num den : Nat) : Int :=
  let k : Int := (num.log2 : Int) - (den.log2 : Int)
  if atLeastPow num den k then k else k - 1

/-- The number of a rounded significand: a carry into the 54th bit moves to the next exponent, and past the greatest
exponent the number is infinite. Rounding gives no significand of another shape. -/
def ofSignificand (negative : Bool) (m : Nat) (e : Int) : Double :=
  let (m, e) := if m = 2 * leadingBit then (leadingBit, e + 1) else (m, e)
  if h : Canonical m e then .finite negative m e h else .infinite negative

/-- The number nearest to `± num / den`, for a positive `den`. -/
def ofRatio (negative : Bool) (num den : Nat) : Double :=
  if num = 0 then zero negative
  else
    let e := max (floorLog2 num den - 52) leastExponent
    let m := if 0 ≤ e then halfEven num (den <<< e.toNat) else halfEven (num <<< (-e).toNat) den
    ofSignificand negative m e

/-- The number nearest to `± m · 2 ^ e`. -/
def ofScaled (negative : Bool) (m : Nat) (e : Int) : Double :=
  if 0 ≤ e then ofRatio negative (m <<< e.toNat) 1 else ofRatio negative m (1 <<< (-e).toNat)

/-- The number nearest to an integer; `none` when that is out of the finite range. -/
def ofInt? (n : Int) : Option Double :=
  match ofRatio (decide (n < 0)) n.natAbs 1 with
  | .infinite _ => none
  | x => some x

/-! ## Arithmetic -/

/-- The signed significand of a finite number, seen at an exponent not above its own. -/
def significandAt (negative : Bool) (m : Nat) (e target : Int) : Int :=
  let size : Int := (m <<< (e - target).toNat : Nat)
  if negative then -size else size

def add : Double → Double → Double
  | .nan, _ => .nan
  | _, .nan => .nan
  | .infinite a, .infinite b => if a = b then .infinite a else .nan
  | .infinite a, .finite .. => .infinite a
  | .finite .., .infinite b => .infinite b
  | .finite a m e _, .finite b n f _ =>
    let low := min e f
    let sum := significandAt a m e low + significandAt b n f low
    ofScaled (if sum = 0 then a && b else decide (sum < 0)) sum.natAbs low

def sub (x y : Double) : Double := add x y.neg

def mul : Double → Double → Double
  | .nan, _ => .nan
  | _, .nan => .nan
  | .infinite a, .infinite b => .infinite (a != b)
  | .infinite a, .finite b n .. => if n = 0 then .nan else .infinite (a != b)
  | .finite a m .., .infinite b => if m = 0 then .nan else .infinite (a != b)
  | .finite a m e _, .finite b n f _ => ofScaled (a != b) (m * n) (e + f)

def div : Double → Double → Double
  | .nan, _ => .nan
  | _, .nan => .nan
  | .infinite _, .infinite _ => .nan
  | .infinite a, .finite b .. => .infinite (a != b)
  | .finite a .., .infinite b => zero (a != b)
  | .finite a m e _, .finite b n f _ =>
    if n = 0 then (if m = 0 then .nan else .infinite (a != b))
    else if f ≤ e then ofRatio (a != b) (m <<< (e - f).toNat) n
    else ofRatio (a != b) m (n <<< (f - e).toNat)

/-- The remainder of the division truncated toward zero; it has the sign of the dividend and is exact. -/
def truncMod : Double → Double → Double
  | .nan, _ => .nan
  | _, .nan => .nan
  | .infinite _, _ => .nan
  | x, .infinite _ => x
  | .finite a m e _, .finite _ n f _ =>
    if n = 0 then .nan
    else
      let low := min e f
      ofScaled a ((m <<< (e - low).toNat) % (n <<< (f - low).toNat)) low

/-- The remainder that has the sign of the divisor, a zero one included. -/
def floorMod (x y : Double) : Double :=
  let rest := truncMod x y
  if rest.isZero then zero y.isNegative
  else if y.isNegative != rest.isNegative then add rest y
  else rest

/-- The greatest integer not above a finite number. -/
def floor? : Double → Option Int
  | .finite negative m e _ =>
    let signed : Int := if negative then -(m : Int) else m
    some (if 0 ≤ e then signed <<< e.toNat else signed.fdiv (1 <<< (-e).toNat))
  | _ => none

/-! ## Order -/

/-- The order of two numbers; none when one of them is not a number. The two zeros are equal. -/
def compare? : Double → Double → Option Ordering
  | .nan, _ => none
  | _, .nan => none
  | .infinite a, .infinite b => some (compare b.toNat a.toNat)
  | .infinite a, .finite .. => some (if a then .lt else .gt)
  | .finite .., .infinite b => some (if b then .gt else .lt)
  | .finite a m e _, .finite b n f _ =>
    let low := min e f
    some (compare (significandAt a m e low) (significandAt b n f low))

/-- Equality of numbers, which fails on not-a-number. -/
def equal (x y : Double) : Bool := compare? x y == some .eq

def less (x y : Double) : Bool := compare? x y == some .lt

end Double

end Treewalk
