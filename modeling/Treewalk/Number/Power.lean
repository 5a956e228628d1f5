/-
Powers of binary64 numbers. The special values are decided here; the power of two finite numbers is the machine's.
-/
import Treewalk.Number.Double

namespace Treewalk.Double

/-! ## Machine representation -/

def signBit (negative : Bool) : UInt64 := if negative then (1 : UInt64) <<< 63 else 0

/-- The 64-bit pattern of a number. -/
def toBits : Double → UInt64
  | .nan => 0x7FF8000000000000
  | .infinite negative => signBit negative ||| 0x7FF0000000000000
  | .finite negative m e _ =>
    if m < leadingBit then signBit negative ||| m.toUInt64
    else signBit negative ||| ((e + 1075).toNat.toUInt64 <<< 52) ||| (m - leadingBit).toUInt64

/-- The number of a 64-bit pattern. -/
def ofBits (bits : UInt64) : Double :=
  let negative := bits >>> 63 == 1
  let biased := ((bits >>> 52) &&& 0x7FF).toNat
  let fraction := (bits &&& 0xFFFFFFFFFFFFF).toNat
  if biased = 2047 then (if fraction = 0 then .infinite negative else .nan)
  else if biased = 0 then ofSignificand negative fraction leastExponent
  else ofSignificand negative (leadingBit + fraction) ((biased : Int) - 1075)

/-! ## Power -/

/-- Whether a finite number is an odd integer. -/
def isOdd (x : Double) : Bool := x.isFinite && equal (truncMod x.abs two) one

/-- The power of two numbers. Anything to the power zero and one to any power is one, also with not-a-number; an
infinite base or exponent gives zero, one or an infinity by size and sign. -/
def pow : Double → Double → Double
  | .nan, y => if y.isZero then one else .nan
  | x, .nan => if equal x one then one else .nan
  | .infinite a, y =>
    if y.isZero then one
    else if y.isNegative then zero (y.isOdd && a)
    else .infinite (y.isOdd && a)
  | x, .infinite b =>
    if equal x.abs one then one
    else if less one x.abs then (if b then zero false else .infinite false)
    else if b then .infinite false else zero false
  | x, y => ofBits (Float.pow (Float.ofBits x.toBits) (Float.ofBits y.toBits)).toBits

end Treewalk.Double
