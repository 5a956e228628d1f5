/-
Decimal text of binary64 numbers. A finite number is written with the fewest digits that read back as it, the nearest
such decimal if there are several; reading rounds the exact decimal value once.
-/
import Treewalk.Number.Double

namespace Treewalk

/-- A positive decimal `digits · 10 ^ exponent`. -/
structure Decimal where
  digits : Nat
  exponent : Int
deriving Repr, DecidableEq

namespace Decimal

/-- How many decimal digits a natural number has. -/
def digitCount (n : Nat) : Nat := (Nat.toDigits 10 n).length

/-- The decimal as a quotient of natural numbers. -/
def ratio (d : Decimal) : Nat × Nat :=
  if 0 ≤ d.exponent then (d.digits * Nat.pow 10 d.exponent.toNat, 1) else (d.digits, Nat.pow 10 (-d.exponent).toNat)

/-- The same decimal without zeros at its end; the fuel is the number of digits. -/
def stripZeros : Nat → Decimal → Decimal
  | 0, d => d
  | fuel + 1, d =>
    if d.digits % 10 = 0 ∧ d.digits ≠ 0 then stripZeros fuel ⟨d.digits / 10, d.exponent + 1⟩ else d

end Decimal

namespace Double

/-! ## Reading -/

/-- The number nearest to `± digits · 10 ^ exponent`. Decimals far outside the range of finite numbers are decided by
their size alone, so that no large power is formed. -/
def ofDecimal (negative : Bool) (d : Decimal) : Double :=
  if d.digits = 0 then zero negative
  else
    let size := d.exponent + Decimal.digitCount d.digits
    if 310 ≤ size then .infinite negative
    else if size ≤ -324 then zero negative
    else ofRatio negative d.ratio.1 d.ratio.2

/-! ## Shortest digits -/

/-- The decimals that round to `m · 2 ^ e`, as a quarter-unit interval around it: the ends in units of `2 ^ (e - 2)`,
and whether they belong to it. -/
structure Interval where
  low : Nat
  middle : Nat
  high : Nat
  closed : Bool

def interval (m : Nat) (e : Int) : Interval where
  low := if m = leadingBit ∧ leastExponent < e then 4 * m - 1 else 4 * m - 2
  middle := 4 * m
  high := 4 * m + 2
  closed := m % 2 = 0

/-- The weights that bring units of `2 ^ (e - 2)` and units of `10 ^ k` to a common scale: `x` of the former are
`x · weights.1`, `c` of the latter are `c · weights.2`. -/
def weights (e k : Int) : Nat × Nat :=
  let unit := e - 2
  (Nat.pow 10 (-k).toNat <<< unit.toNat, Nat.pow 10 k.toNat <<< (-unit).toNat)

def Interval.contains (i : Interval) (w : Nat × Nat) (c : Nat) : Bool :=
  let point := c * w.2
  if i.closed then decide (i.low * w.1 ≤ point) && decide (point ≤ i.high * w.1)
  else decide (i.low * w.1 < point) && decide (point < i.high * w.1)

/-- The multiple of `10 ^ k` that rounds to `m · 2 ^ e` and is nearest to it, if one does. -/
def onGrid (m : Nat) (e k : Int) : Option Nat :=
  let i := interval m e
  let w := weights e k
  let below := i.middle * w.1 / w.2
  let distBelow := i.middle * w.1 - below * w.2
  let distAbove := (below + 1) * w.2 - i.middle * w.1
  match i.contains w below, i.contains w (below + 1) with
  | true, false => some below
  | false, true => some (below + 1)
  | true, true =>
    if distBelow < distAbove ∨ (distBelow = distAbove ∧ below % 2 = 0) then some below else some (below + 1)
  | false, false => none

/-- Whether `10 ^ p ≤ m · 2 ^ e`. -/
def atLeastTenPow (m : Nat) (e p : Int) : Bool :=
  decide (Nat.pow 10 p.toNat <<< (-e).toNat ≤ (m * Nat.pow 10 (-p).toNat) <<< e.toNat)

/-- The exponent of the leading decimal digit, found upwards from an estimate that is not above it. -/
def leadingExponent (m : Nat) (e : Int) : Int :=
  let estimate : Int := (((m.log2 : Int) + e) * 30103).fdiv 100000 - 1
  let up (p : Int) : Int := if atLeastTenPow m e (p + 1) then p + 1 else p
  up (up (up estimate))

/-- The first grid of `count`, `count + 1`, … digits that has a decimal rounding to the number. -/
def shortestFrom (m : Nat) (e leading : Int) : Nat → Nat → Decimal
  | 0, count => ⟨m, leading - count⟩
  | fuel + 1, count =>
    let k := leading - count + 1
    match onGrid m e k with
    | some digits => Decimal.stripZeros 18 ⟨digits, k⟩
    | none => shortestFrom m e leading fuel (count + 1)

/-- The shortest decimal that reads back as `m · 2 ^ e`; seventeen digits always do. -/
def shortest (m : Nat) (e : Int) : Decimal := shortestFrom m e (leadingExponent m e) 17 1

/-! ## Writing -/

/-- The exponents of the leading digit that are written out positionally. -/
def positional (leading : Int) : Bool := decide (-4 ≤ leading) && decide (leading < 16)

/-- An exponent has a sign and at least two digits. -/
def exponentText (n : Int) : String :=
  let digits := toString n.natAbs
  (if n < 0 then "e-" else "e+") ++ (if digits.length < 2 then "0" ++ digits else digits)

/-- A decimal as text; `point` asks for `.0` behind a whole number that is written positionally. -/
def decimalText (point : Bool) (d : Decimal) : String :=
  let digits := Nat.toDigits 10 d.digits
  let leading := d.exponent + digits.length - 1
  if positional leading then
    if 0 ≤ d.exponent then
      String.ofList (digits ++ List.replicate d.exponent.toNat '0') ++ (if point then ".0" else "")
    else if 0 ≤ leading then
      let (whole, fraction) := digits.splitAt (leading.toNat + 1)
      String.ofList whole ++ "." ++ String.ofList fraction
    else "0." ++ String.ofList (List.replicate (-leading - 1).toNat '0' ++ digits)
  else
    let head := digits.take 1
    let rest := digits.drop 1
    String.ofList head ++ (if rest.isEmpty then "" else "." ++ String.ofList rest) ++ exponentText leading

def magnitudeText (point : Bool) : Double → String
  | .nan => "nan"
  | .infinite _ => "inf"
  | .finite _ 0 .. => if point then "0.0" else "0"
  | .finite _ m e _ => decimalText point (shortest m e)

def signText (x : Double) : String := if x.isNegative then "-" else ""

/-- The text of a number; a whole one keeps a `.0`. -/
def text (x : Double) : String := x.signText ++ x.magnitudeText true

/-- The text of a number in which a whole one has no `.0`. -/
def bareText (x : Double) : String := x.signText ++ x.magnitudeText false

end Double

end Treewalk
