/-
Arithmetic of the binary operators on numbers and strings. An integer that meets a float becomes a float first; a result
that is not finite although both operands are is refused. So are powers, shifts and repetitions that are too large for
the host; what is too large is for the host to say.
-/
import Treewalk.Host
import Treewalk.Number.Bits
import Treewalk.Number.Power
import Treewalk.Value.Basic

namespace Treewalk

namespace Operator

def fault {α : Type} (op : Operator) (f : ArithmeticFault) : Except EvalError α := .error (.arithmetic op f)

/-- An integer as a float operand of an operator. -/
def toDouble (op : Operator) (n : Int) : Except EvalError Double :=
  match Double.ofInt? n with
  | some x => .ok x
  | none => op.fault .intTooLarge

/-! ## Integers -/

/-- `base ^ exponent`, unless it has too many bits. The powers of zero, one and minus one are decided by parity. -/
def intPower [Host] (base : Int) (exponent : Nat) : Except EvalError (Option Value) :=
  if base = 0 then .ok (some (.int (if exponent = 0 then 1 else 0)))
  else if base = 1 then .ok (some (.int 1))
  else if base = -1 then .ok (some (.int (if exponent % 2 = 0 then 1 else -1)))
  else if Host.bitLimit ≤ base.natAbs.log2 * exponent then fault .pow .tooLarge
  else .ok (some (.int (Int.pow base exponent)))

/-- The digits of 30 bits that an integer may have at most: `2 ^ 61 - 7`. -/
def maxDigits : Nat := 0x1FFFFFFFFFFFFFF9

/-- The digits of 30 bits that are set aside for `n · 2 ^ count`. -/
def shiftedDigits (n : Int) (count : Nat) : Nat :=
  n.natAbs.log2 / 30 + 1 + count / 30 + if count % 30 = 0 then 0 else 1

/-- `n · 2 ^ count`, unless it has too many bits. -/
def intShiftLeft [Host] (n : Int) (count : Nat) : Except EvalError (Option Value) :=
  if n = 0 then .ok (some (.int 0))
  else if Host.bitLimit ≤ count then
    fault .shiftLeft (if maxDigits < shiftedDigits n count then .tooManyDigits else .tooLarge)
  else .ok (some (.int (Bits.shiftLeft n count)))

/-- The quotient of two integers as floats. -/
def intQuotient (op : Operator) (l r : Int) : Except EvalError Double := do
  let x ← op.toDouble l
  let y ← op.toDouble r
  if y.isZero then op.fault .divisionByZero else return x.div y

/-- The greatest integer not above a quotient. -/
def floorOf (op : Operator) (quotient : Double) : Except EvalError Int :=
  match quotient.floor? with
  | some n => .ok n
  | none => op.fault (if quotient.isNaN then .nanToInteger else .infinityToInteger)

def onInts [Host] (op : Operator) (l r : Int) : Except EvalError (Option Value) :=
  match op with
  | .add => .ok (some (.int (l + r)))
  | .sub => .ok (some (.int (l - r)))
  | .mult => .ok (some (.int (l * r)))
  | .div => do return some (.float (← op.intQuotient l r))
  | .floorDiv => do return some (.int (← op.floorOf (← op.intQuotient l r)))
  | .mod => if r = 0 then op.fault .integerModulo else .ok (some (.int (l.fmod r)))
  | .pow => if r < 0 then .error .negativePower else intPower l r.toNat
  | .bitAnd => .ok (some (.int (Bits.and l r)))
  | .bitOr => .ok (some (.int (Bits.or l r)))
  | .bitXor => .ok (some (.int (Bits.xor l r)))
  | .shiftLeft => if r < 0 then .error .negativeShift else intShiftLeft l r.toNat
  | .shiftRight => if r < 0 then .error .negativeShift else .ok (some (.int (Bits.shiftRight l r.toNat)))
  | _ => .ok none

/-! ## Floats -/

/-- The power of two floats; finite operands must have a finite power. -/
def floatPower (l r : Double) : Except EvalError Double :=
  let result := l.pow r
  if l.isFinite && r.isFinite && !result.isFinite then
    fault .pow (if result.isNaN || l.isZero then .domain else .range)
  else .ok result

def floatQuotient (op : Operator) (l r : Double) : Except EvalError Double :=
  if r.isZero then op.fault .divisionByZero else .ok (l.div r)

/-- The floor of a quotient as a float again; it is a whole number that a float can hold. -/
def floatFloorDiv (l r : Double) : Except EvalError Double := do
  toDouble .floorDiv (← floorOf .floorDiv (← floatQuotient .floorDiv l r))

def floatResult (op : Operator) (l r : Double) : Except EvalError (Option Double) :=
  match op with
  | .add => .ok (some (l.add r))
  | .sub => .ok (some (l.sub r))
  | .mult => .ok (some (l.mul r))
  | .div => (op.floatQuotient l r).map some
  | .mod => if r.isZero then op.fault .floatModulo else .ok (some (l.floorMod r))
  | .floorDiv => (floatFloorDiv l r).map some
  | .pow => (floatPower l r).map some
  | _ => .ok none

def onFloats (op : Operator) (l r : Double) : Except EvalError (Option Value) := do
  match ← op.floatResult l r with
  | none => return none
  | some x =>
    if !x.isFinite && l.isFinite && r.isFinite then op.fault .outOfRange else return some (.float x)

/-! ## Strings -/

/-- `count` copies of a text behind each other. -/
def copies (t : Text) (count : Nat) : Text := if t.isEmpty then .empty else count.repeat (· ++ t) .empty

/-- A text repeated; a negative count counts as zero. -/
def repeated [Host] (t : Text) (count : Int) : Except EvalError (Option Value) :=
  let n := count.toNat
  let length := t.length
  if indexLimit ≤ n then fault .mult .notIndexSized
  else if indexLimit ≤ length * n then fault .mult .repeatedTooLong
  else if Host.lengthLimit ≤ length * n then fault .mult .tooLarge
  else .ok (some (.string (copies t n)))

/-! ## The binary operators -/

/-- The rule for two operands, chosen by their kinds alone. -/
def binaryRule [Host] (op : Operator) (l r : Value) : Except EvalError (Option Value) :=
  match l, r with
  | .int a, .int b => op.onInts a b
  | .int a, .float y => do op.onFloats (← op.toDouble a) y
  | .float x, .int b => do op.onFloats x (← op.toDouble b)
  | .float x, .float y => op.onFloats x y
  | .string t, .string u => .ok (if op = .add then some (.string (t ++ u)) else none)
  | .int n, .string t => if op = .mult then repeated t n else .ok none
  | .string t, .int n => if op = .mult then repeated t n else .ok none
  | _, _ => .ok none

def applyBinary [Host] (op : Operator) (l r : Value) : Except EvalError Value := do
  let leftKind ← l.kind
  let rightKind ← r.kind
  match ← op.binaryRule l r with
  | some v => return v
  | none => throw (.unsupportedBinary op leftKind rightKind)

/-! ## The unary operators -/

def unaryRule (op : Operator) (v : Value) : Option Value :=
  match op, v with
  | .not, .bool b => some (.bool !b)
  | .plus, .int n => some (.int n)
  | .plus, .float x => some (.float x)
  | .minus, .int n => some (.int (-n))
  | .minus, .float x => some (.float x.neg)
  | .invert, .int n => some (.int (Bits.complement n))
  | _, _ => none

def applyUnary (op : Operator) (v : Value) : Except EvalError Value := do
  let kind ← v.kind
  match op.unaryRule v with
  | some result => return result
  | none => throw (.unsupportedUnary op kind)

end Operator

end Treewalk
