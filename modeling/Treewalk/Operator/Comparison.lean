/-
The comparing operators. Numbers are ordered, an integer as a float when it meets one; any two values can be tested for
equality; nothing else can be compared.
-/
import Treewalk.Operator.Arithmetic
import Treewalk.Value.Equal

namespace Treewalk.Operator

/-- Whether two numbers in the given order stand in the relation of the operator; numbers that are not ordered are only
unequal. -/
def holds (op : Operator) (order : Option Ordering) : Bool :=
  match op with
  | .eq => order == some .eq
  | .notEq => order != some .eq
  | .less => order == some .lt
  | .lessEq => order == some .lt || order == some .eq
  | .greater => order == some .gt
  | .greaterEq => order == some .gt || order == some .eq
  | _ => false

/-- The order of two numbers; none for operands that are not numbers. -/
def numericOrder (op : Operator) (l r : Value) : Except EvalError (Option (Option Ordering)) :=
  match l, r with
  | .int a, .int b => .ok (some (some (compare a b)))
  | .int a, .float y => do return some (Double.compare? (← op.toDouble a) y)
  | .float x, .int b => do return some (Double.compare? x (← op.toDouble b))
  | .float x, .float y => .ok (some (Double.compare? x y))
  | _, _ => .ok none

/-- Equality of values as a comparison; other relations need numbers. -/
def compareOther (op : Operator) (l r : Value) (leftKind rightKind : Kind) : Except Failure Bool :=
  match op with
  | .eq => l.equal r
  | .notEq => (l.equal r).map (!·)
  | _ => .error (.error (.unsupportedBinary op leftKind rightKind))

def applyCompare (op : Operator) (l r : Value) : Except Failure Bool := do
  let leftKind ← l.kind.mapError .error
  let rightKind ← r.kind.mapError .error
  if op.isOrdering && leftKind.isNumeric && rightKind.isNumeric then
    match ← (op.numericOrder l r).mapError .error with
    | some order => return op.holds order
    | none => return false
  else op.compareOther l r leftKind rightKind

end Treewalk.Operator
