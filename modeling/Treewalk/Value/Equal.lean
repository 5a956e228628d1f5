/-
Equality of values: structural on scalars and tuples, by name and outline on functions, by name and identity of the map
on classes, and by class and identity of the map on objects. Values of different kinds are never equal.
-/
import Treewalk.Value.Basic
import Treewalk.Syntax.Outline

namespace Treewalk.Value

/-- The outlines of a body as text, statement by statement. -/
def bodyTexts (body : List Stmt) : Except Failure (List String) :=
  Failure.orLimit (Outline.texts? (outlineBlock body))

mutual

def equal : Value → Value → Except Failure Bool
  | .none, .none => .ok true
  | .bool a, .bool b => .ok (a == b)
  | .int a, .int b => .ok (a == b)
  | .float a, .float b => .ok (a.equal b)
  | .imaginary a b, .imaginary c d => .ok (a.equal c && b.equal d)
  | .string a, .string b => .ok (a == b)
  | .tuple as, .tuple bs => if as.length = bs.length then allEqual as bs else .ok false
  | .function name params body, .function name' params' body' =>
    if name = name' ∧ params = params' then do
      let texts ← bodyTexts body
      let texts' ← bodyTexts body'
      return texts == texts'
    else .ok false
  | .cls name attrs, .cls name' attrs' => .ok (name == name' && attrs == attrs')
  | .object type attrs, .object type' attrs' => do
    if ← equal type type' then return attrs == attrs' else return false
  | .foreign type, _ => .error (.error (.foreignValue type))
  | _, .foreign type => .error (.error (.foreignValue type))
  | _, _ => .ok false

/-- Items are compared from the left, up to the first difference. -/
def allEqual : List Value → List Value → Except Failure Bool
  | a :: as, b :: bs => do if ← equal a b then allEqual as bs else return false
  | _, _ => .ok true

end

end Treewalk.Value
