/-
Values of the language. Scalars, tuples and functions are plain data; a class and an object name their attribute map by
its address on the heap, so that all references to one map see its changes.
-/
import Treewalk.Error
import Treewalk.Syntax.Tree

namespace Treewalk

/-- Where an attribute map lives on the heap. -/
abbrev Address := Nat

/-- A value. A function captures no environment. The class of an object may be any value, though only objects whose class
is a class behave; a foreign value is one from outside the language, known by the name of its type. -/
inductive Value where
  | none
  | bool (b : Bool)
  | int (n : Int)
  | float (x : Double)
  | imaginary (re im : Double)
  | string (t : Text)
  | tuple (items : List Value)
  | function (name : String) (params : List String) (body : List Stmt)
  | cls (name : String) (attrs : Address)
  | object (type : Value) (attrs : Address)
  | foreign (type : String)
deriving Inhabited

namespace Value

/-- The kind of a value; foreign values have none. -/
def kind : Value → Except EvalError Kind
  | .none => .ok .none
  | .bool _ => .ok .bool
  | .int _ => .ok .int
  | .float _ => .ok .float
  | .imaginary .. => .ok .imaginary
  | .string _ => .ok .string
  | .tuple _ => .ok .tuple
  | .function .. => .ok .function
  | .cls .. => .ok .cls
  | .object .. => .ok .object
  | .foreign type => .error (.foreignValue type)

/-- The truth of a value: only zero, `False` and `None` are false. -/
def truth : Value → Except EvalError Bool
  | .int n => .ok (n != 0)
  | .bool b => .ok b
  | .none => .ok false
  | v => v.kind.map fun _ => true

/-- The map of the class of an object. -/
def classMap : Value → Except EvalError Address
  | .object (.cls _ attrs) _ => .ok attrs
  | _ => .error .objectWithoutClass

/-- A value of the program text, for the literals that evaluation knows. -/
def ofLiteral? : Literal → Option Value
  | .none => some .none
  | .bool b => some (.bool b)
  | .int n => some (.int n)
  | .float x => some (.float x)
  | .imaginary re im => some (.imaginary re im)
  | .string t => some (.string t)
  | _ => Option.none

/-- How functions, classes and objects are named to a reader of the implementation. -/
def inspect? : Value → Option String
  | .function name params _ => some ("<Function " ++ name ++ "(" ++ String.intercalate ", " params ++ ")>")
  | .cls name _ => some ("<Class " ++ name ++ ">")
  | .object (.cls name _) _ => some ("<Object of " ++ name ++ ">")
  | .object _ _ => some "<Object of ?>"
  | _ => Option.none

end Value

end Treewalk
