/-
The text of a value, what becomes of it when it is printed, and the texts of errors that are made of values.
-/
import Treewalk.Host
import Treewalk.Value.Basic

namespace Treewalk

namespace Value

/-- An imaginary number; the real part is left out when it is zero, of either sign. -/
def imaginaryText (re im : Double) : String :=
  if re.isZero then im.text ++ "j"
  else "(" ++ re.text ++ (if im.isNegative then "-" else "+") ++ im.abs.text ++ "j)"

mutual

/-- The text of a value. A foreign value and an object without a class have none, and neither has an integer past the
digit limit; of several such parts the leftmost is reported. -/
def text : Value → Except Failure Text
  | .none => .ok "None"
  | .bool true => .ok "True"
  | .bool false => .ok "False"
  | .int n => Failure.orLimit ((Integer.text? n).map .ofString)
  | .float x => .ok x.text
  | .imaginary re im => .ok (imaginaryText re im)
  | .string s => .ok s
  | .tuple items => do return "(" ++ Text.bareTuple (← texts items) ++ ")"
  | .function name _ _ => .ok ("<" ++ name ++ ">")
  | .cls name _ => .ok ("<class '__main__." ++ name ++ "'>")
  | .object (.cls name _) _ => .ok ("<" ++ name ++ " object>")
  | .object _ _ => .error (.error .objectWithoutClass)
  | .foreign type => .error (.error (.foreignValue type))

def texts : List Value → Except Failure (List Text)
  | [] => .ok []
  | v :: rest => do return (← text v) :: (← texts rest)

end

/-- The text of a value for the output, which may refuse it. -/
def printed [Host] (v : Value) : Except Failure Text := do
  let t ← v.text
  if let some complaint := Host.complaint? t then throw (.unwritable (.refused complaint)) else return t

/-! ## Values in errors -/

mutual

/-- How a value is shown to a reader of the implementation; of a foreign value nothing is known to show. -/
def shown? : Value → Option String
  | .none => some "None"
  | .bool true => some "True"
  | .bool false => some "False"
  | .int n => Integer.text? n
  | .float x => some x.text
  | .imaginary re im => some (Text.complex re im)
  | .string t => some (Text.quoted t)
  | .tuple items => (allShown? items).map Text.parenthesised
  | .foreign _ => Option.none
  | v => v.inspect?

def allShown? : List Value → Option (List String)
  | [] => some []
  | v :: rest => do return (← shown? v) :: (← allShown? rest)

end

end Value

/-- An error as it is raised: its kind and any values. -/
structure Raised where
  kind : ErrorKind
  args : List Value

namespace Raised

/-- The first of the values as a text; a string is its own text. -/
def message? (e : Raised) : Option Text :=
  match e.args with
  | [] => some .empty
  | .string t :: _ => some t
  | v :: _ => v.shown?.map .ofString

def describe? (e : Raised) : Option Text := e.message?.map e.kind.describe

end Raised

/-- An error of an evaluation is raised with its message. -/
def EvalError.raised (e : EvalError) : Raised := ⟨e.kind, [.string e.message]⟩

theorem EvalError.describe?_raised (e : EvalError) : e.raised.describe? = some e.describe := rfl

end Treewalk
