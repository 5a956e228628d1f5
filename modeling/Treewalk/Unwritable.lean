/-
Why a value or a piece of a program has no text, or none that the output takes. Such a text is asked for by output and by
error messages, and its absence is not an error of the program: it is reported by itself.
-/

namespace Treewalk

inductive Unwritable where
  /-- An integer has more digits than a text may have. -/
  | digitLimit
  /-- A value inside a formatted string cannot be written without a backslash. -/
  | backslash
  /-- An operator stands in a form of another kind, where it has no spelling. -/
  | operator
  /-- The output does not take the text. -/
  | refused (complaint : String)
deriving Repr, DecidableEq

namespace Unwritable

/-- The name under which the absence is reported. -/
def label : Unwritable → String
  | .digitLimit | .backslash => "ValueError"
  | .operator => "KeyError"
  | .refused _ => "UnicodeEncodeError"

def message : Unwritable → String
  | .digitLimit =>
    "Exceeds the limit (4300 digits) for integer string conversion; " ++
      "use sys.set_int_max_str_digits() to increase the limit"
  | .backslash => "Unable to avoid backslash in f-string expression part"
  | .operator => "operator without a spelling"
  | .refused complaint => complaint

/-- A text that exists unless an integer in it is too long. -/
def orLimit {α : Type} : Option α → Except Unwritable α
  | some a => .ok a
  | none => .error .digitLimit

end Unwritable

end Treewalk
