/-
Literals: the constants a program text can hold, and how they are shown.
-/
import Treewalk.Number.Decimal
import Treewalk.Number.Integer
import Treewalk.Text.Quoted

namespace Treewalk

/-- A constant of the program text. Evaluation knows the first six forms. -/
inductive Literal where
  | none
  | bool (value : Bool)
  | int (value : Int)
  | float (value : Double)
  | imaginary (re im : Double)
  | string (text : Text)
  | bytes (content : List UInt8)
  | ellipsis
  | tuple (items : List Literal)
  /-- Anything else, known only by the way it is shown. -/
  | other (shown : String)
deriving Inhabited

namespace Text

/-- Items between parentheses; a single one keeps a comma. -/
def parenthesised (items : List String) : String :=
  match items with
  | [item] => "(" ++ item ++ ",)"
  | _ => "(" ++ String.intercalate ", " items ++ ")"

/-- A complex number; a positive zero real part is left out, and whole parts have no `.0`. -/
def complex (re im : Double) : String :=
  if re.isZero && !re.isNegative then im.bareText ++ "j"
  else
    let sign := if im.isNegative then "" else "+"
    "(" ++ re.bareText ++ sign ++ im.bareText ++ "j)"

/-- Numbers that have no literal are written as expressions that compute them. -/
def finiteSource (s : String) : String :=
  (s.replace "inf" "1e309").replace "nan" "(1e309-1e309)"

end Text

namespace Literal

mutual

/-- How an outline shows a literal; an integer past the digit limit cannot be shown. -/
def shown? : Literal → Option String
  | .none => some "None"
  | .bool true => some "True"
  | .bool false => some "False"
  | .int n => Integer.text? n
  | .float x => some x.text
  | .imaginary re im => some (Text.complex re im)
  | .string t => some (Text.quoted t)
  | .bytes content => some (Text.quotedBytes content)
  | .ellipsis => some "Ellipsis"
  | .tuple items => (allShown? items).map Text.parenthesised
  | .other s => some s

def allShown? : List Literal → Option (List String)
  | [] => some []
  | l :: rest => do return (← shown? l) :: (← allShown? rest)

end

/-- A literal other than a tuple as program text. -/
def plainSource? : Literal → Option String
  | .float x => some (Text.finiteSource x.text)
  | .imaginary re im => some (Text.finiteSource (Text.complex re im))
  | l => l.shown?

/-- A literal as program text. -/
def source? : Literal → Option String
  | .tuple items => (items.mapM plainSource?).map Text.parenthesised
  | .ellipsis => some "..."
  | l => l.plainSource?

/-- Whether the literal stands for an integer; truth values do. -/
def isIntegral : Literal → Bool
  | .int _ | .bool _ => true
  | _ => false

end Literal

end Treewalk
