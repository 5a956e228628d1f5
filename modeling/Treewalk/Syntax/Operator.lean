/-
The operators of the language: binary, unary, comparing and Boolean ones in one enumeration, since a tree built by hand
may hold any of them in any place.
-/

namespace Treewalk

inductive Operator where
  | add | sub | mult | div | floorDiv | mod | pow | matMult
  | bitAnd | bitOr | bitXor | shiftLeft | shiftRight
  | not | plus | minus | invert
  | eq | notEq | less | lessEq | greater | greaterEq
  | same | notSame | member | notMember
  | and | or
  /-- A label that names no operator. -/
  | other (label : String)
deriving Repr, DecidableEq, Inhabited

namespace Operator

/-- The word by which a tree names the operator. -/
def label : Operator → String
  | .add => "Add"
  | .sub => "Sub"
  | .mult => "Mult"
  | .div => "Div"
  | .floorDiv => "FloorDiv"
  | .mod => "Mod"
  | .pow => "Pow"
  | .matMult => "MatMult"
  | .bitAnd => "BitAnd"
  | .bitOr => "BitOr"
  | .bitXor => "BitXor"
  | .shiftLeft => "LShift"
  | .shiftRight => "RShift"
  | .not => "Not"
  | .plus => "UAdd"
  | .minus => "USub"
  | .invert => "Invert"
  | .eq => "Eq"
  | .notEq => "NotEq"
  | .less => "Lt"
  | .lessEq => "LtE"
  | .greater => "Gt"
  | .greaterEq => "GtE"
  | .same => "Is"
  | .notSame => "IsNot"
  | .member => "In"
  | .notMember => "NotIn"
  | .and => "And"
  | .or => "Or"
  | .other label => label

/-- The operators that have a label of their own. -/
def all : List Operator :=
  [.add, .sub, .mult, .div, .floorDiv, .mod, .pow, .matMult, .bitAnd, .bitOr, .bitXor, .shiftLeft, .shiftRight,
    .not, .plus, .minus, .invert, .eq, .notEq, .less, .lessEq, .greater, .greaterEq, .same, .notSame, .member,
    .notMember, .and, .or]

def ofLabel (label : String) : Operator :=
  (all.find? fun op => op.label == label).getD (.other label)

/-- The operator as error messages show it; the Boolean operators go by their label. -/
def symbol : Operator → String
  | .add => "+"
  | .sub => "-"
  | .mult => "*"
  | .div => "/"
  | .floorDiv => "//"
  | .mod => "%"
  | .pow => "**"
  | .matMult => "@"
  | .bitAnd => "&"
  | .bitOr => "|"
  | .bitXor => "^"
  | .shiftLeft => "<<"
  | .shiftRight => ">>"
  | .not => "not"
  | .plus => "unary +"
  | .minus => "unary -"
  | .invert => "~"
  | .eq => "=="
  | .notEq => "!="
  | .less => "<"
  | .lessEq => "<="
  | .greater => ">"
  | .greaterEq => ">="
  | .same => "is"
  | .notSame => "is not"
  | .member => "in"
  | .notMember => "not in"
  | op => op.label

/-- The forms that operators belong to. -/
inductive Group where
  | binary | unary | comparing | boolean
deriving Repr, DecidableEq

def group? : Operator → Option Group
  | .add | .sub | .mult | .div | .floorDiv | .mod | .pow | .matMult => some .binary
  | .bitAnd | .bitOr | .bitXor | .shiftLeft | .shiftRight => some .binary
  | .not | .plus | .minus | .invert => some .unary
  | .eq | .notEq | .less | .lessEq | .greater | .greaterEq => some .comparing
  | .same | .notSame | .member | .notMember => some .comparing
  | .and | .or => some .boolean
  | .other _ => none

/-- The operators that compare two operands by value. -/
def isOrdering : Operator → Bool
  | .eq | .notEq | .less | .lessEq | .greater | .greaterEq => true
  | _ => false

end Operator

end Treewalk
