/-
Tokens of the program text. Layout is part of them: the end of a logical line, and the places where the indentation grows
and shrinks.
-/
import Treewalk.Syntax.Literal

namespace Treewalk

/-- A quoted literal before its escapes are read. -/
structure QuotedToken where
  isBytes : Bool
  isRaw : Bool
  isFormatted : Bool
  /-- Whether the literal carries the mark that shows in outlines. -/
  isMarked : Bool
  content : List Char
deriving Inhabited

inductive Token where
  | name (s : String)
  | keyword (s : String)
  | number (value : Literal)
  | quoted (q : QuotedToken)
  | op (s : String)
  | newline
  | indent
  | dedent
deriving Inhabited

/-- A token and the line it starts on. -/
structure Lexeme where
  token : Token
  line : Nat
deriving Inhabited

namespace Token

/-- The words that are not names. -/
def keywords : List String :=
  ["False", "None", "True", "and", "as", "assert", "async", "await", "break", "class", "continue", "def", "del",
    "elif", "else", "except", "finally", "for", "from", "global", "if", "import", "in", "is", "lambda", "nonlocal",
    "not", "or", "pass", "raise", "return", "try", "while", "with", "yield"]

def ofWord (s : String) : Token := if keywords.contains s then .keyword s else .name s

end Token

end Treewalk
