/-
Quoted text: a text between quotes in which every code point can be read back. Single quotes are used unless the text
has a single quote and no double one. A surrogate is always escaped, so that what is quoted is a string of characters.
-/
import Treewalk.Text.Basic
import Treewalk.Text.Printable

namespace Treewalk.Text

/-- The last `count` hexadecimal digits of `n`, in lower case. -/
def hexText (count n : Nat) : String :=
  let digits := Nat.toDigits 16 n
  String.ofList (List.replicate (count - digits.length) '0' ++ digits)

/-- The escape of a character code: two, four or eight hexadecimal digits. -/
def escapeCode (n : Nat) : String :=
  if n < 0x100 then "\\x" ++ hexText 2 n
  else if n < 0x10000 then "\\u" ++ hexText 4 n
  else "\\U" ++ hexText 8 n

/-- The quote that needs the fewest escapes. -/
def quoteFor (ps : List CodePoint) : Char :=
  if ps.contains '\'' && !ps.contains '"' then '"' else '\''

/-- The escapes shared by strings and byte strings. -/
def commonEscape? (quote c : Char) : Option String :=
  if c == '\\' || c == quote then some (String.ofList ['\\', c])
  else if c == '\n' then some "\\n"
  else if c == '\r' then some "\\r"
  else if c == '\t' then some "\\t"
  else none

def encodeChar (quote c : Char) : String :=
  match commonEscape? quote c with
  | some s => s
  | none => if isPrintable c then c.toString else escapeCode c.toNat

def encodePoint (quote : Char) (p : CodePoint) : String :=
  match p.toChar? with
  | some c => encodeChar quote c
  | none => escapeCode p.val

def encodeByte (quote : Char) (b : UInt8) : String :=
  let c := Char.ofNat b.toNat
  match commonEscape? quote c with
  | some s => s
  | none => if 0x20 ≤ b.toNat ∧ b.toNat < 0x7F then c.toString else escapeCode b.toNat

/-- A text with the escapes it needs between two of the quote. -/
def encoded (quote : Char) (t : Text) : String := String.join (t.points.map (encodePoint quote))

/-- A text in quotes. -/
def quoted (t : Text) : String :=
  let quote := quoteFor t.points
  quote.toString ++ encoded quote t ++ quote.toString

/-- A byte string in quotes, marked by a `b`. -/
def quotedBytes (bytes : List UInt8) : String :=
  let quote := quoteFor (bytes.map .ofByte)
  "b" ++ quote.toString ++ String.join (bytes.map (encodeByte quote)) ++ quote.toString

/-- A text as a string of characters; only surrogates are escaped. -/
def escaped (t : Text) : String :=
  String.join (t.points.map fun p => match p.toChar? with
    | some c => c.toString
    | none => escapeCode p.val)

end Treewalk.Text
