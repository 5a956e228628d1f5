/-
The choice of quotes around a text that is to be written with as few escapes as possible. Short quotes are preferred to
long ones and a single quote to a double one; a text that holds the quotes cannot stand between them, and one with line
breaks needs long ones.
-/
import Treewalk.Text.Quoted

namespace Treewalk.Text

/-- Whether the code points occur in a text behind each other. -/
def occurs (part : List CodePoint) : List CodePoint → Bool
  | [] => part.isEmpty
  | p :: rest => part.isPrefixOf (p :: rest) || occurs part rest

/-- The quotes that can stand around a text. -/
inductive Quotes where
  | single | double | longDouble | longSingle
deriving Repr, DecidableEq

namespace Quotes

/-- All quotes, the preferred ones first. -/
def all : List Quotes := [.single, .double, .longDouble, .longSingle]

def char : Quotes → Char
  | .single | .longSingle => '\''
  | .double | .longDouble => '"'

def isLong : Quotes → Bool
  | .longDouble | .longSingle => true
  | _ => false

def mark (q : Quotes) : Text := ⟨List.replicate (if q.isLong then 3 else 1) q.char⟩

def wrap (q : Quotes) (t : Text) : Text := q.mark ++ t ++ q.mark

/-- The short quotes of a character. -/
def ofChar (c : Char) : Quotes := if c == '"' then .double else .single

/-- Whether a text can stand between the quotes as it is. -/
def admits (q : Quotes) (ps : List CodePoint) : Bool :=
  (q.isLong || !ps.contains '\n') && !occurs q.mark.points ps

end Quotes

/-- A code point with its escape, if it needs one between any quotes. Line breaks and tabs can do without. -/
def escapeLoose (spelled : Bool) (p : CodePoint) : List CodePoint :=
  if !spelled && (p == '\n' || p == '\t') then [p] else (ofString (encodePoint '\\' p)).points

/-- A text and the quotes it can stand between, of those allowed. The last code point of the text is not to be one of the
closing quotes: other quotes are preferred, and if there are none it is escaped. A text that fits none of the quotes is
escaped for the quote that suits it best. -/
def fitQuotes (spelled : Bool) (allowed : List Quotes) (t : Text) : Text × List Quotes :=
  let ps := t.points.flatMap (escapeLoose spelled)
  match allowed.filter (·.admits ps) with
  | [] =>
    let quote := quoteFor t.points
    (encoded quote t, [(allowed.find? (·.char == quote)).getD (.ofChar quote)])
  | quotes =>
    match ps.getLast? with
    | none => (empty, quotes)
    | some last =>
      match quotes.partition (fun q => (q.char : CodePoint) != last) with
      | ([], clashing) => (⟨ps.dropLast ++ [.ofChar '\\', last]⟩, clashing)
      | (fitting, clashing) => (⟨ps⟩, fitting ++ clashing)

/-- The text between the first of the quotes that it can stand between. -/
def looselyQuoted (t : Text) : Text :=
  let (t, quotes) := fitQuotes false Quotes.all t
  (quotes.headD .single).wrap t

/-- The parts of a text that all stand between the same quotes; each part comes with whether its line breaks and tabs are
to be spelled. -/
def quotedParts (parts : List (Text × Bool)) : Text :=
  let (t, quotes) := parts.foldl (fun ((t, quotes) : Text × List Quotes) (part, spelled) =>
    let (part, quotes) := fitQuotes spelled quotes part
    (t ++ part, quotes)) (empty, Quotes.all)
  (quotes.headD .single).wrap t

end Treewalk.Text
