/-
From program text to tokens. A logical line may go on inside brackets and behind a backslash. The indentation of a line is
measured with tab stops of eight columns and again with tabs of one column, and both measures have to agree on whether
it grew, shrank or stayed.
-/
import Treewalk.Text.Name
import Treewalk.Token.Number

namespace Treewalk.Token

/-- The text with every line ending in one newline character, the last line included; a line that ends in two characters
at the very end of the text is followed by an empty one. -/
def unifyNewlines : List Char → List Char
  | ['\r', '\n'] => ['\n', '\n']
  | '\r' :: '\n' :: rest => '\n' :: unifyNewlines rest
  | ['\r'] => ['\n']
  | '\r' :: rest => '\n' :: unifyNewlines rest
  | ['\n'] => ['\n']
  | [c] => [c, '\n']
  | c :: rest => c :: unifyNewlines rest
  | [] => ['\n']

/-- The two measures of an indentation. -/
structure Indentation where
  column : Nat
  narrow : Nat
deriving DecidableEq, Inhabited

/-- The measure of the blanks at the start of a line. A form feed starts again at zero. A backslash goes on with the next
line; the column before the first one counts, unless it is zero. -/
structure Margin where
  here : Indentation
  kept : Nat
  line : Nat

def Margin.indentation (m : Margin) : Indentation := if m.kept = 0 then m.here else ⟨m.kept, m.kept⟩

def margin : List Char → Margin → Option (Margin × List Char)
  | ' ' :: rest, m => margin rest { m with here := ⟨m.here.column + 1, m.here.narrow + 1⟩ }
  | '\t' :: rest, m => margin rest { m with here := ⟨(m.here.column / 8 + 1) * 8, m.here.narrow + 1⟩ }
  | '\x0c' :: rest, m => margin rest { m with here := ⟨0, 0⟩ }
  | ['\\', '\n'], _ => none
  | '\\' :: '\n' :: rest, m =>
    margin rest { m with kept := if m.kept = 0 then m.here.column else m.kept, line := m.line + 1 }
  | '\\' :: _, _ => none
  | rest, m => some (m, rest)

/-! ## State -/

structure Lexer where
  rest : List Char
  line : Nat
  atLineStart : Bool
  /-- The indentations of the open blocks, from the innermost. -/
  indents : List Indentation
  /-- The open brackets, from the innermost. -/
  brackets : List Char
  /-- The tokens so far, from the last. -/
  found : List Lexeme

namespace Lexer

def emit (l : Lexer) (token : Token) (rest : List Char) : Lexer :=
  { l with found := ⟨token, l.line⟩ :: l.found, rest := rest }

def maxIndents : Nat := 100

def maxBrackets : Nat := 200

/-! ## Indentation -/

/-- Closes blocks until the indentation is that of an open one. -/
def closeBlocks (i : Indentation) (line : Nat) :
    List Indentation → List Lexeme → Option (List Indentation × List Lexeme)
  | [], _ => none
  | top :: below, found =>
    if i.column < top.column then closeBlocks i line below (⟨.dedent, line⟩ :: found)
    else if i = top then some (top :: below, found)
    else none

/-- Compares the indentation of a line with that of the block around it. -/
def indentTo (l : Lexer) (i : Indentation) : Option Lexer :=
  match l.indents with
  | [] => none
  | top :: below =>
    if i.column = top.column then (if i.narrow = top.narrow then some l else none)
    else if top.column < i.column then
      if i.narrow ≤ top.narrow || decide (maxIndents ≤ l.indents.length) then none
      else some { l with indents := i :: top :: below, found := ⟨.indent, l.line⟩ :: l.found }
    else do
      let (indents, found) ← closeBlocks i l.line (top :: below) l.found
      return { l with indents := indents, found := found }

/-- The start of a line: lines with only blanks and a comment count for nothing, and inside brackets layout is free. -/
def startLine (l : Lexer) : Option Lexer := do
  let (m, rest) ← margin l.rest ⟨⟨0, 0⟩, 0, l.line⟩
  let l := { l with rest := rest, line := m.line, atLineStart := false }
  match rest with
  | '\n' :: rest => return { l with rest := rest, line := l.line + 1, atLineStart := true }
  | '#' :: rest => return { l with rest := (rest.dropWhile (· != '\n')).drop 1, line := l.line + 1, atLineStart := true }
  | _ => if l.brackets.isEmpty then l.indentTo m.indentation else return l

/-! ## Quoted literals -/

/-- The content of a quoted literal up to its closing quotes, the text behind them, and the number of lines passed. A
backslash keeps the character behind it from closing the literal. -/
def quotedBody (quote : Char) (long : Bool) : List Char → Option (List Char × List Char × Nat)
  | '\\' :: c :: rest =>
    (quotedBody quote long rest).map fun (content, rest, lines) =>
      ('\\' :: c :: content, rest, if c == '\n' then lines + 1 else lines)
  | '\n' :: rest =>
    if long then (quotedBody quote long rest).map fun (content, rest, lines) => ('\n' :: content, rest, lines + 1)
    else none
  | c :: rest =>
    if c == quote && !long then some ([], rest, 0)
    else if c == quote && [quote, quote].isPrefixOf rest then some ([], rest.drop 2, 0)
    else (quotedBody quote long rest).map fun (content, rest, lines) => (c :: content, rest, lines)
  | [] => none

/-- The letters that may stand before a quoted literal. -/
def isQuoteMark (mark : String) : Bool :=
  ["", "b", "u", "r", "f", "br", "rb", "fr", "rf"].contains (mark.map Char.toLower)

def scanQuoted (l : Lexer) (mark : String) (quote : Char) (rest : List Char) : Option Lexer := do
  let long := [quote, quote].isPrefixOf rest
  let (content, rest, lines) ← quotedBody quote long (if long then rest.drop 2 else rest)
  let letters := mark.toList.map Char.toLower
  let token := Token.quoted
    { isBytes := letters.contains 'b', isRaw := letters.contains 'r', isFormatted := letters.contains 'f',
      isMarked := mark == "u", content := content }
  let l := l.emit token rest
  return { l with line := l.line + lines }

/-! ## Words and operators -/

/-- A name or keyword, or the mark of a quoted literal. -/
def scanWord (l : Lexer) : Option Lexer :=
  let word := String.ofList (l.rest.takeWhile isWordChar)
  let rest := l.rest.dropWhile isWordChar
  match rest with
  | quote :: behind =>
    if (quote == '\'' || quote == '"') && isQuoteMark word then l.scanQuoted word quote behind
    else if Text.isName word then some (l.emit (.ofWord word) rest)
    else none
  | [] => if Text.isName word then some (l.emit (.ofWord word) rest) else none

/-- The operators, longer ones before those they start with. -/
def operators : List String :=
  ["**=", "//=", ">>=", "<<=", "...", "!=", "%=", "&=", "**", "*=", "+=", "-=", "->", "//", "/=", "<<", "<=", "<>",
    "==", ">=", ">>", "@=", ":=", "^=", "|=", "%", "&", "(", ")", "*", "+", ",", "-", ".", "/", ":", ";", "<", "=",
    ">", "@", "[", "]", "^", "\x7b", "|", "\x7d", "~"]

def closingOf? (opening : Char) : Option Char :=
  match opening with
  | '(' => some ')'
  | '[' => some ']'
  | '\x7b' => some '\x7d'
  | _ => none

/-- Keeps account of the open brackets; a closing one has to fit the innermost. -/
def bracket (l : Lexer) (c : Char) : Option Lexer :=
  if (closingOf? c).isSome then
    if maxBrackets ≤ l.brackets.length then none else some { l with brackets := c :: l.brackets }
  else if c == ')' || c == ']' || c == '\x7d' then
    match l.brackets with
    | opening :: below => if closingOf? opening == some c then some { l with brackets := below } else none
    | [] => none
  else some l

def scanOperator (l : Lexer) : Option Lexer := do
  let op ← operators.find? fun op => op.toList.isPrefixOf l.rest
  let l ← if op.length = 1 then l.bracket op.front else some l
  return l.emit (.op op) (l.rest.drop op.length)

/-! ## Steps -/

def isBlank (c : Char) : Bool := c == ' ' || c == '\t' || c == '\x0c'

def startsNumber (cs : List Char) : Bool :=
  match cs with
  | '.' :: c :: _ => c.isDigit
  | c :: _ => c.isDigit
  | [] => false

/-- One token, or some text between tokens. -/
def step (l : Lexer) : Option Lexer :=
  if l.atLineStart then l.startLine
  else
    match l.rest with
    | [] => some l
    | '\n' :: rest =>
      let l := if l.brackets.isEmpty then l.emit .newline rest else { l with rest := rest }
      some { l with line := l.line + 1, atLineStart := true }
    | '#' :: rest => some { l with rest := rest.dropWhile (· != '\n') }
    | ['\\', '\n'] => none
    | '\\' :: '\n' :: rest => some { l with rest := rest, line := l.line + 1 }
    | c :: rest =>
      if isBlank c then some { l with rest := rest }
      else if startsNumber l.rest then (scanNumber l.rest).map fun (value, rest) => l.emit (.number value) rest
      else if c == '\'' || c == '"' then l.scanQuoted "" c rest
      else if isWordChar c then l.scanWord
      else l.scanOperator

/-- Steps until the text is used up; every step but the last uses up some of it. -/
def run : Nat → Lexer → Option Lexer
  | 0, _ => none
  | fuel + 1, l => if l.rest.isEmpty then some l else l.step.bind (run fuel)

/-- The tokens of a finished text, with the open blocks closed. -/
def finish (l : Lexer) : Option (List Lexeme) :=
  if !l.brackets.isEmpty then none
  else
    let closing := List.replicate (l.indents.length - 1) (⟨.dedent, l.line⟩ : Lexeme)
    some (l.found.reverse ++ closing)

end Lexer

/-- The tokens of a program text, if it can be divided into tokens. -/
def scan (source : List Char) : Option (List Lexeme) :=
  let text := unifyNewlines source
  let start : Lexer :=
    { rest := text, line := 1, atLineStart := true, indents := [⟨0, 0⟩], brackets := [], found := [] }
  (Lexer.run (2 * text.length + 2) start).bind Lexer.finish

end Treewalk.Token
