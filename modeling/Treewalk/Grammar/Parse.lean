/-
Parsing as reading from a list of tokens: a reading takes tokens from the front, or fails and takes none. A name is read
in its normal form, while words that are keywords in their places only are recognised as they are written.
-/
import Treewalk.Token.Normal

namespace Treewalk

/-- A reading of a value from the front of the tokens. -/
abbrev Parse := StateT (List Lexeme) Option

namespace Parse

variable {α σ : Type}

/-! ## Looking ahead -/

def isOpAt (s : String) : List Lexeme → Bool
  | ⟨.op t, _⟩ :: _ => t == s
  | _ => false

def isKeywordAt (s : String) : List Lexeme → Bool
  | ⟨.keyword t, _⟩ :: _ => t == s
  | _ => false

def isNameAt (s : String) : List Lexeme → Bool
  | ⟨.name t, _⟩ :: _ => t == s
  | _ => false

def nextIsOp (s : String) : Parse Bool := do return isOpAt s (← get)

def nextIsKeyword (s : String) : Parse Bool := do return isKeywordAt s (← get)

/-- The line of the next token. -/
def line : Parse Nat := do
  match ← get with
  | lexeme :: _ => return lexeme.line
  | [] => return 0

/-! ## Taking tokens -/

def skip : Parse Unit := modify List.tail

/-- Takes an operator if it is next. -/
def takeOp (s : String) : Parse Bool := do
  if ← nextIsOp s then
    skip
    return true
  else return false

/-- Takes a keyword if it is next. -/
def takeKeyword (s : String) : Parse Bool := do
  if ← nextIsKeyword s then
    skip
    return true
  else return false

def op (s : String) : Parse Unit := do if ← takeOp s then pure () else failure

def keyword (s : String) : Parse Unit := do if ← takeKeyword s then pure () else failure

def name : Parse String := do
  match ← get with
  | ⟨.name s, _⟩ :: rest =>
    set rest
    return Token.normalName s
  | _ => failure

def newline : Parse Unit := do
  match ← get with
  | ⟨.newline, _⟩ :: rest => set rest
  | _ => failure

def indent : Parse Unit := do
  match ← get with
  | ⟨.indent, _⟩ :: rest => set rest
  | _ => failure

def dedent : Parse Unit := do
  match ← get with
  | ⟨.dedent, _⟩ :: rest => set rest
  | _ => failure

/-! ## Repetition -/

/-- Goes from state to state while there is a next one, at most once for each token of a budget. -/
def iterate (step : σ → Parse (Option σ)) : List Lexeme → σ → Parse σ
  | [], s => do
    match ← step s with
    | some _ => failure
    | none => return s
  | _ :: budget, s => do
    match ← step s with
    | some s => iterate step budget s
    | none => return s

/-- Repeats a step that takes at least one token each time but the last, so that the tokens at hand are budget enough. -/
def repeatWhile (step : σ → Parse (Option σ)) (s : σ) : Parse σ := do
  iterate step (← get) s

/-- Items as long as the condition holds before each of them. -/
def many (more : Parse Bool) (item : Parse α) : Parse (List α) := do
  let items ← repeatWhile (fun (items : List α) => do
    if ← more then return some ((← item) :: items) else return none) []
  return items.reverse

/-- Items divided by commas, at least one, without a comma behind the last. -/
def commaSeparated (item : Parse α) : Parse (List α) := do
  let first ← item
  let rest ← many (takeOp ",") item
  return first :: rest

/-- Items divided by commas, as long as another one can start behind a comma; the answer says whether there was a comma
at all. -/
def commaList (starts : Parse Bool) (item : Parse α) (first : α) : Parse (List α × Bool) := do
  let (items, comma, _) ← repeatWhile (fun ((items, _, more) : List α × Bool × Bool) => do
    if !more then return none
    else if ← takeOp "," then
      if ← starts then return some ((← item) :: items, true, true) else return some (items, true, false)
    else return (none : Option (List α × Bool × Bool))) ([first], false, true)
  return (items.reverse, comma)

end Parse

end Treewalk
