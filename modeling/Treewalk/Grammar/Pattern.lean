/-
The grammar of patterns.
-/
import Treewalk.Grammar.Expression

namespace Treewalk.Grammar

open Parse

variable [Host]

/-- How a whole pattern is read again. -/
abbrev PatternRec := Parse Pattern

/-- A dotted name behind its first part. -/
def dotted (first : String) : Parse Expr :=
  repeatWhile (fun (e : Expr) => do
    if ← takeOp "." then return some (.attribute e (← name) .load) else return none) (.name first .load)

def isRealNumber : Literal → Bool
  | .int _ | .float _ => true
  | _ => false

def number : Parse Literal := do
  match ← get with
  | ⟨.number value, _⟩ :: rest =>
    set rest
    return value
  | _ => failure

/-- A number with a sign, and possibly an imaginary part. -/
def numberPattern : Parse Expr := do
  let negative ← takeOp "-"
  let value ← number
  let real : Expr := if negative then .unary .minus (.constant value none) else .constant value none
  let part (op : Operator) : Parse Expr := do
    match ← number with
    | .imaginary re im =>
      if isRealNumber value then return .binary real op (.constant (.imaginary re im) none) else failure
    | _ => failure
  if ← takeOp "+" then part .add
  else if ← takeOp "-" then part .sub
  else return real

/-- A literal that a value is compared with. -/
def literalPattern (expr : Rec) : Parse (Expr ⊕ Literal) := do
  match ← get with
  | ⟨.number _, _⟩ :: _ | ⟨.op "-", _⟩ :: _ => return .inl (← numberPattern)
  | ⟨.quoted _, _⟩ :: _ => return .inl (← quotedLiteral expr (← takeQuoted))
  | ⟨.keyword "None", _⟩ :: rest =>
    set rest
    return .inr .none
  | ⟨.keyword "True", _⟩ :: rest =>
    set rest
    return .inr (.bool true)
  | ⟨.keyword "False", _⟩ :: rest =>
    set rest
    return .inr (.bool false)
  | _ => failure

def captured (n : String) : Option String := if n == "_" then none else some n

/-- A name that is bound, which the wildcard is not. -/
def boundName : Parse String := do
  match captured (← name) with
  | some n => return n
  | none => failure

/-- A pattern of a sequence, which may be a starred name. -/
def sequenceItem (self : PatternRec) : Parse Pattern := do
  if ← takeOp "*" then return .star (captured (← name)) else self

def closes (closing : String) : Parse Bool := do return !(← nextIsOp closing)

/-- Patterns up to a closing bracket. -/
def sequenceItems (self : PatternRec) (closing : String) : Parse (List Pattern × Bool) := do
  if ← nextIsOp closing then return ([], false)
  else commaList (closes closing) (sequenceItem self) (← sequenceItem self)

/-- The arguments of a class pattern. Directly behind positional ones the wildcard is one of them and names no attribute. -/
def classItems (self : PatternRec) : Parse (List Pattern × List String × List Pattern) := do
  let (items, names, named) ← repeatWhile (fun ((items, names, named) :
      List Pattern × List String × List Pattern) => do
    if ← nextIsOp ")" then return none
    else
      let wildcard := isNameAt "_" (← get) && names.isEmpty && !items.isEmpty
      let next ← if isKeywordArgAt (← get) && !wildcard then do
          let n ← name
          op "="
          pure (items, names ++ [n], named ++ [← self])
        else if names.isEmpty then do pure (items ++ [← self], names, named)
        else failure
      if ← nextIsOp ")" then return some next
      else
        op ","
        return some next) ([], [], [])
  op ")"
  return (items, names, named)

structure MappingState where
  keys : List Expr := []
  items : List Pattern := []
  rest : Option String := none

def mappingKey (expr : Rec) : Parse Expr := do
  match ← get with
  | ⟨.name n, _⟩ :: rest =>
    set rest
    match ← dotted (Token.normalName n) with
    | .name .. => failure
    | e => return e
  | _ =>
    match ← literalPattern expr with
    | .inl e => return e
    | .inr l => return .constant l none

def mappingPattern (expr : Rec) (self : PatternRec) : Parse Pattern := do
  let s ← repeatWhile (fun (s : MappingState) => do
    if ← nextIsOp "\x7d" then return none
    else
      let next ← if s.rest.isSome then failure
        else if ← takeOp "**" then do pure { s with rest := some (← boundName) }
        else do
          let key ← mappingKey expr
          op ":"
          pure { s with keys := s.keys ++ [key], items := s.items ++ [← self] }
      if ← nextIsOp "\x7d" then return some next
      else
        op ","
        return some next) {}
  op "\x7d"
  return .mapping s.keys s.items s.rest

/-- A pattern that starts with a name: the class of a value, a value to compare with, or a name to bind. The wildcard is
none of these and stands alone. -/
def namePattern (self : PatternRec) (n : String) : Parse Pattern := do
  if n == "_" then return .binding none none
  else
    let e ← dotted (Token.normalName n)
    if ← takeOp "(" then
      let (items, names, named) ← classItems self
      return .classOf e items names named
    else
      match e with
      | .name id _ => return .binding none (some id)
      | e => return .value e

/-- A pattern without alternatives of its own. -/
def closedPattern (expr : Rec) (self : PatternRec) : Parse Pattern := do
  match ← get with
  | ⟨.name n, _⟩ :: rest =>
    set rest
    namePattern self n
  | ⟨.op "(", _⟩ :: rest =>
    set rest
    let (items, comma) ← sequenceItems self ")"
    op ")"
    match items, comma with
    | [.star _], false => failure
    | [item], false => return item
    | items, _ => return .sequence items
  | ⟨.op "[", _⟩ :: rest =>
    set rest
    let (items, _) ← sequenceItems self "]"
    op "]"
    return .sequence items
  | ⟨.op "\x7b", _⟩ :: rest =>
    set rest
    mappingPattern expr self
  | _ =>
    match ← literalPattern expr with
    | .inl e => return .value e
    | .inr l => return .singleton l

/-- Alternatives, and the name they are bound to. -/
def patternRule (expr : Rec) (self : PatternRec) : Parse Pattern := do
  let first ← closedPattern expr self
  let rest ← many (takeOp "|") (closedPattern expr self)
  let p := if rest.isEmpty then first else .oneOf (first :: rest)
  if ← takeKeyword "as" then return .binding (some p) (some (← boundName)) else return p

/-- Patterns nested at most as deep as the fuel allows. -/
def pattern (expr : Rec) : Nat → Parse Pattern
  | 0 => failure
  | fuel + 1 => patternRule expr (pattern expr fuel)

/-- The pattern of a case, which may be a sequence without brackets. -/
def casePattern (self : PatternRec) : Parse Pattern := do
  let first ← sequenceItem self
  let ends := do return !(← nextIsOp ":") && !(← nextIsKeyword "if")
  let (items, comma) ← commaList ends (sequenceItem self) first
  match items, comma with
  | [.star _], false => failure
  | [item], false => return item
  | items, _ => return .sequence items

end Treewalk.Grammar
