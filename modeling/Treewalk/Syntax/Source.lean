/-
Expressions as program text, with no more parentheses than their precedence needs. Error messages show the targets of
assignments and deletions and the literals that cannot be evaluated in this form. Not every expression has a text; of
several reasons why, the leftmost one is reported.
-/
import Treewalk.Syntax.Tree
import Treewalk.Text.Quotes
import Treewalk.Unwritable

namespace Treewalk

/-- How tightly a form binds, from the loosest. -/
inductive Precedence where
  | named | tuple | yield | test | or | and | not | compare | bitOr | bitXor | bitAnd | shift | arith | term
  | factor | power | await | atom
deriving Repr, DecidableEq

namespace Precedence

def rank (p : Precedence) : Nat := p.ctorIdx

/-- The next tighter precedence. -/
def next : Precedence → Precedence
  | .named => .tuple
  | .tuple => .yield
  | .yield => .test
  | .test => .or
  | .or => .and
  | .and => .not
  | .not => .compare
  | .compare => .bitOr
  | .bitOr => .bitXor
  | .bitXor => .bitAnd
  | .bitAnd => .shift
  | .shift => .arith
  | .arith => .term
  | .term => .factor
  | .factor => .power
  | .power => .await
  | .await => .atom
  | .atom => .atom

end Precedence

/-- The precedence of a binary, unary or Boolean operator. -/
def Operator.precedence : Operator → Precedence
  | .or => .or
  | .and => .and
  | .not => .not
  | .bitOr => .bitOr
  | .bitXor => .bitXor
  | .bitAnd => .bitAnd
  | .shiftLeft | .shiftRight => .shift
  | .add | .sub => .arith
  | .mult | .matMult | .div | .mod | .floorDiv => .term
  | .plus | .minus | .invert => .factor
  | .pow => .power
  | _ => .compare

/-- An operator as program text. -/
def Operator.token : Operator → String
  | .plus => "+"
  | .minus => "-"
  | .not => "not "
  | .and => "and"
  | .or => "or"
  | op => op.symbol

/-- A text, if there is one. -/
abbrev Written := Except Unwritable Text

/-- An operator as program text in a form that holds operators of one group. -/
def Operator.written (op : Operator) (group : Operator.Group) : Written :=
  if op.group? = some group then .ok op.token else .error .operator

/-- The place an expression stands in: one that asks for a precedence, one between brackets, where a tuple needs no
parentheses, or a part of a formatted string, where text stands bare. -/
inductive Place where
  | within (precedence : Precedence)
  | index
  | part

/-- The precedence that a place asks for. -/
def Place.precedence : Place → Precedence
  | .within precedence => precedence
  | _ => .test

namespace Text

/-- The text in parentheses if it binds looser than its place asks for. -/
def fit (own : Precedence) (place : Place) (t : Text) : Text :=
  if own.rank < place.precedence.rank then "(" ++ t ++ ")" else t

def braced (t : Text) : Text := "\x7b" ++ t ++ "\x7d"

/-- A tuple in its place; an empty one always has parentheses. -/
def tuple (place : Place) (items : List Text) : Text :=
  match place, items with
  | _, [] => "()"
  | .index, items => bareTuple items
  | place, items => fit .tuple place (bareTuple items)

def doubleBraces (t : Text) : Text :=
  ⟨t.points.flatMap fun (p : CodePoint) => if p == '\x7b' || p == '\x7d' then [p, p] else [p]⟩

/-- The mark before a literal; tuples and the ellipsis never show it. -/
def literalMark (value : Literal) (kind : Option String) : String :=
  match value with
  | .tuple _ | .ellipsis => ""
  | _ => if kind == some "u" then "u" else ""

/-- A literal that stands alone. Inside a formatted string its text should do without backslashes. -/
def literal (loose : Bool) (value : Literal) : Written :=
  match value with
  | .string t => .ok (if loose then looselyQuoted t else quoted t)
  | value => Unwritable.orLimit (value.source?.map .ofString)

/-- A formatted string of its parts, each with whether it is literal text: as a part of another one, inside the value of
another one, or standing alone. -/
def formattedString (loose : Bool) (place : Place) (parts : List (Text × Bool)) : Text :=
  let content := join (parts.map (·.1))
  match place with
  | .part => content
  | _ => "f" ++ if loose then looselyQuoted content else quotedParts parts

/-- The expression of a value inside a formatted string. -/
def valueText (t : Text) : Written :=
  if t.points.contains '\\' then .error .backslash
  else .ok (if t.points.head? == some (.ofChar '\x7b') then " " ++ t else t)

/-- An entry of a dictionary; one without a key unpacks its value. -/
def entry (key : Option Written) (value : Written) : Written :=
  match key with
  | none => do return "**" ++ (← value)
  | some key => do return (← key) ++ ": " ++ (← value)

/-- One link of a chain of comparisons. -/
def link (op : Operator) (operand : Written) : Written := do
  return " " ++ (← op.written .comparing) ++ " " ++ (← operand)

/-- A parameter and its default. -/
def withDefault (param default : Written) : Written := do return (← param) ++ (← default)

/-- Parameters behind each other, each default at its parameter. -/
def paramList (positionalOnly positional : List Written) (defaults : List Written) (rest : List Written)
    (keywordOnly keywordDefaults : List Written) (keywordRest : List Written) : Written := do
  let all := positionalOnly ++ positional
  let filled := List.zipWith withDefault all (List.replicate (all.length - defaults.length) (.ok "") ++ defaults)
  let slash := if positionalOnly.isEmpty then [] else [.ok "/"]
  let star := if rest.isEmpty && !keywordOnly.isEmpty then [.ok "*"] else rest
  let named := List.zipWith withDefault keywordOnly keywordDefaults
  let items := filled.take positionalOnly.length ++ slash ++ filled.drop positionalOnly.length ++ star ++ named ++
    keywordRest
  return commaJoined (← items.mapM id)

end Text

def Expr.isConstant : Expr → Bool
  | .constant .. => true
  | _ => false

open Text in
mutual

/-- The text of an expression in its place; `loose` inside the values of formatted strings. -/
def Expr.source (loose : Bool) (place : Place) : Expr → Written
  | .constant value kind =>
    match place, value with
    | .part, .string t => .ok (doubleBraces t)
    | _, value => do return literalMark value kind ++ (← literal loose value)
  | .name id _ => .ok id
  | .attribute value attr _ => do
    let gap := match value with
      | .constant l _ => if l.isIntegral then " " else ""
      | _ => ""
    return (← value.source loose (.within .atom)) ++ gap ++ "." ++ attr
  | .subscript value index _ => do
    return (← value.source loose (.within .atom)) ++ "[" ++ (← index.source loose .index) ++ "]"
  | .slice lower upper step => do
    return (← sourceIfAny loose .test "" lower) ++ ":" ++ (← sourceIfAny loose .test "" upper) ++
      (← sourceIfAny loose .test ":" step)
  | .starred value _ => do return "*" ++ (← value.source loose (.within .bitOr))
  | .tuple items _ => do return tuple place (← (sources loose .test items).mapM id)
  | .list items _ => do return "[" ++ commaJoined (← (sources loose .test items).mapM id) ++ "]"
  | .set items => do
    let items ← (sources loose .test items).mapM id
    return braced (if items.isEmpty then "*()" else commaJoined items)
  | .dict keys values => do
    let entries := List.zipWith entry (slotSources loose keys) (valueSources loose (keys.map Option.isSome) values)
    return braced (commaJoined (← entries.mapM id))
  | .unary op operand => do
    return fit op.precedence place ((← op.written .unary) ++ (← operand.source loose (.within op.precedence)))
  | .binary left op right => do
    let own := op.precedence
    let (leftPlace, rightPlace) := if op = .pow then (own.next, own) else (own, own.next)
    let token ← op.written .binary
    return fit own place ((← left.source loose (.within leftPlace)) ++ " " ++ token ++ " " ++
      (← right.source loose (.within rightPlace)))
  | .boolean op operands => do
    let token ← op.written .boolean
    let operands ← (risingSources loose op.precedence.next operands).mapM id
    return fit op.precedence place (intercalate (" " ++ token ++ " ") operands)
  | .compare left ops operands => do
    let left ← left.source loose (.within .bitOr)
    let links ← (List.zipWith link ops (sources loose .bitOr operands)).mapM id
    return fit .compare place (left ++ join links)
  | .conditional test body orelse => do
    return fit .test place ((← body.source loose (.within .or)) ++ " if " ++ (← test.source loose (.within .or)) ++
      " else " ++ (← orelse.source loose (.within .test)))
  | .call callee args keywords => do
    let callee ← callee.source loose (.within .atom)
    return callee ++ "(" ++ commaJoined (← (sources loose .test args ++ keywordSources loose keywords).mapM id) ++ ")"
  | .lambda params body => do
    let list ← params.source loose
    return fit .test place ("lambda" ++ (if list.isEmpty then .empty else " " ++ list) ++ ": " ++
      (← body.source loose (.within .test)))
  | .named target value => do
    return fit .named place ((← target.source loose (.within .atom)) ++ " := " ++
      (← value.source loose (.within .atom)))
  | .listComp item clauses => do
    return "[" ++ (← item.source loose (.within .test)) ++ (← clauseSources loose clauses) ++ "]"
  | .setComp item clauses => do
    return braced ((← item.source loose (.within .test)) ++ (← clauseSources loose clauses))
  | .dictComp key value clauses => do
    return braced ((← key.source loose (.within .test)) ++ ": " ++ (← value.source loose (.within .test)) ++
      (← clauseSources loose clauses))
  | .generator item clauses => do
    return "(" ++ (← item.source loose (.within .test)) ++ (← clauseSources loose clauses) ++ ")"
  | .await value => do return fit .await place ("await " ++ (← value.source loose (.within .atom)))
  | .yield value => do return fit .yield place ("yield" ++ (← sourceIfAny loose .atom " " value))
  | .yieldFrom value => do return fit .yield place ("yield from " ++ (← value.source loose (.within .atom)))
  | .joined parts => do return formattedString loose place (← partSources loose parts)
  | .formatted value conversion spec => do
    let mark := if conversion < 0 then "" else "!" ++ (Char.ofNat conversion.toNat).toString
    let body ← valueText (← value.source true (.within .or))
    return braced (body ++ mark ++ (← specSource loose spec))

def sources (loose : Bool) (precedence : Precedence) : List Expr → List Written
  | [] => []
  | e :: rest => e.source loose (.within precedence) :: sources loose precedence rest

/-- The parts of a formatted string, each with whether it is literal text. -/
def partSources (loose : Bool) : List Expr → Except Unwritable (List (Text × Bool))
  | [] => .ok []
  | e :: rest => do return (← e.source loose .part, e.isConstant) :: (← partSources loose rest)

/-- The operands of a Boolean operator, each in a tighter place than the one before it. -/
def risingSources (loose : Bool) (precedence : Precedence) : List Expr → List Written
  | [] => []
  | e :: rest => e.source loose (.within precedence) :: risingSources loose precedence.next rest

/-- The values of a dictionary; one without a key stands in a tighter place. -/
def valueSources (loose : Bool) (keyed : List Bool) : List Expr → List Written
  | [] => []
  | e :: rest =>
    e.source loose (.within (if keyed.headD true then .test else .bitOr)) :: valueSources loose keyed.tail rest

def sourceIfAny (loose : Bool) (precedence : Precedence) (lead : String) : Option Expr → Written
  | none => .ok ""
  | some e => do return lead ++ (← e.source loose (.within precedence))

def specSource (loose : Bool) : Option Expr → Written
  | none => .ok ""
  | some e => do return ":" ++ (← e.source loose .part)

def slotSource (loose : Bool) : Option Expr → Option Written
  | none => none
  | some e => some (e.source loose (.within .test))

def slotSources (loose : Bool) : List (Option Expr) → List (Option Written)
  | [] => []
  | slot :: rest => slotSource loose slot :: slotSources loose rest

def Keyword.source (loose : Bool) : Keyword → Written
  | .mk none value => do return "**" ++ (← value.source loose (.within .test))
  | .mk (some name) value => do return name ++ "=" ++ (← value.source loose (.within .test))

def keywordSources (loose : Bool) : List Keyword → List Written
  | [] => []
  | k :: rest => k.source loose :: keywordSources loose rest

def Clause.source (loose : Bool) : Clause → Written
  | .mk target source conditions isAsync => do
    let target ← target.source loose (.within .tuple)
    let source ← source.source loose (.within .or)
    let conditions ← (sources loose .or conditions).mapM id
    return (if isAsync then " async for " else " for ") ++ target ++ " in " ++ source ++
      join (conditions.map fun condition => " if " ++ condition)

def clauseSources (loose : Bool) : List Clause → Written
  | [] => .ok ""
  | c :: rest => do return (← c.source loose) ++ (← clauseSources loose rest)

def Param.source (loose : Bool) : Param → Written
  | .mk name hint => do return name ++ (← sourceIfAny loose .test ": " hint)

def paramSources (loose : Bool) : List Param → List Written
  | [] => []
  | p :: rest => p.source loose :: paramSources loose rest

def restSource (loose : Bool) (mark : String) : Option Param → List Written
  | none => []
  | some p => [do return mark ++ (← p.source loose)]

def defaultSources (loose : Bool) : List Expr → List Written
  | [] => []
  | e :: rest => (do return "=" ++ (← e.source loose (.within .test))) :: defaultSources loose rest

def keywordDefaultSources (loose : Bool) : List (Option Expr) → List Written
  | [] => []
  | d :: rest => sourceIfAny loose .test "=" d :: keywordDefaultSources loose rest

def Params.source (loose : Bool) : Params → Written
  | .mk positionalOnly positional rest keywordOnly keywordDefaults keywordRest defaults =>
    paramList (paramSources loose positionalOnly) (paramSources loose positional) (defaultSources loose defaults)
      (restSource loose "*" rest) (paramSources loose keywordOnly) (keywordDefaultSources loose keywordDefaults)
      (restSource loose "**" keywordRest)

end

/-- An expression that stands alone. -/
def Expr.text (e : Expr) : Written := e.source false (.within .test)

/-- The text of a deletion. -/
def deletionText (targets : List Expr) : Written := do
  return "del " ++ Text.commaJoined (← (sources false .test targets).mapM id)

end Treewalk
