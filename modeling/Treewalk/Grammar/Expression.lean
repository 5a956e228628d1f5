/-
The grammar of expressions. Every rule that needs a whole expression again takes it as a parameter, indexed by the loosest
precedence allowed; the knot is tied once, with fuel.
-/
import Treewalk.Grammar.Escape
import Treewalk.Grammar.Params
import Treewalk.Grammar.Target
import Treewalk.Token.Lexer

namespace Treewalk.Grammar

open Parse

variable [Host]

/-! ## Lists of expressions -/

/-- Whether an expression, or one behind a star, can start here. -/
def startsItem : Parse Bool := do
  match ← get with
  | ⟨.name _, _⟩ :: _ | ⟨.number _, _⟩ :: _ | ⟨.quoted _, _⟩ :: _ => return true
  | ⟨.op s, _⟩ :: _ => return ["(", "[", "\x7b", "-", "+", "~", "...", "*"].contains s
  | ⟨.keyword s, _⟩ :: _ => return ["None", "True", "False", "not", "lambda", "await"].contains s
  | _ => return false

/-- Whether an expression that is given a name starts here. -/
def isNamedAt : List Lexeme → Bool
  | ⟨.name _, _⟩ :: ⟨.op ":=", _⟩ :: _ => true
  | _ => false

/-- An expression that may be given a name. -/
def namedExpr (self : Rec) : Parse Expr := do
  match ← get with
  | ⟨.name n, _⟩ :: ⟨.op ":=", _⟩ :: rest =>
    set rest
    return .named (.name (Token.normalName n) .store) (← self .test)
  | _ => self .test

/-- Items with or without a star; with a comma they are a tuple. -/
def starList (self : Rec) (plain : Parse Expr) : Parse Expr := do
  let first ← starItem self plain
  let (items, comma) ← commaList startsItem (starItem self plain) first
  return if comma then .tuple items .load else first

def yieldOrList (self : Rec) : Parse Expr := do
  if ← takeKeyword "yield" then
    if ← takeKeyword "from" then return .yieldFrom (← self .test)
    else if ← startsItem then return .yield (some (← self .tuple))
    else return .yield none
  else self .tuple

/-- The targets of a loop. -/
def loopTarget (self : Rec) : Parse Expr := do
  let e ← starList self (self .bitOr)
  e.asTarget? .store

/-! ## Comprehensions -/

def isClauseAt (tokens : List Lexeme) : Bool :=
  isKeywordAt "for" tokens || (isKeywordAt "async" tokens && isKeywordAt "for" tokens.tail)

def nextIsClause : Parse Bool := do return isClauseAt (← get)

def clause (self : Rec) : Parse Clause := do
  let isAsync ← takeKeyword "async"
  keyword "for"
  let target ← loopTarget self
  keyword "in"
  let source ← self .or
  let conditions ← many (takeKeyword "if") (self .or)
  return .mk target source conditions isAsync

def clauses (self : Rec) : Parse (List Clause) := many nextIsClause (clause self)

/-! ## Brackets -/

/-- What follows the first item of a bracket whose items may be starred: a comprehension over an unstarred item, or more
items. -/
def bracketItems (self : Rec) (first : Expr) (comprehension : Expr → List Clause → Expr)
    (container : List Expr → Bool → Option Expr) : Parse Expr := do
  if ← nextIsClause then
    match first with
    | .starred .. => failure
    | _ => return comprehension first (← clauses self)
  else
    let (items, comma) ← commaList startsItem (starItem self (namedExpr self)) first
    container items comma

/-- A group, a tuple or a generator, behind the opening parenthesis. -/
def group (self : Rec) : Parse Expr := do
  if ← takeOp ")" then return .tuple [] .load
  else
    let e ← if ← nextIsKeyword "yield" then self .yield
      else do
        let first ← starItem self (namedExpr self)
        bracketItems self first .generator fun items comma =>
          match items, comma with
          | [.starred ..], false => none
          | [item], false => some item
          | items, _ => some (.tuple items .load)
    op ")"
    return e

/-- A list or a list comprehension, behind the opening bracket. -/
def listDisplay (self : Rec) : Parse Expr := do
  if ← takeOp "]" then return .list [] .load
  else
    let first ← starItem self (namedExpr self)
    let e ← bracketItems self first .listComp fun items _ => some (.list items .load)
    op "]"
    return e

/-- One entry of a dictionary; a double star unpacks. -/
def dictEntry (self : Rec) : Parse (Option Expr × Expr) := do
  if ← takeOp "**" then return (none, ← self .bitOr)
  else
    let key ← self .test
    op ":"
    return (some key, ← self .test)

def dictRest (self : Rec) (first : Option Expr × Expr) : Parse Expr := do
  let starts := do return (← startsItem) || (← nextIsOp "**")
  let (entries, _) ← commaList starts (dictEntry self) first
  return .dict (entries.map (·.1)) (entries.map (·.2))

/-- A set or a set comprehension behind its first item. -/
def setRest (self : Rec) (first : Expr) : Parse Expr :=
  bracketItems self first .setComp fun items _ => some (.set items)

/-- A dictionary or a set, from its first expression on; a key has no name unless it stands in parentheses. -/
def bracesRest (self : Rec) : Parse Expr := do
  if isNamedAt (← get) then setRest self (← namedExpr self)
  else
    let first ← self .test
    if ← takeOp ":" then
      let value ← self .test
      if ← nextIsClause then return .dictComp first value (← clauses self)
      else dictRest self (some first, value)
    else setRest self first

/-- A dictionary, a set or a comprehension of one, behind the opening brace. -/
def braces (self : Rec) : Parse Expr := do
  if ← takeOp "\x7d" then return .dict [] []
  else
    let e ← if ← nextIsOp "**" then do dictRest self (← dictEntry self)
      else if ← nextIsOp "*" then do setRest self (← starItem self (self .test))
      else bracesRest self
    op "\x7d"
    return e

/-! ## Subscripts and calls -/

/-- An optional bound of a slice. -/
def bound (self : Rec) : Parse (Option Expr) := do
  if ← nextIsOp ":" then return none
  else if ← startsItem then return some (← self .test)
  else return none

def sliceFrom (self : Rec) (lower : Option Expr) : Parse Expr := do
  op ":"
  let upper ← bound self
  let step ← if ← takeOp ":" then bound self else pure none
  return .slice lower upper step

def subscriptItem (self : Rec) : Parse Expr := do
  if ← nextIsOp ":" then sliceFrom self none
  else if ← takeOp "*" then return .starred (← self .test) .load
  else if isNamedAt (← get) then namedExpr self
  else
    let e ← self .test
    if ← nextIsOp ":" then sliceFrom self (some e) else return e

/-- The index behind an opening bracket; several items are a tuple, and so is a starred one. -/
def subscriptIndex (self : Rec) : Parse Expr := do
  let starts := do return (← startsItem) || (← nextIsOp ":")
  let first ← subscriptItem self
  let (items, comma) ← commaList starts (subscriptItem self) first
  op "]"
  match items, comma with
  | [.starred v c], _ => return .tuple [.starred v c] .load
  | [item], false => return item
  | items, _ => return .tuple items .load

/-- Arguments read so far. Behind a keyword argument there are no plain positional ones, behind an unpacked mapping no
positional ones at all, and behind a generator without parentheses of its own nothing. -/
structure ArgState where
  args : List Expr := []
  keywords : List Keyword := []
  unpacked : Bool := false
  lone : Bool := false

def isKeywordArgAt : List Lexeme → Bool
  | ⟨.name _, _⟩ :: ⟨.op "=", _⟩ :: _ => true
  | _ => false

/-- A positional argument; a generator that is the only argument needs no parentheses. -/
def positionalArgument (self : Rec) (s : ArgState) : Parse ArgState := do
  let item ← namedExpr self
  if ← nextIsClause then
    if s.args.isEmpty then return { s with args := [.generator item (← clauses self)], lone := true }
    else failure
  else return { s with args := s.args ++ [item] }

def argument (self : Rec) (s : ArgState) : Parse ArgState := do
  if ← takeOp "**" then
    return { s with keywords := s.keywords ++ [.mk none (← self .test)], unpacked := true }
  else if ← takeOp "*" then
    if s.unpacked then failure
    else return { s with args := s.args ++ [.starred (← self .test) .load] }
  else if isKeywordArgAt (← get) then
    let n ← name
    op "="
    return { s with keywords := s.keywords ++ [.mk (some n) (← self .test)] }
  else if !s.keywords.isEmpty then failure
  else positionalArgument self s

/-- The arguments behind an opening parenthesis, up to the closing one. -/
def arguments (self : Rec) : Parse ArgState := do
  let s ← repeatWhile (fun (s : ArgState) => do
    if ← nextIsOp ")" then return none
    else
      let s ← argument self s
      if ← nextIsOp ")" then return some s
      else if s.lone then failure
      else
        op ","
        return some s) {}
  op ")"
  return s

/-- Attributes, calls and subscripts behind an atom. -/
def trailers (self : Rec) (e : Expr) : Parse Expr :=
  repeatWhile (fun (e : Expr) => do
    if ← takeOp "." then return some (.attribute e (← name) .load)
    else if ← takeOp "(" then
      let s ← arguments self
      return some (.call e s.args s.keywords)
    else if ← takeOp "[" then return some (.subscript e (← subscriptIndex self) .load)
    else return none) e

/-! ## Formatted strings -/

/-- A part of a formatted string. -/
inductive Piece where
  | text (t : Text)
  | value (e : Expr)

/-- How a run of text in a formatted string ends: with the text, before a value, before the closing brace of the value
whose format it is, or at a doubled brace. -/
inductive RunEnd where
  | finished | value | closing | doubled

/-- A run of text; a brace that is doubled at the outer level is part of it, and so are those around the name of a
character. -/
def textRun (isRaw outer : Bool) : (naming : Bool) → List Char → List Char → Option (List Char × RunEnd × List Char)
  | _, [], done => some (done.reverse, .finished, [])
  | true, c :: rest, done => textRun isRaw outer (c != '\x7d') rest (c :: done)
  | false, '\x7b' :: rest, done =>
    if outer && rest.head? == some '\x7b' then some (('\x7b' :: done).reverse, .doubled, rest.tail)
    else some (done.reverse, .value, rest)
  | false, '\x7d' :: rest, done =>
    if !outer then some (done.reverse, .closing, '\x7d' :: rest)
    else if rest.head? == some '\x7d' then some (('\x7d' :: done).reverse, .doubled, rest.tail)
    else none
  | false, '\\' :: 'N' :: '\x7b' :: rest, done =>
    if isRaw then textRun isRaw outer false ('N' :: '\x7b' :: rest) ('\\' :: done)
    else textRun isRaw outer true rest ('\x7b' :: 'N' :: '\\' :: done)
  | false, '\\' :: c :: rest, done =>
    if !isRaw && c != '\x7b' && c != '\x7d' then textRun isRaw outer false rest (c :: '\\' :: done)
    else textRun isRaw outer false (c :: rest) ('\\' :: done)
  | false, c :: rest, done => textRun isRaw outer false rest (c :: done)

/-- Where a scan through the expression of a value stands: inside which quotes, and inside which brackets. -/
structure ValueScan where
  quote : Option (Char × Bool) := none
  brackets : List Char := []

/-- The text of the expression of a value, up to the character that ends it. -/
def valueText (s : ValueScan) : Nat → List Char → List Char → Option (List Char × List Char)
  | 0, _, _ => none
  | _, [], _ => none
  | fuel + 1, c :: rest, done =>
    if c == '\\' then none
    else
      match s.quote with
      | some (quote, long) =>
        if c != quote then valueText s fuel rest (c :: done)
        else if !long then valueText { s with quote := none } fuel rest (c :: done)
        else if [quote, quote].isPrefixOf rest then
          valueText { s with quote := none } fuel (rest.drop 2) (c :: c :: c :: done)
        else valueText s fuel rest (c :: done)
      | none =>
        if c == '\'' || c == '"' then
          if [c, c].isPrefixOf rest then
            valueText { s with quote := some (c, true) } fuel (rest.drop 2) (c :: c :: c :: done)
          else valueText { s with quote := some (c, false) } fuel rest (c :: done)
        else if (Token.Lexer.closingOf? c).isSome then
          valueText { s with brackets := c :: s.brackets } fuel rest (c :: done)
        else if c == '#' then none
        else if s.brackets.isEmpty && ['!', '=', '<', '>'].contains c && rest.head? == some '=' then
          valueText s fuel rest.tail ('=' :: c :: done)
        else if s.brackets.isEmpty && ['!', ':', '\x7d', '='].contains c then some (done.reverse, c :: rest)
        else if c == ')' || c == ']' || c == '\x7d' then
          match s.brackets with
          | opening :: below =>
            if Token.Lexer.closingOf? opening == some c then
              valueText { s with brackets := below } fuel rest (c :: done)
            else none
          | [] => none
        else valueText s fuel rest (c :: done)

def isSpace (c : Char) : Bool := c.isWhitespace || c == '\x0b' || c == '\x0c'

/-- Reads the expression of a value, which stands as if in parentheses. -/
def valueExpr (self : Rec) (cs : List Char) : Option Expr := do
  if cs.all fun c => c == '\n' || Token.Lexer.isBlank c then none
  else
    let tokens ← Token.scan ('(' :: cs ++ [')'])
    match ← (self .tuple).run tokens with
    | (e, [⟨.newline, _⟩]) => some e
    | _ => none

/-- The conversion behind a value. -/
def conversionMark (cs : List Char) : Option (Option Char × List Char) :=
  match cs with
  | '!' :: c :: rest => if ['s', 'r', 'a'].contains c then some (some c, rest) else none
  | '!' :: [] => none
  | cs => some (none, cs)

/-- The text that a value marked with `=` shows before itself. -/
def selfText (expr : List Char) (cs : List Char) : Option (List Char) × List Char :=
  match cs with
  | '=' :: rest => (some (expr ++ '=' :: rest.takeWhile isSpace), rest.dropWhile isSpace)
  | cs => (none, cs)

/-- A text as a part of a formatted string; an empty one is left out. -/
def textPart (kind : Option String) (t : Text) : List Expr := if t.isEmpty then [] else [.constant (.string t) kind]

/-- The pieces with neighbouring texts joined. A text before a value has one kind, and the text at the end may have
another. -/
def joinPieces (kind last : Option String) : List Piece → Text → List Expr
  | [], text => textPart last text
  | .text t :: rest, text => joinPieces kind last rest (text ++ t)
  | .value e :: rest, text => textPart kind text ++ e :: joinPieces kind last rest .empty

/-- The pieces of a formatted string, up to its end or to the brace that closes the value whose format it is. Values nest
two deep at most. Literals behind each other share the kind of the first, except for the text at the end of a format. -/
def pieces (self : Rec) (isRaw : Bool) (kind : Option String) (level : Nat) :
    Nat → List Char → List Piece → Option (List Piece × List Char)
  | 0, _, _ => none
  | fuel + 1, cs, done => do
    let (text, ending, rest) ← textRun isRaw (level == 0) false cs []
    let done := .text (← unescape isRaw false text) :: done
    match ending with
    | .finished | .closing => return (done.reverse, rest)
    | .doubled => pieces self isRaw kind level fuel rest done
    | .value =>
      if 2 ≤ level then none
      else
        let (text, rest) ← valueText {} (rest.length + 1) rest []
        let e ← valueExpr self text
        let (shown, rest) := selfText text rest
        let (conversion, rest) ← conversionMark rest
        let (spec, rest) ← match rest with
          | ':' :: rest => do
            let (parts, rest) ← pieces self isRaw kind (level + 1) fuel rest []
            pure (some (Expr.joined (joinPieces kind none parts .empty)), rest)
          | rest => pure (none, rest)
        let code : Int := match conversion with
          | some c => c.toNat
          | none => if shown.isSome && spec.isNone then 'r'.toNat else -1
        match rest with
        | '\x7d' :: rest =>
          let source : Text := ⟨(shown.getD []).map .ofChar⟩
          pieces self isRaw kind level fuel rest (.value (.formatted e code spec) :: .text source :: done)
        | _ => none

/-! ## Literals -/

def quotedPieces (self : Rec) (kind : Option String) (q : QuotedToken) : Option (List Piece) :=
  if q.isFormatted then do
    let (parts, rest) ← pieces self q.isRaw kind 0 (q.content.length + 2) q.content []
    if rest.isEmpty then some parts else none
  else do return [.text (← unescape q.isRaw false q.content)]

/-- Quoted literals behind each other are one literal; bytes and text do not mix. -/
def quotedLiteral (self : Rec) (qs : List QuotedToken) : Option Expr :=
  if qs.any QuotedToken.isBytes then
    if qs.all QuotedToken.isBytes then do return .constant (.bytes (← qs.mapM bytesOf).flatten) none else none
  else do
    let kind := match qs with
      | q :: _ => if q.isMarked then some "u" else none
      | [] => none
    let parts := (← qs.mapM (quotedPieces self kind)).flatten
    if qs.any QuotedToken.isFormatted then return .joined (joinPieces kind kind parts .empty)
    else
      let texts := parts.map fun
        | .text t => t
        | .value _ => .empty
      return .constant (.string (.join texts)) kind

/-- All quoted literals at the front of the tokens. -/
def takeQuoted : Parse (List QuotedToken) := do
  let quoted := (← get).takeWhile fun l => match l.token with
    | .quoted _ => true
    | _ => false
  modify (List.drop quoted.length)
  return quoted.filterMap fun l => match l.token with
    | .quoted q => some q
    | _ => none

def atom (self : Rec) : Parse Expr := do
  match ← get with
  | ⟨.name n, _⟩ :: rest =>
    set rest
    return .name (Token.normalName n) .load
  | ⟨.number value, _⟩ :: rest =>
    set rest
    return .constant value none
  | ⟨.quoted _, _⟩ :: _ => quotedLiteral self (← takeQuoted)
  | ⟨.keyword s, _⟩ :: rest =>
    set rest
    if s == "None" then return .constant .none none
    else if s == "True" then return .constant (.bool true) none
    else if s == "False" then return .constant (.bool false) none
    else failure
  | ⟨.op s, _⟩ :: rest =>
    set rest
    if s == "..." then return .constant .ellipsis none
    else if s == "(" then group self
    else if s == "[" then listDisplay self
    else if s == "\x7b" then braces self
    else failure
  | _ => failure

/-! ## Operators -/

/-- Operators of one precedence, grouped from the left. -/
def leftGrouped (ops : List (String × Operator)) (operand : Parse Expr) : Parse Expr := do
  let first ← operand
  repeatWhile (fun (left : Expr) => do
    match ← get with
    | ⟨.op s, _⟩ :: rest =>
      match ops.lookup s with
      | some op =>
        set rest
        return some (.binary left op (← operand))
      | none => return none
    | _ => return none) first

/-- A run of one Boolean operator is one node. -/
def booleanRun (word : String) (op : Operator) (operand : Parse Expr) : Parse Expr := do
  let first ← operand
  let rest ← many (takeKeyword word) operand
  return if rest.isEmpty then first else .boolean op (first :: rest)

/-- The comparing operator at the front of the tokens. -/
def comparisonAt : List Lexeme → Option (Operator × List Lexeme)
  | ⟨.op s, _⟩ :: rest =>
    ([("==", .eq), ("!=", .notEq), ("<", .less), ("<=", .lessEq), (">", .greater), (">=", .greaterEq)].lookup s).map
      fun op => (op, rest)
  | ⟨.keyword "in", _⟩ :: rest => some (.member, rest)
  | ⟨.keyword "not", _⟩ :: ⟨.keyword "in", _⟩ :: rest => some (.notMember, rest)
  | ⟨.keyword "is", _⟩ :: ⟨.keyword "not", _⟩ :: rest => some (.notSame, rest)
  | ⟨.keyword "is", _⟩ :: rest => some (.same, rest)
  | _ => none

def comparison (operand : Parse Expr) : Parse Expr := do
  let first ← operand
  let links ← repeatWhile (fun (links : List (Operator × Expr)) => do
    match comparisonAt (← get) with
    | some (op, rest) =>
      set rest
      return some ((op, ← operand) :: links)
    | none => return none) []
  return if links.isEmpty then first else
    .compare first (links.reverse.map (·.1)) (links.reverse.map (·.2))

def signed (self : Rec) : Parse Expr := do
  if ← takeOp "+" then return .unary .plus (← self .factor)
  else if ← takeOp "-" then return .unary .minus (← self .factor)
  else if ← takeOp "~" then return .unary .invert (← self .factor)
  else self .power

def power (self : Rec) : Parse Expr := do
  let base ← self .await
  if ← takeOp "**" then return .binary base .pow (← self .factor) else return base

/-- A conditional expression or an anonymous function. -/
def conditional (self : Rec) : Parse Expr := do
  if ← takeKeyword "lambda" then
    let params ← paramList self false ":"
    op ":"
    return .lambda params (← self .test)
  else
    let body ← self .or
    if ← takeKeyword "if" then
      let test ← self .or
      keyword "else"
      return .conditional test body (← self .test)
    else return body

/-- The rule of each precedence, given the rules to go on with. -/
def rule (self : Rec) : Precedence → Parse Expr
  | .named => namedExpr self
  | .tuple => starList self (self .test)
  | .yield => yieldOrList self
  | .test => conditional self
  | .or => booleanRun "or" .or (self .and)
  | .and => booleanRun "and" .and (self .not)
  | .not => do if ← takeKeyword "not" then return .unary .not (← self .not) else self .compare
  | .compare => comparison (self .bitOr)
  | .bitOr => leftGrouped [("|", .bitOr)] (self .bitXor)
  | .bitXor => leftGrouped [("^", .bitXor)] (self .bitAnd)
  | .bitAnd => leftGrouped [("&", .bitAnd)] (self .shift)
  | .shift => leftGrouped [("<<", .shiftLeft), (">>", .shiftRight)] (self .arith)
  | .arith => leftGrouped [("+", .add), ("-", .sub)] (self .term)
  | .term =>
    leftGrouped [("*", .mult), ("/", .div), ("//", .floorDiv), ("%", .mod), ("@", .matMult)] (self .factor)
  | .factor => signed self
  | .power => power self
  | .await => do if ← takeKeyword "await" then return .await (← self .atom) else self .atom
  | .atom => do trailers self (← atom self)

/-- Expressions nested at most as deep as the fuel allows. -/
def expression : Nat → Rec
  | 0, _ => failure
  | fuel + 1, precedence => rule (expression fuel) precedence

end Treewalk.Grammar
