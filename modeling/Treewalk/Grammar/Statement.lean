/-
The grammar of statements and modules.
-/
import Treewalk.Grammar.Pattern

namespace Treewalk.Grammar

open Parse

variable [Host]

/-- How one statement line, which may hold several statements, is read again. -/
abbrev StmtRec := Parse (List Stmt)

/-! ## Simple statements -/

/-- The operators that store their result. -/
def augmenting : List (String × Operator) :=
  [("+=", .add), ("-=", .sub), ("*=", .mult), ("/=", .div), ("//=", .floorDiv), ("%=", .mod), ("**=", .pow),
    ("@=", .matMult), ("&=", .bitAnd), ("|=", .bitOr), ("^=", .bitXor), ("<<=", .shiftLeft), (">>=", .shiftRight)]

def augmentingAt : List Lexeme → Option (Operator × List Lexeme)
  | ⟨.op s, _⟩ :: rest => (augmenting.lookup s).map fun op => (op, rest)
  | _ => none

/-- The targets and the value of an assignment: every expression but the last is a target. -/
def assignment (expr : Rec) (first : Expr) : Parse Stmt := do
  let (targets, value) ← repeatWhile (fun ((targets, value) : List Expr × Expr) => do
    if ← takeOp "=" then
      let target ← value.asTarget? .store
      return some (targets ++ [target], ← expr .yield)
    else return none) ([], first)
  return .assign targets value

/-- A single place in parentheses. -/
def groupedPlace (expr : Rec) : Parse Unit := do
  op "("
  let e ← expr .atom
  op ")"
  discard (e.asSinglePlace? : Option Expr)

/-- Whether a colon that introduces an annotation can follow what starts here: a single place in parentheses is a whole
target and cannot be the start of a longer one. -/
def mayHaveHint (expr : Rec) : Parse Bool := do
  match (groupedPlace expr).run (← get) with
  | some (_, rest) => return isOpAt ":" rest
  | none => return true

/-- An annotated assignment. The target counts as simple if it is a name without parentheses. -/
def annotated (expr : Rec) (grouped : Bool) (first : Expr) : Parse Stmt := do
  let target ← first.asSinglePlace?
  let hint ← expr .test
  let value ← if ← takeOp "=" then some <$> expr .yield else pure none
  return .annAssign target hint value (first.isName && !grouped)

/-- A statement that starts with an expression. -/
def expressionStmt (expr : Rec) : Parse Stmt := do
  let start ← get
  let first ← expr .yield
  if ← nextIsOp "=" then assignment expr first
  else if ← takeOp ":" then
    match (mayHaveHint expr).run start with
    | some (true, _) => annotated expr (isOpAt "(" start) first
    | _ => failure
  else
    match augmentingAt (← get) with
    | some (op, rest) =>
      set rest
      return .augAssign (← first.asSinglePlace?) op (← expr .yield)
    | none => return .expr first

/-- Whether the statement ends here. -/
def atStmtEnd : Parse Bool := do
  match ← get with
  | ⟨.newline, _⟩ :: _ => return true
  | ⟨.op ";", _⟩ :: _ => return true
  | _ => return false

def optionalAs : Parse (Option String) := do if ← takeKeyword "as" then some <$> name else pure none

def dottedName : Parse String := do
  let first ← name
  let rest ← many (takeOp ".") name
  return String.intercalate "." (first :: rest)

def importItem : Parse Alias := do return ⟨← dottedName, ← optionalAs⟩

def fromItem : Parse Alias := do return ⟨← name, ← optionalAs⟩

/-- The dots before the name of a module. -/
def leadingDots : Parse Nat :=
  repeatWhile (fun (n : Nat) => do
    if ← takeOp "." then return some (n + 1)
    else if ← takeOp "..." then return some (n + 3)
    else return none) 0

def importedNames : Parse (List Alias) := do
  if ← takeOp "*" then return [⟨"*", none⟩]
  else if ← takeOp "(" then
    let (names, _) ← commaList (do return !(← nextIsOp ")")) fromItem (← fromItem)
    op ")"
    return names
  else commaSeparated fromItem

def importFrom : Parse Stmt := do
  let level ← leadingDots
  let source ← if level != 0 && (← nextIsKeyword "import") then pure none else some <$> dottedName
  keyword "import"
  return .importFrom source (← importedNames) level

def deletion (expr : Rec) : Parse Stmt := do
  let item : Parse Expr := do (← expr .bitOr).asTarget? .del
  let (targets, _) ← commaList (do return !(← atStmtEnd)) item (← item)
  if ← atStmtEnd then return .delete targets else failure

def raising (expr : Rec) : Parse Stmt := do
  if ← atStmtEnd then return .raise none none
  else
    let error ← expr .test
    let cause ← if ← takeKeyword "from" then some <$> expr .test else pure none
    return .raise (some error) cause

def asserting (expr : Rec) : Parse Stmt := do
  let test ← expr .test
  let message ← if ← takeOp "," then some <$> expr .test else pure none
  return .assert test message

/-- A statement that starts with a keyword, behind it. -/
def keywordStmt (expr : Rec) (word : String) (line : Nat) : Parse Stmt :=
  let line : Option Int := some line
  match word with
  | "pass" => return .pass
  | "break" => return .breakStmt line
  | "continue" => return .continueStmt line
  | "return" => do return .returnStmt line (← if ← atStmtEnd then pure none else some <$> expr .tuple)
  | "raise" => raising expr
  | "global" => do return .globalNames (← commaSeparated name)
  | "nonlocal" => do return .nonlocalNames (← commaSeparated name)
  | "del" => deletion expr
  | "assert" => asserting expr
  | "import" => do return .importNames (← commaSeparated importItem)
  | "from" => importFrom
  | _ => failure

def simpleKeywords : List String :=
  ["pass", "break", "continue", "return", "raise", "global", "nonlocal", "del", "assert", "import", "from"]

def simpleStmt (expr : Rec) : Parse Stmt := do
  match ← get with
  | ⟨.keyword word, line⟩ :: rest =>
    if simpleKeywords.contains word then
      set rest
      keywordStmt expr word line
    else expressionStmt expr
  | _ => expressionStmt expr

/-- Simple statements on one line, divided by semicolons. -/
def simpleLine (expr : Rec) : Parse (List Stmt) := do
  let first ← simpleStmt expr
  let stmts ← repeatWhile (fun (stmts : List Stmt) => do
    if ← takeOp ";" then
      match ← get with
      | ⟨.newline, _⟩ :: _ => return none
      | _ => return some ((← simpleStmt expr) :: stmts)
    else return none) [first]
  newline
  return stmts.reverse

/-! ## Blocks -/

def atDedent : Parse Bool := do
  match ← get with
  | ⟨.dedent, _⟩ :: _ => return true
  | _ => return false

/-- An indented block, or simple statements on the same line. -/
def block (expr : Rec) (self : StmtRec) : Parse (List Stmt) := do
  op ":"
  match ← get with
  | ⟨.newline, _⟩ :: rest =>
    set rest
    indent
    let first ← self
    let rest ← many (do return !(← atDedent)) self
    dedent
    return first ++ rest.flatten
  | _ => simpleLine expr

def elseBlock (expr : Rec) (self : StmtRec) : Parse (List Stmt) := do
  if ← takeKeyword "else" then block expr self else return []

/-! ## Compound statements -/

/-- The tests and blocks of an `if`, innermost alternative last. -/
def ifStmt (expr : Rec) (self : StmtRec) : Parse Stmt := do
  let branch : Parse (Expr × List Stmt) := do return (← expr .named, ← block expr self)
  let first ← branch
  let rest ← many (takeKeyword "elif") branch
  let orelse ← elseBlock expr self
  let orelse := rest.foldr (fun (test, body) orelse => [Stmt.ifStmt test body orelse]) orelse
  return .ifStmt first.1 first.2 orelse

def whileStmt (expr : Rec) (self : StmtRec) : Parse Stmt := do
  let test ← expr .named
  let body ← block expr self
  return .whileStmt test body (← elseBlock expr self)

def forStmt (expr : Rec) (self : StmtRec) (isAsync : Bool) : Parse Stmt := do
  let target ← loopTarget expr
  keyword "in"
  let source ← expr .tuple
  let body ← block expr self
  return .forStmt isAsync target source body (← elseBlock expr self)

/-- A clause that catches errors; a starred one names what it catches. -/
def handler (expr : Rec) (self : StmtRec) (star : Bool) : Parse Handler := do
  if !star && (← nextIsOp ":") then return .mk none none (← block expr self)
  else
    let type ← expr .test
    let n ← optionalAs
    return .mk (some type) n (← block expr self)

/-- Whether clauses that catch errors are starred; all of one statement are, or none. -/
def takeExcept (star : Bool) : Parse Bool := do
  if ← nextIsKeyword "except" then
    if isOpAt "*" (← get).tail == star then
      skip
      if star then skip
      return true
    else failure
  else return false

def tryStmt (expr : Rec) (self : StmtRec) : Parse Stmt := do
  let body ← block expr self
  let star := isKeywordAt "except" (← get) && isOpAt "*" (← get).tail
  let handlers ← many (takeExcept star) (handler expr self star)
  let orelse ← if handlers.isEmpty then pure [] else elseBlock expr self
  let final ← if ← takeKeyword "finally" then some <$> block expr self else pure none
  if handlers.isEmpty && final.isNone then failure
  else return .tryStmt star body handlers orelse (final.getD [])

def withItem (expr : Rec) : Parse WithItem := do
  let value ← expr .test
  if ← takeKeyword "as" then
    let target ← starItem expr (expr .bitOr)
    return ⟨value, some (← target.asTarget? .store)⟩
  else return ⟨value, none⟩

/-- The items of a `with` in parentheses, up to the colon. -/
def groupedWithItems (expr : Rec) : Parse (List WithItem) := do
  op "("
  let (items, _) ← commaList (do return !(← nextIsOp ")")) (withItem expr) (← withItem expr)
  op ")"
  if ← nextIsOp ":" then return items else failure

def withStmt (expr : Rec) (self : StmtRec) (isAsync : Bool) : Parse Stmt := do
  let items ← groupedWithItems expr <|> commaSeparated (withItem expr)
  return .withStmt isAsync items (← block expr self)

def functionDef (expr : Rec) (self : StmtRec) (isAsync : Bool) (decorators : List Expr) : Parse Stmt := do
  let n ← name
  op "("
  let params ← paramList expr true ")"
  op ")"
  let returns ← if ← takeOp "->" then some <$> expr .test else pure none
  return .functionDef isAsync n params (← block expr self) decorators returns

def classDef (expr : Rec) (self : StmtRec) (decorators : List Expr) : Parse Stmt := do
  let n ← name
  let given ← if ← takeOp "(" then arguments expr else pure {}
  if given.lone then failure
  else return .classDef n given.args given.keywords (← block expr self) decorators

def decorator (expr : Rec) : Parse Expr := do
  let e ← expr .named
  newline
  return e

/-- A definition behind its decorators. -/
def decorated (expr : Rec) (self : StmtRec) : Parse Stmt := do
  let decorators ← many (takeOp "@") (decorator expr)
  if ← takeKeyword "def" then functionDef expr self false decorators
  else if ← takeKeyword "class" then classDef expr self decorators
  else
    keyword "async"
    keyword "def"
    functionDef expr self true decorators

def asyncStmt (expr : Rec) (self : StmtRec) : Parse Stmt := do
  if ← takeKeyword "def" then functionDef expr self true []
  else if ← takeKeyword "for" then forStmt expr self true
  else
    keyword "with"
    withStmt expr self true

/-! ## Matching -/

def matchCase (expr : Rec) (self : StmtRec) (fuel : Nat) : Parse Case := do
  let p ← casePattern (pattern expr fuel)
  let guard ← if ← takeKeyword "if" then some <$> expr .named else pure none
  return .mk p guard (← block expr self)

def takeCase : Parse Bool := do
  if isNameAt "case" (← get) then
    skip
    return true
  else return false

/-- A `match` statement; the word is an ordinary name where this does not fit. -/
def matchStmt (expr : Rec) (self : StmtRec) (fuel : Nat) : Parse Stmt := do
  skip
  let subject ← starList expr (expr .named)
  match subject with
  | .starred .. => failure
  | _ =>
    op ":"
    newline
    indent
    let cases ← many takeCase (matchCase expr self fuel)
    dedent
    if cases.isEmpty then failure else return .matchStmt subject cases

/-! ## Statements and modules -/

def compoundKeywords : List String := ["if", "while", "for", "try", "with", "def", "class", "async"]

/-- A compound statement that starts with a keyword, behind it. -/
def compoundStmt (expr : Rec) (self : StmtRec) (word : String) : Parse Stmt :=
  match word with
  | "if" => ifStmt expr self
  | "while" => whileStmt expr self
  | "for" => forStmt expr self false
  | "try" => tryStmt expr self
  | "with" => withStmt expr self false
  | "def" => functionDef expr self false []
  | "class" => classDef expr self []
  | "async" => asyncStmt expr self
  | _ => failure

def statementRule (expr : Rec) (fuel : Nat) (self : StmtRec) : Parse (List Stmt) := do
  match ← get with
  | ⟨.keyword word, _⟩ :: rest =>
    if compoundKeywords.contains word then
      set rest
      return [← compoundStmt expr self word]
    else simpleLine expr
  | ⟨.op "@", _⟩ :: _ => return [← decorated expr self]
  | ⟨.name "match", _⟩ :: _ => (do return [← matchStmt expr self fuel]) <|> simpleLine expr
  | _ => simpleLine expr

/-- Statements nested at most as deep as the fuel allows. -/
def statement (expr : Rec) (fuel : Nat) : Nat → StmtRec
  | 0 => failure
  | depth + 1 => statementRule expr fuel (statement expr fuel depth)

/-- All statements of a module. -/
def moduleBody (fuel : Nat) : Parse (List Stmt) := do
  let stmts ← many (do return !(← get).isEmpty) (statement (expression fuel) fuel fuel)
  return stmts.flatten

/-- The statements of a program text, if it is one. Each character opens at most one level of nesting and each level
passes every rule of the expression grammar at most once. -/
def parse? (source : String) : Option (List Stmt) := do
  let chars := source.toList
  let tokens ← Token.scan chars
  let (stmts, _) ← (moduleBody (32 * (chars.length + 4))).run tokens
  return stmts

end Treewalk.Grammar
