/-
The trees of a program: expressions, parameters, patterns and statements. Every form of the language has a constructor,
also the forms that evaluation refuses, since those are refused only when they are reached.
-/
import Treewalk.Syntax.Literal
import Treewalk.Syntax.Operator

namespace Treewalk

/-- What a name, attribute or container expression is there for. -/
inductive Context where
  | load | store | del
deriving Repr, DecidableEq, Inhabited

def Context.label : Context → String
  | .load => "Load"
  | .store => "Store"
  | .del => "Del"

/-! ## Expressions -/

mutual

inductive Expr where
  /-- A literal, with the mark of its text if it had one that matters. -/
  | constant (value : Literal) (kind : Option String)
  | name (id : String) (ctx : Context)
  | attribute (value : Expr) (attr : String) (ctx : Context)
  | subscript (value index : Expr) (ctx : Context)
  | slice (lower upper step : Option Expr)
  | starred (value : Expr) (ctx : Context)
  | tuple (items : List Expr) (ctx : Context)
  | list (items : List Expr) (ctx : Context)
  | set (items : List Expr)
  /-- A missing key unpacks its value. -/
  | dict (keys : List (Option Expr)) (values : List Expr)
  | unary (op : Operator) (operand : Expr)
  | binary (left : Expr) (op : Operator) (right : Expr)
  | boolean (op : Operator) (operands : List Expr)
  | compare (left : Expr) (ops : List Operator) (operands : List Expr)
  | conditional (test body orelse : Expr)
  | call (callee : Expr) (args : List Expr) (keywords : List Keyword)
  | lambda (params : Params) (body : Expr)
  | named (target value : Expr)
  | listComp (item : Expr) (clauses : List Clause)
  | setComp (item : Expr) (clauses : List Clause)
  | dictComp (key value : Expr) (clauses : List Clause)
  | generator (item : Expr) (clauses : List Clause)
  | await (value : Expr)
  | yield (value : Option Expr)
  | yieldFrom (value : Expr)
  | joined (parts : List Expr)
  | formatted (value : Expr) (conversion : Int) (spec : Option Expr)

/-- A keyword argument; a missing name unpacks its value. -/
inductive Keyword where
  | mk (name : Option String) (value : Expr)

/-- One `for … in … if …` of a comprehension. -/
inductive Clause where
  | mk (target source : Expr) (conditions : List Expr) (isAsync : Bool)

inductive Param where
  | mk (name : String) (hint : Option Expr)

/-- The parameters of a function, with the defaults of the last positional ones and of the keyword-only ones. -/
inductive Params where
  | mk (positionalOnly positional : List Param) (rest : Option Param) (keywordOnly : List Param)
      (keywordDefaults : List (Option Expr)) (keywordRest : Option Param) (defaults : List Expr)

end

instance : Inhabited Expr := ⟨.constant .none none⟩

def Param.name : Param → String
  | .mk name _ => name

def Keyword.name : Keyword → Option String
  | .mk name _ => name

namespace Params

/-- Plain positional parameters. -/
def plain (names : List String) : Params := .mk [] (names.map fun n => .mk n none) none [] [] none []

/-- The parameters that are filled by position. -/
def positionalNames : Params → List String
  | .mk positionalOnly positional _ _ _ _ _ => (positionalOnly ++ positional).map Param.name

/-- Whether there are only positional parameters and none has a default. -/
def isPlain : Params → Bool
  | .mk _ _ rest keywordOnly _ keywordRest defaults =>
    rest.isNone && keywordRest.isNone && keywordOnly.isEmpty && defaults.isEmpty

end Params

/-! ## Statements -/

inductive Pattern where
  | value (value : Expr)
  | singleton (value : Literal)
  | sequence (items : List Pattern)
  | mapping (keys : List Expr) (items : List Pattern) (rest : Option String)
  | classOf (type : Expr) (items : List Pattern) (names : List String) (named : List Pattern)
  | star (name : Option String)
  | binding (item : Option Pattern) (name : Option String)
  | oneOf (items : List Pattern)
deriving Inhabited

structure Alias where
  name : String
  asName : Option String

structure WithItem where
  value : Expr
  target : Option Expr

mutual

/-- The statements that leave a loop or a function know the line they stand on, if they come from a text. -/
inductive Stmt where
  | expr (value : Expr)
  | pass
  | assert (test : Expr) (message : Option Expr)
  | assign (targets : List Expr) (value : Expr)
  | augAssign (target : Expr) (op : Operator) (value : Expr)
  | annAssign (target hint : Expr) (value : Option Expr) (simple : Bool)
  | delete (targets : List Expr)
  | ifStmt (test : Expr) (body orelse : List Stmt)
  | whileStmt (test : Expr) (body orelse : List Stmt)
  | forStmt (isAsync : Bool) (target source : Expr) (body orelse : List Stmt)
  | breakStmt (line : Option Int)
  | continueStmt (line : Option Int)
  | returnStmt (line : Option Int) (value : Option Expr)
  | functionDef (isAsync : Bool) (name : String) (params : Params) (body : List Stmt) (decorators : List Expr)
      (returns : Option Expr)
  | classDef (name : String) (bases : List Expr) (keywords : List Keyword) (body : List Stmt)
      (decorators : List Expr)
  | withStmt (isAsync : Bool) (items : List WithItem) (body : List Stmt)
  | raise (error cause : Option Expr)
  | tryStmt (star : Bool) (body : List Stmt) (handlers : List Handler) (orelse final : List Stmt)
  | importNames (names : List Alias)
  | importFrom (source : Option String) (names : List Alias) (level : Nat)
  | globalNames (names : List String)
  | nonlocalNames (names : List String)
  | matchStmt (subject : Expr) (cases : List Case)

inductive Handler where
  | mk (type : Option Expr) (name : Option String) (body : List Stmt)

inductive Case where
  | mk (pattern : Pattern) (guard : Option Expr) (body : List Stmt)

end

instance : Inhabited Stmt := ⟨.pass⟩

/-! ## Forms -/

/-- The word for the form of an expression. -/
def Expr.form : Expr → String
  | .constant .. => "Constant"
  | .name .. => "Name"
  | .attribute .. => "Attribute"
  | .subscript .. => "Subscript"
  | .slice .. => "Slice"
  | .starred .. => "Starred"
  | .tuple .. => "Tuple"
  | .list .. => "List"
  | .set .. => "Set"
  | .dict .. => "Dict"
  | .unary .. => "UnaryOp"
  | .binary .. => "BinOp"
  | .boolean .. => "BoolOp"
  | .compare .. => "Compare"
  | .conditional .. => "IfExp"
  | .call .. => "Call"
  | .lambda .. => "Lambda"
  | .named .. => "NamedExpr"
  | .listComp .. => "ListComp"
  | .setComp .. => "SetComp"
  | .dictComp .. => "DictComp"
  | .generator .. => "GeneratorExp"
  | .await .. => "Await"
  | .yield .. => "Yield"
  | .yieldFrom .. => "YieldFrom"
  | .joined .. => "JoinedStr"
  | .formatted .. => "FormattedValue"

/-- The word for the form of a statement. -/
def Stmt.form : Stmt → String
  | .expr .. => "Expr"
  | .pass => "Pass"
  | .assert .. => "Assert"
  | .assign .. => "Assign"
  | .augAssign .. => "AugAssign"
  | .annAssign .. => "AnnAssign"
  | .delete .. => "Delete"
  | .ifStmt .. => "If"
  | .whileStmt .. => "While"
  | .forStmt isAsync .. => if isAsync then "AsyncFor" else "For"
  | .breakStmt .. => "Break"
  | .continueStmt .. => "Continue"
  | .returnStmt .. => "Return"
  | .functionDef isAsync .. => if isAsync then "AsyncFunctionDef" else "FunctionDef"
  | .classDef .. => "ClassDef"
  | .withStmt isAsync .. => if isAsync then "AsyncWith" else "With"
  | .raise .. => "Raise"
  | .tryStmt star .. => if star then "TryStar" else "Try"
  | .importNames .. => "Import"
  | .importFrom .. => "ImportFrom"
  | .globalNames .. => "Global"
  | .nonlocalNames .. => "Nonlocal"
  | .matchStmt .. => "Match"

end Treewalk
