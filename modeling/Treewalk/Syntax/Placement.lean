/-
Where exits may stand. A `break` or `continue` needs a loop around it and a `return` a function, with no function or class
body in between. The check reports the first misplaced exit in the order of the text.
-/
import Treewalk.Error
import Treewalk.Syntax.Tree

namespace Treewalk

/-- What an exit may rely on at some place of a program. -/
structure Surroundings where
  inLoop : Bool
  inFunction : Bool
deriving Repr, DecidableEq

namespace Surroundings

/-- The top of a module, and the body of a class wherever it stands. -/
def outermost : Surroundings := ⟨false, false⟩

/-- The body of a function wherever it stands. -/
def functionBody : Surroundings := ⟨false, true⟩

def loopBody (s : Surroundings) : Surroundings := { s with inLoop := true }

end Surroundings

/-- Refuses an exit whose need is not met. -/
def requireExit (met : Bool) (exit : Exit) (file : String) (line : Option Int) : Except EvalError Unit :=
  if met then .ok () else .error (.misplaced exit file line)

mutual

/-- Checks a statement. The `else` block of a `while` loop still belongs to the loop, that of a `for` loop does not; an
asynchronous loop gives its body nothing, and other statements pass on what is around them. -/
def checkStmt (file : String) (s : Surroundings) : Stmt → Except EvalError Unit
  | .breakStmt line => requireExit s.inLoop .breakLoop file line
  | .continueStmt line => requireExit s.inLoop .continueLoop file line
  | .returnStmt line _ => requireExit s.inFunction .returnCall file line
  | .functionDef _ _ _ body _ _ => checkBlock file .functionBody body
  | .classDef _ _ _ body _ => checkBlock file .outermost body
  | .whileStmt _ body orelse => do
    checkBlock file s.loopBody body
    checkBlock file s.loopBody orelse
  | .forStmt false _ _ body orelse => do
    checkBlock file s.loopBody body
    checkBlock file s orelse
  | .forStmt true _ _ body orelse => do
    checkBlock file s body
    checkBlock file s orelse
  | .ifStmt _ body orelse => do
    checkBlock file s body
    checkBlock file s orelse
  | .withStmt _ _ body => checkBlock file s body
  | .tryStmt _ body handlers orelse final => do
    checkBlock file s body
    checkHandlers file s handlers
    checkBlock file s orelse
    checkBlock file s final
  | .matchStmt _ cases => checkCases file s cases
  | _ => .ok ()

def checkBlock (file : String) (s : Surroundings) : List Stmt → Except EvalError Unit
  | [] => .ok ()
  | stmt :: rest => do
    checkStmt file s stmt
    checkBlock file s rest

def checkHandler (file : String) (s : Surroundings) : Handler → Except EvalError Unit
  | .mk _ _ body => checkBlock file s body

def checkHandlers (file : String) (s : Surroundings) : List Handler → Except EvalError Unit
  | [] => .ok ()
  | h :: rest => do
    checkHandler file s h
    checkHandlers file s rest

def checkCase (file : String) (s : Surroundings) : Case → Except EvalError Unit
  | .mk _ _ body => checkBlock file s body

def checkCases (file : String) (s : Surroundings) : List Case → Except EvalError Unit
  | [] => .ok ()
  | c :: rest => do
    checkCase file s c
    checkCases file s rest

end

/-- Checks a whole module. -/
def checkModule (file : String) (body : List Stmt) : Except EvalError Unit := checkBlock file .outermost body

end Treewalk
