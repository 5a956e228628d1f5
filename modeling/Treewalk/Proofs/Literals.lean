/-
The literals of a program that its evaluation can come to. Forms that evaluation refuses contribute none, since nothing
inside them is evaluated.
-/
import Treewalk.Syntax.Tree

namespace Treewalk

mutual

def Expr.literals : Expr → List Literal
  | .constant value _ => [value]
  | .attribute value _ _ => value.literals
  | .tuple items _ => Expr.allLiterals items
  | .unary _ operand => operand.literals
  | .binary left _ right => left.literals ++ right.literals
  | .boolean _ operands => Expr.allLiterals operands
  | .compare left _ operands => left.literals ++ Expr.allLiterals operands
  | .conditional test body orelse => test.literals ++ (body.literals ++ orelse.literals)
  | .call callee args _ => callee.literals ++ Expr.allLiterals args
  | _ => []

def Expr.allLiterals : List Expr → List Literal
  | [] => []
  | e :: rest => e.literals ++ Expr.allLiterals rest

end

mutual

def Stmt.literals : Stmt → List Literal
  | .expr value => value.literals
  | .assert test _ => test.literals
  | .assign targets value => value.literals ++ Expr.allLiterals targets
  | .augAssign target _ value => target.literals ++ value.literals
  | .ifStmt test body orelse => test.literals ++ (Stmt.allLiterals body ++ Stmt.allLiterals orelse)
  | .whileStmt test body orelse => test.literals ++ (Stmt.allLiterals body ++ Stmt.allLiterals orelse)
  | .returnStmt _ (some value) => value.literals
  | .functionDef _ _ _ body _ _ => Stmt.allLiterals body
  | .classDef _ _ _ body _ => Stmt.allLiterals body
  | _ => []

def Stmt.allLiterals : List Stmt → List Literal
  | [] => []
  | st :: rest => st.literals ++ Stmt.allLiterals rest

end

end Treewalk
