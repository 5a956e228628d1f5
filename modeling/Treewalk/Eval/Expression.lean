/-
Evaluation of expressions. How a value is called is a parameter, so that evaluation is by recursion on the expression
alone.
-/
import Treewalk.Eval.State
import Treewalk.Operator.Comparison
import Treewalk.Syntax.Source

namespace Treewalk

/-- How a value is called with arguments. -/
abbrev Caller := Value → List Value → Eval Value

/-- The function that is known by its name and takes one argument, whatever else it is given. -/
def Expr.isPrint : Expr → Bool
  | .name id _ => id == "print"
  | _ => false

def Expr.isStarred : Expr → Bool
  | .starred .. => true
  | _ => false

namespace Eval

open Eval

variable [Host]

mutual

def expr (call : Caller) : Expr → Eval Value
  | .constant value _ =>
    match Value.ofLiteral? value with
    | some v => pure v
    | none => do fail (.constantNotSupported (← ofText (Unwritable.orLimit value.source?)))
  | .name id .load => lookup id
  | .name _ _ => fail .nameNotLoaded
  | .tuple items _ => do return .tuple (← exprs call items)
  | .attribute value attr _ => do readAttr attr (← expr call value)
  | .unary op operand => do ofExcept (op.applyUnary (← expr call operand))
  | .binary left op right => do
    let l ← expr call left
    let r ← expr call right
    ofExcept (op.applyBinary l r)
  | .boolean op operands => firstDeciding call (op == .or) .none operands
  | .compare left ops operands => do
    let l ← expr call left
    return .bool (← chain call l ops operands)
  | .conditional test body orelse => do
    if ← truth (← expr call test) then expr call body else expr call orelse
  | .call callee args keywords =>
    if callee.isPrint then do
      print (← printedText call args)
      return .none
    else if !keywords.isEmpty || args.any Expr.isStarred then fail .keywordArguments
    else
      match callee with
      | .attribute value attr _ => do
        let receiver ← expr call value
        let args ← exprs call args
        let method ← findMethod attr receiver
        call method (receiver :: args)
      | callee => do
        let f ← expr call callee
        let args ← exprs call args
        call f args
  | e => fail (.expressionNotSupported e.form)

/-- The values of expressions, evaluated from the left. -/
def exprs (call : Caller) : List Expr → Eval (List Value)
  | [] => pure []
  | e :: rest => do
    let v ← expr call e
    let vs ← exprs call rest
    return v :: vs

/-- The value of the first operand whose truth decides, or else of the last one. -/
def firstDeciding (call : Caller) (decisive : Bool) (last : Value) : List Expr → Eval Value
  | [] => pure last
  | e :: rest => do
    let v ← expr call e
    if (← truth v) == decisive then return v else firstDeciding call decisive v rest

/-- Whether every link of a chain holds; operands behind a failing link are not evaluated. -/
def chain (call : Caller) (left : Value) : List Operator → List Expr → Eval Bool
  | op :: ops, e :: rest => do
    let right ← expr call e
    if ← ofFailure (op.applyCompare left right) then chain call right ops rest else return false
  | _, _ => pure true

/-- The text of the first argument, if the output takes it; the others are not evaluated. Without arguments the text is
empty, which every output takes. -/
def printedText (call : Caller) : List Expr → Eval Text
  | [] => pure .empty
  | e :: _ => do ofFailure (← expr call e).printed

end

end Eval

end Treewalk
