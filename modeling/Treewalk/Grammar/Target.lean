/-
Targets: the expressions that can be assigned to or deleted, with the context of what happens to them.
-/
import Treewalk.Syntax.Tree

namespace Treewalk.Expr

mutual

/-- An expression as a target; only names, attributes, subscripts and containers of targets can be one. Only the outermost
part of an attribute or subscript is the target. -/
def asTarget? (ctx : Context) : Expr → Option Expr
  | .name id _ => some (.name id ctx)
  | .attribute value attr _ => some (.attribute value attr ctx)
  | .subscript value index _ => some (.subscript value index ctx)
  | .starred (.starred ..) _ => none
  | .starred value _ =>
    if ctx = .del then none
    else do return .starred (← asTarget? ctx value) ctx
  | .tuple items _ => do return .tuple (← asTargets? ctx items) ctx
  | .list items _ => do return .list (← asTargets? ctx items) ctx
  | _ => none

def asTargets? (ctx : Context) : List Expr → Option (List Expr)
  | [] => some []
  | e :: rest => do return (← asTarget? ctx e) :: (← asTargets? ctx rest)

end

/-- A target that is one place: a name, an attribute or a subscript. -/
def asSinglePlace? : Expr → Option Expr
  | .name id _ => some (.name id .store)
  | .attribute value attr _ => some (.attribute value attr .store)
  | .subscript value index _ => some (.subscript value index .store)
  | _ => none

def isName : Expr → Bool
  | .name .. => true
  | _ => false

end Treewalk.Expr
