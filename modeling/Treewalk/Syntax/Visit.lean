/-
The check of a program as it is made on a machine: the tree is visited node by node, each visit opens frames on the stack,
and a tree that needs more frames than there are cannot be checked to its end. Calls into the machine itself take no
frames here.
-/
import Treewalk.Syntax.Outline
import Treewalk.Syntax.Placement

namespace Treewalk

/-! ## Nodes -/

mutual

/-- The frames that visiting the nodes of an outline takes. A node takes two and, while its fields are listed, a third; a
constant also takes one for its kind. -/
def Outline.frames : Outline → Nat
  | .node label fields => if label = "Constant" then 4 else max 3 (2 + fieldsFrames fields)
  | .list items => itemsFrames items
  | .literal _ => 0

def itemsFrames : List Outline → Nat
  | [] => 0
  | o :: rest => max o.frames (itemsFrames rest)

def fieldsFrames : List Field → Nat
  | [] => 0
  | .mk _ value :: rest => max value.frames (fieldsFrames rest)

end

/-- The frames of a node with fields of its own besides its blocks. -/
def headFrames (fields : List Outline) : Nat := max 3 (2 + itemsFrames fields)

/-! ## Visits -/

/-- What the check comes upon: how many frames are open at the deepest point of some part, and an exit. -/
inductive Visit where
  | depth (frames : Nat)
  | exit (met : Bool) (exit : Exit) (line : Option Int)

/-- A visit of an exit below some open frames; a misplaced one takes two more frames for its report. -/
def exitVisits (below : Nat) (met : Bool) (exit : Exit) (line : Option Int) : List Visit :=
  [.depth (below + if met then 2 else 4), .exit met exit line]

mutual

/-- The visits of a statement, in the order of the text. Decorators, parameters and bases of a definition are not
visited, and neither are the target and the source of a `for` loop. -/
def stmtVisits (below : Nat) (s : Surroundings) : Stmt → List Visit
  | .breakStmt line => exitVisits below s.inLoop .breakLoop line
  | .continueStmt line => exitVisits below s.inLoop .continueLoop line
  | .returnStmt line value =>
    exitVisits below s.inFunction .returnCall line ++ [.depth (below + 1 + headFrames (outlineIfAny value).toList)]
  | .functionDef _ _ _ body _ _ => .depth (below + 3) :: blockVisits (below + 3) .functionBody body
  | .classDef _ _ _ body _ => .depth (below + 3) :: blockVisits (below + 3) .outermost body
  | .whileStmt test body orelse =>
    .depth (below + max 3 (2 + test.outline.frames)) ::
      (blockVisits (below + 3) s.loopBody body ++ blockVisits (below + 3) s.loopBody orelse)
  | .forStmt false _ _ body orelse =>
    .depth (below + 3) :: (blockVisits (below + 3) s.loopBody body ++ blockVisits (below + 3) s orelse)
  | .forStmt true target source body orelse =>
    .depth (below + headFrames [target.outline, source.outline]) ::
      (blockVisits (below + 2) s body ++ blockVisits (below + 2) s orelse)
  | .ifStmt test body orelse =>
    .depth (below + headFrames [test.outline]) ::
      (blockVisits (below + 2) s body ++ blockVisits (below + 2) s orelse)
  | .withStmt _ items body =>
    .depth (below + headFrames (items.map WithItem.outline)) :: blockVisits (below + 2) s body
  | .tryStmt _ body handlers orelse final =>
    .depth (below + 3) :: (blockVisits (below + 2) s body ++ handlersVisits (below + 2) s handlers ++
      blockVisits (below + 2) s orelse ++ blockVisits (below + 2) s final)
  | .matchStmt subject cases => .depth (below + headFrames [subject.outline]) :: casesVisits (below + 2) s cases
  | st => [.depth (below + st.outline.frames)]

def blockVisits (below : Nat) (s : Surroundings) : List Stmt → List Visit
  | [] => []
  | st :: rest => stmtVisits below s st ++ blockVisits below s rest

def handlerVisits (below : Nat) (s : Surroundings) : Handler → List Visit
  | .mk type _ body => .depth (below + headFrames (outlineIfAny type).toList) :: blockVisits (below + 2) s body

def handlersVisits (below : Nat) (s : Surroundings) : List Handler → List Visit
  | [] => []
  | h :: rest => handlerVisits below s h ++ handlersVisits below s rest

def caseVisits (below : Nat) (s : Surroundings) : Case → List Visit
  | .mk pattern guard body =>
    .depth (below + headFrames (pattern.outline :: (outlineIfAny guard).toList)) :: blockVisits (below + 2) s body

def casesVisits (below : Nat) (s : Surroundings) : List Case → List Visit
  | [] => []
  | c :: rest => caseVisits below s c ++ casesVisits below s rest

end

/-- The visits of a whole module, itself a node. -/
def moduleVisits (body : List Stmt) : List Visit := .depth 3 :: blockVisits 2 .outermost body

/-- The frames that going through visits takes. -/
def deepest : List Visit → Nat
  | [] => 0
  | .depth n :: rest => max n (deepest rest)
  | .exit .. :: rest => deepest rest

/-- The frames that checking a whole module takes. -/
def moduleFrames (body : List Stmt) : Nat := deepest (moduleVisits body)

/-! ## The check -/

/-- Why the check of a program stops before its end. -/
inductive Halt where
  | refused (e : EvalError)
  | overflow
deriving DecidableEq

/-- Goes through visits up to the first that is misplaced or goes too deep. -/
def checkVisits (frames : Nat) (file : String) : List Visit → Except Halt Unit
  | [] => .ok ()
  | .depth n :: rest => if n ≤ frames then checkVisits frames file rest else .error .overflow
  | .exit met exit line :: rest => do
    (requireExit met exit file line).mapError .refused
    checkVisits frames file rest

/-- Checks a whole module with a limited number of frames. -/
def checkWithin (frames : Nat) (file : String) (body : List Stmt) : Except Halt Unit :=
  checkVisits frames file (moduleVisits body)

end Treewalk
