/-
Journals: what an evaluation does that shows outside of its state, in order. A journal lists the statements that are
started, and the texts that are asked for, to be printed, to be compared, or to stand in an error message or in the
trace. It follows the evaluator construct by construct and takes the states in between from the evaluator itself.
-/
import Treewalk.Proofs.Rules
import Treewalk.Run

namespace Treewalk

/-! ## Notes -/

/-- What a text is asked for. -/
inductive Rendering where
  /-- A value to be printed. -/
  | printed (v : Value)
  /-- A value that was called and cannot be. -/
  | uncallable (v : Value)
  /-- Two values to be compared; functions are compared by the outlines of their bodies. -/
  | compared (op : Operator) (left right : Value)
  /-- A literal that cannot be evaluated. -/
  | constant (l : Literal)
  /-- An expression that cannot be assigned to. -/
  | target (e : Expr)
  /-- Expressions that cannot be deleted. -/
  | deletion (targets : List Expr)
  /-- A statement to be traced. -/
  | outline (st : Stmt)

/-- Why a computation has no text to work with, if that is how it fails. -/
def Failure.cause? : Failure → Option Unwritable
  | .unwritable cause => some cause
  | .error _ => none

def faultOf? {α : Type} : Except Failure α → Option Unwritable
  | .ok _ => none
  | .error f => f.cause?

def missing? {α : Type} : Except Unwritable α → Option Unwritable
  | .ok _ => none
  | .error cause => some cause

/-- Why there is no such text, if there is none. -/
def Rendering.fault? [Host] : Rendering → Option Unwritable
  | .printed v => faultOf? v.printed
  | .uncallable v => faultOf? v.text
  | .compared op left right => faultOf? (op.applyCompare left right)
  | .constant l => missing? (Unwritable.orLimit l.source?)
  | .target e => missing? e.text
  | .deletion targets => missing? (deletionText targets)
  | .outline st => missing? (Unwritable.orLimit st.outline.text?)

inductive Note where
  | starting (st : Stmt)
  | asking (r : Rendering)

/-- The statement that a note says is started. -/
def Note.started? : Note → Option Stmt
  | .starting st => some st
  | .asking _ => none

/-- The statements that are started, once for each start. -/
def started (notes : List Note) : List Stmt := notes.filterMap Note.started?

/-! ## The journal of an evaluation -/

/-- What is noted from a state on. -/
abbrev Notes := State → List Note

variable [Host]

namespace Journal

/-- What a call notes. -/
abbrev Caller := Value → List Value → Notes

def nothing : Notes := fun _ => []

def note (n : Note) : Notes := fun _ => [n]

/-- What is noted during a step and, if it is not interrupted, behind it. -/
def andThen {α : Type} (x : Eval α) (notes : Notes) (next : α → Notes) : Notes := fun s =>
  notes s ++ match x s with
    | .ok a s' => next a s'
    | .error _ _ => []

section

variable (call : Treewalk.Caller) (noted : Caller)

mutual

def expr : Expr → Notes
  | .constant value _ =>
    match Value.ofLiteral? value with
    | some _ => nothing
    | none => note (.asking (.constant value))
  | .tuple items _ => exprs items
  | .attribute value _ _ => expr value
  | .unary _ operand => expr operand
  | .binary left _ right => andThen (Eval.expr call left) (expr left) fun _ => expr right
  | .boolean op operands => firstDeciding (op == .or) operands
  | .compare left ops operands => andThen (Eval.expr call left) (expr left) fun l => chain l ops operands
  | .conditional test body orelse =>
    andThen (Eval.expr call test) (expr test) fun v =>
      andThen (Eval.truth v) nothing fun b => if b then expr body else expr orelse
  | .call callee args keywords =>
    if callee.isPrint then printedText args
    else if !keywords.isEmpty || args.any Expr.isStarred then nothing
    else
      match callee with
      | .attribute value attr _ =>
        andThen (Eval.expr call value) (expr value) fun receiver =>
          andThen (Eval.exprs call args) (exprs args) fun args =>
            andThen (Eval.findMethod attr receiver) nothing fun method => noted method (receiver :: args)
      | callee =>
        andThen (Eval.expr call callee) (expr callee) fun f =>
          andThen (Eval.exprs call args) (exprs args) fun args => noted f args
  | _ => nothing

def exprs : List Expr → Notes
  | [] => nothing
  | e :: rest => andThen (Eval.expr call e) (expr e) fun _ => exprs rest

def firstDeciding (decisive : Bool) : List Expr → Notes
  | [] => nothing
  | e :: rest =>
    andThen (Eval.expr call e) (expr e) fun v =>
      andThen (Eval.truth v) nothing fun b => if b == decisive then nothing else firstDeciding decisive rest

def chain (left : Value) : List Operator → List Expr → Notes
  | op :: ops, e :: rest =>
    andThen (Eval.expr call e) (expr e) fun right =>
      andThen (Eval.ofFailure (op.applyCompare left right)) (note (.asking (.compared op left right))) fun b =>
        if b then chain right ops rest else nothing
  | _, _ => nothing

def printedText : List Expr → Notes
  | [] => nothing
  | e :: _ => andThen (Eval.expr call e) (expr e) fun v => note (.asking (.printed v))

end

/-! ### Statements -/

def assignTo (target : Expr) : Notes :=
  match target with
  | .name _ _ => nothing
  | .attribute receiver _ _ => expr call noted receiver
  | target => note (.asking (.target target))

def assignAll (value : Value) : List Expr → Notes
  | [] => nothing
  | target :: rest =>
    andThen (Eval.assignTo call target value) (assignTo call noted target) fun _ => assignAll value rest

def augment (target operand : Expr) : Notes :=
  match target with
  | .name id _ => andThen (Eval.lookup id) nothing fun _ => expr call noted operand
  | .attribute receiver attr _ =>
    andThen (Eval.expr call receiver) (expr call noted receiver) fun r =>
      andThen (Eval.readAttr attr r) nothing fun _ => expr call noted operand
  | target => note (.asking (.target target))

def turn (test : Eval Bool) (inTest inBody inOrelse : Notes) : Notes :=
  andThen test inTest fun b => if b then inBody else inOrelse

def rounds (breakTo : ExitPoint) (test : Eval Bool) (body orelse : Eval Unit) (inTurn : Notes) : Nat → Notes
  | 0 => nothing
  | n + 1 =>
    andThen (Eval.round breakTo test body orelse) (fun s => inTurn (Eval.roundState breakTo s)) fun again =>
      if again then rounds breakTo test body orelse inTurn n else nothing

def loop (limit : Nat) (test : Eval Bool) (body orelse : Eval Unit) (inTurn : Notes) : Notes := fun s =>
  rounds ⟨"break", s.nextExit⟩ test body orelse inTurn limit { s with nextExit := s.nextExit + 1 }

def announce (settings : Settings) (st : Stmt) : Notes :=
  if settings.tracing then note (.asking (.outline st)) else nothing

mutual

def stmt (settings : Settings) : Stmt → Notes
  | .expr value => expr call noted value
  | .assert test _ => expr call noted test
  | .assign targets value =>
    andThen (Eval.expr call value) (expr call noted value) fun v => assignAll call noted v targets
  | .augAssign target _ value => augment call noted target value
  | .ifStmt test body orelse =>
    andThen (do Eval.truth (← Eval.expr call test)) (expr call noted test) fun b =>
      if b then block settings body else block settings orelse
  | .whileStmt test body orelse =>
    let condition : Eval Bool := do Eval.truth (← Eval.expr call test)
    loop settings.rounds condition (Eval.block settings call body) (Eval.block settings call orelse)
      (turn condition (expr call noted test) (block settings body) (block settings orelse))
  | .returnStmt _ (some value) => expr call noted value
  | .delete targets => note (.asking (.deletion targets))
  | .classDef _ _ keywords body decorators =>
    if !keywords.isEmpty || !decorators.isEmpty then nothing
    else fun s => block settings body { s with env := s.env.pushFrame }
  | _ => nothing

/-- A statement is started when it has been announced. -/
def block (settings : Settings) : List Stmt → Notes
  | [] => nothing
  | st :: rest =>
    andThen (Eval.announce settings st) (announce settings st) fun _ =>
      andThen (Eval.stmt settings call st) (fun s => .starting st :: stmt settings st s) fun _ => block settings rest

end

/-! ### Calls -/

def callValue (settings : Settings) : Caller
  | .cls name attrs, args =>
    andThen (Eval.newObject (.cls name attrs)) nothing fun obj =>
      andThen (Eval.getAttr constructorName (.cls name attrs)) nothing fun
        | some constructor => noted constructor (obj :: args)
        | none => nothing
  | .function name params body, args => fun s => block call noted settings body (Eval.callState name params args s)
  | callee, _ => note (.asking (.uncallable callee))

end

def invoke (settings : Settings) : (depth : Nat) → Caller
  | 0, _, _ => nothing
  | depth + 1, callee, args => callValue (Eval.invoke settings depth) (invoke settings depth) settings callee args

end Journal

/-- What the execution of a module from a state notes. -/
def journal (settings : Settings) (body : List Stmt) : Notes :=
  Journal.block (Eval.invoke settings settings.depth) (Journal.invoke settings settings.depth) settings body

end Treewalk
