/-
Histories. An evaluation takes the state it starts from to the one it ends in; a history lists what it passes through, in
order: the state behind every step, with the values that evaluation holds outside of the state and the calls that are
running. Evaluation is written down here once more with its history beside it, and that it is the same evaluation is
shown at the end.
-/
import Treewalk.Proofs.Rules
import Treewalk.Run

namespace Treewalk

/-! ## Moments -/

/-- A running call of a function: the parameters that received an argument, and the global names when it started. -/
structure Activation where
  function : String
  received : List String
  globals : Bindings Value

/-- What evaluation is in the middle of: the values that it holds for later, and the running calls from the innermost. -/
structure Pending where
  held : List Value
  running : List Activation

/-- Whether a statement starts or has just run to its end. -/
inductive Mark where
  | starting (st : Stmt)
  | finished (st : Stmt)
  | between

structure Moment where
  mark : Mark
  state : State
  pending : Pending

namespace Pending

/-- Where a run starts. -/
def top : Pending := ⟨[], []⟩

def hold (c : Pending) (values : List Value) : Pending := { c with held := values ++ c.held }

def enter (c : Pending) (call : Activation) : Pending := { c with running := call :: c.running }

end Pending

/-- The value that a `return` is taking along. -/
def Interrupt.values : Interrupt → List Value
  | .returnCall _ v => [v]
  | _ => []

/-- The call that a function starts from a state. -/
def Activation.ofCall (name : String) (params : List String) (args : List Value) (s : State) : Activation :=
  ⟨name, (params.zip args).map (·.1), s.env.globals⟩

/-! ## Evaluation with its history -/

/-- An evaluation and the moments that it passes through. -/
structure Watched (α : Type) where
  run : Eval α
  seen : Pending → State → List Moment

/-- How a value is called with arguments, watched. -/
abbrev WatchedCaller := Value → List Value → Watched Value

/-- The caller that is watched. -/
def WatchedCaller.run (call : WatchedCaller) : Caller := fun callee args => (call callee args).run

namespace Watched

open Eval

variable {α β : Type}

instance : Monad Watched where
  pure a := ⟨pure a, fun _ _ => []⟩
  bind x f :=
    { run := x.run >>= fun a => (f a).run
      seen := fun c s => x.seen c s ++ match x.run s with
        | .ok a s' => (f a).seen c s'
        | .error _ _ => [] }

/-- The moment behind an evaluation, with what it brings. -/
def behind (values : α → List Value) (c : Pending) : EStateM.Result Interrupt State α → Moment
  | .ok a s => ⟨.between, s, c.hold (values a)⟩
  | .error i s => ⟨.between, s, c.hold i.values⟩

/-- A single step, seen when it is over. -/
def seeing (values : α → List Value) (x : Eval α) : Watched α := ⟨x, fun c s => [behind values c (x s)]⟩

def step (x : Eval α) : Watched α := seeing (fun _ => []) x

/-- A step to a value. -/
def value (x : Eval Value) : Watched Value := seeing (fun v => [v]) x

/-- Evaluation while values are held. -/
def holding (values : List Value) (x : Watched α) : Watched α := ⟨x.run, fun c s => x.seen (c.hold values) s⟩

/-- An evaluation around another one: the inner one starts from a state and with things pending that are prepared for it,
and what it ends in is taken further. -/
def around (inner : State → Watched α) (prepare : State → State) (under : Pending → State → Pending)
    (finish : State → Eval α → Eval β) (values : β → List Value) : Watched β where
  run s := finish s (inner s).run (prepare s)
  seen c s :=
    ⟨.between, prepare s, under c s⟩ :: (inner s).seen (under c s) (prepare s) ++
      [behind values c (finish s (inner s).run (prepare s))]

/-- The execution of a statement. -/
def during (st : Stmt) (x : Watched Unit) : Watched Unit where
  run := x.run
  seen c s := ⟨.starting st, s, c⟩ :: x.seen c s ++ match x.run s with
    | .ok _ s' => [⟨.finished st, s', c⟩]
    | .error _ _ => []

/-! Running a watched evaluation is running the evaluation. -/

@[simp] theorem run_pure (a : α) : (pure a : Watched α).run = pure a := rfl

@[simp] theorem run_bind (x : Watched α) (f : α → Watched β) : (x >>= f).run = x.run >>= fun a => (f a).run := rfl

@[simp] theorem run_step (x : Eval α) : (step x).run = x := rfl

@[simp] theorem run_value (x : Eval Value) : (value x).run = x := rfl

@[simp] theorem run_holding (values : List Value) (x : Watched α) : (holding values x).run = x.run := rfl

@[simp] theorem run_during (st : Stmt) (x : Watched Unit) : (during st x).run = x.run := rfl

@[simp] theorem run_ite {c : Prop} [Decidable c] (x y : Watched α) :
    (if c then x else y).run = if c then x.run else y.run := by
  split <;> rfl

variable [Host]

/-! ### Expressions -/

mutual

def expr (call : WatchedCaller) : Expr → Watched Value
  | .tuple items _ => do
    let vs ← exprs call items
    holding vs (value (pure (.tuple vs)))
  | .attribute e attr _ => do
    let v ← expr call e
    holding [v] (value (readAttr attr v))
  | .unary op operand => do
    let v ← expr call operand
    holding [v] (value (ofExcept (op.applyUnary v)))
  | .binary left op right => do
    let l ← expr call left
    let r ← holding [l] (expr call right)
    holding [l, r] (value (ofExcept (op.applyBinary l r)))
  | .boolean op operands => firstDeciding call (op == .or) .none operands
  | .compare left ops operands => do
    let l ← expr call left
    let b ← chain call l ops operands
    return .bool b
  | .conditional test body orelse => do
    let v ← expr call test
    let b ← holding [v] (step (truth v))
    if b then expr call body else expr call orelse
  | .call callee args keywords =>
    if callee.isPrint then do
      let line ← printedText call args
      step (print line)
      return .none
    else if !keywords.isEmpty || args.any Expr.isStarred then value (fail .keywordArguments)
    else
      match callee with
      | .attribute e attr _ => do
        let receiver ← expr call e
        let vs ← holding [receiver] (exprs call args)
        let method ← holding (receiver :: vs) (value (findMethod attr receiver))
        call method (receiver :: vs)
      | callee => do
        let f ← expr call callee
        let vs ← holding [f] (exprs call args)
        call f vs
  | e => value (Eval.expr call.run e)

def exprs (call : WatchedCaller) : List Expr → Watched (List Value)
  | [] => pure []
  | e :: rest => do
    let v ← expr call e
    let vs ← holding [v] (exprs call rest)
    return v :: vs

def firstDeciding (call : WatchedCaller) (decisive : Bool) (last : Value) : List Expr → Watched Value
  | [] => pure last
  | e :: rest => do
    let v ← expr call e
    let b ← holding [v] (step (truth v))
    if b == decisive then return v else firstDeciding call decisive v rest

def chain (call : WatchedCaller) (left : Value) : List Operator → List Expr → Watched Bool
  | op :: ops, e :: rest => do
    let right ← holding [left] (expr call e)
    let b ← holding [left, right] (step (ofFailure (op.applyCompare left right)))
    if b then chain call right ops rest else return false
  | _, _ => pure true

def printedText (call : WatchedCaller) : List Expr → Watched Text
  | [] => pure .empty
  | e :: _ => do
    let v ← expr call e
    holding [v] (step (ofFailure v.printed))

end

/-! ### Statements -/

def assignTo (call : WatchedCaller) (target : Expr) (v : Value) : Watched Unit :=
  match target with
  | .name id _ => step (update id v)
  | .attribute receiver attr _ => do
    let r ← expr call receiver
    holding [r] (step (setAttr attr v r))
  | target => step (do fail (.invalidTarget (← ofText target.text)))

def assignAll (call : WatchedCaller) (v : Value) : List Expr → Watched Unit
  | [] => pure ()
  | target :: rest => do
    assignTo call target v
    assignAll call v rest

def augment (call : WatchedCaller) (target : Expr) (op : Operator) (operand : Expr) : Watched Unit :=
  match target with
  | .name id _ => do
    let old ← value (lookup id)
    let v ← holding [old] (expr call operand)
    let result ← holding [old, v] (value (ofExcept (op.applyBinary old v)))
    step (update id result)
  | .attribute receiver attr _ => do
    let r ← expr call receiver
    let old ← holding [r] (value (readAttr attr r))
    let v ← holding [r, old] (expr call operand)
    let result ← holding [r, old, v] (value (ofExcept (op.applyBinary old v)))
    holding [r] (step (setAttr attr result r))
  | target => step (do fail (.invalidTarget (← ofText target.text)))

/-- The truth of a condition. -/
def test (call : WatchedCaller) (e : Expr) : Watched Bool := do
  let v ← expr call e
  holding [v] (step (truth v))

def turn (test : Watched Bool) (body orelse : Watched Unit) : Watched Bool := do
  let b ← test
  if b then
    body
    return true
  else
    orelse
    return false

def round (breakTo : ExitPoint) (test : Watched Bool) (body orelse : Watched Unit) : Watched Bool :=
  around (fun _ => turn test body orelse) (roundState breakTo) (fun c _ => c)
    (fun s x => handle x (catchExit breakTo ⟨"continue", s.nextExit⟩)) fun _ => []

def rounds (breakTo : ExitPoint) (test : Watched Bool) (body orelse : Watched Unit) : Nat → Watched Unit
  | 0 => step (throw .stalled)
  | n + 1 => do
    let again ← round breakTo test body orelse
    if again then rounds breakTo test body orelse n else pure ()

def loop (limit : Nat) (test : Watched Bool) (body orelse : Watched Unit) : Watched Unit :=
  around (fun s => rounds ⟨"break", s.nextExit⟩ test body orelse limit)
    (fun s => { s with nextExit := s.nextExit + 1 }) (fun c _ => c)
    (fun s x => afterwards x fun s' => s'.setFlow s.env.flow) fun _ => []

def defineClass (name : String) (body : Watched Unit) : Watched Unit :=
  around (fun _ => body) (fun s => { s with env := s.env.pushFrame }) (fun c _ => c)
    (fun _ x => do x; finishClass name) fun _ => []

mutual

def stmt (settings : Settings) (call : WatchedCaller) : Stmt → Watched Unit
  | .expr e => do
    let _ ← expr call e
    return ()
  | .assert condition _ => do
    let b ← test call condition
    if b then pure () else step (fail .assertionFailed)
  | .assign targets e => do
    let v ← expr call e
    holding [v] (assignAll call v targets)
  | .augAssign target op e => augment call target op e
  | .ifStmt condition body orelse => do
    let b ← test call condition
    if b then block settings call body else block settings call orelse
  | .whileStmt condition body orelse =>
    loop settings.rounds (test call condition) (block settings call body) (block settings call orelse)
  | .returnStmt _ (some e) => do
    let v ← expr call e
    holding [v] (step (returnWith v))
  | .classDef name _ keywords body decorators =>
    if !keywords.isEmpty || !decorators.isEmpty then step (fail (.classNotPlain name))
    else defineClass name (block settings call body)
  | st => step (Eval.stmt settings call.run st)

def block (settings : Settings) (call : WatchedCaller) : List Stmt → Watched Unit
  | [] => pure ()
  | st :: rest => do
    step (announce settings st)
    during st (stmt settings call st)
    block settings call rest

end

/-! ### Calls -/

def runFunction (name : String) (params : List String) (args : List Value) (body : Watched Unit) : Watched Value :=
  around (fun _ => body) (callState name params args) (fun c s => c.enter (.ofCall name params args s))
    (fun s x => afterwards (handle (do x; return .none) (catchReturn ⟨"return from " ++ name, s.nextExit⟩)) (backFrom s))
    fun v => [v]

def invoke (settings : Settings) : (depth : Nat) → WatchedCaller
  | 0, _, _ => value (throw .overflow)
  | depth + 1, callee, args => holding (callee :: args) <|
    match callee with
    | .cls name attrs => do
      let obj ← value (newObject (.cls name attrs))
      let found ← holding [obj] (seeing Option.toList (getAttr constructorName (.cls name attrs)))
      match found with
      | some constructor => do
        let _ ← holding [obj] (invoke settings depth constructor (obj :: args))
        return obj
      | none => return obj
    | .function name params body => runFunction name params args (block settings (invoke settings depth) body)
    | callee => value (do fail (.notCallable (← ofFailure callee.text)))

def moduleBody (settings : Settings) (body : List Stmt) : Watched Unit :=
  block settings (invoke settings settings.depth) body

end Watched

variable [Host]

/-- The moments of a module that is executed from a state, the first and the last included. -/
def history (settings : Settings) (body : List Stmt) (s : State) : List Moment :=
  let run := Watched.moduleBody settings body
  ⟨.between, s, .top⟩ :: run.seen .top s ++ [Watched.behind (fun _ => []) .top (run.run s)]

/-! ## It is the same evaluation -/

namespace Watched

section

variable (call : WatchedCaller)

mutual

theorem run_expr : ∀ e : Expr, (expr call e).run = Eval.expr call.run e
  | .tuple items _ => by
    simp only [expr, Eval.expr, run_bind, run_holding, run_value, run_exprs items]
  | .attribute e _ _ => by
    simp only [expr, Eval.expr, run_bind, run_holding, run_value, run_expr e]
  | .unary _ e => by
    simp only [expr, Eval.expr, run_bind, run_holding, run_value, run_expr e]
  | .binary left _ right => by
    simp only [expr, Eval.expr, run_bind, run_holding, run_value, run_expr left, run_expr right]
  | .boolean _ operands => by
    simp only [expr, Eval.expr, run_firstDeciding _ _ operands]
  | .compare left ops operands => by
    simp only [expr, Eval.expr, run_bind, run_pure, run_expr left, run_chain _ ops operands]
  | .conditional test body orelse => by
    simp only [expr, Eval.expr, run_bind, run_holding, run_step, run_ite, run_expr test, run_expr body,
      run_expr orelse]
  | .call callee args keywords => by
    rw [expr.eq_def, Eval.expr.eq_def]
    simp only
    split
    · simp only [run_bind, run_step, run_pure, run_printedText args]
    · split
      · rfl
      · split
        · rename_i e _ _ _
          simp only [run_bind, run_holding, run_value, run_expr e, run_exprs args]
          rfl
        · simp only [run_bind, run_holding, run_expr callee, run_exprs args]
          rfl
  | .constant .. | .name .. | .subscript .. | .slice .. | .starred .. | .list .. | .set .. | .dict .. | .lambda ..
  | .named .. | .listComp .. | .setComp .. | .dictComp .. | .generator .. | .await .. | .yield .. | .yieldFrom ..
  | .joined .. | .formatted .. => by
    simp only [expr, run_value]

theorem run_exprs : ∀ es : List Expr, (exprs call es).run = Eval.exprs call.run es
  | [] => by simp only [exprs, Eval.exprs, run_pure]
  | e :: rest => by
    simp only [exprs, Eval.exprs, run_bind, run_holding, run_pure, run_expr e, run_exprs rest]

theorem run_firstDeciding (decisive : Bool) : ∀ (last : Value) (es : List Expr),
    (firstDeciding call decisive last es).run = Eval.firstDeciding call.run decisive last es
  | _, [] => by simp only [firstDeciding, Eval.firstDeciding, run_pure]
  | _, e :: rest => by
    simp only [firstDeciding, Eval.firstDeciding, run_bind, run_holding, run_step, run_ite, run_pure, run_expr e,
      run_firstDeciding decisive _ rest]

theorem run_chain : ∀ (left : Value) (ops : List Operator) (es : List Expr),
    (chain call left ops es).run = Eval.chain call.run left ops es
  | _, _ :: ops, e :: rest => by
    simp only [chain, Eval.chain, run_bind, run_holding, run_step, run_ite, run_pure, run_expr e,
      run_chain _ ops rest]
  | _, [], _ => by simp only [chain, Eval.chain, run_pure]
  | _, _ :: _, [] => by simp only [chain, Eval.chain, run_pure]

theorem run_printedText : ∀ es : List Expr, (printedText call es).run = Eval.printedText call.run es
  | [] => by simp only [printedText, Eval.printedText, run_pure]
  | e :: _ => by simp only [printedText, Eval.printedText, run_bind, run_holding, run_step, run_expr e]

end

theorem run_assignTo (target : Expr) (v : Value) :
    (assignTo call target v).run = Eval.assignTo call.run target v := by
  unfold assignTo
  split
  · rfl
  · simp only [Eval.assignTo, run_bind, run_holding, run_step, run_expr]
  · rename_i hname hattr
    rw [Eval.assignTo.eq_3 _ _ _ hname hattr, run_step]

theorem run_assignAll (v : Value) : ∀ targets : List Expr,
    (assignAll call v targets).run = Eval.assignAll call.run v targets
  | [] => rfl
  | target :: rest => by
    simp only [assignAll, Eval.assignAll, run_bind, run_assignTo, run_assignAll v rest]

theorem run_augment (target : Expr) (op : Operator) (operand : Expr) :
    (augment call target op operand).run = Eval.augment call.run target op operand := by
  unfold augment
  split
  · simp only [Eval.augment, run_bind, run_holding, run_step, run_value, run_expr]
  · simp only [Eval.augment, run_bind, run_holding, run_step, run_value, run_expr]
  · rename_i hname hattr
    rw [Eval.augment.eq_3 _ _ _ _ hname hattr, run_step]

theorem run_test (e : Expr) : (test call e).run = (do Eval.truth (← Eval.expr call.run e)) := by
  simp only [test, run_bind, run_holding, run_step, run_expr]

omit [Host] in
theorem run_turn (test : Watched Bool) (body orelse : Watched Unit) :
    (turn test body orelse).run = Eval.turn test.run body.run orelse.run := by
  simp only [turn, Eval.turn, run_bind, run_ite, run_pure]

omit [Host] in
theorem run_round (breakTo : ExitPoint) (test : Watched Bool) (body orelse : Watched Unit) :
    (round breakTo test body orelse).run = Eval.round breakTo test.run body.run orelse.run := by
  funext s
  rw [Eval.round_apply, ← run_turn]
  rfl

omit [Host] in
theorem run_rounds (breakTo : ExitPoint) (test : Watched Bool) (body orelse : Watched Unit) : ∀ limit : Nat,
    (rounds breakTo test body orelse limit).run = Eval.rounds breakTo test.run body.run orelse.run limit
  | 0 => rfl
  | limit + 1 => by
    simp only [rounds, Eval.rounds, run_bind, run_ite, run_pure, run_round, run_rounds breakTo test body orelse limit]

omit [Host] in
theorem run_loop (limit : Nat) (test : Watched Bool) (body orelse : Watched Unit) :
    (loop limit test body orelse).run = Eval.loop limit test.run body.run orelse.run := by
  funext s
  rw [Eval.loop_apply, ← run_rounds]
  rfl

omit [Host] in
theorem run_defineClass (name : String) (body : Watched Unit) :
    (defineClass name body).run = Eval.defineClass name body.run :=
  rfl

omit [Host] in
theorem run_runFunction (name : String) (params : List String) (args : List Value) (body : Watched Unit) :
    (runFunction name params args body).run = Eval.runFunction name params args body.run :=
  rfl

variable (settings : Settings)

mutual

theorem run_stmt : ∀ st : Stmt, (stmt settings call st).run = Eval.stmt settings call.run st
  | .expr e => by
    simp only [stmt, Eval.stmt, run_bind, run_pure, run_expr]
    exact (Eval.discard_eq_bind _).symm
  | .assert e _ => by
    simp only [stmt, Eval.stmt, run_bind, run_ite, run_pure, run_step, run_test, bind_assoc]
  | .assign targets e => by
    simp only [stmt, Eval.stmt, run_bind, run_holding, run_expr, run_assignAll]
  | .augAssign target op e => by
    simp only [stmt, Eval.stmt, run_augment]
  | .ifStmt e body orelse => by
    simp only [stmt, Eval.stmt, run_bind, run_ite, run_test, bind_assoc, run_block body, run_block orelse]
  | .whileStmt e body orelse => by
    simp only [stmt, Eval.stmt, run_loop, run_test, run_block body, run_block orelse]
  | .returnStmt _ (some e) => by
    simp only [stmt, Eval.stmt, run_bind, run_holding, run_step, run_expr]
  | .classDef name _ _ body _ => by
    simp only [stmt, Eval.stmt, run_ite, run_step, run_defineClass, run_block body]
  | .pass | .delete .. | .breakStmt .. | .continueStmt .. | .returnStmt _ none | .functionDef .. | .annAssign ..
  | .forStmt .. | .withStmt .. | .raise .. | .tryStmt .. | .importNames .. | .importFrom .. | .globalNames ..
  | .nonlocalNames .. | .matchStmt .. => by
    simp only [stmt, run_step]

theorem run_block : ∀ body : List Stmt, (block settings call body).run = Eval.block settings call.run body
  | [] => by simp only [block, Eval.block, run_pure]
  | st :: rest => by
    simp only [block, Eval.block, run_bind, run_step, run_during, run_stmt st, run_block rest]

end

end

theorem run_invoke (settings : Settings) : ∀ depth : Nat,
    WatchedCaller.run (invoke settings depth) = Eval.invoke settings depth
  | 0 => rfl
  | depth + 1 => by
    have ih := run_invoke settings depth
    funext callee args
    show (invoke settings (depth + 1) callee args).run = _
    cases callee with
    | cls name attrs =>
      rw [Eval.invoke, invoke]
      refine bind_congr fun obj => bind_congr fun found => ?_
      cases found with
      | none => rfl
      | some constructor =>
        have hrun : (invoke settings depth constructor (obj :: args)).run =
            Eval.invoke settings depth constructor (obj :: args) := by rw [← ih]; rfl
        simp only [run_bind, run_holding, run_pure, hrun, Eval.discard_eq_bind, bind_assoc, pure_bind]
    | function name params body =>
      rw [Eval.invoke, Eval.callValue, invoke, run_holding, run_runFunction, run_block, ih]
    | none | bool _ | int _ | float _ | imaginary _ _ | string _ | tuple _ | object _ _ | foreign _ => rfl

/-- What is watched is the execution of the module. -/
theorem run_moduleBody (settings : Settings) (body : List Stmt) :
    (moduleBody settings body).run = Eval.moduleBody settings body := by
  rw [moduleBody, run_block, run_invoke]
  rfl

end Watched

/-- The last moment of a history is the one that the run of the module ends in. -/
theorem history_getLast (settings : Settings) (body : List Stmt) (s : State) :
    (history settings body s).getLast?.map (·.state) = some (runModule settings body s).2 := by
  unfold history runModule
  simp only [List.getLast?_append, List.getLast?_singleton, Option.some_or, Option.map_some, Watched.run_moduleBody]
  cases Eval.moduleBody settings body s <;> rfl

end Treewalk
