/-
The identity of exit points is redundant. Evaluation is repeated here with the treatment of exits as a parameter: a
loop or a call catches an exit that carries its own exit point, and what it does with any other is left open. Since
every exit on its way is aimed at the innermost running loop or call, no other ever arrives, and all treatments give
the same evaluation: that of `Treewalk.Eval`, and that of loops and calls which catch every exit without looking at its
exit point.
-/
import Treewalk.Proofs.Confinement
import Treewalk.Run

namespace Treewalk

namespace Eval

/-- How loops and calls treat the interrupts that reach them, given their own exit points. Only the treatment of exits
with foreign exit points is free. -/
structure Handlers where
  loop : (breakTo continueTo : ExitPoint) → Interrupt → Eval Bool
  call : (target : ExitPoint) → Interrupt → Eval Value
  ownContinue : ∀ b c, loop b c (.continueLoop c) = pure true
  ownBreak : ∀ b c, loop b c (.breakLoop b) = pure false
  passLoop : ∀ b c i, i.endsRound = false → loop b c i = throw i
  ownReturn : ∀ t v, call t (.returnCall t v) = pure v
  passCall : ∀ t i, i.endsCall = false → call t i = throw i

namespace Handlers

/-- Every exit is caught, and exit points are not looked at. -/
def catchAll : Handlers where
  loop
    | _, _, .continueLoop _ => pure true
    | _, _, .breakLoop _ => pure false
    | _, _, i => throw i
  call
    | _, .returnCall _ value => pure value
    | _, i => throw i
  ownContinue _ _ := rfl
  ownBreak _ _ := rfl
  passLoop b c i h := by cases i <;> first | rfl | cases h
  ownReturn _ _ := rfl
  passCall t i h := by cases i <;> first | rfl | cases h

end Handlers

/-! ## Evaluation by handlers -/

def roundBy (H : Handlers) (breakTo : ExitPoint) (test : Eval Bool) (body orelse : Eval Unit) : Eval Bool := do
  let continueTo ← newExit "continue"
  setFlow (some ⟨breakTo, continueTo⟩)
  handle (turn test body orelse) (H.loop breakTo continueTo)

def roundsBy (H : Handlers) (breakTo : ExitPoint) (test : Eval Bool) (body orelse : Eval Unit) : Nat → Eval Unit
  | 0 => throw .stalled
  | n + 1 => do
    if ← roundBy H breakTo test body orelse then roundsBy H breakTo test body orelse n else pure ()

def loopBy (H : Handlers) (limit : Nat) (test : Eval Bool) (body orelse : Eval Unit) : Eval Unit := do
  let breakTo ← newExit "break"
  let outer ← flow
  afterwards (roundsBy H breakTo test body orelse limit) fun s => s.setFlow outer

mutual

/-- Statements without blocks have no handler, and are executed as they are. -/
def stmtBy [Host] (H : Handlers) (settings : Settings) (call : Caller) : Stmt → Eval Unit
  | .ifStmt test body orelse => do
    if ← truth (← expr call test) then blockBy H settings call body else blockBy H settings call orelse
  | .whileStmt test body orelse =>
    loopBy H settings.rounds (do truth (← expr call test)) (blockBy H settings call body)
      (blockBy H settings call orelse)
  | .classDef name _ keywords body decorators =>
    if !keywords.isEmpty || !decorators.isEmpty then fail (.classNotPlain name)
    else defineClass name (blockBy H settings call body)
  | s => stmt settings call s

def blockBy [Host] (H : Handlers) (settings : Settings) (call : Caller) : List Stmt → Eval Unit
  | [] => pure ()
  | s :: rest => do
    announce settings s
    stmtBy H settings call s
    blockBy H settings call rest

end

def runFunctionBy (H : Handlers) (name : String) (params : List String) (args : List Value) (body : Eval Unit) :
    Eval Value := do
  note (.calling name args.length)
  let target ← newExit ("return from " ++ name)
  let saved ← modifyGet fun s =>
    let (saved, env) := s.env.enterCall (Bindings.ofList (params.zip args)) target
    (saved, { s with env := env })
  afterwards (handle (do body; return .none) (H.call target)) fun s => { s with env := s.env.restore saved }

def invokeBy [Host] (H : Handlers) (settings : Settings) : (depth : Nat) → Caller
  | 0, _, _ => throw .overflow
  | depth + 1, callee, args =>
    match callee with
    | .cls name attrs => do
      let obj ← newObject (.cls name attrs)
      match ← getAttr constructorName (.cls name attrs) with
      | some constructor =>
        discard (invokeBy H settings depth constructor (obj :: args))
        return obj
      | none => return obj
    | .function name params body =>
      runFunctionBy H name params args (blockBy H settings (invokeBy H settings depth) body)
    | callee => do fail (.notCallable (← ofFailure callee.text))

end Eval

/-- Executes a module by handlers. -/
def runModuleBy [Host] (H : Eval.Handlers) (settings : Settings) (body : List Stmt) (s : State) : Ending × State :=
  match Eval.blockBy H settings (Eval.invokeBy H settings settings.depth) body s with
  | .ok _ s => (.finished, s)
  | .error i s => (i.ending, s)

namespace Eval

/-! ## All handlers agree -/

variable (H : Handlers)

section

variable {breakTo : ExitPoint} {test : Eval Bool} {body orelse : Eval Unit} {s : Surroundings}

theorem roundBy_eq (h : Kept (.block s) (fun _ => True) (turn test body orelse)) :
    roundBy H breakTo test body orelse = round breakTo test body orelse := by
  funext t
  show handle (turn test body orelse) (H.loop breakTo ⟨"continue", t.nextExit⟩) (roundState breakTo t) = _
  rw [round_caught fun _ _ hr => (h.of_error trivial hr).1]
  cases hr : turn test body orelse (roundState breakTo t) with
  | ok again t' => exact handle_ok hr
  | error i t' =>
    rw [handle_error hr]
    -- An exit with a foreign exit point would not be aimed at the round.
    have ha := (h.of_error trivial hr).1
    cases i with
    | continueLoop target =>
      obtain ⟨f, hf, rfl⟩ := ha
      cases hf
      rw [H.ownContinue]
      rfl
    | breakLoop target =>
      obtain ⟨f, hf, rfl⟩ := ha
      cases hf
      rw [H.ownBreak]
      rfl
    | error _ | unwritable _ | returnCall _ _ | overflow | stalled =>
      rw [H.passLoop _ _ _ rfl]
      rfl

theorem roundsBy_eq (h : Kept (.block s) (fun _ => True) (turn test body orelse)) :
    ∀ limit : Nat, roundsBy H breakTo test body orelse limit = rounds breakTo test body orelse limit
  | 0 => rfl
  | limit + 1 => by
    simp only [roundsBy, rounds, roundBy_eq H h, roundsBy_eq h limit]

theorem loopBy_eq (limit : Nat) (h : Kept (.block s) (fun _ => True) (turn test body orelse)) :
    loopBy H limit test body orelse = loop limit test body orelse := by
  unfold loopBy loop
  simp only [roundsBy_eq H h]

end

theorem runFunctionBy_eq {name : String} {params : List String} {args : List Value} {body : Eval Unit}
    {s : Surroundings} (h : Kept (.block s) (fun _ => True) body) :
    runFunctionBy H name params args body = runFunction name params args body := by
  funext t
  show afterwards (handle (do body; return .none) (H.call ⟨"return from " ++ name, t.nextExit⟩)) (backFrom t)
    (callState name params args t) = _
  rw [runFunction_caught fun _ _ hr => (h.of_error trivial hr).1]
  cases hr : body (callState name params args t) with
  | ok _ t' => exact afterwards_ok (handle_ok (bind_ok hr))
  | error i t' =>
    have hb : (do body; return Value.none : Eval Value) (callState name params args t) = .error i t' := bind_error hr
    have ha := (h.of_error trivial hr).1
    cases i with
    | returnCall target v =>
      cases ha
      exact afterwards_ok ((handle_error hb).trans (by rw [H.ownReturn]; rfl))
    | error _ | unwritable _ | breakLoop _ | continueLoop _ | overflow | stalled =>
      exact afterwards_error ((handle_error hb).trans (by rw [H.passCall _ _ rfl]; rfl))

section

variable {settings : Settings} {call : Caller}

theorem kept_whileTurn [Host] (hcall : (confinement settings settings).Calls call call) (s : Surroundings) (test : Expr)
    (body orelse : List Stmt) :
    Kept (.block s) (fun _ => True)
      (turn (do truth (← expr call test)) (block settings call body) (block settings call orelse)) :=
  let D := confinement settings settings
  .turn (D.test hcall test) (D.block hcall s body False.elim) (D.block hcall s orelse False.elim)

mutual

theorem stmtBy_eq [Host] (hcall : (confinement settings settings).Calls call call) :
    ∀ st : Stmt, stmtBy H settings call st = stmt settings call st
  | .ifStmt test body orelse => by
    simp only [stmtBy, stmt, blockBy_eq hcall body, blockBy_eq hcall orelse]
  | .whileStmt test body orelse => by
    simp only [stmtBy, stmt, blockBy_eq hcall body, blockBy_eq hcall orelse]
    exact loopBy_eq H _ (kept_whileTurn hcall .outermost test body orelse)
  | .classDef name bases keywords body decorators => by
    simp only [stmtBy, stmt, blockBy_eq hcall body]
  | .expr .. | .pass | .assert .. | .assign .. | .augAssign .. | .annAssign .. | .delete .. | .forStmt ..
  | .breakStmt .. | .continueStmt .. | .returnStmt .. | .functionDef .. | .withStmt .. | .raise .. | .tryStmt ..
  | .importNames .. | .importFrom .. | .globalNames .. | .nonlocalNames .. | .matchStmt .. => by
    simp only [stmtBy]

theorem blockBy_eq [Host] (hcall : (confinement settings settings).Calls call call) :
    ∀ body : List Stmt, blockBy H settings call body = block settings call body
  | [] => by simp only [blockBy, block]
  | st :: rest => by simp only [blockBy, block, stmtBy_eq hcall st, blockBy_eq hcall rest]

end

end

theorem invokeBy_eq [Host] (settings : Settings) : ∀ depth : Nat, invokeBy H settings depth = invoke settings depth
  | 0 => rfl
  | depth + 1 => by
    have hcall := (confinement settings settings).invoke depth
    funext callee args
    cases callee with
    | cls name attrs =>
      rw [invokeBy, invoke]
      refine bind_congr fun obj => bind_congr fun found => ?_
      cases found with
      | none => rfl
      | some constructor => simp only [invokeBy_eq settings depth]
    | function name params body =>
      simp only [invokeBy, invoke, invokeBy_eq settings depth, blockBy_eq H hcall body]
      exact runFunctionBy_eq H ((confinement settings settings).block hcall .functionBody body False.elim)
    | none | bool _ | int _ | float _ | imaginary _ _ | string _ | tuple _ | object _ _ | foreign _ => rfl

end Eval

theorem runModuleBy_eq [Host] (H : Eval.Handlers) (settings : Settings) (body : List Stmt) (s : State) :
    runModuleBy H settings body s = runModule settings body s := by
  have hbody : Eval.blockBy H settings (Eval.invokeBy H settings settings.depth) body =
      Eval.moduleBody settings body := by
    rw [Eval.invokeBy_eq]
    exact Eval.blockBy_eq H ((Eval.confinement settings settings).invoke _) body
  unfold runModuleBy runModule
  cases hr : Eval.moduleBody settings body s with
  | ok _ s' => simp only [hbody, hr]
  | error i s' => simp only [hbody, hr]

theorem Eval.kept_moduleBody [Host] (settings : Settings) (body : List Stmt) :
    Kept (.block .outermost) (fun _ => True) (moduleBody settings body) :=
  let D := confinement settings settings
  D.block (D.invoke settings.depth) .outermost body False.elim

/-- Where no exit point is current, no exit is on its way. -/
theorem Interrupt.AimedAt.ending_ne {env : Environment} (hf : env.flow = none) (hr : env.returnTarget = none)
    {i : Interrupt} (h : i.AimedAt env) (exit : Exit) : i.ending ≠ .failed (.escaped exit) := by
  cases i with
  | error e => exact fun he => h exit (Ending.failed.inj he)
  | breakLoop _ | continueLoop _ =>
    obtain ⟨f, hs, -⟩ := h
    exact absurd (hf.symm.trans hs) nofun
  | returnCall _ _ => exact absurd (hr.symm.trans h) nofun
  | unwritable _ | overflow | stalled => nofun

/-- The identity of exit points is redundant: at the top of a module, from any global names and heap, catching every
exit without looking at its exit point gives the same run (ending and final state), and so does any other treatment of
exits with foreign exit points, so that none ever reaches a loop or a call; no exit reaches the top of the module, and
no loop is current after the run. -/
theorem runModule_exits_innermost [Host] (settings : Settings) (body : List Stmt) (globals : Bindings Value) (s : State) :
    let start : State := { s with env := .ofGlobals globals }
    runModuleBy .catchAll settings body start = runModule settings body start ∧
      (∀ H : Eval.Handlers, runModuleBy H settings body start = runModule settings body start) ∧
      (∀ exit : Exit, (runModule settings body start).1 ≠ .failed (.escaped exit)) ∧
      (runModule settings body start).2.env.flow = none := by
  intro start
  refine ⟨runModuleBy_eq _ settings body start, fun H => runModuleBy_eq H settings body start, ?_⟩
  have h := Eval.kept_moduleBody settings body
  unfold runModule
  cases hr : Eval.moduleBody settings body start with
  | ok a s' =>
    obtain ⟨-, -, hflow⟩ := h.of_ok trivial hr
    exact ⟨nofun, hflow⟩
  | error i s' =>
    obtain ⟨haimed, -, hflow⟩ := h.of_error trivial hr
    exact ⟨haimed.ending_ne rfl rfl, hflow⟩

end Treewalk
