/-
Execution of statements. A loop catches the exits that name its own exit points and lets all others pass; the rounds of a
loop are bounded by the settings, everything else is by recursion on the statement.
-/
import Treewalk.Eval.Expression
import Treewalk.Syntax.Outline

namespace Treewalk.Eval

variable [Host]

/-! ## Targets -/

/-- Stores a value in a name or an attribute. -/
def assignTo (call : Caller) (target : Expr) (value : Value) : Eval Unit :=
  match target with
  | .name id _ => update id value
  | .attribute receiver attr _ => do setAttr attr value (← expr call receiver)
  | target => do fail (.invalidTarget (← ofText target.text))

def assignAll (call : Caller) (value : Value) : List Expr → Eval Unit
  | [] => pure ()
  | target :: rest => do
    assignTo call target value
    assignAll call value rest

/-- An operator and a store in one: the old value is read before the operand is evaluated, and the receiver of an
attribute is evaluated once. -/
def augment (call : Caller) (target : Expr) (op : Operator) (operand : Expr) : Eval Unit :=
  match target with
  | .name id _ => do
    let old ← lookup id
    let v ← expr call operand
    update id (← ofExcept (op.applyBinary old v))
  | .attribute receiver attr _ => do
    let r ← expr call receiver
    let old ← readAttr attr r
    let v ← expr call operand
    setAttr attr (← ofExcept (op.applyBinary old v)) r
  | target => do fail (.invalidTarget (← ofText target.text))

/-! ## Loops -/

/-- The test of a loop and the block that it selects; the answer says whether another round follows. -/
def turn (test : Eval Bool) (body orelse : Eval Unit) : Eval Bool := do
  if ← test then
    body
    return true
  else
    orelse
    return false

/-- What a round makes of an interrupt: the exits that name it end it, all others pass. -/
def catchExit (breakTo continueTo : ExitPoint) : Interrupt → Eval Bool
  | .continueLoop target => if target = continueTo then pure true else throw (.continueLoop target)
  | .breakLoop target => if target = breakTo then pure false else throw (.breakLoop target)
  | i => throw i

/-- One round of a loop under its own exit points. -/
def round (breakTo : ExitPoint) (test : Eval Bool) (body orelse : Eval Unit) : Eval Bool := do
  let continueTo ← newExit "continue"
  setFlow (some ⟨breakTo, continueTo⟩)
  handle (turn test body orelse) (catchExit breakTo continueTo)

/-- Rounds until one is the last. -/
def rounds (breakTo : ExitPoint) (test : Eval Bool) (body orelse : Eval Unit) : Nat → Eval Unit
  | 0 => throw .stalled
  | n + 1 => do
    if ← round breakTo test body orelse then rounds breakTo test body orelse n else pure ()

/-- A loop; the loop around it is current again when it ends, however it ends. -/
def loop (limit : Nat) (test : Eval Bool) (body orelse : Eval Unit) : Eval Unit := do
  let breakTo ← newExit "break"
  let outer ← flow
  afterwards (rounds breakTo test body orelse limit) fun s => s.setFlow outer

/-! ## Exits -/

/-- Leaves the innermost running loop. -/
def breakOut : Eval Unit := do
  match ← flow with
  | some f => throw (.breakLoop f.breakTo)
  | none => fail (.uncaught .breakLoop)

/-- Goes on with the next round of the innermost running loop. -/
def continueOn : Eval Unit := do
  match ← flow with
  | some f => throw (.continueLoop f.continueTo)
  | none => fail (.uncaught .continueLoop)

/-- Leaves the function that is running. -/
def returnWith (value : Value) : Eval Unit := do
  let target ← ofExcept (← get).env.currentReturn
  throw (.returnCall target value)

/-! ## Definitions -/

def pushFrame : Eval Unit := modify fun s => { s with env := s.env.pushFrame }

def popFrame : Eval (Bindings Value) := do
  let (names, env) ← ofExcept (← get).env.popFrame
  modify fun s => { s with env := env }
  return names

def sortedNames (names : List String) : List String := names.mergeSort fun a b => decide (a ≤ b)

/-- Makes the names bound by a class body into the attributes of a new class. -/
def finishClass (name : String) : Eval Unit := do
  let attrs ← popFrame
  note (.createdClass name (sortedNames attrs.keys))
  let address ← modifyGet fun s =>
    let (address, heap) := s.heap.alloc attrs
    (address, { s with heap := heap })
  update name (.cls name address)

/-- Runs a class body in a frame of its own and binds the class that it makes. -/
def defineClass (name : String) (body : Eval Unit) : Eval Unit := do
  pushFrame
  body
  finishClass name

/-! ## Statements -/

/-- Writes the statement that is about to be executed to the trace, if there is one. -/
def announce (settings : Settings) (s : Stmt) : Eval Unit :=
  if settings.tracing then do traced ("*** Evaluating: " ++ (← ofText (Unwritable.orLimit s.outline.text?))) else pure ()

mutual

def stmt (settings : Settings) (call : Caller) : Stmt → Eval Unit
  | .expr value => do discard (expr call value)
  | .pass => pure ()
  | .assert test _ => do
    if ← truth (← expr call test) then pure () else fail .assertionFailed
  | .assign targets value => do
    let v ← expr call value
    assignAll call v targets
  | .augAssign target op value => augment call target op value
  | .ifStmt test body orelse => do
    if ← truth (← expr call test) then block settings call body else block settings call orelse
  | .whileStmt test body orelse =>
    loop settings.rounds (do truth (← expr call test)) (block settings call body) (block settings call orelse)
  | .breakStmt _ => breakOut
  | .continueStmt _ => continueOn
  | .returnStmt _ (some value) => do returnWith (← expr call value)
  | .returnStmt _ none => returnWith .none
  | .delete targets => do fail (.deletion (← ofText (deletionText targets)))
  | .functionDef false name params body decorators _ =>
    if !params.isPlain then fail (.parametersNotPlain name)
    else if !decorators.isEmpty then fail (.functionDecorated name)
    else update name (.function name params.positionalNames body)
  | .classDef name _ keywords body decorators =>
    if !keywords.isEmpty || !decorators.isEmpty then fail (.classNotPlain name)
    else defineClass name (block settings call body)
  | s => fail (.statementNotSupported s.form)

/-- Statements one after the other, each announced before it is executed. -/
def block (settings : Settings) (call : Caller) : List Stmt → Eval Unit
  | [] => pure ()
  | s :: rest => do
    announce settings s
    stmt settings call s
    block settings call rest

end

end Treewalk.Eval
