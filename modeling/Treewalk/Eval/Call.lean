/-
Calls. A class makes an object and lets its constructor fill it; a function runs its body over a frame of its arguments.
Each call uses one level of the depth that the settings allow.
-/
import Treewalk.Eval.Statement

namespace Treewalk.Eval

variable [Host]

/-- What a call makes of an interrupt: a `return` that names it ends it with a value, all others pass. -/
def catchReturn (target : ExitPoint) : Interrupt → Eval Value
  | .returnCall t value => if t = target then pure value else throw (.returnCall t value)
  | i => throw i

/-- Runs the body of a function in a frame of its own. The caller's frames are back when the call ends, however it ends.
Parameters without an argument stay unbound and surplus arguments are dropped. -/
def runFunction (name : String) (params : List String) (args : List Value) (body : Eval Unit) : Eval Value := do
  note (.calling name args.length)
  let target ← newExit ("return from " ++ name)
  let saved ← modifyGet fun s =>
    let (saved, env) := s.env.enterCall (Bindings.ofList (params.zip args)) target
    (saved, { s with env := env })
  afterwards (handle (do body; return .none) (catchReturn target)) fun s => { s with env := s.env.restore saved }

/-- Calls a value, given how the calls that it makes in turn are made. -/
def callValue (settings : Settings) (call : Caller) : Caller
  | .cls name attrs, args => do
    let obj ← newObject (.cls name attrs)
    match ← getAttr constructorName (.cls name attrs) with
    | some constructor =>
      discard (call constructor (obj :: args))
      return obj
    | none => return obj
  | .function name params body, args => runFunction name params args (block settings call body)
  | callee, _ => do fail (.notCallable (← ofFailure callee.text))

/-- Calls a value at most `depth` calls deep. The call past the limit overflows wherever it stands, as a call does that
finds no frame left; nothing but a call overflows. -/
def invoke (settings : Settings) : (depth : Nat) → Caller
  | 0, _, _ => throw .overflow
  | depth + 1, callee, args => callValue settings (invoke settings depth) callee args

/-- Executes statements at the top of a module. -/
def moduleBody (settings : Settings) (body : List Stmt) : Eval Unit :=
  block settings (invoke settings settings.depth) body

end Treewalk.Eval
