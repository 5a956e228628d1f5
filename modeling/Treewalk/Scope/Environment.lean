/-
The environment of an evaluation: the global names, the frames above them, where a `return` goes and where the exits of
the innermost running loop go. Names are looked up and bound in the top frame only.
-/
import Treewalk.Scope.Overlay
import Treewalk.Value.Basic

namespace Treewalk

/-- A place that an exit transfers control to; no two have the same number. -/
structure ExitPoint where
  label : String
  id : Nat
deriving Repr, DecidableEq

/-- The exit points of a running loop. -/
structure Flow where
  breakTo : ExitPoint
  continueTo : ExitPoint
deriving Repr, DecidableEq

/-- A frame above the global one: the names of a class body, or the own names of a call, which overlay the global
ones. -/
inductive Frame where
  | block (names : Bindings Value)
  | call (locals : Bindings Value)
deriving Inhabited

/-- The frames are listed from the top. -/
structure Environment where
  globals : Bindings Value
  frames : List Frame
  returnTarget : Option ExitPoint
  flow : Option Flow

/-- What the end of a call brings back: the frames that were there, and where a `return` went. -/
structure SavedCall where
  depth : Nat
  returnTarget : Option ExitPoint

namespace Environment

def ofGlobals (globals : Bindings Value) : Environment := ⟨globals, [], none, none⟩

/-! ## The top frame -/

/-- What can be seen through the top frame, as a table. -/
def top (env : Environment) : Bindings Value :=
  match env.frames with
  | [] => env.globals
  | .block names :: _ => names
  | .call locals :: _ => (Overlay.mk locals env.globals).flatten

def get? (env : Environment) (name : String) : Option Value :=
  match env.frames with
  | [] => env.globals.get? name
  | .block names :: _ => names.get? name
  | .call locals :: _ => (Overlay.mk locals env.globals).get? name

def contains (env : Environment) (name : String) : Bool :=
  match env.frames with
  | [] => env.globals.contains name
  | .block names :: _ => names.contains name
  | .call locals :: _ => (Overlay.mk locals env.globals).contains name

/-- Binds a name in the top frame. -/
def update (env : Environment) (name : String) (value : Value) : Environment :=
  match env.frames with
  | [] => { env with globals := env.globals.insert name value }
  | .block names :: rest => { env with frames := .block (names.insert name value) :: rest }
  | .call locals :: rest =>
    let o := (Overlay.mk locals env.globals).insert name value
    { env with globals := o.globals, frames := .call o.locals :: rest }

/-- Removes a name from the top frame; none if it is not there. -/
def erase? (env : Environment) (name : String) : Option Environment :=
  match env.frames with
  | [] => if env.globals.contains name then some { env with globals := env.globals.erase name } else none
  | .block names :: rest =>
    if names.contains name then some { env with frames := .block (names.erase name) :: rest } else none
  | .call locals :: rest =>
    ((Overlay.mk locals env.globals).erase? name).map fun o =>
      { env with globals := o.globals, frames := .call o.locals :: rest }

def lookup (env : Environment) (name : String) : Except EvalError Value :=
  match env.get? name with
  | some value => .ok value
  | none => .error (.unknownSymbol name)

/-! ## The stack -/

def pushFrame (env : Environment) : Environment := { env with frames := .block .empty :: env.frames }

/-- Removes the top frame and gives a copy of what could be seen through it; the global frame stays. -/
def popFrame (env : Environment) : Except EvalError (Bindings Value × Environment) :=
  match env.frames with
  | [] => .error .globalFramePopped
  | _ :: rest => .ok (env.top, { env with frames := rest })

/-- Starts a call on top of the stack. -/
def enterCall (env : Environment) (locals : Bindings Value) (target : ExitPoint) : SavedCall × Environment :=
  (⟨env.frames.length, env.returnTarget⟩,
    { env with frames := .call locals :: env.frames, returnTarget := some target })

/-- Ends a call: whatever was pushed since it started is gone. -/
def restore (env : Environment) (saved : SavedCall) : Environment :=
  { env with
    frames := env.frames.drop (env.frames.length - saved.depth)
    returnTarget := saved.returnTarget }

/-- Where a `return` goes. -/
def currentReturn (env : Environment) : Except EvalError ExitPoint :=
  match env.returnTarget with
  | some target => .ok target
  | none => .error (.uncaught .returnCall)

end Environment

end Treewalk
