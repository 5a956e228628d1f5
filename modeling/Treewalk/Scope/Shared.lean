/-
Frame stacks that are shared by reference. Entering a call starts a new stack over the same frames, and pushes and pops
change the current stack in place; a stack that was saved can be brought back at any time, in any order, and then shows
what happened to it meanwhile.
-/
import Treewalk.Scope.Environment

namespace Treewalk

/-- Frames by number, stacks of such numbers listed from the top, and the number of the current stack. All stacks stand on
the one global frame. -/
structure SharedScopes where
  globals : Bindings Value
  frames : Array Frame
  stackTable : Array (List Nat)
  current : Nat
  returnTarget : Option ExitPoint
  saved : Array (Nat × Option ExitPoint)

namespace SharedScopes

def ofGlobals (globals : Bindings Value) : SharedScopes := ⟨globals, #[], #[[]], 0, none, #[]⟩

def stack (s : SharedScopes) : List Nat := s.stackTable.getD s.current []

def frame (s : SharedScopes) (n : Nat) : Frame := s.frames.getD n default

/-- The environment that the current stack shows. -/
def view (s : SharedScopes) : Environment where
  globals := s.globals
  frames := s.stack.map s.frame
  returnTarget := s.returnTarget
  flow := none

/-- Takes over the global names and the top frame of an environment. -/
def writeTop (s : SharedScopes) (env : Environment) : SharedScopes :=
  let frames := match s.stack, env.frames with
    | n :: _, frame :: _ => s.frames.setIfInBounds n frame
    | _, _ => s.frames
  { s with globals := env.globals, frames := frames }

def setStack (s : SharedScopes) (stack : List Nat) : SharedScopes :=
  { s with stackTable := s.stackTable.setIfInBounds s.current stack }

def update (s : SharedScopes) (name : String) (value : Value) : SharedScopes :=
  s.writeTop (s.view.update name value)

def erase? (s : SharedScopes) (name : String) : Option SharedScopes := (s.view.erase? name).map s.writeTop

def pushFrame (s : SharedScopes) : SharedScopes :=
  { s with frames := s.frames.push (.block .empty) }.setStack (s.frames.size :: s.stack)

def popFrame (s : SharedScopes) : Except EvalError (Bindings Value × SharedScopes) := do
  let (names, _) ← s.view.popFrame
  return (names, s.setStack s.stack.tail)

/-- Starts a call; the answer is the number under which the state before it can be restored. -/
def enterCall (s : SharedScopes) (locals : Bindings Value) (target : ExitPoint) : Nat × SharedScopes :=
  (s.saved.size,
    { s with
      frames := s.frames.push (.call locals)
      stackTable := s.stackTable.push (s.frames.size :: s.stack)
      current := s.stackTable.size
      returnTarget := some target
      saved := s.saved.push (s.current, s.returnTarget) })

/-- Brings back a saved state; an unknown number changes nothing. -/
def restore (s : SharedScopes) (index : Nat) : SharedScopes :=
  match s.saved[index]? with
  | some (current, target) => { s with current := current, returnTarget := target }
  | none => s

end SharedScopes

end Treewalk
