/-
The state of an evaluation, the ways in which it can be interrupted, and the steps that evaluation is made of. An
interrupt keeps the state it arose in.
-/
import Treewalk.Scope.Environment
import Treewalk.Value.Heap
import Treewalk.Value.Text

namespace Treewalk

/-- What evaluation notes about itself. -/
inductive Event where
  | evaluating (file : String)
  | createdClass (name : String) (attrs : List String)
  | calling (function : String) (args : Nat)
  | finished (file : String)
  | aborted (file : String) (description : Text)
deriving Repr, DecidableEq

def Event.text : Event → Text
  | .evaluating file => "evaluating " ++ file
  | .createdClass name attrs =>
    "created class " ++ name ++ " with attributes [" ++
      String.intercalate ", " (attrs.map fun name : String => Text.quoted name) ++ "]"
  | .calling function args => "calling " ++ function ++ " with " ++ toString args ++ " argument(s)"
  | .finished file => "evaluation of " ++ file ++ " finished"
  | .aborted file description => "evaluation of " ++ file ++ " aborted: " ++ description

/-- The limits and switches of an evaluation. -/
structure Settings where
  /-- Whether statements are announced before they are executed. -/
  tracing : Bool
  /-- How deep calls may nest. This stands for the stack of the host, where nested expressions and statements take frames
  as well, and so do the outline of a traced statement and the text of a value. They are free here: a depth is a number
  of calls, whatever the calls stand in. -/
  depth : Nat
  /-- How many rounds one loop may take. -/
  rounds : Nat

structure State where
  env : Environment
  heap : Heap
  /-- The number of the next exit point. -/
  nextExit : Nat
  output : Array Text
  trace : Array String
  log : Array Event

def State.setFlow (s : State) (flow : Option Flow) : State := { s with env := { s.env with flow := flow } }

/-- Why evaluation stops before its end. Besides errors these are texts that do not exist, the exits on their way to
their targets, calls nested past the limit, and a loop that has used up its rounds. -/
inductive Interrupt where
  | error (e : EvalError)
  | unwritable (cause : Unwritable)
  | breakLoop (target : ExitPoint)
  | continueLoop (target : ExitPoint)
  | returnCall (target : ExitPoint) (value : Value)
  | overflow
  | stalled

abbrev Eval := EStateM Interrupt State

namespace Eval

def fail {α : Type} (e : EvalError) : Eval α := throw (.error e)

def ofExcept {α : Type} : Except EvalError α → Eval α
  | .ok a => pure a
  | .error e => fail e

def ofFailure {α : Type} : Except Failure α → Eval α
  | .ok a => pure a
  | .error (.error e) => fail e
  | .error (.unwritable cause) => throw (.unwritable cause)

/-- A text, if there is one. -/
def ofText {α : Type} : Except Unwritable α → Eval α
  | .ok s => pure s
  | .error cause => throw (.unwritable cause)

/-- Goes on with a handler, in the state reached, where evaluation was interrupted. -/
def handle {α : Type} (x : Eval α) (handler : Interrupt → Eval α) : Eval α := fun s =>
  match x s with
  | .ok a s => .ok a s
  | .error i s => handler i s

/-- Changes the state at the end of an evaluation, interrupted or not. -/
def afterwards {α : Type} (x : Eval α) (change : State → State) : Eval α := fun s =>
  match x s with
  | .ok a s => .ok a (change s)
  | .error i s => .error i (change s)

/-! ## Names and attributes -/

def lookup (name : String) : Eval Value := do ofExcept ((← get).env.lookup name)

def update (name : String) (value : Value) : Eval Unit :=
  modify fun s => { s with env := s.env.update name value }

def getAttr (name : String) (v : Value) : Eval (Option Value) := do ofExcept (v.getAttr (← get).heap name)

/-- Reads an attribute that must be there. -/
def readAttr (name : String) (v : Value) : Eval Value := do
  match ← getAttr name v with
  | some value => return value
  | none => fail (.unknownAttribute name)

/-- Finds the method of an object in its class. -/
def findMethod (name : String) (receiver : Value) : Eval Value := do
  match ← ofExcept (receiver.getClassAttr (← get).heap name) with
  | some method => return method
  | none => fail (.unknownMethod name)

def setAttr (name : String) (value target : Value) : Eval Unit := do
  let heap ← ofExcept (target.setAttr (← get).heap name value)
  modify fun s => { s with heap := heap }

def newObject (type : Value) : Eval Value := modifyGet fun s =>
  let (obj, heap) := Value.newObject s.heap type
  (obj, { s with heap := heap })

/-! ## Control -/

def truth (v : Value) : Eval Bool := ofExcept v.truth

def newExit (label : String) : Eval ExitPoint := modifyGet fun s =>
  (⟨label, s.nextExit⟩, { s with nextExit := s.nextExit + 1 })

def flow : Eval (Option Flow) := do return (← get).env.flow

def setFlow (flow : Option Flow) : Eval Unit := modify fun s => s.setFlow flow

/-! ## Output -/

def print (line : Text) : Eval Unit := modify fun s => { s with output := s.output.push line }

def note (event : Event) : Eval Unit := modify fun s => { s with log := s.log.push event }

def traced (line : String) : Eval Unit := modify fun s => { s with trace := s.trace.push line }

end Eval

end Treewalk
