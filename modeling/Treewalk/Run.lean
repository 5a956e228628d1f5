/-
Runs of whole programs: reading a text, checking where its exits stand, executing it, and reporting how that ended. What
one run leaves behind, the global names and the heap, is what the next one starts from.
-/
import Treewalk.Eval.Call
import Treewalk.Grammar.Statement
import Treewalk.Syntax.Visit

namespace Treewalk

/-- What lasts from one run to the next. -/
structure World where
  globals : Bindings Value
  heap : Heap

def World.empty : World := ⟨.empty, .empty⟩

/-- How a run ended. Besides an error of the program these are texts that were asked for and do not exist, texts that
cannot be taken as a program at all, programs too deep to be checked, and a loop that was cut off. -/
inductive Ending where
  | finished
  | failed (e : EvalError)
  | unwritable (cause : Unwritable)
  | nullCharacter
  | uncheckable
  | stalled
deriving Repr, DecidableEq

namespace Ending

def nullCharacterMessage : String := "source code string cannot contain null bytes"

def uncheckableMessage : String := "maximum recursion depth exceeded"

/-- A run that ended by itself, in one line. -/
def shown : Ending → Text
  | .failed e => "<RunResult " ++ e.describe ++ ">"
  | _ => "<RunResult ok>"

end Ending

namespace Settings

/-- More rounds than a loop can take, and as many nested calls as there are when each is made directly by a statement of
the body of the one before: it takes nine of the host's ten thousand frames. A call inside an `if` takes three more, so
that there the host ends a recursion after about 830 calls, and this goes on. -/
def standard (tracing : Bool) : Settings := { tracing := tracing, depth := 1100, rounds := 0x4000000000000000 }

end Settings

namespace State

def start (w : World) : State :=
  { env := .ofGlobals w.globals, heap := w.heap, nextExit := 0, output := #[], trace := #[], log := #[] }

def world (s : State) : World := ⟨s.env.globals, s.heap⟩

def note (s : State) (event : Event) : State := { s with log := s.log.push event }

end State

/-- What an interrupt means at the top of a module. -/
def Interrupt.ending : Interrupt → Ending
  | .error e => .failed e
  | .unwritable cause => .unwritable cause
  | .breakLoop _ => .failed (.escaped .breakLoop)
  | .continueLoop _ => .failed (.escaped .continueLoop)
  | .returnCall .. => .failed (.escaped .returnCall)
  | .overflow => .failed .depthExceeded
  | .stalled => .stalled

/-- Executes a module from a state. -/
def runModule [Host] (settings : Settings) (body : List Stmt) (s : State) : Ending × State :=
  match Eval.moduleBody settings body s with
  | .ok _ s => (.finished, s)
  | .error i s => (i.ending, s)

/-- What it means for a run that the check of its program stops. -/
def Halt.ending : Halt → Ending
  | .refused e => .failed e
  | .overflow => .uncheckable

/-- Reads a program text and checks where its exits stand, with the frames that the host has left for that. -/
def readModule [Host] (file source : String) : Except Ending (List Stmt) :=
  match Grammar.parse? source with
  | some body => do
    (checkWithin Host.checkFrames file body).mapError Halt.ending
    return body
  | none => .error (.failed (.unreadable file))

/-- Notes how a run ended, if it ended by itself. -/
def noteEnding (file : String) : Ending × State → Ending × State
  | (.finished, s) => (.finished, s.note (.finished file))
  | (.failed e, s) => (.failed e, s.note (.aborted file e.describe))
  | result => result

/-- Runs a program text. -/
def run [Host] (settings : Settings) (file source : String) (w : World) : Ending × State :=
  let s := (State.start w).note (.evaluating file)
  if source.contains '\x00' then (.nullCharacter, s)
  else
    noteEnding file <|
      match readModule file source with
      | .error ending => (ending, s)
      | .ok body => runModule settings body s

/-! ## What a caller hands over -/

/-- What a caller gives as the global names of a run. -/
inductive Given where
  | nothing
  | names (globals : Bindings Value)
  | other

/-- A call that is wrong whatever the program is. -/
inductive Misuse where
  | notNames
deriving Repr, DecidableEq

namespace Misuse

def label : Misuse → String
  | .notNames => "TypeError"

def message : Misuse → String
  | .notNames => "env must be dict or None"

end Misuse

/-- Where the run starts; without global names there are none. -/
def Given.world (heap : Heap) : Given → Except Misuse World
  | .nothing => .ok ⟨.empty, heap⟩
  | .names globals => .ok ⟨globals, heap⟩
  | .other => .error .notNames

/-- Runs a program text over what a caller gives. Anything but names is refused before the text is read. -/
def runGiven [Host] (settings : Settings) (file source : String) (given : Given) (heap : Heap) :
    Except Misuse (Ending × State) := do
  return run settings file source (← given.world heap)

/-- The name of a program that has none. -/
def unnamedFile : String := "<minipy>"

/-- Everything that was printed. -/
def State.stdout (s : State) : Text := .join (s.output.toList.map fun line => line ++ "\n")

end Treewalk
