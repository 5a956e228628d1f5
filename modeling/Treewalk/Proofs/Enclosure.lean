/-
What the check of exits decides, said without the check. Every statement of a program stands at a spot: inside a list of
blocks, from the innermost one outwards. Whether an exit may stand there is read off that list, by the first block on
the way out that matters to it; and the check reports the first exit, in the order of the text, that may not stand where
it stands. A program that is refused is not executed, and execution itself never refuses a text.
-/
import Treewalk.Proofs.Soundness
import Treewalk.Proofs.Visits

namespace Treewalk

/-! ## Spots -/

/-- What a block is to the exits inside it. A loop has the body and the `else` block of a `while` and the body of a
`for`; blocks of all other statements, with the `else` block of a `for` and both blocks of an asynchronous one, are
plain. -/
inductive Enclosure where
  | function | cls | loop | plain
deriving Repr, DecidableEq

/-- A statement and the blocks around it, from the innermost. The module is around all of them and is not listed. -/
structure Spot where
  stmt : Stmt
  around : List Enclosure

mutual

/-- The spots inside a statement, in the order of the text. -/
def innerSpots (around : List Enclosure) : Stmt → List Spot
  | .functionDef _ _ _ body _ _ => blockSpots (.function :: around) body
  | .classDef _ _ _ body _ => blockSpots (.cls :: around) body
  | .whileStmt _ body orelse => blockSpots (.loop :: around) body ++ blockSpots (.loop :: around) orelse
  | .forStmt false _ _ body orelse => blockSpots (.loop :: around) body ++ blockSpots (.plain :: around) orelse
  | .forStmt true _ _ body orelse => blockSpots (.plain :: around) body ++ blockSpots (.plain :: around) orelse
  | .ifStmt _ body orelse => blockSpots (.plain :: around) body ++ blockSpots (.plain :: around) orelse
  | .withStmt _ _ body => blockSpots (.plain :: around) body
  | .tryStmt _ body handlers orelse final =>
    blockSpots (.plain :: around) body ++ (handlerSpots (.plain :: around) handlers ++
      (blockSpots (.plain :: around) orelse ++ blockSpots (.plain :: around) final))
  | .matchStmt _ cases => caseSpots (.plain :: around) cases
  | _ => []

/-- The spots of a block: each statement comes before those inside it. -/
def blockSpots (around : List Enclosure) : List Stmt → List Spot
  | [] => []
  | st :: rest => ⟨st, around⟩ :: (innerSpots around st ++ blockSpots around rest)

def handlerSpots (around : List Enclosure) : List Handler → List Spot
  | [] => []
  | .mk _ _ body :: rest => blockSpots around body ++ handlerSpots around rest

def caseSpots (around : List Enclosure) : List Case → List Spot
  | [] => []
  | .mk _ _ body :: rest => blockSpots around body ++ caseSpots around rest

end

/-- The exit that a statement is, and its line. -/
def Stmt.exit? : Stmt → Option (Exit × Option Int)
  | .breakStmt line => some (.breakLoop, line)
  | .continueStmt line => some (.continueLoop, line)
  | .returnStmt line _ => some (.returnCall, line)
  | _ => none

/-- Whether an exit may stand inside these blocks. On the way out, an exit of a loop meets a loop before any function or
class, and a `return` meets a function before any class. -/
def Exit.MayStand (around : List Enclosure) : Exit → Prop
  | .breakLoop | .continueLoop => around.find? (· ≠ .plain) = some .loop
  | .returnCall => around.find? (fun e => e = .function ∨ e = .cls) = some .function

instance (around : List Enclosure) : (exit : Exit) → Decidable (exit.MayStand around)
  | .breakLoop | .continueLoop => inferInstanceAs (Decidable (around.find? (· ≠ .plain) = some .loop))
  | .returnCall => inferInstanceAs (Decidable (around.find? (fun e => e = .function ∨ e = .cls) = some .function))

/-- A statement that is no misplaced exit. -/
def Spot.Placed (spot : Spot) : Prop :=
  ∀ exit line, spot.stmt.exit? = some (exit, line) → exit.MayStand spot.around

/-! ## The check along the spots -/

/-- What exits may rely on inside these blocks. -/
def Surroundings.inside (around : List Enclosure) : Surroundings where
  inLoop := decide (around.find? (· ≠ .plain) = some .loop)
  inFunction := decide (around.find? (fun e => e = .function ∨ e = .cls) = some .function)

namespace Surroundings

variable (around : List Enclosure)

theorem inside_nil : inside [] = outermost := rfl

theorem inside_function : inside (.function :: around) = functionBody := rfl

theorem inside_cls : inside (.cls :: around) = outermost := rfl

theorem inside_loop : inside (.loop :: around) = (inside around).loopBody := rfl

theorem inside_plain : inside (.plain :: around) = inside around := rfl

end Surroundings

def checkSpot (file : String) (spot : Spot) : Except EvalError Unit :=
  match spot.stmt.exit? with
  | some (exit, line) => requireExit (decide (exit.MayStand spot.around)) exit file line
  | none => .ok ()

/-- Looks at spots one after the other, up to the first misplaced exit. -/
def checkSpots (file : String) : List Spot → Except EvalError Unit
  | [] => .ok ()
  | spot :: rest => do
    checkSpot file spot
    checkSpots file rest

theorem check_done {ε : Type} (x : Except ε Unit) : (do x; .ok () : Except ε Unit) = x := by
  cases x <;> rfl

theorem checkSpots_append (file : String) (xs ys : List Spot) :
    checkSpots file (xs ++ ys) = (do checkSpots file xs; checkSpots file ys) := by
  induction xs with
  | nil => rfl
  | cons spot rest ih =>
    rw [List.cons_append, checkSpots, checkSpots, ih]
    cases checkSpot file spot <;> rfl

theorem checkSpot_other {file : String} {around : List Enclosure} {st : Stmt} (h : st.exit? = none)
    (x : Except EvalError Unit) : (do checkSpot file ⟨st, around⟩; x) = x := by
  have hspot : checkSpot file ⟨st, around⟩ = .ok () := by rw [checkSpot, h]
  rw [hspot]
  rfl

-- The recursion follows the check; each block is entered with the list of blocks that its surroundings stand for.
mutual

theorem checkStmt_eq (file : String) (around : List Enclosure) : ∀ st : Stmt,
    checkStmt file (.inside around) st = (do checkSpot file ⟨st, around⟩; checkSpots file (innerSpots around st))
  | .breakStmt line | .continueStmt line | .returnStmt line _ => by
    simp only [checkStmt, innerSpots, checkSpots]
    exact (check_done _).symm
  | .functionDef _ _ _ body _ _ => by
    rw [checkSpot_other rfl, checkStmt, innerSpots, ← Surroundings.inside_function around]
    exact checkBlock_eq file (.function :: around) body
  | .classDef _ _ _ body _ => by
    rw [checkSpot_other rfl, checkStmt, innerSpots, ← Surroundings.inside_cls around]
    exact checkBlock_eq file (.cls :: around) body
  | .whileStmt _ body orelse => by
    rw [checkSpot_other rfl, checkStmt, innerSpots, checkSpots_append, ← Surroundings.inside_loop,
      checkBlock_eq file (.loop :: around), checkBlock_eq file (.loop :: around)]
  | .forStmt false _ _ body orelse => by
    rw [checkSpot_other rfl, checkStmt, innerSpots, checkSpots_append, ← Surroundings.inside_loop,
      checkBlock_eq file (.loop :: around), ← checkBlock_eq file (.plain :: around), Surroundings.inside_plain]
  | .forStmt true _ _ body orelse | .ifStmt _ body orelse => by
    rw [checkSpot_other rfl, checkStmt, innerSpots, checkSpots_append, ← checkBlock_eq file (.plain :: around),
      ← checkBlock_eq file (.plain :: around), Surroundings.inside_plain]
  | .withStmt _ _ body => by
    rw [checkSpot_other rfl, checkStmt, innerSpots, ← Surroundings.inside_plain around]
    exact checkBlock_eq file (.plain :: around) body
  | .tryStmt _ body handlers orelse final => by
    rw [checkSpot_other rfl, checkStmt, innerSpots, checkSpots_append, checkSpots_append, checkSpots_append,
      ← checkBlock_eq file (.plain :: around), ← checkHandlers_eq file (.plain :: around),
      ← checkBlock_eq file (.plain :: around), ← checkBlock_eq file (.plain :: around), Surroundings.inside_plain]
  | .matchStmt _ cases => by
    rw [checkSpot_other rfl, checkStmt, innerSpots, ← Surroundings.inside_plain around]
    exact checkCases_eq file (.plain :: around) cases
  | .expr .. | .pass | .assert .. | .assign .. | .augAssign .. | .annAssign .. | .delete .. | .raise ..
  | .importNames .. | .importFrom .. | .globalNames .. | .nonlocalNames .. => by
    simp only [checkStmt, innerSpots, checkSpots]
    rfl

theorem checkBlock_eq (file : String) (around : List Enclosure) : ∀ body : List Stmt,
    checkBlock file (.inside around) body = checkSpots file (blockSpots around body)
  | [] => by simp only [checkBlock, blockSpots, checkSpots]
  | st :: rest => by
    simp only [checkBlock, blockSpots, checkSpots, checkSpots_append, checkStmt_eq file around st,
      checkBlock_eq file around rest]
    cases checkSpot file ⟨st, around⟩ <;> rfl

theorem checkHandlers_eq (file : String) (around : List Enclosure) : ∀ handlers : List Handler,
    checkHandlers file (.inside around) handlers = checkSpots file (handlerSpots around handlers)
  | [] => by simp only [checkHandlers, handlerSpots, checkSpots]
  | .mk _ _ body :: rest => by
    simp only [checkHandlers, checkHandler, handlerSpots, checkSpots_append, checkBlock_eq file around body,
      checkHandlers_eq file around rest]

theorem checkCases_eq (file : String) (around : List Enclosure) : ∀ cases : List Case,
    checkCases file (.inside around) cases = checkSpots file (caseSpots around cases)
  | [] => by simp only [checkCases, caseSpots, checkSpots]
  | .mk _ _ body :: rest => by
    simp only [checkCases, checkCase, caseSpots, checkSpots_append, checkBlock_eq file around body,
      checkCases_eq file around rest]

end

theorem checkModule_eq (file : String) (body : List Stmt) :
    checkModule file body = checkSpots file (blockSpots [] body) := by
  rw [checkModule, ← Surroundings.inside_nil]
  exact checkBlock_eq file [] body

/-! ## Its verdict -/

/-- A spot is refused exactly if it holds an exit that may not stand there, and then for that exit. -/
theorem checkSpot_error {file : String} {spot : Spot} {e : EvalError} :
    checkSpot file spot = .error e ↔ ∃ exit line, spot.stmt.exit? = some (exit, line) ∧
      ¬ exit.MayStand spot.around ∧ e = .misplaced exit file line := by
  unfold checkSpot
  cases hexit : spot.stmt.exit? with
  | none =>
    constructor
    · nofun
    · rintro ⟨exit, line, h, -⟩
      cases h
  | some found =>
    obtain ⟨exit, line⟩ := found
    simp only [requireExit]
    constructor
    · intro h
      split at h
      · cases h
      · rename_i hmet
        cases h
        exact ⟨exit, line, rfl, by simpa using hmet, rfl⟩
    · rintro ⟨exit', line', h, hmet, rfl⟩
      cases h
      rw [if_neg (by simpa using hmet)]

theorem checkSpot_ok {file : String} {spot : Spot} : checkSpot file spot = .ok () ↔ spot.Placed := by
  constructor
  · intro h exit line hexit
    refine Decidable.byContradiction fun hmet => ?_
    have herror : checkSpot file spot = .error (.misplaced exit file line) :=
      checkSpot_error.2 ⟨exit, line, hexit, hmet, rfl⟩
    rw [h] at herror
    cases herror
  · intro h
    cases hc : checkSpot file spot with
    | ok _ => rfl
    | error e =>
      obtain ⟨exit, line, hexit, hmet, -⟩ := checkSpot_error.1 hc
      exact absurd (h exit line hexit) hmet

theorem checkSpots_ok {file : String} {spots : List Spot} :
    checkSpots file spots = .ok () ↔ ∀ spot ∈ spots, spot.Placed := by
  induction spots with
  | nil => simp [checkSpots]
  | cons spot rest ih =>
    rw [checkSpots, check_seq_ok, checkSpot_ok, ih, List.forall_mem_cons]

/-- The error is that of the first misplaced exit. -/
theorem checkSpots_error {file : String} {spots : List Spot} {e : EvalError} :
    checkSpots file spots = .error e ↔ ∃ before spot after, spots = before ++ spot :: after ∧
      (∀ earlier ∈ before, earlier.Placed) ∧ checkSpot file spot = .error e := by
  constructor
  · intro h
    induction spots with
    | nil => cases h
    | cons spot rest ih =>
      rw [checkSpots] at h
      cases hc : checkSpot file spot with
      | error e' =>
        rw [hc] at h
        cases h
        exact ⟨[], spot, rest, rfl, nofun, hc⟩
      | ok _ =>
        rw [hc] at h
        obtain ⟨before, found, after, rfl, hbefore, hfound⟩ := ih h
        exact ⟨spot :: before, found, after, rfl, List.forall_mem_cons.2 ⟨checkSpot_ok.1 hc, hbefore⟩, hfound⟩
  · rintro ⟨before, spot, after, rfl, hbefore, hspot⟩
    rw [checkSpots_append, checkSpots_ok.2 hbefore, checkSpots, hspot]
    rfl

theorem checkModule_error {file : String} {body : List Stmt} {e : EvalError} :
    checkModule file body = .error e ↔ ∃ before spot after, blockSpots [] body = before ++ spot :: after ∧
      (∀ earlier ∈ before, earlier.Placed) ∧ checkSpot file spot = .error e := by
  rw [checkModule_eq]
  exact checkSpots_error

/-! ## Refused programs -/

/-- A program that cannot be read or is refused is not executed. -/
theorem run_refused [Host] (settings : Settings) {file source : String} {ending : Ending} (w : World)
    (hnull : source.contains '\x00' = false) (hread : readModule file source = .error ending) :
    run settings file source w = noteEnding file (ending, (State.start w).note (.evaluating file)) := by
  unfold run
  rw [hnull, hread]
  rfl

namespace Eval

/-- Any values are fine, and operations on them fail with errors of the execution. -/
def executionErrors : Standard where
  fits _ := True
  admits e := e.kind ≠ .parse ∧ ∀ exit, e ≠ .escaped exit
  scalar _ := trivial
  tuple := trivial
  cls := trivial
  object := trivial
  ordinary h := ⟨h.2, fun _ he => h.1 (he ▸ rfl)⟩
  foreign _ := ⟨nofun, nofun⟩
  unclassed _ _ := ⟨nofun, nofun⟩
  unescaped h := h.2 _ rfl

theorem good_executionErrors (v : Value) : executionErrors.Good (fun _ => True) v :=
  Value.within_trivial (fun _ => trivial) (fun _ => trivial) v

/-- From every state, a step that fails does not refuse the text of the program. -/
def executing : Contract where
  pre _ := True
  ok _ _ := True
  bad _ i _ := ∀ e, i = .error e → e.kind ≠ .parse
  refl _ := trivial
  keep _ _ := trivial
  trans _ _ := trivial
  early _ h := h

section

variable {α : Type} {V : α → Prop}

theorem executing_throw {i : Interrupt} (h : ∀ e, i = .error e → e.kind ≠ .parse) :
    executing.Met V (throw i : Eval α) :=
  .throw fun _ _ => h

theorem executing_ofExcept {W : α → Prop} {x : Except EvalError α} (h : Yields executionErrors.admits W x)
    (hV : ∀ a, V a) : executing.Met V (ofExcept x) := by
  refine .ofExcept (h.mono (fun _ he => he) fun a _ => hV a) ?_
  rintro e he s - e' ⟨⟩
  exact he.1

theorem executing_ofFailure {W : α → Prop} {x : Except Failure α} (h : Yields executionErrors.AdmitsFailure W x)
    (hV : ∀ a, V a) : executing.Met V (ofFailure x) := by
  refine .ofFailure (h.mono (fun _ he => he) fun a _ => hV a) ?_ fun _ _ _ _ => nofun
  rintro e he s - e' ⟨⟩
  exact he.1

/-- A handler that catches an interrupt or passes it on brings no error of its own. -/
theorem executing_handle {x : Eval α} {handler : Interrupt → Eval α} (h : executing.Met (fun _ => True) x)
    (hhandler : ∀ i, (∃ a, ∀ s, handler i s = .ok a s) ∨ ∀ s, handler i s = .error i s) :
    executing.Met (fun _ => True) (handle x handler) := by
  intro s hs
  cases hx : x s with
  | ok a s' =>
    rw [handle_ok hx]
    exact ⟨trivial, trivial⟩
  | error i s' =>
    rw [handle_error hx]
    rcases hhandler i with ⟨a, hi⟩ | hi
    · rw [hi]
      exact ⟨trivial, trivial⟩
    · rw [hi]
      exact h.of_error hs hx

end

theorem executing_findMethod (name : String) (v : Value) : executing.Met (fun _ => True) (findMethod name v) := by
  refine .findMethod (P := executionErrors.admits) (fun s _ => ?_) ⟨nofun, nofun⟩ ?_
  · exact (executionErrors.getClassAttr (good_executionErrors v)).mono (fun _ he => he) fun _ _ _ _ => trivial
  · rintro e he s - e' ⟨⟩
    exact he.1

theorem executing_setAttr (name : String) (v target : Value) :
    executing.Met (fun _ => True) (setAttr name v target) := by
  refine .setAttr (P := executionErrors.admits) (H := fun _ => True) (fun s _ => ?_) ?_ fun _ _ _ _ => trivial
  · exact (executionErrors.setAttr (good_executionErrors target)).mono (fun _ he => he) fun _ _ => trivial
  · rintro e he s - e' ⟨⟩
    exact he.1

theorem executing_breakOut : executing.Met (fun _ => True) breakOut := by
  intro s _
  rw [breakOut_apply]
  cases s.env.flow with
  | none => exact fun e he => (by cases he; nofun)
  | some f => exact fun e he => (by cases he)

theorem executing_continueOn : executing.Met (fun _ => True) continueOn := by
  intro s _
  rw [continueOn_apply]
  cases s.env.flow with
  | none => exact fun e he => (by cases he; nofun)
  | some f => exact fun e he => (by cases he)

theorem executing_returnWith (v : Value) : executing.Met (fun _ => True) (returnWith v) := by
  intro s _
  rw [returnWith_apply]
  cases s.env.returnTarget with
  | none => exact fun e he => (by cases he; nofun)
  | some target => exact fun e he => (by cases he)

theorem executing_loop {test : Eval Bool} {body orelse : Eval Unit} (limit : Nat)
    (h : executing.Met (fun _ => True) (turn test body orelse)) :
    executing.Met (fun _ => True) (loop limit test body orelse) := by
  have hround : ∀ b, executing.Met (fun _ => True) (round b test body orelse) := by
    intro b s hs
    rw [round_apply]
    exact executing_handle h (catchExit_cases b _) (roundState b s) hs
  refine .loop (L := executing) (fun b => .rounds (fun _ _ _ he => (by cases he)) (hround b) limit) ?_ ?_ ?_
  · exact fun _ _ => trivial
  · exact fun _ _ _ _ => trivial
  · exact fun _ _ _ _ hbad => hbad

theorem executing_defineClass {name : String} {body : Eval Unit} (h : executing.Met (fun _ => True) body) :
    executing.Met (fun _ => True) (defineClass name body) := by
  intro s hs
  rw [defineClass_apply]
  refine Contract.Met.bind h (fun _ _ => ?_) { s with env := s.env.pushFrame } hs
  intro t _
  by_cases hframes : t.env.frames = []
  · rw [finishClass_global name hframes]
    exact fun e he => (by cases he; nofun)
  · rw [finishClass_apply name hframes]
    exact ⟨trivial, trivial⟩

theorem executing_runFunction {name : String} {params : List String} {args : List Value} {body : Eval Unit}
    (h : executing.Met (fun _ => True) body) : executing.Met (fun _ => True) (runFunction name params args body) := by
  intro s hs
  rw [runFunction_apply]
  have hcatch : ∀ target i, (∃ v, ∀ t, catchReturn target i t = .ok v t) ∨ ∀ t, catchReturn target i t = .error i t :=
    fun target i => (catchReturn_cases target i).imp_left fun ⟨v, _, hc⟩ => ⟨v, hc⟩
  have hreturns : executing.Met (fun _ => True) (do body; return Value.none : Eval Value) :=
    .bind h fun _ _ => .pure trivial
  have hcaught := executing_handle hreturns (hcatch ⟨"return from " ++ name, s.nextExit⟩)
  cases hr : handle (do body; return Value.none) (catchReturn ⟨"return from " ++ name, s.nextExit⟩)
      (callState name params args s) with
  | ok v s' =>
    rw [afterwards_ok hr]
    exact ⟨trivial, trivial⟩
  | error i s' =>
    rw [afterwards_error hr]
    exact hcaught.of_error (s := callState name params args s) trivial hr

/-- No step of evaluation refuses the text of the program, of any program and on any values. -/
def execution [Host] (settings settings' : Settings) : Discipline settings settings' where
  checked := False
  Good _ := True
  Rel _ V x _ := executing.Met V x
  ret := .pure
  seq := .bind
  ofCall h := h
  ofExpression h := h
  literal _ := trivial
  tuple _ := trivial
  function _ := trivial
  accepted _ := accepted_unchecked
  failing h := executing_throw fun _ he => (by cases he; exact h.2)
  unwritable _ := executing_throw fun _ h => (by cases h)
  overflow := executing_throw fun _ h => (by cases h)
  truth _ := executing_ofExcept (executionErrors.truth trivial) fun _ => trivial
  unary _ := executing_ofExcept (executionErrors.unary trivial) fun _ => trivial
  binary _ _ := executing_ofExcept (executionErrors.binary trivial trivial) fun _ => trivial
  compare _ _ :=
    executing_ofFailure (executionErrors.compare (good_executionErrors _) (good_executionErrors _)) fun _ => trivial
  text _ := executing_ofFailure (executionErrors.text (good_executionErrors _)) fun _ => trivial
  print _ := .modifyGet fun _ _ => ⟨trivial, trivial⟩
  getAttr _ := .get fun _ _ =>
    executing_ofExcept (executionErrors.getAttr (good_executionErrors _)) fun _ _ _ => trivial
  findMethod _ := executing_findMethod _ _
  setAttr _ _ := executing_setAttr _ _ _
  newObject _ := .modifyGet fun _ _ => ⟨trivial, trivial⟩
  runFunction _ h := executing_runFunction h
  lookup _ := .get fun _ _ => executing_ofExcept (executionErrors.lookup _ _) fun _ => trivial
  update _ := .modifyGet fun _ _ => ⟨trivial, trivial⟩
  announce _ _ := .announce (fun _ _ _ _ h => (by cases h)) fun _ _ _ => trivial
  breakOut _ := executing_breakOut
  continueOn _ := executing_continueOn
  returnWith _ _ := executing_returnWith _
  loop ht hb ho := executing_loop _ (.turn ht hb ho)
  defineClass h := executing_defineClass h

end Eval

theorem Interrupt.ending_parse {i : Interrupt} {e : EvalError} (h : ∀ e, i = .error e → e.kind ≠ .parse)
    (hend : i.ending = .failed e) : e.kind ≠ .parse := by
  cases i with
  | error e' =>
    cases hend
    exact h e rfl
  | breakLoop _ | continueLoop _ | returnCall _ _ | overflow =>
    cases hend
    nofun
  | unwritable _ | stalled => cases hend

/-- Execution refuses no text, whatever is executed and from whatever state. -/
theorem runModule_ne_parse [Host] (settings : Settings) (body : List Stmt) (s : State) {e : EvalError}
    (h : (runModule settings body s).1 = .failed e) : e.kind ≠ .parse := by
  let D := Eval.execution settings settings
  have hmet : Eval.executing.Met (fun _ => True) (Eval.moduleBody settings body) :=
    D.block (D.invoke settings.depth) .outermost body False.elim
  unfold runModule at h
  cases hr : Eval.moduleBody settings body s with
  | ok a s' =>
    rw [hr] at h
    cases h
  | error i s' =>
    rw [hr] at h
    exact Interrupt.ending_parse (hmet.of_error trivial hr) h

/-- The check accepts exactly the programs in which every exit may stand where it stands. If it refuses one, then for
the first exit in the order of the text that may not, with the message of that exit, the file and the line. Running a
refused text ends with that error and leaves the names, the heap, the output and the trace as they were; and no error of
this kind arises once execution has started. Only a host with fewer frames than the tree takes may, instead of the refusal,
end without a verdict. -/
theorem checkModule_exits [Host] (settings : Settings) (file : String) (body : List Stmt) :
    (checkModule file body = .ok () ↔ ∀ spot ∈ blockSpots [] body, spot.Placed) ∧
      (∀ e, checkModule file body = .error e ↔ ∃ before spot after exit line,
        blockSpots [] body = before ++ spot :: after ∧ (∀ earlier ∈ before, earlier.Placed) ∧
        spot.stmt.exit? = some (exit, line) ∧ ¬ exit.MayStand spot.around ∧ e = .misplaced exit file line ∧
        e.message = exit.misplacement ++ " " ++ EvalError.place file line) ∧
      (∀ source e w, source.contains '\x00' = false → Grammar.parse? source = some body →
        checkModule file body = .error e →
        ((run settings file source w).1 = .failed e ∨
          (run settings file source w).1 = .uncheckable ∧ Host.checkFrames < moduleFrames body) ∧ e.kind = .parse ∧
          (run settings file source w).2 = { State.start w with log := (run settings file source w).2.log }) ∧
      ∀ s e, (runModule settings body s).1 = .failed e → e.kind ≠ .parse := by
  refine ⟨?_, fun e => checkModule_error.trans ⟨?_, ?_⟩, fun source e w hnull hparse hcheck => ?_, fun s e => ?_⟩
  · rw [checkModule_eq]
    exact checkSpots_ok
  · rintro ⟨before, spot, after, hspots, hbefore, hspot⟩
    obtain ⟨exit, line, hexit, hmet, rfl⟩ := checkSpot_error.1 hspot
    exact ⟨before, spot, after, exit, line, hspots, hbefore, hexit, hmet, rfl, rfl⟩
  · rintro ⟨before, spot, after, exit, line, hspots, hbefore, hexit, hmet, he, -⟩
    exact ⟨before, spot, after, hspots, hbefore, checkSpot_error.2 ⟨exit, line, hexit, hmet, he⟩⟩
  · obtain ⟨before, spot, after, -, -, hspot⟩ := checkModule_error.1 hcheck
    obtain ⟨exit, line, -, -, rfl⟩ := checkSpot_error.1 hspot
    rcases readModule_of_parse file hparse with hread | ⟨hread, hframes⟩
    · rw [hcheck] at hread
      rw [run_refused settings w hnull hread]
      exact ⟨.inl rfl, rfl, rfl⟩
    · rw [run_refused settings w hnull hread]
      exact ⟨.inr ⟨rfl, hframes⟩, rfl, rfl⟩
  · exact runModule_ne_parse settings body s

section

attribute [local instance] Host.standard

/-- The loop around the function does not help the first exit; the second one is misplaced as well. -/
def misplacedSource : String := "while t:\n  def g():\n    if t: break\nbreak"

def misplacedModule : List Stmt := (Grammar.parse? misplacedSource).getD []

theorem parse_misplacedSource : Grammar.parse? misplacedSource = some misplacedModule := by
  have hsome : (Grammar.parse? misplacedSource).isSome = true := by decide +kernel
  unfold misplacedModule
  cases hparse : Grammar.parse? misplacedSource with
  | none =>
    rw [hparse] at hsome
    cases hsome
  | some body => rfl

/-- The sample text is refused for the exit on its third line, and running it over the sample world changes nothing. -/
theorem checkModule_exits_sample :
    checkModule unnamedFile misplacedModule = .error (.misplaced .breakLoop unnamedFile (some 3)) ∧
      (run (.standard true) unnamedFile misplacedSource sampleWorld).1 =
        .failed (.misplaced .breakLoop unnamedFile (some 3)) ∧
      (run (.standard true) unnamedFile misplacedSource sampleWorld).2.world = sampleWorld := by
  have hcheck : checkModule unnamedFile misplacedModule = .error (.misplaced .breakLoop unnamedFile (some 3)) := by
    have hfound : (match checkModule unnamedFile misplacedModule with
        | .error e => some e
        | .ok _ => none) = some (.misplaced .breakLoop unnamedFile (some 3)) := by decide +kernel
    cases hc : checkModule unnamedFile misplacedModule with
    | ok _ =>
      rw [hc] at hfound
      cases hfound
    | error e =>
      rw [hc] at hfound
      rw [Option.some.inj hfound]
  have hnull : misplacedSource.contains '\x00' = false := by
    rw [String.contains_char_eq]
    decide +kernel
  have hframes : moduleFrames misplacedModule ≤ Host.checkFrames := by decide +kernel
  obtain ⟨-, -, hrun, -⟩ := checkModule_exits (.standard true) unnamedFile misplacedModule
  obtain ⟨hend, -, hstate⟩ := hrun misplacedSource _ sampleWorld hnull parse_misplacedSource hcheck
  refine ⟨hcheck, hend.resolve_right fun hdeep => absurd hdeep.2 (Nat.not_lt.2 hframes), ?_⟩
  rw [hstate]
  rfl

end

end Treewalk
