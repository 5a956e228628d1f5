/-
Programs whose exits stand where they may: `Accepted` is the verdict of the check without the file name that only its
reports mention, and the lemmas here take it apart statement by statement.
-/
import Treewalk.Syntax.Placement

namespace Treewalk

/-! ## The verdict -/

theorem check_seq_ok {ε : Type} {x y : Except ε Unit} :
    (do x; y : Except ε Unit) = .ok () ↔ x = .ok () ∧ y = .ok () := by
  cases x with
  | error e => exact ⟨fun h => (by cases h), fun h => (by cases h.1)⟩
  | ok _ => exact ⟨fun h => ⟨rfl, h⟩, fun h => h.2⟩

theorem requireExit_ok {met : Bool} {exit : Exit} {file : String} {line : Option Int} :
    requireExit met exit file line = .ok () ↔ met = true := by
  cases met with
  | false => exact ⟨fun h => (by cases h), fun h => (by cases h)⟩
  | true => exact ⟨fun _ => rfl, fun _ => rfl⟩

/-- A statement whose exits stand where they may. -/
def AcceptedStmt (s : Surroundings) (st : Stmt) : Prop := ∀ file, checkStmt file s st = .ok ()

/-- Statements whose exits stand where they may. -/
def Accepted (s : Surroundings) (body : List Stmt) : Prop := ∀ file, checkBlock file s body = .ok ()

mutual

theorem checkStmt_anyFile {file : String} (file' : String) :
    ∀ {s : Surroundings} {st : Stmt}, checkStmt file s st = .ok () → checkStmt file' s st = .ok ()
  | s, .breakStmt line, h | s, .continueStmt line, h | s, .returnStmt line _, h => by
    simp only [checkStmt, requireExit_ok] at h ⊢; exact h
  | s, .functionDef .., h | s, .classDef .., h | s, .withStmt .., h => by
    simp only [checkStmt] at h ⊢; exact checkBlock_anyFile file' h
  | s, .whileStmt .., h | s, .ifStmt .., h | s, .forStmt false .., h | s, .forStmt true .., h => by
    simp only [checkStmt, check_seq_ok] at h ⊢
    exact ⟨checkBlock_anyFile file' h.1, checkBlock_anyFile file' h.2⟩
  | s, .tryStmt .., h => by
    simp only [checkStmt, check_seq_ok] at h ⊢
    obtain ⟨h1, h2, h3, h4⟩ := h
    exact ⟨checkBlock_anyFile file' h1, checkHandlers_anyFile file' h2, checkBlock_anyFile file' h3,
      checkBlock_anyFile file' h4⟩
  | s, .matchStmt .., h => by
    simp only [checkStmt] at h ⊢; exact checkCases_anyFile file' h
  | s, .expr .., _ | s, .pass, _ | s, .assert .., _ | s, .assign .., _ | s, .augAssign .., _ | s, .annAssign .., _
  | s, .delete .., _ | s, .raise .., _ | s, .importNames .., _ | s, .importFrom .., _ | s, .globalNames .., _
  | s, .nonlocalNames .., _ => by simp only [checkStmt]

theorem checkBlock_anyFile {file : String} (file' : String) :
    ∀ {s : Surroundings} {body : List Stmt}, checkBlock file s body = .ok () → checkBlock file' s body = .ok ()
  | s, [], _ => by simp only [checkBlock]
  | s, st :: rest, h => by
    simp only [checkBlock, check_seq_ok] at h ⊢
    exact ⟨checkStmt_anyFile file' h.1, checkBlock_anyFile file' h.2⟩

theorem checkHandlers_anyFile {file : String} (file' : String) :
    ∀ {s : Surroundings} {hs : List Handler}, checkHandlers file s hs = .ok () → checkHandlers file' s hs = .ok ()
  | s, [], _ => by simp only [checkHandlers]
  | s, .mk _ _ _ :: rest, h => by
    simp only [checkHandlers, checkHandler, check_seq_ok] at h ⊢
    exact ⟨checkBlock_anyFile file' h.1, checkHandlers_anyFile file' h.2⟩

theorem checkCases_anyFile {file : String} (file' : String) :
    ∀ {s : Surroundings} {cs : List Case}, checkCases file s cs = .ok () → checkCases file' s cs = .ok ()
  | s, [], _ => by simp only [checkCases]
  | s, .mk _ _ _ :: rest, h => by
    simp only [checkCases, checkCase, check_seq_ok] at h ⊢
    exact ⟨checkBlock_anyFile file' h.1, checkCases_anyFile file' h.2⟩

end

/-- The verdict does not depend on the file name. -/
theorem accepted_iff {file : String} {s : Surroundings} {body : List Stmt} :
    Accepted s body ↔ checkBlock file s body = .ok () :=
  ⟨fun h => h file, fun h file' => checkBlock_anyFile file' h⟩

/-! ## Its parts -/

theorem accepted_cons {s : Surroundings} {st : Stmt} {rest : List Stmt} :
    Accepted s (st :: rest) ↔ AcceptedStmt s st ∧ Accepted s rest := by
  simp only [Accepted, AcceptedStmt, checkBlock, check_seq_ok]
  exact forall_and

namespace AcceptedStmt

variable {s : Surroundings} {body orelse : List Stmt}

theorem inLoop_break {line : Option Int} (h : AcceptedStmt s (.breakStmt line)) : s.inLoop = true := by
  have := h ""
  rwa [checkStmt, requireExit_ok] at this

theorem inLoop_continue {line : Option Int} (h : AcceptedStmt s (.continueStmt line)) : s.inLoop = true := by
  have := h ""
  rwa [checkStmt, requireExit_ok] at this

theorem inFunction_return {line : Option Int} {value : Option Expr} (h : AcceptedStmt s (.returnStmt line value)) :
    s.inFunction = true := by
  have := h ""
  rwa [checkStmt, requireExit_ok] at this

theorem branches {test : Expr} (h : AcceptedStmt s (.ifStmt test body orelse)) :
    Accepted s body ∧ Accepted s orelse := by
  simp only [AcceptedStmt, checkStmt, check_seq_ok] at h
  exact forall_and.1 h

theorem loopBlocks {test : Expr} (h : AcceptedStmt s (.whileStmt test body orelse)) :
    Accepted s.loopBody body ∧ Accepted s.loopBody orelse := by
  simp only [AcceptedStmt, checkStmt, check_seq_ok] at h
  exact forall_and.1 h

theorem functionBody {isAsync : Bool} {name : String} {params : Params} {decorators : List Expr} {returns : Option Expr}
    (h : AcceptedStmt s (.functionDef isAsync name params body decorators returns)) :
    Accepted .functionBody body := by
  simp only [AcceptedStmt, checkStmt] at h
  exact h

theorem classBody {name : String} {bases decorators : List Expr} {keywords : List Keyword}
    (h : AcceptedStmt s (.classDef name bases keywords body decorators)) : Accepted .outermost body := by
  simp only [AcceptedStmt, checkStmt] at h
  exact h

end AcceptedStmt

end Treewalk
