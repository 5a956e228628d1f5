/-
The check on a machine against the check of the tree. The exits among the visits of a tree are those that the check of the
tree looks at, in the same order and with the same surroundings; so with frames enough both give the same verdict, and
with too few the machine gives it too or comes to no verdict.
-/
import Treewalk.Proofs.Placement
import Treewalk.Run

namespace Treewalk

/-! ## The exits among the visits -/

/-- The check of the exits alone. -/
def checkExits (file : String) : List Visit → Except EvalError Unit
  | [] => .ok ()
  | .depth _ :: rest => checkExits file rest
  | .exit met exit line :: rest => do
    requireExit met exit file line
    checkExits file rest

theorem checkExits_append (file : String) : ∀ vs ws : List Visit,
    checkExits file (vs ++ ws) = do checkExits file vs; checkExits file ws
  | [], ws => rfl
  | .depth _ :: rest, ws => checkExits_append file rest ws
  | .exit met exit line :: rest, ws => by
    rw [List.cons_append, checkExits, checkExits, checkExits_append file rest ws]
    cases requireExit met exit file line <;> rfl

theorem checkExits_exitVisits (file : String) (below : Nat) (met : Bool) (exit : Exit) (line : Option Int) :
    checkExits file (exitVisits below met exit line) = requireExit met exit file line := by
  rw [exitVisits, checkExits, checkExits]
  cases requireExit met exit file line <;> rfl

-- By the recursion of the visits; the frames that are open below play no part in the exits.
mutual

theorem checkExits_stmtVisits (file : String) (below : Nat) (s : Surroundings) :
    ∀ st : Stmt, checkExits file (stmtVisits below s st) = checkStmt file s st
  | .breakStmt line | .continueStmt line => by
    simp only [stmtVisits, checkStmt]
    exact checkExits_exitVisits ..
  | .returnStmt line value => by
    simp only [stmtVisits, checkStmt, checkExits_append, checkExits_exitVisits, checkExits]
    cases requireExit s.inFunction .returnCall file line <;> rfl
  | .functionDef _ _ _ body _ _ | .classDef _ _ _ body _ | .withStmt _ _ body => by
    simp only [stmtVisits, checkStmt, checkExits]
    exact checkExits_blockVisits file _ _ body
  | .whileStmt _ body orelse | .ifStmt _ body orelse | .forStmt false _ _ body orelse
  | .forStmt true _ _ body orelse => by
    simp only [stmtVisits, checkStmt, checkExits, checkExits_append, checkExits_blockVisits file _ _ body,
      checkExits_blockVisits file _ _ orelse]
  | .tryStmt _ body handlers orelse final => by
    simp only [stmtVisits, checkStmt, checkExits, checkExits_append, checkExits_blockVisits file _ _ body,
      checkExits_handlersVisits file _ _ handlers, checkExits_blockVisits file _ _ orelse,
      checkExits_blockVisits file _ _ final, bind_assoc]
  | .matchStmt _ cases => by
    simp only [stmtVisits, checkStmt, checkExits]
    exact checkExits_casesVisits file _ _ cases
  | .expr .. | .pass | .assert .. | .assign .. | .augAssign .. | .annAssign .. | .delete .. | .raise ..
  | .importNames .. | .importFrom .. | .globalNames .. | .nonlocalNames .. => by
    simp only [stmtVisits, checkStmt, checkExits]

theorem checkExits_blockVisits (file : String) (below : Nat) (s : Surroundings) :
    ∀ body : List Stmt, checkExits file (blockVisits below s body) = checkBlock file s body
  | [] => by simp only [blockVisits, checkBlock, checkExits]
  | st :: rest => by
    simp only [blockVisits, checkBlock, checkExits_append, checkExits_stmtVisits file below s st,
      checkExits_blockVisits file below s rest]

theorem checkExits_handlersVisits (file : String) (below : Nat) (s : Surroundings) :
    ∀ hs : List Handler, checkExits file (handlersVisits below s hs) = checkHandlers file s hs
  | [] => by simp only [handlersVisits, checkHandlers, checkExits]
  | .mk _ _ body :: rest => by
    simp only [handlersVisits, handlerVisits, checkHandlers, checkHandler, List.cons_append, checkExits,
      checkExits_append, checkExits_blockVisits file _ s body, checkExits_handlersVisits file below s rest]

theorem checkExits_casesVisits (file : String) (below : Nat) (s : Surroundings) :
    ∀ cs : List Case, checkExits file (casesVisits below s cs) = checkCases file s cs
  | [] => by simp only [casesVisits, checkCases, checkExits]
  | .mk _ _ body :: rest => by
    simp only [casesVisits, caseVisits, checkCases, checkCase, List.cons_append, checkExits, checkExits_append,
      checkExits_blockVisits file _ s body, checkExits_casesVisits file below s rest]

end

/-! ## The verdict -/

/-- The frames run out, or the exits decide. -/
theorem checkVisits_cases (frames : Nat) (file : String) : ∀ vs : List Visit,
    checkVisits frames file vs = (checkExits file vs).mapError .refused ∨
      checkVisits frames file vs = .error .overflow ∧ frames < deepest vs
  | [] => .inl rfl
  | .depth n :: rest => by
    simp only [checkVisits, checkExits, deepest]
    by_cases hn : n ≤ frames
    · rw [if_pos hn]
      apply (checkVisits_cases frames file rest).imp_right
      rintro ⟨hoverflow, hdeep⟩
      exact ⟨hoverflow, by omega⟩
    · rw [if_neg hn]
      exact .inr ⟨rfl, by omega⟩
  | .exit met exit line :: rest => by
    simp only [checkVisits, checkExits, deepest]
    cases requireExit met exit file line with
    | error e => exact .inl rfl
    | ok _ => exact checkVisits_cases frames file rest

/-- A module is checked on a machine as its tree is, unless it takes more frames than there are. -/
theorem checkWithin_cases (frames : Nat) (file : String) (body : List Stmt) :
    checkWithin frames file body = (checkModule file body).mapError .refused ∨
      checkWithin frames file body = .error .overflow ∧ frames < moduleFrames body := by
  have hexits : checkExits file (moduleVisits body) = checkModule file body :=
    checkExits_blockVisits file 2 .outermost body
  rw [← hexits]
  exact checkVisits_cases frames file (moduleVisits body)

/-- A program text is read as its tree is checked, unless that takes more frames than the host has left for it. -/
theorem readModule_of_parse [Host] (file : String) {source : String} {body : List Stmt}
    (hparse : Grammar.parse? source = some body) :
    readModule file source = ((checkModule file body).mapError Ending.failed).map (fun _ => body) ∨
      readModule file source = .error .uncheckable ∧ Host.checkFrames < moduleFrames body := by
  unfold readModule
  rw [hparse]
  rcases checkWithin_cases Host.checkFrames file body with hverdict | ⟨hoverflow, hframes⟩
  · left
    simp only [hverdict]
    cases checkModule file body <;> rfl
  · right
    simp only [hoverflow]
    exact ⟨rfl, hframes⟩

end Treewalk
