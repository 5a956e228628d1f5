/-
Tracing does not change what a program does. As long as every statement that may be started has an outline that can be
written, a run with a trace and a run without one end alike and in the same state but for the trace, and the lines of
the trace are the outlines of the statements that the run without a trace starts, in order and one line for each start.
-/
import Treewalk.Proofs.Bookkeeping
import Treewalk.Proofs.Legible
import Treewalk.Proofs.Soundness

namespace Treewalk

/-- Statements that can be traced with all that is inside them. -/
def Norm.legible : Norm where
  Fine := Stmt.Legible
  inside h hmem n hn := h n (Stmt.shows_inside hn hmem)

theorem Norm.writable_legible : Norm.legible.Writable := fun _ h => Outline.text?_isSome.2 h

theorem runModule_muted [Host] {settings settings' : Settings} {body : List Stmt} {s : State}
    (h : Eval.muted (Eval.moduleBody settings' body s) = Eval.muted (Eval.moduleBody settings body s)) :
    (runModule settings' body s).1 = (runModule settings body s).1 ∧
      (runModule settings' body s).2.untraced = (runModule settings body s).2.untraced := by
  unfold runModule
  cases hr : Eval.moduleBody settings body s with
  | ok a s' =>
    rw [hr] at h
    obtain ⟨trace, hr'⟩ := Eval.muted_eq_ok h
    rw [hr']
    exact ⟨rfl, rfl⟩
  | error i s' =>
    rw [hr] at h
    obtain ⟨trace, hr'⟩ := Eval.muted_eq_error h
    rw [hr']
    exact ⟨rfl, rfl⟩

/-- Runs with and without a trace, over global names from which only functions can be reached that can be traced. The
endings agree, and so do the states but for the trace: without tracing it stays as it was, and with tracing it gains the
announcements of the statements that are started. -/
theorem runModule_tracing [Host] (settings : Settings) {body : List Stmt} (hbody : ∀ st ∈ body, st.Legible)
    (globals : Bindings Value) (s : State) (hglobals : ∀ st, World.Defines ⟨globals, s.heap⟩ st → st.Legible) :
    let start : State := { s with env := .ofGlobals globals }
    let traced := runModule { settings with tracing := true } body start
    let untraced := runModule { settings with tracing := false } body start
    untraced.1 = traced.1 ∧ untraced.2 = { traced.2 with trace := s.trace } ∧
      traced.2.trace.toList.map some = s.trace.toList.map some ++
        (started (journal { settings with tracing := false } body start)).map Stmt.announcement? := by
  intro start traced untraced
  let live := Live s.heap (World.Bound ⟨globals, s.heap⟩)
  let A : Audit := ⟨.legible, live, { settings with tracing := true }⟩
  let B : Audit := ⟨.legible, live, { settings with tracing := false }⟩
  have hstart : Norm.legible.Holds live start := .start s hglobals
  obtain ⟨hmuted, hstarted⟩ := (Audit.moduleBody (A := A) hbody start hstart).mirror Norm.writable_legible start.trace
  obtain ⟨hending, hstate⟩ := runModule_muted hmuted
  have htraced := (Audit.runModule_booked (A := A) hbody hstart).trace
  have huntraced := (Audit.runModule_booked (A := B) hbody hstart).trace
  have hkept : untraced.2.trace = s.trace := by
    rw [show announcements B.settings _ = [] from rfl, List.append_nil] at huntraced
    exact Array.toList_inj.1 (List.map_inj_right (fun _ _ => Option.some.inj) |>.1 huntraced)
  refine ⟨hending, ?_, ?_⟩
  · rw [← hkept]
    exact State.eq_of_untraced hstate
  · rw [show started (journal { settings with tracing := false } body start) = _ from hstarted]
    exact htraced

/-- A world with one global name, for the sample function. -/
def functionWorld : World := ⟨.ofList [("f", sampleFunction)], .empty⟩

theorem reachable_functionWorld {v : Value} (h : Reachable functionWorld.heap functionWorld.Bound v) :
    v = sampleFunction := by
  induction h with
  | root hbound =>
    obtain ⟨name, hv⟩ := hbound
    have hall : functionWorld.globals.All (· = sampleFunction) := .ofList fun entry he => by
      rw [List.mem_singleton.1 he]
    exact hall name _ hv
  | item _ _ ih => cases ih
  | type _ ih => cases ih
  | entry _ hown _ ih =>
    rw [ih] at hown
    cases hown

/-- Calls the sample function, which starts a loop and returns out of it. -/
def callingModule : List Stmt := [.expr (.call (.name "f" .load) [.constant (.int 1) none] [])]

section

attribute [local instance] Host.standard

/-- Calling the sample function starts the call, the loop in the function and the return in the loop, and that is what
the trace shows. -/
theorem runModule_tracing_sample :
    (∀ st ∈ callingModule, st.Legible) ∧ (∀ st, functionWorld.Defines st → st.Legible) ∧
      (runModule ⟨true, 1, 1⟩ callingModule (.start functionWorld)).2.trace.toList.map some =
        (callingModule ++ [Stmt.whileStmt (.name "x" .load) [.returnStmt none (some (.name "x" .load))] [],
          Stmt.returnStmt none (some (.name "x" .load))]).map Stmt.announcement? := by
  have hbody : ∀ st ∈ callingModule, st.Legible := by
    intro st hst
    rw [List.mem_singleton.1 hst]
    exact Outline.text?_isSome.1 (by decide +kernel)
  have hworld : ∀ st, functionWorld.Defines st → st.Legible := by
    rintro st ⟨name, params, body, hv, hst⟩
    cases reachable_functionWorld hv
    rw [List.mem_singleton.1 hst]
    exact Outline.text?_isSome.1 (by decide +kernel)
  have hstarted : started (journal ⟨false, 1, 1⟩ callingModule (.start functionWorld)) =
      callingModule ++ [.whileStmt (.name "x" .load) [.returnStmt none (some (.name "x" .load))] [],
        .returnStmt none (some (.name "x" .load))] := rfl
  obtain ⟨-, -, h⟩ := runModule_tracing ⟨true, 1, 1⟩ hbody functionWorld.globals (.start functionWorld) hworld
  have hstart : ({ State.start functionWorld with env := .ofGlobals functionWorld.globals } : State) =
      .start functionWorld := rfl
  simp only [hstart, hstarted] at h
  exact ⟨hbody, hworld, h⟩

end

end Treewalk
