/-
Runs compose. Checked statements at the top of a module leave the frames and the exit points as they found them, so what
one run hands to the next, the global names and the heap, is all that the rest of one long run would have seen. The
numbers of exit points differ between the two, and nothing depends on them.
-/
import Treewalk.Proofs.Locality

namespace Treewalk

/-! ## The check -/

theorem checkBlock_append (file : String) (s : Surroundings) (xs ys : List Stmt) :
    checkBlock file s (xs ++ ys) = (do checkBlock file s xs; checkBlock file s ys) := by
  induction xs with
  | nil =>
    rw [List.nil_append, checkBlock]
    rfl
  | cons st rest ih =>
    rw [List.cons_append, checkBlock, checkBlock, ih]
    cases checkStmt file s st <;> rfl

theorem checkModule_append_ok {file : String} {xs ys : List Stmt} :
    checkModule file (xs ++ ys) = .ok () ↔ checkModule file xs = .ok () ∧ checkModule file ys = .ok () := by
  unfold checkModule
  rw [checkBlock_append]
  exact check_seq_ok

/-! ## Execution -/

namespace Eval

theorem block_append [Host] (settings : Settings) (call : Caller) (xs ys : List Stmt) :
    block settings call (xs ++ ys) = (do block settings call xs; block settings call ys) := by
  induction xs with
  | nil => simp only [List.nil_append, block, pure_bind]
  | cons st rest ih => simp only [List.cons_append, block, ih, bind_assoc]

theorem moduleBody_append [Host] (settings : Settings) (xs ys : List Stmt) :
    moduleBody settings (xs ++ ys) = (do moduleBody settings xs; moduleBody settings ys) :=
  block_append settings _ xs ys

/-- Where only the global frame stands, a good world is all that a module relies on. -/
theorem ready_outermost {S : Standard} {live : Address → Prop} {s : State} (h : S.WorldOk live s)
    (hframes : s.env.frames = []) : S.Ready live (.block .outermost) s := by
  refine ⟨h, fun frame hf => ?_, Surroundings.served_outermost _⟩
  rw [hframes] at hf
  cases hf

/-- Behind a module that keeps to a standard, only the global frame stands and no exit point is current. -/
theorem env_after_module {S : Standard} {live : Address → Prop} {s s' : State} (hs : s.env = .ofGlobals s.env.globals)
    (h : (keepingTo S live (.block .outermost)).ok s s') : s'.env = .ofGlobals s'.env.globals := by
  obtain ⟨hleaves, hlevel, -⟩ := h
  have hframes : s'.env.frames = [] := hlevel.empty.2 (by rw [hs]; rfl)
  have hreturn : s'.env.returnTarget = none := by rw [hleaves.returnTarget, hs]; rfl
  have hflow : s'.env.flow = none := by rw [hleaves.flow, hs]; rfl
  show s'.env = ⟨s'.env.globals, [], none, none⟩
  rw [← hframes, ← hreturn, ← hflow]

end Eval

/-- Everything that can be reached from the global names is checked, if it is a function. -/
def World.BodiesChecked (w : World) : Prop := ∀ v, Reachable w.heap w.Bound v → v.BodyChecked

/-- What two runs leave behind, one after the other: the world of the second, and the records of both. -/
structure Followed (first second whole : State) : Prop where
  world : whole.world = second.world
  output : whole.output = first.output ++ second.output
  trace : whole.trace = first.trace ++ second.trace
  log : whole.log = first.log ++ second.log

theorem GrownAlike.of_empty {α : Type} {a₀ a b : Array α} (h : GrownAlike a₀ #[] a b) : a = a₀ ++ b := by
  obtain ⟨added, rfl, rfl⟩ := h
  simp

theorem Beside.followed {s₀ s t : State} {w : World} (h : Beside s₀ (.start w) s t) : Followed s₀ t s := by
  refine ⟨?_, h.output.of_empty, h.trace.of_empty, h.log.of_empty⟩
  unfold State.world
  rw [h.globals, h.heap]

section

open Eval

variable {settings : Settings} {xs ys : List Stmt} {live : Address → Prop} {s s' : State}

theorem runModule_ok [Host] {a : Unit} (h : moduleBody settings xs s = .ok a s') :
    runModule settings xs s = (.finished, s') := by
  rw [runModule, h]

theorem runModule_error [Host] {i : Interrupt} (h : moduleBody settings xs s = .error i s') :
    runModule settings xs s = (i.ending, s') := by
  rw [runModule, h]

theorem Interrupt.ending_ne_finished (i : Interrupt) : i.ending ≠ .finished := by
  cases i <;> nofun

/-- A checked module runs alike from where another one ended and from a start of its own over the same world. -/
theorem runModule_restart [Host] (hys : Accepted .outermost ys) (hworld : Standard.bodies.WorldOk live s)
    (henv : s.env = .ofGlobals s.env.globals) :
    (runModule settings ys s).1 = (runModule settings ys (.start s.world)).1 ∧
      Followed s (runModule settings ys (.start s.world)).2 (runModule settings ys s).2 ∧
      ((runModule settings ys s).1 = .finished →
        (runModule settings ys s).2.env = (runModule settings ys (.start s.world)).2.env) := by
  let t : State := .start s.world
  let D := locality settings Standard.bodies_checksBodies live s t
  have htwins : Twins .bodies live s t (.block .outermost) (fun _ => True) (moduleBody settings ys)
      (moduleBody settings ys) := D.block (D.invoke settings.depth) .outermost ys fun _ => hys
  have hsameEnv : t.env = s.env := henv.symm
  have hbeside : Beside s t s t := .start (by rw [hsameEnv]) rfl
  have hready : ∀ u : State, u.env = s.env → u.heap = s.heap →
      Standard.bodies.Ready live (.block .outermost) u := by
    intro u hu hheap
    refine ready_outermost ⟨hu ▸ hworld.globals, hheap ▸ hworld.heap⟩ ?_
    rw [hu, henv]
    rfl
  have hs := hready s rfl rfl
  have ht := hready t hsameEnv rfl
  have hp := htwins.paired s t hs ht ⟨hbeside, by rw [SameTop, hsameEnv]⟩
  generalize hr : moduleBody settings ys s = r, hr' : moduleBody settings ys t = r' at hp
  cases hp with
  | ok hm =>
    rw [runModule_ok hr, runModule_ok hr']
    -- Both runs ended at the global frame, with the same global names in it.
    have hu := env_after_module henv (htwins.left.of_ok hs hr).2
    have hv := env_after_module rfl (htwins.right.of_ok ht hr').2
    refine ⟨rfl, hm.1.followed, fun _ => ?_⟩
    rw [hu, hv, hm.1.globals]
  | @error i j u v hn =>
    rw [runModule_error hr, runModule_error hr']
    obtain ⟨rfl, -, -, hb⟩ := failedAlike_of_stopped rfl hn (htwins.left.of_error hs hr).2.2
    exact ⟨rfl, hb.followed, fun hfin => absurd hfin i.ending_ne_finished⟩

/-- Runs compose. A module that is one list of statements after another passes the check exactly if both lists do. If the
first list does not run to its end, nothing depends on what follows it. If it does, and both lists and the functions of
the world pass the check, the whole ends as a run of the second list does that starts afresh from the world of the
first, with the world that this one leaves and with the records of both runs one after the other. -/
theorem runModule_append [Host] (settings : Settings) (file : String) (xs ys : List Stmt) (w : World) :
    let first := runModule settings xs (.start w)
    let second := runModule settings ys (.start first.2.world)
    let whole := runModule settings (xs ++ ys) (.start w)
    (checkModule file (xs ++ ys) = .ok () ↔ checkModule file xs = .ok () ∧ checkModule file ys = .ok ()) ∧
      (first.1 ≠ .finished → ∀ zs, runModule settings (xs ++ zs) (.start w) = first) ∧
      (checkModule file xs = .ok () → checkModule file ys = .ok () → w.BodiesChecked → first.1 = .finished →
        whole.1 = second.1 ∧ Followed first.2 second.2 whole.2 ∧
          (whole.1 = .finished → whole.2.env = second.2.env)) := by
  intro first second whole
  refine ⟨checkModule_append_ok, ?_⟩
  cases hr : moduleBody settings xs (.start w) with
  | error i s =>
    have hfirst : first = (i.ending, s) := runModule_error hr
    rw [hfirst]
    refine ⟨fun _ zs => runModule_error ?_, fun _ _ _ hfinished => absurd hfinished i.ending_ne_finished⟩
    rw [moduleBody_append, bind_error hr]
  | ok a s =>
    have hfirst : first = (.finished, s) := runModule_ok hr
    have hsecond : second = runModule settings ys (.start s.world) := by
      show runModule settings ys (.start first.2.world) = _
      rw [hfirst]
    have hwhole : whole = runModule settings ys s := by
      show runModule settings (xs ++ ys) (.start w) = _
      rw [runModule, runModule, moduleBody_append, bind_ok hr]
    rw [hwhole, hsecond, hfirst]
    refine ⟨fun hfailed => absurd rfl hfailed, fun hxs hys hworld _ => ?_⟩
    let live := Live w.heap w.Bound
    let D := soundness settings settings Standard.bodies_checksBodies live
    have hkept : KeptTo .bodies live (.block .outermost) (fun _ => True) (moduleBody settings xs) :=
      D.block (D.invoke settings.depth) .outermost xs fun _ => accepted_iff.2 hxs
    have hfit : ∀ v, Reachable w.heap w.Bound v → Standard.bodies.fits v := hworld
    have hready : Standard.bodies.Ready live (.block .outermost) (.start w) :=
      ready_outermost (Standard.worldOk_of_reachable (s := .start w) (fun _ hv => hv) hfit) rfl
    obtain ⟨-, hok⟩ := hkept.of_ok hready hr
    exact runModule_restart (accepted_iff.2 hys) hok.2.2.1 (env_after_module rfl hok)

end

/-- Makes a class, and prints the object that the sample module leaves. -/
def sampleSequel : List Stmt :=
  [.classDef "D" [] [] [.assign [.name "x" .store] (.name "t" .load)] [],
    .expr (.call (.name "print" .load) [.name "o" .load] [])]

theorem sampleWorld_bodiesChecked : sampleWorld.BodiesChecked := fun v hv => (sampleWorld_wellFormed v hv).bodyChecked

section

attribute [local instance] Host.standard

/-- The body of the class in the sequel cannot see the global names, so the whole fails as the sequel alone does. -/
theorem runModule_append_sample :
    checkModule "" (sampleModule ++ sampleSequel) = .ok () ∧
      (runModule ⟨true, 2, 1⟩ (sampleModule ++ sampleSequel) (.start sampleWorld)).1 = .failed (.unknownSymbol "t") ∧
      Followed (runModule ⟨true, 2, 1⟩ sampleModule (.start sampleWorld)).2
        (runModule ⟨true, 2, 1⟩ sampleSequel
          (.start (runModule ⟨true, 2, 1⟩ sampleModule (.start sampleWorld)).2.world)).2
        (runModule ⟨true, 2, 1⟩ (sampleModule ++ sampleSequel) (.start sampleWorld)).2 := by
  obtain ⟨hcheck, -, hruns⟩ := runModule_append ⟨true, 2, 1⟩ "" sampleModule sampleSequel sampleWorld
  have hxs : checkModule "" sampleModule = .ok () := rfl
  have hys : checkModule "" sampleSequel = .ok () := rfl
  have hfinished : (runModule ⟨true, 2, 1⟩ sampleModule (.start sampleWorld)).1 = .finished := by decide +kernel
  obtain ⟨hend, hfollowed, -⟩ := hruns hxs hys sampleWorld_bodiesChecked hfinished
  refine ⟨hcheck.2 ⟨hxs, hys⟩, ?_, hfollowed⟩
  rw [hend]
  decide +kernel

end

end Treewalk
