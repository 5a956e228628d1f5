/-
What evaluation leaves alone in the environment it runs in. An expression leaves the frames, the exit points and the
set of global names as they were, whatever functions it calls and however it ends; a block above the global frame
touches only its own top frame and frames it pushed, and names no new global. Exits on their way carry the exit points
that are current where they arise, so that a loop or a call catches every exit that reaches it.
-/
import Treewalk.Proofs.Discipline
import Treewalk.Proofs.Rules
import Treewalk.Proofs.Scope

namespace Treewalk

/-! ## Relations between states -/

/-- The environment is as it was, except for the values of global names. -/
structure Undisturbed (s s' : State) : Prop where
  frames : s'.env.frames = s.env.frames
  flow : s'.env.flow = s.env.flow
  returnTarget : s'.env.returnTarget = s.env.returnTarget
  names : s'.env.globals.keys = s.env.globals.keys

/-- What was below the top frame is still below the top frame, with no new global name; nothing is said of the global
frame itself as the top frame. -/
structure Confined (s s' : State) : Prop where
  returnTarget : s'.env.returnTarget = s.env.returnTarget
  inner : s.env.frames ≠ [] → s'.env.frames ≠ [] ∧ s.env.frames.tail <:+ s'.env.frames.tail ∧
    s'.env.globals.keys = s.env.globals.keys

theorem Undisturbed.refl (s : State) : Undisturbed s s := ⟨rfl, rfl, rfl, rfl⟩

theorem Undisturbed.trans {a b c : State} (h : Undisturbed a b) (h' : Undisturbed b c) : Undisturbed a c :=
  ⟨h'.frames.trans h.frames, h'.flow.trans h.flow, h'.returnTarget.trans h.returnTarget, h'.names.trans h.names⟩

theorem Undisturbed.of_env {s s' : State} (h : s'.env = s.env) : Undisturbed s s' := by
  constructor <;> rw [h]

theorem Undisturbed.confined {s s' : State} (h : Undisturbed s s') : Confined s s' :=
  ⟨h.returnTarget, fun hne => ⟨h.frames ▸ hne, h.frames ▸ List.suffix_refl _, h.names⟩⟩

theorem Confined.refl (s : State) : Confined s s := (Undisturbed.refl s).confined

theorem Confined.trans {a b c : State} (h : Confined a b) (h' : Confined b c) : Confined a c := by
  refine ⟨h'.returnTarget.trans h.returnTarget, fun hne => ?_⟩
  obtain ⟨hb, hs, hn⟩ := h.inner hne
  obtain ⟨hc, hs', hn'⟩ := h'.inner hb
  exact ⟨hc, hs.trans hs', hn'.trans hn⟩

namespace Eval

/-! ## Contracts -/

/-- What a step leaves as it was, by its site. -/
def Site.Leaves : Site → State → State → Prop
  | .call | .expression => Undisturbed
  | .block _ => fun s s' => Confined s s' ∧ s'.env.flow = s.env.flow

namespace Site.Leaves

theorem of_undisturbed {s s' : State} (h : Undisturbed s s') : ∀ {site : Site}, site.Leaves s s'
  | .call | .expression => h
  | .block _ => ⟨h.confined, h.flow⟩

theorem trans : ∀ {site : Site} {a b c : State}, site.Leaves a b → site.Leaves b c → site.Leaves a c
  | .call, _, _, _, h, h' | .expression, _, _, _, h, h' => Undisturbed.trans h h'
  | .block _, _, _, _, h, h' => ⟨h.1.trans h'.1, h'.2.trans h.2⟩

theorem flow : ∀ {site : Site} {s s' : State}, site.Leaves s s' → s'.env.flow = s.env.flow
  | .call, _, _, h | .expression, _, _, h => Undisturbed.flow h
  | .block _, _, _, h => h.2

theorem returnTarget : ∀ {site : Site} {s s' : State}, site.Leaves s s' → s'.env.returnTarget = s.env.returnTarget
  | .call, _, _, h | .expression, _, _, h => Undisturbed.returnTarget h
  | .block _, _, _, h => h.1.returnTarget

end Site.Leaves

/-- From every state, a step leaves alone what it must at its site, and its exits are aimed at the current exit points.
-/
def keeping (site : Site) : Contract where
  pre _ := True
  ok := site.Leaves
  bad s i s' := i.AimedAt s.env ∧ site.Leaves s s'
  refl _ := .of_undisturbed (.refl _)
  keep _ _ := trivial
  trans := .trans
  early h h' := ⟨h'.1.of_eq h.flow h.returnTarget, h.trans h'.2⟩

/-- The same for the rounds of a loop, while the current exit points are the loop's own. -/
def looping : Contract where
  pre _ := True
  ok := Confined
  bad s i s' := i.LeavesLoop s.env ∧ Confined s s'
  refl _ := .refl _
  keep _ _ := trivial
  trans := .trans
  early h h' := ⟨h'.1.of_eq h.returnTarget, h.trans h'.2⟩

abbrev Kept {α : Type} (site : Site) (V : α → Prop) (x : Eval α) : Prop := (keeping site).Met V x

/-! ## Names and exits -/

section

variable {α : Type} {site : Site} {V : α → Prop}

theorem kept_interrupt {i : Interrupt} (h : ∀ env, i.AimedAt env) : Kept site V (throw i : Eval α) :=
  .throw fun s _ => ⟨h s.env, .of_undisturbed (.refl s)⟩

theorem kept_ofExcept {W : α → Prop} {x : Except EvalError α} (h : Yields Standard.any.admits W x) (hV : ∀ a, V a) :
    Kept site V (ofExcept x) :=
  .ofExcept (h.mono (fun _ he => he) fun a _ => hV a) fun _ he s _ => ⟨he, .of_undisturbed (.refl s)⟩

theorem kept_ofFailure {W : α → Prop} {x : Except Failure α} (h : Yields Standard.any.AdmitsFailure W x)
    (hV : ∀ a, V a) : Kept site V (ofFailure x) :=
  .ofFailure (h.mono (fun _ he => he) fun a _ => hV a) (fun _ he s _ => ⟨he, .of_undisturbed (.refl s)⟩)
    fun _ s _ => ⟨trivial, .of_undisturbed (.refl s)⟩

theorem kept_modifyGet {f : State → α × State} (hV : ∀ s, V (f s).1) (henv : ∀ s, (f s).2.env = s.env) :
    Kept site V (modifyGet f : Eval α) :=
  .modifyGet fun s _ => ⟨hV s, .of_undisturbed (.of_env (henv s))⟩

end

theorem kept_block {α : Type} {s : Surroundings} {V : α → Prop} {x : Eval α} (h : Kept .expression V x) :
    Kept (.block s) V x :=
  h.mono (fun _ _ => trivial) (fun _ _ _ hl => ⟨Undisturbed.confined hl, Undisturbed.flow hl⟩) fun _ _ _ _ hb =>
    ⟨hb.1, .of_undisturbed hb.2⟩

theorem kept_findMethod {site : Site} (name : String) (v : Value) : Kept site (fun _ => True) (findMethod name v) := by
  refine .findMethod (P := Standard.any.admits) (fun s _ => ?_) nofun fun e he s _ => ⟨he, .of_undisturbed (.refl s)⟩
  exact (Standard.any.getClassAttr (Standard.good_any v)).mono (fun _ he => he) fun _ _ _ _ => trivial

theorem kept_setAttr {site : Site} (name : String) (v target : Value) :
    Kept site (fun _ => True) (setAttr name v target) := by
  refine .setAttr (P := Standard.any.admits) (H := fun _ => True) (fun s _ => ?_) ?_ ?_
  · exact (Standard.any.setAttr (Standard.good_any target)).mono (fun _ he => he) fun _ _ => trivial
  · exact fun e he s _ => ⟨he, .of_undisturbed (.refl s)⟩
  · exact fun heap _ s _ => .of_undisturbed (.of_env (by rfl))

theorem kept_announce {site : Site} {settings : Settings} {st : Stmt} :
    Kept site (fun _ => True) (announce settings st) := by
  refine .announce (fun _ s _ => ⟨trivial, .of_undisturbed (.refl s)⟩) fun line s _ => ?_
  exact .of_undisturbed (.of_env (by rfl))

theorem kept_update {s : Surroundings} (name : String) (value : Value) :
    Kept (.block s) (fun _ => True) (update name value) := by
  -- Only the global frame gains names, and it is not asked about while it is on top.
  refine .modifyGet fun s _ => ⟨trivial, ⟨by simp, fun hne => ⟨?_, ?_, ?_⟩⟩, by simp⟩
  · exact fun h => hne ((Environment.update_frames_eq_nil _ name value).1 h)
  · exact Environment.tail_update _ name value ▸ List.suffix_refl _
  · exact Environment.globals_keys_update _ name value hne

theorem kept_breakOut {site : Site} : Kept site (fun _ => True) breakOut := by
  intro s _
  rw [breakOut_apply]
  cases hf : s.env.flow with
  | none => exact ⟨nofun, .of_undisturbed (.refl s)⟩
  | some f => exact ⟨⟨f, hf, rfl⟩, .of_undisturbed (.refl s)⟩

theorem kept_continueOn {site : Site} : Kept site (fun _ => True) continueOn := by
  intro s _
  rw [continueOn_apply]
  cases hf : s.env.flow with
  | none => exact ⟨nofun, .of_undisturbed (.refl s)⟩
  | some f => exact ⟨⟨f, hf, rfl⟩, .of_undisturbed (.refl s)⟩

theorem kept_returnWith {site : Site} (value : Value) : Kept site (fun _ => True) (returnWith value) := by
  intro s _
  rw [returnWith_apply]
  cases hr : s.env.returnTarget with
  | none => exact ⟨nofun, .of_undisturbed (.refl s)⟩
  | some target => exact ⟨hr, .of_undisturbed (.refl s)⟩

/-! ## Blocks and calls -/

theorem confined_roundState (breakTo : ExitPoint) (s : State) : Confined s (roundState breakTo s) :=
  ⟨rfl, (Confined.refl s).inner⟩

/-- When a loop ends, the loop around it is current again. -/
theorem leaves_loopEnd {s s' : State} (h : Confined { s with nextExit := s.nextExit + 1 } s') :
    Confined s (s'.setFlow s.env.flow) ∧ (s'.setFlow s.env.flow).env.flow = s.env.flow :=
  ⟨⟨h.returnTarget, h.inner⟩, rfl⟩

theorem kept_loop {s : Surroundings} {test : Eval Bool} {body orelse : Eval Unit} (limit : Nat)
    (h : Kept (.block s.loopBody) (fun _ => True) (turn test body orelse)) :
    Kept (.block s) (fun _ => True) (loop limit test body orelse) := by
  have hrounds : ∀ b, looping.Met (fun _ => True) (rounds b test body orelse limit) := by
    refine fun b => .rounds (L := looping) (fun s _ => ⟨trivial, .refl s⟩) (.round h (fun _ _ => trivial) ?_ ?_) limit
    · exact fun s s' _ hok => (confined_roundState b s).trans hok.1
    · intro s i s' _ ⟨ha, hc, _⟩
      have hc' := (confined_roundState b s).trans hc
      exact ⟨ha, fun _ => hc', fun hi => ⟨ha.leavesLoop rfl hi, hc'⟩⟩
  refine .loop hrounds (fun _ _ => trivial) (fun _ _ _ hok => leaves_loopEnd hok) ?_
  exact fun _ _ _ _ hbad => ⟨hbad.1.aimedAt, leaves_loopEnd hbad.2⟩

theorem suffix_tail {α : Type} {l l' : List α} (h : l <:+ l') : l.tail <:+ l'.tail := by
  obtain ⟨pre, rfl⟩ := h
  cases pre with
  | nil => exact List.suffix_refl _
  | cons a pre => exact (List.tail_suffix l).trans (List.suffix_append pre l)

theorem confined_classBody {s s' : State} (h : Confined { s with env := s.env.pushFrame } s') : Confined s s' := by
  obtain ⟨hne, hs, hn⟩ := h.inner (by simp [Environment.pushFrame])
  exact ⟨h.returnTarget, fun _ => ⟨hne, (List.tail_suffix _).trans hs, hn⟩⟩

theorem leaves_classEnd {s s' : State} (name : String) (h : Confined { s with env := s.env.pushFrame } s')
    (hf : s'.env.flow = s.env.flow) :
    s'.env.frames ≠ [] ∧ Confined s (classState name s') ∧ (classState name s').env.flow = s.env.flow := by
  obtain ⟨hne, hs, hn⟩ := h.inner (by simp [Environment.pushFrame])
  refine ⟨hne, ⟨?_, fun hne' => ⟨?_, ?_, ?_⟩⟩, ?_⟩
  · exact (Environment.returnTarget_update _ _ _).trans h.returnTarget
  · simp only [classState, ne_eq, Environment.update_frames_eq_nil]
    exact hs.ne_nil hne'
  · simp only [classState, Environment.tail_update]
    exact suffix_tail hs
  · rw [classState, Environment.globals_keys_update _ _ _ (hs.ne_nil hne')]
    exact hn
  · exact (Environment.flow_update _ _ _).trans hf

theorem kept_defineClass {s s₀ : Surroundings} {body : Eval Unit} (name : String)
    (h : Kept (.block s₀) (fun _ => True) body) : Kept (.block s) (fun _ => True) (defineClass name body) := by
  refine .defineClass h (fun _ _ => trivial) (fun _ _ _ hl => leaves_classEnd name hl.1 hl.2) ?_
  exact fun _ _ _ _ ⟨ha, hl⟩ => ⟨ha, confined_classBody hl.1, hl.2⟩

theorem undisturbed_backFrom {s s' : State} {name : String} {params : List String} {args : List Value}
    (h : Confined (callState name params args s) s') (hf : s'.env.flow = s.env.flow) :
    Undisturbed s (backFrom s s') := by
  -- The caller's frames are below the frame of the call, so they are a suffix of whatever the body leaves.
  obtain ⟨-, hs, hn⟩ := h.inner (by simp [callState, Environment.enterCall])
  have hs' : s.env.frames <:+ s'.env.frames := hs.trans (List.tail_suffix _)
  exact ⟨(List.suffix_iff_eq_drop.1 hs').symm, hf, rfl, hn⟩

theorem kept_runFunction {s₀ : Surroundings} {name : String} {params : List String} {args : List Value}
    {body : Eval Unit} (h : Kept (.block s₀) (fun _ => True) body) :
    Kept .call (fun _ => True) (runFunction name params args body) := by
  refine .runFunction h (fun _ _ => trivial) (fun _ _ _ hl => ⟨trivial, undisturbed_backFrom hl.1 hl.2⟩) ?_
  intro s i s' _ ⟨ha, hc, hf⟩
  have hu := undisturbed_backFrom hc hf
  have hflow : s.env.flow = (callState name params args s).env.flow := rfl
  exact ⟨ha, fun _ _ _ => ⟨trivial, hu⟩, fun hi => ⟨ha.leavesCall hflow hi, hu⟩⟩

/-! ## Evaluation -/

/-- Every step of evaluation keeps what it must, of any program and on any values. -/
def confinement [Host] (settings settings' : Settings) : Discipline settings settings' where
  checked := False
  Good _ := True
  Rel site V x _ := Kept site V x
  ret := .pure
  seq := .bind
  ofCall h := h
  ofExpression h := kept_block h
  literal _ := trivial
  tuple _ := trivial
  function _ := trivial
  accepted _ := accepted_unchecked
  failing h := kept_interrupt fun _ => Standard.any.ordinary h
  unwritable _ := kept_interrupt fun _ => trivial
  overflow := kept_interrupt fun _ => trivial
  truth _ := kept_ofExcept (Standard.any.truth trivial) fun _ => trivial
  unary _ := kept_ofExcept (Standard.any.unary trivial) fun _ => trivial
  binary _ _ := kept_ofExcept (Standard.any.binary trivial trivial) fun _ => trivial
  compare _ _ := kept_ofFailure (Standard.any.compare (Standard.good_any _) (Standard.good_any _)) fun _ => trivial
  text _ := kept_ofFailure (Standard.any.text (Standard.good_any _)) fun _ => trivial
  print _ := kept_modifyGet (fun _ => trivial) fun _ => rfl
  getAttr _ := .get fun _ _ => kept_ofExcept (Standard.any.getAttr (Standard.good_any _)) fun _ _ _ => trivial
  findMethod _ := kept_findMethod _ _
  setAttr _ _ := kept_setAttr _ _ _
  newObject _ := kept_modifyGet (fun _ => trivial) fun _ => rfl
  runFunction _ h := kept_runFunction h
  lookup _ := .get fun _ _ => kept_ofExcept (Standard.any.lookup _ _) fun _ => trivial
  update _ := kept_update _ _
  announce _ _ := kept_announce
  breakOut _ := kept_breakOut
  continueOn _ := kept_continueOn
  returnWith _ _ := kept_returnWith _
  loop ht hb ho := kept_loop _ (.turn ht hb ho)
  defineClass h := kept_defineClass _ h

theorem Kept.after {α : Type} {site : Site} {V : α → Prop} {x : Eval α} (h : Kept site V x) (s : State) :
    site.Leaves s (after x s) := by
  cases hx : x s with
  | ok a s' =>
    rw [after_ok hx]
    exact (h.of_ok trivial hx).2
  | error i s' =>
    rw [after_error hx]
    exact (h.of_error trivial hx).2

/-- An expression disturbs nothing around it. From every state, and however its evaluation ends (with a value, with an
error at any depth, with an exit that leaves a function it called, or cut off by a limit), the same frames with the same
bindings stand in the same order, the current exit points are what they were, and the same global names are bound. -/
theorem expr_undisturbed [Host] (settings : Settings) (depth : Nat) (e : Expr) (s : State) :
    Undisturbed s (after (expr (invoke settings depth) e) s) := by
  let D := confinement settings settings
  have h : Kept .expression (fun _ => True) (expr (invoke settings depth) e) := D.expr (D.invoke depth) e
  exact h.after s

end Eval

end Treewalk
