/-
Soundness of the check where exits may stand. A program that passes the check, in a world where everything that can be
reached is as evaluation expects it, never ends in a violation of the evaluator's own assumptions, and leaves such a
world behind.

The invariant is that of a site: values are good in the world, and in the top frame where it can be seen; exit points
are current wherever the check lets an exit stand; and what is below the top frame does not move.
-/
import Treewalk.Proofs.Confinement
import Treewalk.Proofs.Reachable

namespace Treewalk

/-- The same frames stand below the top one. -/
structure SameLevel (s s' : State) : Prop where
  below : s'.env.frames.tail = s.env.frames.tail
  empty : s'.env.frames = [] ↔ s.env.frames = []

theorem SameLevel.of_frames {s s' : State} (h : s'.env.frames = s.env.frames) : SameLevel s s' := by
  constructor <;> rw [h]

theorem SameLevel.trans {a b c : State} (h : SameLevel a b) (h' : SameLevel b c) : SameLevel a c :=
  ⟨h'.below.trans h.below, h'.empty.trans h.empty⟩

/-- Outside the rounds of a loop, no exit point of it is relied on. -/
def Surroundings.noLoop (s : Surroundings) : Surroundings := { s with inLoop := false }

/-- The exit points that exits at some place of a program rely on are current. -/
structure Surroundings.Served (s : Surroundings) (env : Environment) : Prop where
  loop : s.inLoop = true → ∃ f, env.flow = some f
  function : s.inFunction = true → ∃ target, env.returnTarget = some target

theorem Surroundings.Served.of_eq {s : Surroundings} {env env' : Environment} (h : s.Served env)
    (hf : env'.flow = env.flow) (hr : env'.returnTarget = env.returnTarget) : s.Served env' :=
  ⟨hf ▸ h.loop, hr ▸ h.function⟩

theorem Surroundings.served_outermost (env : Environment) : Surroundings.outermost.Served env := ⟨nofun, nofun⟩

namespace Standard

open Eval

variable (S : Standard) (live : Address → Prop)

/-- Functions are held to the check. -/
def ChecksBodies : Prop :=
  ∀ (name : String) (params : List String) (body : List Stmt), S.fits (.function name params body) ↔
    Accepted .functionBody body

/-- The global names and the heap hold good values. -/
structure WorldOk (s : State) : Prop where
  globals : s.env.globals.All (S.Good live)
  heap : S.HeapOk live s.heap

/-- What a step may rely on at its site. -/
def Ready : Site → State → Prop
  | .call, s => S.WorldOk live s
  | .expression, s => S.WorldOk live s ∧ s.env.TopAll (S.Good live)
  | .block sur, s => S.WorldOk live s ∧ s.env.TopAll (S.Good live) ∧ sur.Served s.env

variable {S live} in
theorem Ready.world : ∀ {site : Site} {s : State}, S.Ready live site s → S.WorldOk live s
  | .call, _, h => h
  | .expression, _, h => h.1
  | .block _, _, h => h.1

/-- What an interrupt promises at its site, with the states where the step began and where the interrupt arose. An exit
of a loop keeps what the rest of the loop relies on; a `return` brings a good value and leaves a good world; after an
error nothing runs any more. -/
def Promises (site : Site) (s : State) : Interrupt → State → Prop
  | .error e, _ => S.admits e
  | .breakLoop _, s' | .continueLoop _, s' =>
    site.surroundings.inLoop = true ∧ SameLevel s s' ∧ S.Ready live site s'
  | .returnCall _ v, s' => site.surroundings.inFunction = true ∧ S.Good live v ∧ S.WorldOk live s'
  | .unwritable _, _ | .overflow, _ | .stalled, _ => True

end Standard

namespace Eval

section

variable {S : Standard} {live : Address → Prop}

/-- Evaluation that keeps to a standard. -/
def keepingTo (S : Standard) (live : Address → Prop) (site : Site) : Contract where
  pre := S.Ready live site
  ok s s' := site.Leaves s s' ∧ SameLevel s s' ∧ S.Ready live site s'
  bad s i s' := i.AimedAt s.env ∧ site.Leaves s s' ∧ S.Promises live site s i s'
  refl h := ⟨.of_undisturbed (.refl _), .of_frames rfl, h⟩
  keep _ h := h.2.2
  trans h h' := ⟨h.1.trans h'.1, h.2.1.trans h'.2.1, h'.2.2⟩
  early := by
    -- Only an exit of a loop promises something about the frames, and that is carried along.
    intro a b c i ⟨hl, hs, _⟩ ⟨ha, hl', hp⟩
    refine ⟨ha.of_eq hl.flow hl.returnTarget, hl.trans hl', ?_⟩
    cases i with
    | breakLoop _ | continueLoop _ => exact ⟨hp.1, hs.trans hp.2.1, hp.2.2⟩
    | error _ | unwritable _ | returnCall _ _ | overflow | stalled => exact hp

abbrev KeptTo (S : Standard) (live : Address → Prop) {α : Type} (site : Site) (V : α → Prop) (x : Eval α) : Prop :=
  (keepingTo S live site).Met V x

/-- An interrupt that no exit may be promises the same everywhere. -/
theorem promises_of_outermost {site site' : Site} (hs : site.surroundings = .outermost) {s s' t : State} {i : Interrupt}
    (h : S.Promises live site s i s') : S.Promises live site' t i s' := by
  cases i with
  | breakLoop _ | continueLoop _ | returnCall _ _ => exact absurd (hs ▸ h.1) nofun
  | error _ | unwritable _ | overflow | stalled => exact h

theorem keptTo_expression {α : Type} {V : α → Prop} {x : Eval α} (h : KeptTo S live .call V x) :
    KeptTo S live .expression V x := by
  refine h.mono (fun _ hs => hs.1) ?_ fun _ _ _ _ hb => ⟨hb.1, hb.2.1, promises_of_outermost rfl hb.2.2⟩
  exact fun s s' hs ⟨hu, hl, hw⟩ => ⟨hu, hl, hw, hs.2.of_frames hu.frames⟩

theorem keptTo_block {α : Type} {sur : Surroundings} {V : α → Prop} {x : Eval α} (h : KeptTo S live .expression V x) :
    KeptTo S live (.block sur) V x := by
  refine h.mono (fun _ hs => ⟨hs.1, hs.2.1⟩) ?_ ?_
  · exact fun s s' hs ⟨hu, hl, hw, ht⟩ => ⟨.of_undisturbed hu, hl, hw, ht, hs.2.2.of_eq hu.flow hu.returnTarget⟩
  · exact fun s i s' _ hb => ⟨hb.1, .of_undisturbed hb.2.1, promises_of_outermost rfl hb.2.2⟩

/-! ## Steps that leave the environment alone -/

section

variable {α : Type} {site : Site} {V : α → Prop}

theorem keptTo_throw {i : Interrupt} (ha : ∀ env, i.AimedAt env) (hp : ∀ s, S.Promises live site s i s) :
    KeptTo S live site V (throw i : Eval α) :=
  .throw fun s _ => ⟨ha s.env, .of_undisturbed (.refl s), hp s⟩

theorem bad_of_admits (e : EvalError) (h : S.admits e) (s : State) (_ : (keepingTo S live site).pre s) :
    (keepingTo S live site).bad s (.error e) s :=
  ⟨fun _ he => S.unescaped (he ▸ h), .of_undisturbed (.refl s), h⟩

theorem keptTo_fail {e : EvalError} (h : S.admits e) : KeptTo S live site V (fail e : Eval α) :=
  .throw (bad_of_admits e h)

theorem keptTo_ofExcept {x : Except EvalError α} (h : Yields S.admits V x) : KeptTo S live site V (ofExcept x) :=
  .ofExcept h bad_of_admits

theorem keptTo_ofFailure {x : Except Failure α} (h : Yields S.AdmitsFailure V x) :
    KeptTo S live site V (ofFailure x) :=
  .ofFailure h bad_of_admits fun _ s _ => ⟨trivial, .of_undisturbed (.refl s), trivial⟩

theorem ok_of_env {s s' : State} (henv : s'.env = s.env) (h : S.Ready live site s) (hheap : S.HeapOk live s'.heap) :
    (keepingTo S live site).ok s s' := by
  have hw : S.WorldOk live s → S.WorldOk live s' := fun hw => ⟨henv ▸ hw.globals, hheap⟩
  refine ⟨.of_undisturbed (.of_env henv), .of_frames (by rw [henv]), ?_⟩
  cases site with
  | call => exact hw h
  | expression => exact ⟨hw h.1, henv ▸ h.2⟩
  | block sur => exact ⟨hw h.1, henv ▸ h.2⟩

theorem keptTo_modifyGet {f : State → α × State} (henv : ∀ s, (f s).2.env = s.env)
    (h : ∀ s, S.Ready live site s → V (f s).1 ∧ S.HeapOk live (f s).2.heap) :
    KeptTo S live site V (modifyGet f : Eval α) :=
  .modifyGet fun s hs => ⟨(h s hs).1, ok_of_env (henv s) hs (h s hs).2⟩

end

theorem keptTo_getAttr {name : String} {v : Value} (hv : S.Good live v) :
    KeptTo S live .call (fun found => ∀ w, found = some w → S.Good live w) (getAttr name v) := by
  refine .get fun s hs => keptTo_ofExcept ((S.getAttr hv).mono (fun _ he => he) ?_)
  rintro found ⟨own, hlive, rfl⟩ w hw
  exact hs.heap.maps own hlive name w hw

theorem keptTo_findMethod {name : String} {v : Value} (hv : S.Good live v) :
    KeptTo S live .call (S.Good live) (findMethod name v) := by
  refine .findMethod (fun s hs => (S.getClassAttr hv).mono (fun _ he => he) ?_) (S.ordinary ⟨nofun, nofun⟩) bad_of_admits
  rintro found ⟨own, hlive, rfl⟩ w hw
  exact hs.heap.maps own hlive name w hw

theorem keptTo_setAttr {name : String} {v target : Value} (hv : S.Good live v) (ht : S.Good live target) :
    KeptTo S live .call (fun _ => True) (setAttr name v target) := by
  refine .setAttr (H := S.HeapOk live) (fun s hs => (S.setAttr ht).mono (fun _ he => he) ?_) bad_of_admits ?_
  · rintro heap ⟨own, -, rfl⟩
    exact hs.heap.write hv own
  · exact fun heap hheap s hs => ok_of_env rfl hs hheap

theorem keptTo_newObject {name : String} {attrs : Address} (h : S.Good live (.cls name attrs)) :
    KeptTo S live .call (S.Good live) (newObject (.cls name attrs)) := by
  refine keptTo_modifyGet (fun _ => rfl) fun s hs => ⟨?_, hs.heap.alloc (Bindings.All.empty.insert h)⟩
  exact Value.within_object.2 ⟨S.object, hs.heap.fresh _ (Nat.le_refl _), h⟩

theorem keptTo_announce {site : Site} {settings : Settings} {st : Stmt} :
    KeptTo S live site (fun _ => True) (announce settings st) :=
  .announce (fun _ s _ => ⟨trivial, .of_undisturbed (.refl s), trivial⟩) fun _ _ hs => ok_of_env rfl hs hs.world.heap

/-! ## Names and exits -/

theorem keptTo_lookup (name : String) : KeptTo S live .expression (S.Good live) (lookup name) := by
  refine .get fun s hs => keptTo_ofExcept ((S.lookup s.env name).mono (fun _ he => he) fun v hv => ?_)
  exact hs.2.get? hs.1.globals hv

theorem keptTo_update {sur : Surroundings} {name : String} {v : Value} (hv : S.Good live v) :
    KeptTo S live (.block sur) (fun _ => True) (update name v) := by
  refine .modifyGet fun s hs => ?_
  obtain ⟨htop, hglobals⟩ := hs.2.1.update hs.1.globals name hv
  have hleaves := ((kept_update (s := sur) name v).of_ok (s := s) trivial rfl).2
  have hserved : sur.Served (s.env.update name v) := hs.2.2.of_eq (by simp) (by simp)
  exact ⟨trivial, hleaves, ⟨by simp, by simp⟩, ⟨hglobals, hs.1.heap⟩, htop, hserved⟩

theorem keptTo_breakOut {sur : Surroundings} (h : sur.inLoop = true) :
    KeptTo S live (.block sur) (fun _ => True) breakOut := by
  intro s hs
  obtain ⟨f, hf⟩ := hs.2.2.loop h
  rw [breakOut_apply, hf]
  exact ⟨⟨f, hf, rfl⟩, .of_undisturbed (.refl s), h, .of_frames rfl, hs⟩

theorem keptTo_continueOn {sur : Surroundings} (h : sur.inLoop = true) :
    KeptTo S live (.block sur) (fun _ => True) continueOn := by
  intro s hs
  obtain ⟨f, hf⟩ := hs.2.2.loop h
  rw [continueOn_apply, hf]
  exact ⟨⟨f, hf, rfl⟩, .of_undisturbed (.refl s), h, .of_frames rfl, hs⟩

theorem keptTo_returnWith {sur : Surroundings} {v : Value} (h : sur.inFunction = true) (hv : S.Good live v) :
    KeptTo S live (.block sur) (fun _ => True) (returnWith v) := by
  intro s hs
  obtain ⟨target, ht⟩ := hs.2.2.function h
  rw [returnWith_apply, ht]
  exact ⟨ht, .of_undisturbed (.refl s), h, hv, hs.1⟩

/-! ## Loops, class bodies and calls -/

/-- The rounds of a loop that keep to a standard. -/
def roundsKeepingTo (S : Standard) (live : Address → Prop) (sur : Surroundings) : Contract where
  pre := S.Ready live (.block sur.noLoop)
  ok s s' := Confined s s' ∧ SameLevel s s' ∧ S.Ready live (.block sur.noLoop) s'
  bad s i s' := i.LeavesLoop s.env ∧ Confined s s' ∧ S.Promises live (.block sur.noLoop) s i s'
  refl h := ⟨.refl _, .of_frames rfl, h⟩
  keep _ h := h.2.2
  trans h h' := ⟨h.1.trans h'.1, h.2.1.trans h'.2.1, h'.2.2⟩
  early := by
    intro a b c i ⟨hc, hs, _⟩ ⟨ha, hc', hp⟩
    refine ⟨ha.of_eq hc.returnTarget, hc.trans hc', ?_⟩
    cases i with
    | breakLoop _ | continueLoop _ => exact ha.elim
    | error _ | unwritable _ | returnCall _ _ | overflow | stalled => exact hp

section

variable {sur : Surroundings} {test : Eval Bool} {body orelse : Eval Unit}

theorem ready_roundState {s : State} (h : S.Ready live (.block sur.noLoop) s) (breakTo : ExitPoint) :
    S.Ready live (.block sur.loopBody) (roundState breakTo s) :=
  ⟨⟨h.1.globals, h.1.heap⟩, h.2.1, fun _ => ⟨_, rfl⟩, h.2.2.function⟩

theorem ready_noLoop {s : State} (h : S.Ready live (.block sur.loopBody) s) : S.Ready live (.block sur.noLoop) s :=
  ⟨h.1, h.2.1, nofun, h.2.2.function⟩

theorem ready_loopStart {s : State} (h : S.Ready live (.block sur) s) :
    S.Ready live (.block sur.noLoop) { s with nextExit := s.nextExit + 1 } :=
  ⟨⟨h.1.globals, h.1.heap⟩, h.2.1, nofun, h.2.2.function⟩

theorem keptTo_round (h : KeptTo S live (.block sur.loopBody) (fun _ => True) (turn test body orelse))
    (breakTo : ExitPoint) : (roundsKeepingTo S live sur).Met (fun _ => True) (round breakTo test body orelse) := by
  refine .round h (fun s hs => ready_roundState hs breakTo) ?_ ?_
  · intro s s' _ ⟨hl, hs, hr⟩
    exact ⟨(confined_roundState breakTo s).trans hl.1, ⟨hs.below, hs.empty⟩, ready_noLoop hr⟩
  · intro s i s' _ ⟨ha, hl, hp⟩
    have hc := (confined_roundState breakTo s).trans hl.1
    refine ⟨ha, fun hi => ?_, fun hi => ⟨ha.leavesLoop rfl hi, hc, ?_⟩⟩
    · cases i with
      | breakLoop _ | continueLoop _ => exact ⟨hc, ⟨hp.2.1.below, hp.2.1.empty⟩, ready_noLoop hp.2.2⟩
      | error _ | unwritable _ | returnCall _ _ | overflow | stalled => cases hi
    · cases i with
      | breakLoop _ | continueLoop _ => cases hi
      | error _ | unwritable _ | returnCall _ _ | overflow | stalled => exact hp

theorem keptTo_rounds (h : KeptTo S live (.block sur.loopBody) (fun _ => True) (turn test body orelse)) (limit : Nat)
    (breakTo : ExitPoint) : (roundsKeepingTo S live sur).Met (fun _ => True) (rounds breakTo test body orelse limit) :=
  .rounds (L := roundsKeepingTo S live sur) (fun s _ => ⟨trivial, .refl s, trivial⟩) (keptTo_round h breakTo) limit

theorem keptTo_loop {limit : Nat} (h : KeptTo S live (.block sur.loopBody) (fun _ => True) (turn test body orelse)) :
    KeptTo S live (.block sur) (fun _ => True) (loop limit test body orelse) := by
  refine .loop (keptTo_rounds h limit) (fun s hs => ready_loopStart hs) ?_ ?_
  · intro s s' hs ⟨hc, hl, hr⟩
    refine ⟨leaves_loopEnd hc, ⟨hl.below, hl.empty⟩, ⟨hr.1.globals, hr.1.heap⟩, hr.2.1, ?_⟩
    exact ⟨hs.2.2.loop, hr.2.2.function⟩
  · intro s i s' hs ⟨ha, hc, hp⟩
    refine ⟨ha.aimedAt, leaves_loopEnd hc, ?_⟩
    -- No exit of this loop leaves it, so none has to be accounted for in the loop around it.
    cases i with
    | breakLoop _ | continueLoop _ => exact ha.elim
    | returnCall _ _ => exact ⟨hp.1, hp.2.1, hp.2.2.globals, hp.2.2.heap⟩
    | error _ | unwritable _ | overflow | stalled => exact hp

end

/-- The body of a class sees nothing of the frames around it. -/
theorem ready_pushFrame {s : State} (h : S.WorldOk live s) :
    S.Ready live (.block .outermost) { s with env := s.env.pushFrame } := by
  refine ⟨⟨h.globals, h.heap⟩, fun frame hf => ?_, Surroundings.served_outermost _⟩
  cases hf
  exact .empty

theorem keptTo_defineClass {sur : Surroundings} {name : String} {body : Eval Unit}
    (h : KeptTo S live (.block .outermost) (fun _ => True) body) :
    KeptTo S live (.block sur) (fun _ => True) (defineClass name body) := by
  refine .defineClass h (fun s hs => ready_pushFrame hs.1) ?_ ?_
  · rintro s s' hs ⟨hl, hlevel, hr⟩
    obtain ⟨hne, hleaves⟩ := leaves_classEnd name hl.1 hl.2
    -- Without the frame of the body, the frames are those around the class again.
    have hbelow : s'.env.frames.tail = s.env.frames := hlevel.below
    have hcls : S.Good live (.cls name s'.heap.maps.size) :=
      Value.within_cls.2 ⟨S.cls, hr.1.heap.fresh _ (Nat.le_refl _)⟩
    have htop : { s'.env with frames := s'.env.frames.tail }.TopAll (S.Good live) := hs.2.1.of_frames hbelow
    obtain ⟨htop', hglobals⟩ := htop.update hr.1.globals name hcls
    refine ⟨hne, hleaves, ⟨?_, ?_⟩, ⟨hglobals, hr.1.heap.alloc (hr.2.1.top hr.1.globals)⟩, htop', ?_⟩
    · simp [classState, hbelow]
    · simp [classState, hbelow]
    · exact hs.2.2.of_eq hleaves.2 hleaves.1.returnTarget
  · rintro s i s' - ⟨ha, hl, hp⟩
    exact ⟨ha, ⟨confined_classBody hl.1, hl.2⟩, promises_of_outermost rfl hp⟩

section

variable {name : String} {params : List String} {args : List Value} {body : Eval Unit}

/-- The body of a function sees its arguments and the global names. -/
theorem ready_callState {s : State} (h : S.WorldOk live s) (hargs : ∀ v ∈ args, S.Good live v) :
    S.Ready live (.block .functionBody) (callState name params args s) := by
  refine ⟨⟨h.globals, h.heap⟩, fun frame hf => ?_, nofun, fun _ => ⟨_, rfl⟩⟩
  cases hf
  exact .ofList fun entry he => hargs _ (List.of_mem_zip he).2

theorem keptTo_runFunction (hargs : ∀ v ∈ args, S.Good live v)
    (h : KeptTo S live (.block .functionBody) (fun _ => True) body) :
    KeptTo S live .call (S.Good live) (runFunction name params args body) := by
  have hback : ∀ {s s' : State}, (Site.block .functionBody).Leaves (callState name params args s) s' →
      S.WorldOk live s' →
      Undisturbed s (backFrom s s') ∧ SameLevel s (backFrom s s') ∧ S.WorldOk live (backFrom s s') := by
    intro s s' hl hw
    have hu := undisturbed_backFrom hl.1 hl.2
    exact ⟨hu, .of_frames hu.frames, hw.globals, hw.heap⟩
  refine .runFunction h (fun s hs => ready_callState hs hargs) ?_ ?_
  · exact fun s s' _ ⟨hl, _, hr⟩ => ⟨Standard.good_scalar rfl, hback hl hr.1⟩
  · intro s i s' _ ⟨ha, hl, hp⟩
    refine ⟨ha, ?_, fun hi => ?_⟩
    · rintro t v rfl
      exact ⟨hp.2.1, hback hl hp.2.2⟩
    · have hflow : s.env.flow = (callState name params args s).env.flow := rfl
      refine ⟨ha.leavesCall hflow hi, undisturbed_backFrom hl.1 hl.2, ?_⟩
      cases i with
      | breakLoop _ | continueLoop _ => exact absurd hp.1 nofun
      | returnCall _ _ => cases hi
      | error _ | unwritable _ | overflow | stalled => exact hp

end

/-! ## Evaluation -/

/-- Every step of a checked program keeps to a standard that holds functions to the check. -/
def soundness [Host] (settings settings' : Settings) (hS : S.ChecksBodies) (live : Address → Prop) :
    Discipline settings settings' where
  checked := True
  Good := S.Good live
  Rel site V x _ := KeptTo S live site V x
  ret := .pure
  seq := .bind
  ofCall := keptTo_expression
  ofExpression := keptTo_block
  literal h := Standard.good_scalar (Value.isScalar_ofLiteral h)
  tuple h := Value.within_tuple.2 ⟨S.tuple, Value.allWithin_iff.2 h⟩
  function h := by
    simp only [Value.Within]
    exact (hS _ _ _).2 (h trivial)
  accepted h _ := (hS _ _ _).1 h.here
  failing h := keptTo_fail (S.ordinary h)
  unwritable _ := keptTo_throw (fun _ => trivial) fun _ => trivial
  overflow := keptTo_throw (fun _ => trivial) fun _ => trivial
  truth h := keptTo_ofExcept (S.truth h.here)
  unary h := keptTo_ofExcept ((S.unary h.here).mono (fun _ he => he) fun _ hv => Standard.good_scalar hv)
  binary h h' := keptTo_ofExcept ((S.binary h.here h'.here).mono (fun _ he => he) fun _ hv => Standard.good_scalar hv)
  compare h h' := keptTo_ofFailure (S.compare h h')
  text h := keptTo_ofFailure (S.text h)
  print _ := keptTo_modifyGet (fun _ => rfl) fun _ hs => ⟨trivial, hs.heap⟩
  getAttr := keptTo_getAttr
  findMethod := keptTo_findMethod
  setAttr := keptTo_setAttr
  newObject := keptTo_newObject
  runFunction := keptTo_runFunction
  lookup := keptTo_lookup
  update := keptTo_update
  announce _ _ := keptTo_announce
  breakOut h := keptTo_breakOut (h trivial)
  continueOn h := keptTo_continueOn (h trivial)
  returnWith h hv := keptTo_returnWith (h trivial) hv
  loop ht hb ho := keptTo_loop (.turn ht hb ho)
  defineClass := keptTo_defineClass

end

end Eval

/-! ## Modules -/

theorem Standard.worldOk_of_reachable {S : Standard} {roots : Value → Prop} {s : State}
    (hroots : ∀ v, s.world.Bound v → roots v) (hfit : ∀ v, Reachable s.heap roots v → S.fits v) :
    S.WorldOk (Live s.heap roots) s :=
  ⟨fun name _ hv => good_of_reachable hfit (.root (hroots _ ⟨name, hv⟩)), heapOk_of_reachable hfit⟩

theorem Standard.proper_checksBodies : Standard.proper.ChecksBodies := fun _ _ _ => Iff.rfl

/-- The check is sound: a module that passes it, run over a well-formed world, never ends in a violation of the
evaluator's own assumptions. If it runs to its end, only the global frame stands, no exit point is current, and the
world is well-formed again. -/
theorem runModule_sound [Host] (settings : Settings) {file : String} {body : List Stmt}
    (hchecked : checkModule file body = .ok ()) (globals : Bindings Value) (s : State)
    (hworld : World.WellFormed ⟨globals, s.heap⟩) :
    let result := runModule settings body { s with env := .ofGlobals globals }
    (∀ e, result.1 = .failed e → e.kind ≠ .internalInvariant) ∧
      (result.1 = .finished → result.2.env = .ofGlobals result.2.env.globals ∧ result.2.world.WellFormed) := by
  -- The addresses that are live at the start stay the measure of goodness for the whole run.
  let start : State := { s with env := .ofGlobals globals }
  let live := Live start.heap start.world.Bound
  let D := Eval.soundness settings settings Standard.proper_checksBodies live
  have h : Eval.KeptTo .proper live (.block .outermost) (fun _ => True) (Eval.moduleBody settings body) :=
    D.block (D.invoke settings.depth) .outermost body fun _ => accepted_iff.2 hchecked
  have hready : Standard.proper.Ready live (.block .outermost) start :=
    ⟨Standard.worldOk_of_reachable (fun _ hv => hv) hworld, nofun, Surroundings.served_outermost _⟩
  intro result
  cases hr : Eval.moduleBody settings body start with
  | ok a s' =>
    have hresult : result = (.finished, s') := by
      show runModule .. = _
      rw [runModule, hr]
    rw [hresult]
    obtain ⟨-, hleaves, hlevel, hready'⟩ := h.of_ok hready hr
    refine ⟨fun e he => (by cases he), fun _ => ⟨?_, fun v hv => ?_⟩⟩
    · -- The run began at the global frame without exit points, and all three are where they were.
      have hframes : s'.env.frames = [] := hlevel.empty.2 rfl
      have hreturn : s'.env.returnTarget = none := hleaves.returnTarget
      have hflow : s'.env.flow = none := hleaves.flow
      show s'.env = ⟨s'.env.globals, [], none, none⟩
      rw [← hframes, ← hreturn, ← hflow]
    · refine (Standard.reachable_good hready'.1.heap ?_ hv).here
      rintro v ⟨name, hv⟩
      exact hready'.1.globals name v hv
  | error i s' =>
    have hresult : result = (i.ending, s') := by
      show runModule .. = _
      rw [runModule, hr]
    rw [hresult]
    obtain ⟨-, -, hpromises⟩ := h.of_error hready hr
    cases i with
    | error e => exact ⟨fun e' he => Ending.failed.inj he ▸ hpromises, fun he => (by cases he)⟩
    | breakLoop _ | continueLoop _ | returnCall _ _ => exact absurd hpromises.1 nofun
    | overflow => exact ⟨fun e' he => Ending.failed.inj he ▸ nofun, fun he => (by cases he)⟩
    | unwritable _ | stalled => exact ⟨fun e he => (by cases he), fun he => (by cases he)⟩

def sampleFunction : Value :=
  .function "f" ["x"] [.whileStmt (.name "x" .load) [.returnStmt none (some (.name "x" .load))] []]

/-- A world with a class that has a constructor, an object of it, a tuple, and a function that returns out of a loop. -/
def sampleWorld : World where
  globals := .ofList
    [("C", .cls "C" 0), ("o", .object (.cls "C" 0) 1), ("t", .tuple [.cls "C" 0, .int 1]), ("f", sampleFunction)]
  heap := ⟨#[.ofList [("__init__", .function "__init__" ["self"] [.pass])], .ofList [(classAttribute, .cls "C" 0)]]⟩

/-- Calls the function on a new object, and leaves the loop around the call. -/
def sampleModule : List Stmt :=
  [.whileStmt (.name "t" .load)
    [.assign [.name "o" .store] (.call (.name "f" .load) [.call (.name "C" .load) [] []] []), .breakStmt none] []]

theorem sampleWorld_good : sampleWorld.globals.All (Standard.proper.Good fun _ => True) ∧
    Standard.proper.HeapOk (fun _ => True) sampleWorld.heap := by
  have hcls : Standard.proper.Good (fun _ => True) (.cls "C" 0) := Value.within_cls.2 ⟨trivial, trivial⟩
  have hfunction : ∀ {name params body}, checkBlock "" .functionBody body = .ok () →
      Standard.proper.Good (fun _ => True) (.function name params body) := by
    intro name params body h
    simp only [Value.Within]
    exact accepted_iff.2 h
  refine ⟨.ofList fun entry he => ?_, fun a _ => ?_, fun _ _ => trivial⟩
  · simp only [List.mem_cons, List.not_mem_nil, or_false] at he
    rcases he with rfl | rfl | rfl | rfl
    · exact hcls
    · exact Value.within_object.2 ⟨trivial, trivial, hcls⟩
    · exact Value.within_tuple.2 ⟨trivial, hcls, Standard.good_scalar rfl, trivial⟩
    · exact hfunction rfl
  · match a with
    | 0 => exact .ofList fun entry he => List.mem_singleton.1 he ▸ hfunction rfl
    | 1 => exact .ofList fun entry he => List.mem_singleton.1 he ▸ hcls
    | a + 2 =>
      have hout : sampleWorld.heap.maps.size ≤ a + 2 := Nat.le_add_left 2 a
      rw [Heap.map_of_le hout]
      exact .empty

theorem sampleWorld_wellFormed : sampleWorld.WellFormed := by
  intro v hv
  refine (Standard.reachable_good sampleWorld_good.2 ?_ hv).here
  rintro v ⟨name, h⟩
  exact sampleWorld_good.1 name v h

section

attribute [local instance] Host.standard

/-- The sample module passes the check and runs to its end over the sample world, so the world it leaves is
well-formed. -/
theorem runModule_sound_sample :
    checkModule "" sampleModule = .ok () ∧ sampleWorld.WellFormed ∧
      (runModule ⟨false, 2, 1⟩ sampleModule (.start sampleWorld)).2.world.WellFormed := by
  have hchecked : checkModule "" sampleModule = .ok () := rfl
  have h := runModule_sound ⟨false, 2, 1⟩ hchecked sampleWorld.globals (.start sampleWorld) sampleWorld_wellFormed
  exact ⟨hchecked, sampleWorld_wellFormed, (h.2 (by decide +kernel)).2⟩

end

end Treewalk
