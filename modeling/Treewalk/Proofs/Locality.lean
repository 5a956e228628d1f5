/-
Calls do not depend on where they are made. Two runs of a call are followed side by side, from states that share the
global names and the heap and nothing else. A frame is only seen while it is on top, the exit points that are current
are only seen through exits, and the check keeps every exit inside the function or the class body that it stands in; so
the two runs never part.
-/
import Treewalk.Proofs.Soundness

namespace Treewalk

/-! ## States side by side -/

/-- Two records that grew by the same entries. -/
def GrownAlike {α : Type} (a₀ b₀ a b : Array α) : Prop := ∃ added, a = a₀ ++ added ∧ b = b₀ ++ added

namespace GrownAlike

variable {α : Type} {a₀ b₀ a b : Array α}

theorem refl : GrownAlike a₀ b₀ a₀ b₀ := ⟨#[], by simp, by simp⟩

theorem push (h : GrownAlike a₀ b₀ a b) (entry : α) : GrownAlike a₀ b₀ (a.push entry) (b.push entry) := by
  obtain ⟨added, rfl, rfl⟩ := h
  exact ⟨added.push entry, by simp, by simp⟩

end GrownAlike

/-- Two states with the same world, in runs that printed, traced and noted the same since they were in two others. -/
structure Beside (s₀ t₀ s t : State) : Prop where
  globals : t.env.globals = s.env.globals
  heap : t.heap = s.heap
  output : GrownAlike s₀.output t₀.output s.output t.output
  trace : GrownAlike s₀.trace t₀.trace s.trace t.trace
  log : GrownAlike s₀.log t₀.log s.log t.log

/-- Two states with the same frame on top. -/
def SameTop (s t : State) : Prop := t.env.frames.head? = s.env.frames.head?

/-- Interrupts that differ in their exit points at most. -/
inductive Interrupt.Alike : Interrupt → Interrupt → Prop
  | same (i : Interrupt) : Alike i i
  | breakLoop {target target' : ExitPoint} : Alike (.breakLoop target) (.breakLoop target')
  | continueLoop {target target' : ExitPoint} : Alike (.continueLoop target) (.continueLoop target')
  | returnCall {target target' : ExitPoint} {v : Value} : Alike (.returnCall target v) (.returnCall target' v)

theorem Interrupt.Alike.eq {i j : Interrupt} (h : i.Alike j) (hr : i.endsRound = false) (hc : i.endsCall = false) :
    i = j := by
  cases h with
  | same => rfl
  | breakLoop | continueLoop => cases hr
  | returnCall => cases hc

/-- Two runs that ended in the same way, with states and interrupts in the given relations. -/
inductive Paired (M : State → State → Prop) (N : Interrupt → Interrupt → State → State → Prop) {α : Type} :
    EStateM.Result Interrupt State α → EStateM.Result Interrupt State α → Prop
  | ok {a : α} {s t : State} (h : M s t) : Paired M N (.ok a s) (.ok a t)
  | error {i j : Interrupt} {s t : State} (h : N i j s t) : Paired M N (.error i s) (.error j t)

theorem Paired.mono {M M' : State → State → Prop} {N N' : Interrupt → Interrupt → State → State → Prop} {α : Type}
    {r r' : EStateM.Result Interrupt State α} (h : Paired M N r r') (hM : ∀ s t, M s t → M' s t)
    (hN : ∀ i j s t, N i j s t → N' i j s t) : Paired M' N' r r' := by
  cases h with
  | ok hm => exact .ok (hM _ _ hm)
  | error hn => exact .error (hN _ _ _ _ hn)

/-- Two runs that failed alike: side by side, with the same interrupt, and that is no exit. -/
structure FailedAlike (s₀ t₀ : State) (i j : Interrupt) (s t : State) : Prop where
  same : i = j
  notLoopExit : i.endsRound = false
  notReturn : i.endsCall = false
  beside : Beside s₀ t₀ s t

/-- Two states behind a class definition, with the states before it: the same class is bound in the two top frames, and
besides that only global names have changed. -/
structure MadeClass (s₀ t₀ : State) (name : String) (s t s' t' : State) : Prop where
  env : ∃ (globals : Bindings Value) (attrs : Address),
    s'.env = { s.env with globals := globals }.update name (.cls name attrs) ∧
    t'.env = { t.env with globals := globals }.update name (.cls name attrs)
  heap : t'.heap = s'.heap
  output : GrownAlike s₀.output t₀.output s'.output t'.output
  trace : GrownAlike s₀.trace t₀.trace s'.trace t'.trace
  log : GrownAlike s₀.log t₀.log s'.log t'.log

namespace Eval

/-! ## Steps side by side -/

/-- Two steps that meet a contract and keep runs side by side. -/
structure Twin (C : Contract) (M : State → State → Prop) (N : Interrupt → Interrupt → State → State → Prop) {α : Type}
    (V : α → Prop) (x y : Eval α) : Prop where
  left : C.Met V x
  right : C.Met V y
  paired : ∀ s t, C.pre s → C.pre t → M s t → Paired M N (x s) (y t)

namespace Twin

variable {C : Contract} {M : State → State → Prop} {N : Interrupt → Interrupt → State → State → Prop} {α β : Type}
  {V : α → Prop} {W : β → Prop}

theorem pure {a : α} (h : V a) : Twin C M N V (pure a) (pure a) := ⟨.pure h, .pure h, fun _ _ _ _ hm => .ok hm⟩

theorem bind {x y : Eval α} {f g : α → Eval β} (hx : Twin C M N V x y) (hf : ∀ a, V a → Twin C M N W (f a) (g a)) :
    Twin C M N W (x >>= f) (y >>= g) := by
  refine ⟨hx.left.bind fun a ha => (hf a ha).left, hx.right.bind fun a ha => (hf a ha).right, ?_⟩
  intro s t hs ht hm
  have hp := hx.paired s t hs ht hm
  generalize hxs : x s = r, hyt : y t = r' at hp
  cases hp with
  | error hn =>
    rw [bind_error hxs, bind_error hyt]
    exact .error hn
  | ok hm' =>
    rw [bind_ok hxs, bind_ok hyt]
    obtain ⟨ha, hs'⟩ := hx.left.of_ok hs hxs
    obtain ⟨-, ht'⟩ := hx.right.of_ok ht hyt
    exact (hf _ ha).paired _ _ (C.keep hs hs') (C.keep ht ht') hm'

end Twin

/-- What two runs share at a site. -/
def Matched (s₀ t₀ : State) : Site → State → State → Prop
  | .call, s, t => Beside s₀ t₀ s t
  | .expression, s, t | .block _, s, t => Beside s₀ t₀ s t ∧ SameTop s t

/-- What two interrupted runs share; where a loop goes on with one of them, the top frame too. -/
def Stopped (s₀ t₀ : State) (i j : Interrupt) (s t : State) : Prop :=
  i.Alike j ∧ Beside s₀ t₀ s t ∧ (i.endsRound = true → SameTop s t)

variable {S : Standard} {live : Address → Prop} {s₀ t₀ : State}

theorem Matched.beside : ∀ {site : Site} {s t : State}, Matched s₀ t₀ site s t → Beside s₀ t₀ s t
  | .call, _, _, h => h
  | .expression, _, _, h | .block _, _, _, h => h.1

/-- Two steps at a site that keep to a standard and stay side by side. -/
abbrev Twins (S : Standard) (live : Address → Prop) (s₀ t₀ : State) {α : Type} (site : Site) (V : α → Prop)
    (x y : Eval α) : Prop :=
  Twin (keepingTo S live site) (Matched s₀ t₀ site) (Stopped s₀ t₀) V x y

theorem stopped_of_failedAlike {i j : Interrupt} {s t : State} (h : FailedAlike s₀ t₀ i j s t) :
    Stopped s₀ t₀ i j s t := by
  obtain ⟨rfl, hloop, -, hb⟩ := h
  refine ⟨.same i, hb, fun hi => ?_⟩
  rw [hloop] at hi
  cases hi

theorem failedAlike_of_stopped {site : Site} (hsite : site.surroundings = .outermost) {i j : Interrupt}
    {s s' t' : State} (h : Stopped s₀ t₀ i j s' t') (hp : S.Promises live site s i s') :
    FailedAlike s₀ t₀ i j s' t' := by
  have hexit : i.endsRound = false ∧ i.endsCall = false := by
    cases i with
    | breakLoop _ | continueLoop _ | returnCall _ _ => exact absurd (hsite ▸ hp.1) nofun
    | error _ | unwritable _ | overflow | stalled => exact ⟨rfl, rfl⟩
  exact ⟨h.1.eq hexit.1 hexit.2, hexit.1, hexit.2, h.2.1⟩

/-- A step that looks at nothing but what two runs share at its site. -/
def Shared (s₀ t₀ : State) (site : Site) {α : Type} (x : Eval α) : Prop :=
  ∀ s t, Matched s₀ t₀ site s t → Paired (Matched s₀ t₀ site) (Stopped s₀ t₀) (x s) (x t)

namespace Shared

variable {α β : Type} {site : Site}

theorem twins {V : α → Prop} {x : Eval α} (hx : Shared s₀ t₀ site x) (h : KeptTo S live site V x) :
    Twins S live s₀ t₀ site V x x :=
  ⟨h, h, fun s t _ _ hm => hx s t hm⟩

theorem pure (a : α) : Shared s₀ t₀ site (pure a) := fun _ _ hm => .ok hm

theorem throw {i : Interrupt} (hi : i.endsRound = false) : Shared s₀ t₀ site (throw i : Eval α) := by
  intro s t hm
  refine .error ⟨.same i, hm.beside, fun he => ?_⟩
  rw [hi] at he
  cases he

theorem bind {x : Eval α} {f : α → Eval β} (hx : Shared s₀ t₀ site x) (hf : ∀ a, Shared s₀ t₀ site (f a)) :
    Shared s₀ t₀ site (x >>= f) := by
  intro s t hm
  have hp := hx s t hm
  generalize hxs : x s = r, hxt : x t = r' at hp
  cases hp with
  | error hn =>
    rw [bind_error hxs, bind_error hxt]
    exact .error hn
  | ok hm' =>
    rw [bind_ok hxs, bind_ok hxt]
    exact hf _ _ _ hm'

theorem get {f : State → Eval α} (hf : ∀ s t, Matched s₀ t₀ site s t → f t = f s)
    (h : ∀ s, Shared s₀ t₀ site (f s)) : Shared s₀ t₀ site (do f (← get)) := by
  intro s t hm
  show Paired _ _ (f s s) (f t t)
  rw [hf s t hm]
  exact h s s t hm

theorem modifyGet {f : State → α × State}
    (hf : ∀ s t, Matched s₀ t₀ site s t → (f t).1 = (f s).1 ∧ Matched s₀ t₀ site (f s).2 (f t).2) :
    Shared s₀ t₀ site (modifyGet f : Eval α) := by
  intro s t hm
  obtain ⟨ha, hm'⟩ := hf s t hm
  show Paired _ _ (.ok (f s).1 (f s).2) (.ok (f t).1 (f t).2)
  rw [ha]
  exact .ok hm'

theorem ofExcept (x : Except EvalError α) : Shared s₀ t₀ site (ofExcept x) := by
  cases x with
  | ok a => exact .pure a
  | error e => exact .throw rfl

theorem ofFailure (x : Except Failure α) : Shared s₀ t₀ site (ofFailure x) := by
  cases x with
  | ok a => exact .pure a
  | error f =>
    cases f with
    | error e => exact .throw rfl
    | unwritable cause => exact .throw rfl

theorem ofText {α : Type} (x : Except Unwritable α) : Shared s₀ t₀ site (ofText x) := by
  cases x with
  | ok s => exact .pure s
  | error cause => exact .throw rfl

end Shared

/-! ## The steps of evaluation -/

theorem Matched.with_heap {site : Site} {s t : State} (h : Matched s₀ t₀ site s t) (heap : Heap) :
    Matched s₀ t₀ site { s with heap := heap } { t with heap := heap } := by
  have hb : Beside s₀ t₀ { s with heap := heap } { t with heap := heap } :=
    ⟨h.beside.globals, rfl, h.beside.output, h.beside.trace, h.beside.log⟩
  cases site with
  | call => exact hb
  | expression => exact ⟨hb, h.2⟩
  | block _ => exact ⟨hb, h.2⟩

theorem shared_print (line : Text) : Shared s₀ t₀ .call (print line) :=
  .modifyGet fun _ _ hm => ⟨rfl, hm.globals, hm.heap, hm.output.push line, hm.trace, hm.log⟩

theorem shared_getAttr (name : String) (v : Value) : Shared s₀ t₀ .call (getAttr name v) :=
  .get (fun s t hm => by rw [hm.heap]) fun s => .ofExcept _

theorem shared_findMethod (name : String) (v : Value) : Shared s₀ t₀ .call (findMethod name v) := by
  refine .get (fun s t hm => by rw [hm.heap]) fun s => .bind (.ofExcept _) fun found => ?_
  cases found with
  | none => exact .throw rfl
  | some method => exact .pure method

theorem shared_setAttr (name : String) (v target : Value) : Shared s₀ t₀ .call (setAttr name v target) :=
  .get (fun s t hm => by rw [hm.heap]) fun s => .bind (.ofExcept _) fun heap =>
    .modifyGet fun _ _ hm => ⟨rfl, hm.with_heap heap⟩

theorem shared_newObject (type : Value) : Shared s₀ t₀ .call (newObject type) := by
  refine .modifyGet fun s t hm => ?_
  rw [hm.heap]
  exact ⟨rfl, hm.with_heap _⟩

theorem shared_lookup (name : String) : Shared s₀ t₀ .expression (lookup name) := by
  refine .get (fun s t hm => ?_) fun s => .ofExcept _
  unfold Environment.lookup
  rw [Environment.get?_of_top s.env name hm.1.globals hm.2]

theorem shared_update (sur : Surroundings) (name : String) (v : Value) : Shared s₀ t₀ (.block sur) (update name v) := by
  refine .modifyGet fun s t hm => ?_
  obtain ⟨hg, hf⟩ := Environment.update_of_top s.env name v hm.1.globals hm.2
  exact ⟨rfl, ⟨hg, hm.1.heap, hm.1.output, hm.1.trace, hm.1.log⟩, hf⟩

theorem shared_announce (sur : Surroundings) (settings : Settings) (st : Stmt) :
    Shared s₀ t₀ (.block sur) (announce settings st) := by
  unfold announce
  split
  · refine .bind (.ofText _) fun text => .modifyGet fun s t hm => ?_
    exact ⟨rfl, ⟨hm.1.globals, hm.1.heap, hm.1.output, hm.1.trace.push _, hm.1.log⟩, hm.2⟩
  · exact .pure ()

theorem twins_expression {α : Type} {V : α → Prop} {x y : Eval α} (h : Twins S live s₀ t₀ .call V x y) :
    Twins S live s₀ t₀ .expression V x y := by
  refine ⟨keptTo_expression h.left, keptTo_expression h.right, fun s t hs ht hm => ?_⟩
  have hp := h.paired s t hs.1 ht.1 hm.1
  generalize hxs : x s = r, hyt : y t = r' at hp
  cases hp with
  | error hn => exact .error hn
  | ok hm' =>
    -- Neither run has moved its frames, so the top frames still agree.
    obtain ⟨-, hu, -⟩ := h.left.of_ok hs.1 hxs
    obtain ⟨-, hu', -⟩ := h.right.of_ok ht.1 hyt
    refine .ok ⟨hm', ?_⟩
    rw [SameTop, hu.frames, hu'.frames]
    exact hm.2

theorem twins_block {α : Type} {sur : Surroundings} {V : α → Prop} {x y : Eval α}
    (h : Twins S live s₀ t₀ .expression V x y) : Twins S live s₀ t₀ (.block sur) V x y :=
  ⟨keptTo_block h.left, keptTo_block h.right, fun s t hs ht hm => h.paired s t ⟨hs.1, hs.2.1⟩ ⟨ht.1, ht.2.1⟩ hm⟩

theorem twins_breakOut {sur : Surroundings} (h : sur.inLoop = true) :
    Twins S live s₀ t₀ (.block sur) (fun _ => True) breakOut breakOut := by
  refine ⟨keptTo_breakOut h, keptTo_breakOut h, fun s t hs ht hm => ?_⟩
  obtain ⟨f, hf⟩ := hs.2.2.loop h
  obtain ⟨f', hf'⟩ := ht.2.2.loop h
  rw [breakOut_apply, breakOut_apply, hf, hf']
  exact .error ⟨.breakLoop, hm.1, fun _ => hm.2⟩

theorem twins_continueOn {sur : Surroundings} (h : sur.inLoop = true) :
    Twins S live s₀ t₀ (.block sur) (fun _ => True) continueOn continueOn := by
  refine ⟨keptTo_continueOn h, keptTo_continueOn h, fun s t hs ht hm => ?_⟩
  obtain ⟨f, hf⟩ := hs.2.2.loop h
  obtain ⟨f', hf'⟩ := ht.2.2.loop h
  rw [continueOn_apply, continueOn_apply, hf, hf']
  exact .error ⟨.continueLoop, hm.1, fun _ => hm.2⟩

theorem twins_returnWith {sur : Surroundings} {v : Value} (h : sur.inFunction = true) (hv : S.Good live v) :
    Twins S live s₀ t₀ (.block sur) (fun _ => True) (returnWith v) (returnWith v) := by
  refine ⟨keptTo_returnWith h hv, keptTo_returnWith h hv, fun s t hs ht hm => ?_⟩
  obtain ⟨target, hr⟩ := hs.2.2.function h
  obtain ⟨target', hr'⟩ := ht.2.2.function h
  rw [returnWith_apply, returnWith_apply, hr, hr']
  exact .error ⟨.returnCall, hm.1, nofun⟩

/-! ## Loops, class bodies and calls -/

section

variable {sur : Surroundings} {test test' : Eval Bool} {body body' orelse orelse' : Eval Unit}

theorem twins_turn (ht : Twins S live s₀ t₀ (.block sur) (fun _ => True) test test')
    (hb : Twins S live s₀ t₀ (.block sur) (fun _ => True) body body')
    (ho : Twins S live s₀ t₀ (.block sur) (fun _ => True) orelse orelse') :
    Twins S live s₀ t₀ (.block sur) (fun _ => True) (turn test body orelse) (turn test' body' orelse') := by
  refine .bind ht fun b _ => ?_
  cases b with
  | true => exact .bind hb fun _ _ => .pure trivial
  | false => exact .bind ho fun _ _ => .pure trivial

theorem beside_roundState {s t : State} (h : Beside s₀ t₀ s t) (b b' : ExitPoint) :
    Beside s₀ t₀ (roundState b s) (roundState b' t) :=
  ⟨h.globals, h.heap, h.output, h.trace, h.log⟩

theorem twins_round
    (h : Twins S live s₀ t₀ (.block sur.loopBody) (fun _ => True) (turn test body orelse) (turn test' body' orelse'))
    (b b' : ExitPoint) :
    Twin (roundsKeepingTo S live sur) (Matched s₀ t₀ (.block sur)) (Stopped s₀ t₀) (fun _ => True)
      (round b test body orelse) (round b' test' body' orelse') := by
  refine ⟨keptTo_round h.left b, keptTo_round h.right b', fun s t hs ht hm => ?_⟩
  -- The rounds have different exit points, but each catches all that reach it.
  have hs' := ready_roundState hs b
  have ht' := ready_roundState ht b'
  rw [round_caught fun i s' hr => (h.left.of_error hs' hr).1, round_caught fun i s' hr => (h.right.of_error ht' hr).1]
  have hp := h.paired _ _ hs' ht' ⟨beside_roundState hm.1 b b', hm.2⟩
  generalize turn test body orelse (roundState b s) = r, turn test' body' orelse' (roundState b' t) = r' at hp
  cases hp with
  | ok hm' => exact .ok hm'
  | @error i j s' t' hn =>
    obtain ⟨halike, hb, htop⟩ := hn
    cases halike with
    | breakLoop | continueLoop => exact .ok ⟨hb, htop rfl⟩
    | returnCall => exact .error ⟨.returnCall, hb, htop⟩
    | same =>
      cases i with
      | breakLoop _ | continueLoop _ => exact .ok ⟨hb, htop rfl⟩
      | error _ | unwritable _ | returnCall _ _ | overflow | stalled => exact .error ⟨.same _, hb, htop⟩

theorem twins_rounds
    (h : Twins S live s₀ t₀ (.block sur.loopBody) (fun _ => True) (turn test body orelse) (turn test' body' orelse'))
    (b b' : ExitPoint) : ∀ limit : Nat,
    Twin (roundsKeepingTo S live sur) (Matched s₀ t₀ (.block sur)) (Stopped s₀ t₀) (fun _ => True)
      (rounds b test body orelse limit) (rounds b' test' body' orelse' limit)
  | 0 => ⟨keptTo_rounds h.left 0 b, keptTo_rounds h.right 0 b', fun s t _ _ hm => .error ⟨.same _, hm.1, nofun⟩⟩
  | limit + 1 => by
    refine .bind (twins_round h b b') fun again _ => ?_
    cases again with
    | true => exact twins_rounds h b b' limit
    | false => exact .pure trivial

theorem twins_loop {limit : Nat}
    (h : Twins S live s₀ t₀ (.block sur.loopBody) (fun _ => True) (turn test body orelse) (turn test' body' orelse')) :
    Twins S live s₀ t₀ (.block sur) (fun _ => True) (loop limit test body orelse) (loop limit test' body' orelse') := by
  refine ⟨keptTo_loop h.left, keptTo_loop h.right, fun s t hs ht hm => ?_⟩
  have hend : ∀ {s' t' : State} {f f' : Option Flow}, Beside s₀ t₀ s' t' →
      Beside s₀ t₀ (s'.setFlow f) (t'.setFlow f') := fun h => ⟨h.globals, h.heap, h.output, h.trace, h.log⟩
  have hp := (twins_rounds h ⟨"break", s.nextExit⟩ ⟨"break", t.nextExit⟩ limit).paired _ _ (ready_loopStart hs)
    (ready_loopStart ht) ⟨⟨hm.1.globals, hm.1.heap, hm.1.output, hm.1.trace, hm.1.log⟩, hm.2⟩
  rw [loop_apply, loop_apply]
  generalize hr : rounds ⟨"break", s.nextExit⟩ test body orelse limit { s with nextExit := s.nextExit + 1 } = r,
    hr' : rounds ⟨"break", t.nextExit⟩ test' body' orelse' limit { t with nextExit := t.nextExit + 1 } = r' at hp
  cases hp with
  | ok hm' =>
    rw [afterwards_ok hr, afterwards_ok hr']
    exact .ok ⟨hend hm'.1, hm'.2⟩
  | error hn =>
    rw [afterwards_error hr, afterwards_error hr']
    exact .error ⟨hn.1, hend hn.2.1, hn.2.2⟩

end

theorem beside_pushFrame {s t : State} (h : Beside s₀ t₀ s t) :
    Beside s₀ t₀ { s with env := s.env.pushFrame } { t with env := t.env.pushFrame } :=
  ⟨h.globals, h.heap, h.output, h.trace, h.log⟩

theorem classState_env {name : String} {s s' : State} (hl : Confined { s with env := s.env.pushFrame } s')
    (hf : s'.env.flow = s.env.flow) (hlevel : SameLevel { s with env := s.env.pushFrame } s') :
    (classState name s').env =
      { s.env with globals := s'.env.globals }.update name (.cls name s'.heap.maps.size) := by
  have hframes : s'.env.frames.tail = s.env.frames := hlevel.below
  have hreturn : s'.env.returnTarget = s.env.returnTarget := hl.returnTarget
  show Environment.update ⟨s'.env.globals, s'.env.frames.tail, s'.env.returnTarget, s'.env.flow⟩ _ _ = _
  rw [hframes, hreturn, hf]

/-- Of the frames around a class definition, its body sees none. -/
theorem defineClass_paired {name : String} {body body' : Eval Unit} {s t : State}
    (h : Twins S live s₀ t₀ (.block .outermost) (fun _ => True) body body') (hs : S.WorldOk live s)
    (ht : S.WorldOk live t) (hb : Beside s₀ t₀ s t) :
    Paired (MadeClass s₀ t₀ name s t) (FailedAlike s₀ t₀) (defineClass name body s) (defineClass name body' t) := by
  have hs' := ready_pushFrame hs
  have ht' := ready_pushFrame ht
  have hp := h.paired _ _ hs' ht' ⟨beside_pushFrame hb, rfl⟩
  rw [defineClass_apply, defineClass_apply]
  generalize hr : body { s with env := s.env.pushFrame } = r, hr' : body' { t with env := t.env.pushFrame } = r' at hp
  cases hp with
  | @error i j u v hn =>
    rw [bind_error hr, bind_error hr']
    exact .error (failedAlike_of_stopped rfl hn (h.left.of_error hs' hr).2.2)
  | @ok _ u v hm =>
    obtain ⟨-, hl, hlevel, -⟩ := h.left.of_ok hs' hr
    obtain ⟨-, hl', hlevel', -⟩ := h.right.of_ok ht' hr'
    rw [bind_ok hr, bind_ok hr', finishClass_apply name (leaves_classEnd name hl.1 hl.2).1,
      finishClass_apply name (leaves_classEnd name hl'.1 hl'.2).1]
    -- The bodies ended with equal top frames, so the attributes are the same, and so are the addresses they get.
    have hentries : v.env.top = u.env.top := Environment.top_of_top u.env hm.1.globals hm.2
    have henv : (classState name v).env =
        { t.env with globals := u.env.globals }.update name (.cls name u.heap.maps.size) := by
      rw [classState_env hl'.1 hl'.2 hlevel', hm.1.globals, hm.1.heap]
    refine .ok ⟨⟨_, _, classState_env hl.1 hl.2 hlevel, henv⟩, ?_, hm.1.output, hm.1.trace, ?_⟩
    · show (v.heap.alloc v.env.top).2 = (u.heap.alloc u.env.top).2
      rw [hentries, hm.1.heap]
    · show GrownAlike _ _ (u.log.push _) (v.log.push _)
      rw [hentries]
      exact hm.1.log.push _

theorem matched_of_madeClass {name : String} {s t s' t' : State} {sur : Surroundings}
    (h : MadeClass s₀ t₀ name s t s' t') (htop : SameTop s t) : Matched s₀ t₀ (.block sur) s' t' := by
  obtain ⟨⟨globals, attrs, henv, henv'⟩, hheap, hout, htrace, hlog⟩ := h
  have hsame : ({ t.env with globals := globals } : Environment).globals =
      ({ s.env with globals := globals } : Environment).globals := rfl
  obtain ⟨hglobals, hframes⟩ := Environment.update_of_top _ name (.cls name attrs) hsame htop
  refine ⟨⟨?_, hheap, hout, htrace, hlog⟩, ?_⟩
  · rw [henv, henv']
    exact hglobals
  · rw [SameTop, henv, henv']
    exact hframes

theorem twins_defineClass {sur : Surroundings} {name : String} {body body' : Eval Unit}
    (h : Twins S live s₀ t₀ (.block .outermost) (fun _ => True) body body') :
    Twins S live s₀ t₀ (.block sur) (fun _ => True) (defineClass name body) (defineClass name body') := by
  refine ⟨keptTo_defineClass h.left, keptTo_defineClass h.right, fun s t hs ht hm => ?_⟩
  exact (defineClass_paired h hs.1 ht.1 hm.1).mono (fun s' t' hmade => matched_of_madeClass hmade hm.2)
    fun i j s' t' hn => stopped_of_failedAlike hn

section

variable {name : String} {params : List String} {args : List Value} {body body' : Eval Unit}

theorem beside_callState {s t : State} (h : Beside s₀ t₀ s t) :
    Beside s₀ t₀ (callState name params args s) (callState name params args t) :=
  ⟨h.globals, h.heap, h.output, h.trace, h.log.push _⟩

theorem beside_backFrom {s t s' t' : State} (h : Beside s₀ t₀ s' t') : Beside s₀ t₀ (backFrom s s') (backFrom t t') :=
  ⟨h.globals, h.heap, h.output, h.trace, h.log⟩

theorem twins_runFunction (hargs : ∀ v ∈ args, S.Good live v)
    (h : Twins S live s₀ t₀ (.block .functionBody) (fun _ => True) body body') :
    Twins S live s₀ t₀ .call (S.Good live) (runFunction name params args body)
      (runFunction name params args body') := by
  refine ⟨keptTo_runFunction hargs h.left, keptTo_runFunction hargs h.right, fun s t hs ht hm => ?_⟩
  have hs' : S.Ready live (.block .functionBody) (callState name params args s) := ready_callState hs hargs
  have ht' : S.Ready live (.block .functionBody) (callState name params args t) := ready_callState ht hargs
  have hp := h.paired _ _ hs' ht' ⟨beside_callState hm, rfl⟩
  rw [runFunction_caught fun i s' hr => (h.left.of_error hs' hr).1,
    runFunction_caught fun i s' hr => (h.right.of_error ht' hr).1]
  generalize hr : body (callState name params args s) = r, body' (callState name params args t) = r' at hp
  cases hp with
  | ok hm' => exact .ok (beside_backFrom hm'.1)
  | @error i j s' t' hn =>
    -- The check keeps exits of loops inside the body; a `return` ends both calls with its value.
    obtain ⟨-, -, hpromises⟩ := h.left.of_error hs' hr
    obtain ⟨halike, hb, -⟩ := hn
    cases halike with
    | breakLoop | continueLoop => exact absurd hpromises.1 nofun
    | returnCall => exact .ok (beside_backFrom hb)
    | same =>
      cases i with
      | breakLoop _ | continueLoop _ => exact absurd hpromises.1 nofun
      | returnCall _ _ => exact .ok (beside_backFrom hb)
      | error _ | unwritable _ | overflow | stalled => exact .error ⟨.same _, beside_backFrom hb, nofun⟩

end

/-! ## Evaluation -/

/-- Every step of a checked program stays side by side with itself. -/
def locality [Host] (settings : Settings) (hS : S.ChecksBodies) (live : Address → Prop) (s₀ t₀ : State) :
    Discipline settings settings :=
  let D := soundness settings settings hS live
  { checked := True
    Good := S.Good live
    Rel := fun site V x y => Twins S live s₀ t₀ site V x y
    ret := .pure
    seq := .bind
    ofCall := twins_expression
    ofExpression := twins_block
    literal := D.literal
    tuple := D.tuple
    function := D.function
    accepted := D.accepted
    failing := fun h => (Shared.throw rfl).twins (keptTo_fail (S.ordinary h))
    unwritable := fun _ => (Shared.throw rfl).twins (keptTo_throw (fun _ => trivial) fun _ => trivial)
    overflow := (Shared.throw rfl).twins (keptTo_throw (fun _ => trivial) fun _ => trivial)
    truth := fun h => (Shared.ofExcept _).twins (D.truth h)
    unary := fun h => (Shared.ofExcept _).twins (D.unary h)
    binary := fun h h' => (Shared.ofExcept _).twins (D.binary h h')
    compare := fun h h' => (Shared.ofFailure _).twins (D.compare h h')
    text := fun h => (Shared.ofFailure _).twins (D.text h)
    print := fun line => (shared_print line).twins (D.print line)
    getAttr := fun h => (shared_getAttr _ _).twins (D.getAttr h)
    findMethod := fun h => (shared_findMethod _ _).twins (D.findMethod h)
    setAttr := fun h h' => (shared_setAttr _ _ _).twins (D.setAttr h h')
    newObject := fun h => (shared_newObject _).twins (D.newObject h)
    runFunction := twins_runFunction
    lookup := fun name => (shared_lookup name).twins (D.lookup name)
    update := fun h => (shared_update _ _ _).twins (D.update h)
    announce := fun s st => (shared_announce s settings st).twins (D.announce s st)
    breakOut := fun h => twins_breakOut (h trivial)
    continueOn := fun h => twins_continueOn (h trivial)
    returnWith := fun h hv => twins_returnWith (h trivial) hv
    loop := fun ht hb ho => twins_loop (twins_turn ht hb ho)
    defineClass := twins_defineClass }

end Eval

/-- Functions have bodies that pass the check; nothing is said of other values. -/
def Value.BodyChecked : Value → Prop
  | .function _ _ body => Accepted .functionBody body
  | _ => True

theorem Value.Proper.bodyChecked {v : Value} (h : v.Proper) : v.BodyChecked := by
  cases v with
  | function _ _ _ => exact h
  | none | bool _ | int _ | float _ | imaginary _ _ | string _ | tuple _ | cls _ _ | object _ _ | foreign _ => trivial

/-- Only functions are held to anything, and operations on values may fail in every way. -/
def Standard.bodies : Standard where
  fits := Value.BodyChecked
  admits := Standard.any.admits
  scalar {v} h := by
    cases v with
    | function _ _ _ => cases h
    | none | bool _ | int _ | float _ | imaginary _ _ | string _ | tuple _ | cls _ _ | object _ _ | foreign _ => trivial
  tuple := trivial
  cls := trivial
  object := trivial
  ordinary := Standard.any.ordinary
  foreign _ := Standard.any.foreign trivial
  unclassed {_ own} _ hne := Standard.any.unclassed (show Standard.any.fits (.object _ own) from trivial) hne
  unescaped := Standard.any.unescaped

theorem Standard.bodies_checksBodies : Standard.bodies.ChecksBodies := fun _ _ _ => Iff.rfl

/-! ## Calls and classes -/

section

open Eval

variable {s t : State}

theorem Beside.start (hglobals : t.env.globals = s.env.globals) (hheap : t.heap = s.heap) : Beside s t s t :=
  ⟨hglobals, hheap, .refl, .refl, .refl⟩

theorem Standard.WorldOk.beside {S : Standard} {live : Address → Prop} (h : S.WorldOk live s)
    (hglobals : t.env.globals = s.env.globals) (hheap : t.heap = s.heap) : S.WorldOk live t :=
  ⟨hglobals ▸ h.globals, hheap ▸ h.heap⟩

/-- Calls do not depend on where they are made. From any two states with the same global names and the same heap,
whatever their frames and current exit points are, a call to the same depth ends with the same value or the same error,
leaves the same global names and the same heap, and prints, traces and notes the same, provided that all functions it
can reach pass the check. Likewise a class definition whose body passes the check makes the same class whatever frames
are around it. -/
theorem invoke_independent_of_frames [Host] (settings : Settings) (depth : Nat) (hglobals : t.env.globals = s.env.globals)
    (hheap : t.heap = s.heap) :
    (∀ (callee : Value) (args : List Value),
      (∀ v, Reachable s.heap (fun v => v = callee ∨ v ∈ args ∨ s.world.Bound v) v → v.BodyChecked) →
      Paired (Beside s t) (FailedAlike s t) (invoke settings depth callee args s)
        (invoke settings depth callee args t)) ∧
    ∀ (name : String) (bases : List Expr) (keywords : List Keyword) (body : List Stmt) (decorators : List Expr),
      Accepted .outermost body → (∀ v, Reachable s.heap s.world.Bound v → v.BodyChecked) →
      Paired (MadeClass s t name s t) (FailedAlike s t)
        (stmt settings (invoke settings depth) (.classDef name bases keywords body decorators) s)
        (stmt settings (invoke settings depth) (.classDef name bases keywords body decorators) t) := by
  have hstart := Beside.start hglobals hheap
  constructor
  · intro callee args hreach
    let roots : Value → Prop := fun v => v = callee ∨ v ∈ args ∨ s.world.Bound v
    have hfit : ∀ v, Reachable s.heap roots v → Standard.bodies.fits v := hreach
    have hw : Standard.bodies.WorldOk (Live s.heap roots) s :=
      Standard.worldOk_of_reachable (fun v hv => .inr (.inr hv)) hfit
    have hgood : ∀ v, roots v → Standard.bodies.Good (Live s.heap roots) v := fun v hv =>
      Standard.good_of_reachable hfit (.root hv)
    let D := locality settings Standard.bodies_checksBodies (Live s.heap roots) s t
    have hcall : Twins .bodies (Live s.heap roots) s t .call (Standard.bodies.Good (Live s.heap roots))
        (invoke settings depth callee args) (invoke settings depth callee args) :=
      D.invoke depth callee args (hgood _ (.inl rfl)) fun v hv => hgood v (.inr (.inl hv))
    have hp := hcall.paired s t hw (hw.beside hglobals hheap) hstart
    generalize hr : invoke settings depth callee args s = r, invoke settings depth callee args t = r' at hp
    cases hp with
    | ok hm => exact .ok hm
    | error hn => exact .error (failedAlike_of_stopped rfl hn (hcall.left.of_error hw hr).2.2)
  · intro name bases keywords body decorators hbody hreach
    have hfit : ∀ v, Reachable s.heap s.world.Bound v → Standard.bodies.fits v := hreach
    have hw : Standard.bodies.WorldOk (Live s.heap s.world.Bound) s :=
      Standard.worldOk_of_reachable (fun v hv => hv) hfit
    let D := locality settings Standard.bodies_checksBodies (Live s.heap s.world.Bound) s t
    rw [stmt]
    split
    · exact .error ⟨rfl, rfl, rfl, hstart⟩
    · have hblock := D.block (D.invoke depth) .outermost body fun _ => hbody
      exact defineClass_paired hblock hw (hw.beside hglobals hheap) hstart

end

/-- The sample world, seen from inside a class body in a call in a loop. -/
def sampleElsewhere : State where
  env :=
    { globals := sampleWorld.globals
      frames := [.block (.ofList [("f", .int 1)]), .call (.ofList [("C", .none)])]
      returnTarget := some ⟨"return from g", 3⟩
      flow := some ⟨⟨"break", 1⟩, ⟨"continue", 2⟩⟩ }
  heap := sampleWorld.heap
  nextExit := 4
  output := #["earlier"]
  trace := #[]
  log := #[.evaluating unnamedFile]

theorem sampleWorld_bodyChecked {v : Value}
    (h : Reachable sampleWorld.heap (fun v => v = sampleFunction ∨ v ∈ [.cls "C" 0] ∨ sampleWorld.Bound v) v) :
    v.BodyChecked := by
  have hbound : ∀ v, sampleWorld.Bound v → Standard.proper.Good (fun _ => True) v := by
    rintro v ⟨name, hv⟩
    exact sampleWorld_good.1 name v hv
  have hgood : Standard.proper.Good (fun _ => True) v := by
    refine Standard.reachable_good sampleWorld_good.2 ?_ h
    rintro v (rfl | hv | hv)
    · exact hbound _ ⟨"f", rfl⟩
    · exact hbound _ ⟨"C", by rw [List.mem_singleton.1 hv]; rfl⟩
    · exact hbound v hv
  exact hgood.here.bodyChecked

section

attribute [local instance] Host.standard

/-- The same call and the same class definition, at the top of a module and elsewhere. -/
theorem invoke_independent_of_frames_sample :
    Paired (Beside (.start sampleWorld) sampleElsewhere) (FailedAlike (.start sampleWorld) sampleElsewhere)
        (Eval.invoke ⟨false, 3, 3⟩ 2 sampleFunction [.cls "C" 0] (.start sampleWorld))
        (Eval.invoke ⟨false, 3, 3⟩ 2 sampleFunction [.cls "C" 0] sampleElsewhere) ∧
      Paired (MadeClass (.start sampleWorld) sampleElsewhere "D" (.start sampleWorld) sampleElsewhere)
        (FailedAlike (.start sampleWorld) sampleElsewhere)
        (Eval.stmt ⟨false, 3, 3⟩ (Eval.invoke ⟨false, 3, 3⟩ 2) (.classDef "D" [] [] [.pass] []) (.start sampleWorld))
        (Eval.stmt ⟨false, 3, 3⟩ (Eval.invoke ⟨false, 3, 3⟩ 2) (.classDef "D" [] [] [.pass] []) sampleElsewhere) := by
  have hglobals : sampleElsewhere.env.globals = (State.start sampleWorld).env.globals := rfl
  have hheap : sampleElsewhere.heap = (State.start sampleWorld).heap := rfl
  obtain ⟨hcall, hclass⟩ := invoke_independent_of_frames ⟨false, 3, 3⟩ 2 hglobals hheap
  have hbody : Accepted .outermost [.pass] := fun _ => rfl
  refine ⟨hcall _ _ fun v hv => sampleWorld_bodyChecked hv, hclass _ _ _ _ _ hbody fun v hv => ?_⟩
  exact sampleWorld_bodyChecked (hv.mono fun w hw => .inr (.inr hw))

end

end Treewalk
