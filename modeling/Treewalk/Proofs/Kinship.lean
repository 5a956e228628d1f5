/-
Evaluation does not see the numbers of exit points. Two runs are followed from states that agree in all names, in the
heap and in what was printed and noted, and that may have different exit points: they take the same steps and agree in
the end, for a loop or a call catches its own exits whatever their numbers are. In programs that pass the check the runs
may even differ in whether a loop is around them, where no exit of a loop may stand.
-/
import Treewalk.Proofs.Binding
import Treewalk.Proofs.Locality

namespace Treewalk

/-! ## States that are akin -/

/-- Two states that differ at most in their exit points and in what was traced. -/
structure Akin (s t : State) : Prop where
  globals : t.env.globals = s.env.globals
  frames : t.env.frames = s.env.frames
  returns : t.env.returnTarget.isSome = s.env.returnTarget.isSome
  heap : t.heap = s.heap
  output : t.output = s.output
  log : t.log = s.log

namespace Akin

variable {s t : State}

theorem refl (s : State) : Akin s s := ⟨rfl, rfl, rfl, rfl, rfl, rfl⟩

theorem get? (h : Akin s t) (name : String) : t.env.get? name = s.env.get? name :=
  Environment.get?_of_top s.env name h.globals (by rw [h.frames])

theorem top (h : Akin s t) : t.env.top = s.env.top :=
  Environment.top_of_top s.env h.globals (by rw [h.frames])

theorem with_heap (h : Akin s t) (heap : Heap) : Akin { s with heap := heap } { t with heap := heap } :=
  ⟨h.globals, h.frames, h.returns, rfl, h.output, h.log⟩

theorem update (h : Akin s t) (name : String) (v : Value) :
    Akin { s with env := s.env.update name v } { t with env := t.env.update name v } := by
  obtain ⟨⟨globals, frames, returnTarget, flow⟩, heap, nextExit, output, trace, log⟩ := s
  obtain ⟨⟨globals', frames', returnTarget', flow'⟩, heap', nextExit', output', trace', log'⟩ := t
  obtain ⟨rfl, rfl, hreturns, rfl, rfl, rfl⟩ := h
  rcases frames' with _ | ⟨_ | _, _⟩ <;> exact ⟨rfl, rfl, hreturns, rfl, rfl, rfl⟩

theorem setFlow (h : Akin s t) (flow flow' : Option Flow) : Akin (s.setFlow flow) (t.setFlow flow') :=
  ⟨h.globals, h.frames, h.returns, h.heap, h.output, h.log⟩

theorem pushFrame (h : Akin s t) : Akin { s with env := s.env.pushFrame } { t with env := t.env.pushFrame } :=
  ⟨h.globals, congrArg (List.cons _) h.frames, h.returns, h.heap, h.output, h.log⟩

theorem classState (h : Akin s t) (name : String) : Akin (Eval.classState name s) (Eval.classState name t) := by
  let popped (u : State) : State :=
    { u with
      env := { u.env with frames := u.env.frames.tail }
      heap := (u.heap.alloc u.env.top).2
      log := u.log.push (.createdClass name (Eval.sortedNames u.env.top.keys)) }
  have hpopped : Akin (popped s) (popped t) := by
    refine ⟨h.globals, congrArg List.tail h.frames, h.returns, ?_, h.output, ?_⟩
    · simp only [popped, h.heap, h.top]
    · simp only [popped, h.log, h.top]
  have hsize : t.heap.maps.size = s.heap.maps.size := by rw [h.heap]
  have hbound := hpopped.update name (.cls name s.heap.maps.size)
  rw [Eval.classState, Eval.classState, hsize]
  exact hbound

theorem callState (h : Akin s t) (name : String) (params : List String) (args : List Value) :
    Akin (Eval.callState name params args s) (Eval.callState name params args t) := by
  refine ⟨h.globals, congrArg (List.cons _) h.frames, rfl, h.heap, h.output, ?_⟩
  simp only [Eval.callState, h.log]

theorem backFrom {s' t' : State} (h : Akin s t) (h' : Akin s' t') :
    Akin (Eval.backFrom s s') (Eval.backFrom t t') := by
  refine ⟨h'.globals, ?_, h.returns, h'.heap, h'.output, h'.log⟩
  simp only [Eval.backFrom, Environment.restore, h.frames, h'.frames]

end Akin

namespace Eval

/-! ## Runs together -/

/-- The ends of two runs, each within a contract: with the same result in states that are matched, or with interrupts
alike in states that are akin. -/
inductive Together (C : Contract) (M : State → State → Prop) {α : Type} (V : α → Prop) (s t : State) :
    EStateM.Result Interrupt State α → EStateM.Result Interrupt State α → Prop
  | ok {a : α} {s' t' : State} (ha : V a) (hs : C.ok s s') (ht : C.ok t t') (hm : M s' t') :
    Together C M V s t (.ok a s') (.ok a t')
  | error {i j : Interrupt} {s' t' : State} (hi : i.Alike j) (hs : C.bad s i s') (ht : C.bad t j t')
    (hm : Akin s' t') : Together C M V s t (.error i s') (.error j t')

/-- Two evaluations that keep runs together. -/
def Kin (C : Contract) (M : State → State → Prop) {α : Type} (V : α → Prop) (x y : Eval α) : Prop :=
  ∀ s t, C.pre s → C.pre t → M s t → Together C M V s t (x s) (y t)

namespace Kin

variable {C : Contract} {M : State → State → Prop} {α β : Type} {V : α → Prop} {W : β → Prop}

theorem pure {a : α} (h : V a) : Kin C M V (pure a) (pure a) := fun _ _ hs ht hm => .ok h (C.refl hs) (C.refl ht) hm

theorem bind {x y : Eval α} {f g : α → Eval β} (hx : Kin C M V x y) (hf : ∀ a, V a → Kin C M W (f a) (g a)) :
    Kin C M W (x >>= f) (y >>= g) := by
  intro s t hs ht hm
  have hend := hx s t hs ht hm
  generalize hxs : x s = r, hyt : y t = r' at hend
  cases hend with
  | error hi hs' ht' hm' =>
    rw [bind_error hxs, bind_error hyt]
    exact .error hi hs' ht' hm'
  | @ok a s' t' ha hs' ht' hm' =>
    rw [bind_ok hxs, bind_ok hyt]
    have hend := hf a ha s' t' (C.keep hs hs') (C.keep ht ht') hm'
    generalize f a s' = r, g a t' = r' at hend
    cases hend with
    | ok hb hs₂ ht₂ hm₂ => exact .ok hb (C.trans hs' hs₂) (C.trans ht' ht₂) hm₂
    | error hi hs₂ ht₂ hm₂ => exact .error hi (C.early hs' hs₂) (C.early ht' ht₂) hm₂

end Kin

/-! ## What is asked at a site -/

/-- All functions that a state refers to pass the check. -/
abbrev Sound [Host] (live : Address → Prop) (s : State) : Prop :=
  (Standard.bodies.custody Standard.bodies_checksBodies live).Intact () .top s

/-- What holds of an interrupt that arises at a site in a program that passes the check. -/
structure Proper [Host] (live : Address → Prop) (site : Site) (i : Interrupt) (s : State) : Prop where
  sound : Sound live s
  values : ∀ v ∈ i.values, Standard.bodies.Good live v
  inLoop : i.endsRound = true → site.surroundings.inLoop = true

/-- Besides leaving alone what they must, evaluations of checked programs keep states sound. -/
def tidy [Host] (checked : Prop) (live : Address → Prop) (site : Site) : Contract where
  pre s := checked → Sound live s
  ok s s' := site.Leaves s s' ∧ (checked → Sound live s')
  bad s i s' := i.AimedAt s.env ∧ site.Leaves s s' ∧ (checked → Proper live site i s')
  refl h := ⟨.of_undisturbed (.refl _), h⟩
  keep _ h := h.2
  trans h h' := ⟨h.1.trans h'.1, h'.2⟩
  early h h' := ⟨h'.1.of_eq h.1.flow h.1.returnTarget, h.1.trans h'.2.1, h'.2.2⟩

/-- The same for the rounds of a loop. -/
def tidyRounds [Host] (checked : Prop) (live : Address → Prop) (sur : Surroundings) : Contract where
  pre s := checked → Sound live s
  ok s s' := Confined s s' ∧ (checked → Sound live s')
  bad s i s' := i.LeavesLoop s.env ∧ Confined s s' ∧ (checked → Proper live (.block sur) i s')
  refl h := ⟨.refl _, h⟩
  keep _ h := h.2
  trans h h' := ⟨h.1.trans h'.1, h'.2⟩
  early h h' := ⟨h'.1.of_eq h.1.returnTarget, h.1.trans h'.2.1, h'.2.2⟩

/-- States that are akin, with a loop around both or around none where an exit of a loop may stand. -/
structure Abreast (checked : Prop) (site : Site) (s t : State) : Prop where
  akin : Akin s t
  loops : (checked → site.surroundings.inLoop = true) → t.env.flow.isSome = s.env.flow.isSome

/-- Two evaluations that keep runs together at a site. -/
abbrev KinAt [Host] (checked : Prop) (live : Address → Prop) {α : Type} (site : Site) (V : α → Prop)
    (x y : Eval α) : Prop :=
  Kin (tidy checked live site) (Abreast checked site) V x y

variable {checked : Prop} {live : Address → Prop} {α : Type} {site : Site} {V : α → Prop}

theorem Sound.of_akin [Host] {s t : State} (h : Sound live s) (hst : Akin s t) : Sound live t :=
  h.quiet hst.globals hst.frames hst.heap

theorem Sound.of_heap [Host] {s : State} (h : Sound live s) {heap : Heap} (hheap : Standard.bodies.HeapOk live heap) :
    Sound live { s with heap := heap } :=
  ⟨h.held, h.names, hheap⟩

theorem Proper.of_akin [Host] {i j : Interrupt} {s t : State} (h : Proper live site i s) (hij : i.Alike j)
    (hst : Akin s t) : Proper live site j t := by
  refine ⟨h.sound.of_akin hst, ?_, ?_⟩
  · cases hij <;> exact h.values
  · cases hij <;> exact h.inLoop

/-- An interrupt that is no exit of a loop and carries no value is proper anywhere. -/
theorem Proper.plain [Host] {i : Interrupt} {s : State} (h : Sound live s) (hvalues : i.values = [])
    (hround : i.endsRound = false) : Proper live site i s := by
  refine ⟨h, fun v hv => ?_, fun he => ?_⟩
  · rw [hvalues] at hv
    cases hv
  · rw [hround] at he
    cases he

theorem Abreast.leaves {s t s' t' : State} (h : Abreast checked site s t) (hs : site.Leaves s s')
    (ht : site.Leaves t t') (hst : Akin s' t') : Abreast checked site s' t' := by
  refine ⟨hst, fun hin => ?_⟩
  rw [hs.flow, ht.flow]
  exact h.loops hin

/-- The ends of a single step from two states. -/
inductive Stepped [Host] (checked : Prop) (live : Address → Prop) (site : Site) (V : α → Prop) :
    EStateM.Result Interrupt State α → EStateM.Result Interrupt State α → Prop
  | ok {a : α} {s t : State} (ha : V a) (hm : Akin s t) (hs : checked → Sound live s) :
    Stepped checked live site V (.ok a s) (.ok a t)
  | error {i j : Interrupt} {s t : State} (hi : i.Alike j) (hm : Akin s t) (hs : checked → Proper live site i s) :
    Stepped checked live site V (.error i s) (.error j t)

theorem kin_step [Host] {x : Eval α} (hkept : Kept site (fun _ => True) x)
    (h : ∀ s t, Abreast checked site s t → (checked → Sound live s) → Stepped checked live site V (x s) (x t)) :
    KinAt checked live site V x x := by
  intro s t hs _ hm
  have hstep := h s t hm hs
  generalize hxs : x s = r, hxt : x t = r' at hstep
  cases hstep with
  | ok ha hst hsound =>
    obtain ⟨-, hl⟩ := hkept.of_ok trivial hxs
    obtain ⟨-, hl'⟩ := hkept.of_ok trivial hxt
    exact .ok ha ⟨hl, hsound⟩ ⟨hl', fun hc => (hsound hc).of_akin hst⟩ (hm.leaves hl hl' hst)
  | error hi hst hproper =>
    obtain ⟨ha, hl⟩ := hkept.of_error trivial hxs
    obtain ⟨ha', hl'⟩ := hkept.of_error trivial hxt
    exact .error hi ⟨ha, hl, hproper⟩ ⟨ha', hl', fun hc => (hproper hc).of_akin hi hst⟩ hst

/-! ## Single steps -/

theorem kin_throw [Host] {i : Interrupt} (haimed : ∀ env, i.AimedAt env) (hvalues : i.values = [])
    (hround : i.endsRound = false) : KinAt checked live site V (throw i : Eval α) (throw i) := by
  exact kin_step (kept_interrupt haimed) fun s t hm hs => .error (.same i) hm.akin fun hc => .plain (hs hc) hvalues hround

theorem kin_ofExcept [Host] {x : Except EvalError α} (h : Yields Standard.any.admits V x) :
    KinAt checked live site V (ofExcept x) (ofExcept x) := by
  cases h with
  | ok ha => exact .pure ha
  | error he => exact kin_throw (fun _ => he) rfl rfl

theorem kin_ofFailure [Host] {x : Except Failure α} (h : Yields Standard.any.AdmitsFailure V x) :
    KinAt checked live site V (ofFailure x) (ofFailure x) := by
  cases h with
  | ok ha => exact .pure ha
  | @error f hf =>
    cases f with
    | error e => exact kin_throw (fun _ => hf) rfl rfl
    | unwritable cause => exact kin_throw (fun _ => trivial) rfl rfl

/-- A value that is trusted in programs that pass the check. -/
abbrev Trusted (checked : Prop) (live : Address → Prop) (v : Value) : Prop := checked → Standard.bodies.Good live v

theorem trusted_scalar {v : Value} (h : v.isScalar = true) : Trusted checked live v :=
  fun _ => Standard.good_scalar h

/-- What is found in a live map of a sound state is trusted. -/
theorem Sound.trusted [Host] {s : State} (hs : checked → Sound live s) (name : String) {w : Value}
    (h : checked → ∃ own, live own ∧ some w = (s.heap.map own).get? name) : Trusted checked live w := by
  intro hc
  obtain ⟨own, hlive, hw⟩ := h hc
  exact (hs hc).heap.maps own hlive name w hw.symm

/-- Looking for a name on the heap, in nothing but live maps. -/
theorem kin_find [Host] {name : String} (find : Heap → Except EvalError (Option Value)) {W : Heap → Option Value → Prop}
    (hany : ∀ h, Yields Standard.any.admits (W h) (find h))
    (hlive : checked → ∀ h, Yields Standard.bodies.admits
      (fun found => ∃ own, live own ∧ found = (h.map own).get? name) (find h)) :
    KinAt checked live .call (fun found => ∀ w, found = some w → Trusted checked live w)
      (do ofExcept (find (← get).heap)) (do ofExcept (find (← get).heap)) := by
  refine kin_step (.get fun s _ => kept_ofExcept (hany s.heap) fun _ => trivial) fun s t hm hs => ?_
  show Stepped _ _ _ _ (ofExcept (find s.heap) s) (ofExcept (find t.heap) t)
  rw [hm.akin.heap]
  cases hfound : find s.heap with
  | error e => exact .error (.same _) hm.akin fun hc => .plain (hs hc) rfl rfl
  | ok found =>
    refine .ok (fun w hw => Sound.trusted hs name fun hc => ?_) hm.akin hs
    rw [← hw]
    exact (hlive hc s.heap).of_ok hfound

theorem kin_getAttr [Host] {name : String} {v : Value} (hv : Trusted checked live v) :
    KinAt checked live .call (fun found => ∀ w, found = some w → Trusted checked live w) (getAttr name v)
      (getAttr name v) :=
  kin_find (v.getAttr · name) (fun _ => Standard.any.getAttr (Standard.good_any v)) fun hc _ =>
    Standard.bodies.getAttr (hv hc)

theorem kin_findMethod [Host] {name : String} {v : Value} (hv : Trusted checked live v) :
    KinAt checked live .call (Trusted checked live) (findMethod name v) (findMethod name v) := by
  have hfind : KinAt checked live .call (fun found => ∀ w, found = some w → Trusted checked live w)
      (do ofExcept (v.getClassAttr (← get).heap name)) (do ofExcept (v.getClassAttr (← get).heap name)) :=
    kin_find (v.getClassAttr · name) (fun _ => Standard.any.getClassAttr (Standard.good_any v)) fun hc _ =>
      Standard.bodies.getClassAttr (hv hc)
  unfold findMethod
  rw [← bind_assoc]
  refine .bind hfind fun found hfound => ?_
  cases found with
  | none => exact kin_throw (fun _ => Standard.any.ordinary ⟨ErrorKind.noConfusion, ErrorKind.noConfusion⟩) rfl rfl
  | some method => exact .pure (hfound method rfl)

theorem kin_setAttr [Host] {name : String} {v target : Value} (hv : Trusted checked live v)
    (ht : Trusted checked live target) :
    KinAt checked live .call (fun _ => True) (setAttr name v target) (setAttr name v target) := by
  refine kin_step (kept_setAttr name v target) fun s t hm hs => ?_
  let store (h : Heap) : Eval Unit := do
    let heap ← ofExcept (target.setAttr h name v)
    modify fun s => { s with heap := heap }
  show Stepped _ _ _ _ (store s.heap s) (store t.heap t)
  rw [hm.akin.heap]
  cases hstored : target.setAttr s.heap name v with
  | error e =>
    simp only [store, hstored]
    exact .error (.same _) hm.akin fun hc => .plain (hs hc) rfl rfl
  | ok heap =>
    simp only [store, hstored]
    refine .ok trivial (hm.akin.with_heap heap) fun hc => (hs hc).of_heap ?_
    obtain ⟨own, -, rfl⟩ := (Standard.bodies.setAttr (ht hc)).of_ok hstored
    exact (hs hc).heap.write (hv hc) own

theorem kin_newObject [Host] {name : String} {attrs : Address} (hcls : Trusted checked live (.cls name attrs)) :
    KinAt checked live .call (Trusted checked live) (newObject (.cls name attrs)) (newObject (.cls name attrs)) := by
  refine kin_step (kept_modifyGet (fun _ => trivial) fun _ => rfl) fun s t hm hs => ?_
  let made (u : State) : EStateM.Result Interrupt State Value :=
    .ok (.object (.cls name attrs) u.heap.maps.size)
      { u with heap := (u.heap.alloc (Bindings.empty.insert classAttribute (.cls name attrs))).2 }
  show Stepped _ _ _ _ (made s) (made t)
  simp only [made, hm.akin.heap]
  refine .ok (fun hc => ?_) (hm.akin.with_heap _) fun hc => (hs hc).of_heap ?_
  · exact Value.within_object.2 ⟨trivial, (hs hc).heap.fresh _ (Nat.le_refl _), hcls hc⟩
  · exact (hs hc).heap.alloc (Bindings.All.empty.insert (hcls hc))

/-- A change to the records of a run only, made to both. -/
theorem kin_modify [Host] {f : State → State} (henv : ∀ s, (f s).env = s.env) (hheap : ∀ s, (f s).heap = s.heap)
    (hakin : ∀ s t, Akin s t → Akin (f s) (f t)) :
    KinAt checked live site (fun _ => True) (modify f : Eval Unit) (modify f) := by
  refine kin_step (kept_modifyGet (fun _ => trivial) henv) fun s t hm hs => .ok trivial (hakin s t hm.akin) ?_
  intro hc
  exact (hs hc).quiet (congrArg Environment.globals (henv s)) (congrArg Environment.frames (henv s)) (hheap s)

theorem kin_announce [Host] (settings : Settings) (st : Stmt) :
    KinAt checked live site (fun _ => True) (announce settings st) (announce settings st) := by
  unfold announce
  split
  · refine .bind (V := fun _ => True) ?_ fun text _ => kin_modify (fun _ => rfl) (fun _ => rfl) ?_
    · cases Unwritable.orLimit st.outline.text? with
      | ok text => exact .pure trivial
      | error cause => exact kin_throw (fun _ => trivial) rfl rfl
    · exact fun _ _ h => ⟨h.globals, h.frames, h.returns, h.heap, h.output, h.log⟩
  · exact .pure trivial

theorem kin_lookup [Host] (name : String) :
    KinAt checked live .expression (Trusted checked live) (lookup name) (lookup name) := by
  refine kin_step (.get fun _ _ => kept_ofExcept (Standard.any.lookup _ _) fun _ => trivial) fun s t hm hs => ?_
  show Stepped _ _ _ _ (ofExcept (s.env.lookup name) s) (ofExcept (t.env.lookup name) t)
  have hsame : t.env.lookup name = s.env.lookup name := by
    unfold Environment.lookup
    rw [hm.akin.get?]
  rw [hsame]
  cases hfound : s.env.lookup name with
  | error e => exact .error (.same _) hm.akin fun hc => .plain (hs hc) rfl rfl
  | ok v =>
    refine .ok (fun hc => ?_) hm.akin hs
    exact (hs hc).names.top.get? (hs hc).names.globals ((Standard.any.lookup s.env name).of_ok hfound)

theorem kin_update [Host] {sur : Surroundings} {name : String} {v : Value} (hv : Trusted checked live v) :
    KinAt checked live (.block sur) (fun _ => True) (update name v) (update name v) :=
  kin_step (kept_update name v) fun _ _ hm hs =>
    .ok trivial (hm.akin.update name v) fun hc => (hs hc).update name (hv hc)

/-! ## Exits -/

theorem eq_none_or_some_of_isSome {β : Type} {o o' : Option β} (h : o'.isSome = o.isSome) :
    (o = none ∧ o' = none) ∨ ∃ b b', o = some b ∧ o' = some b' := by
  cases o with
  | none =>
    cases o' with
    | none => exact .inl ⟨rfl, rfl⟩
    | some b' => cases h
  | some b =>
    cases o' with
    | none => cases h
    | some b' => exact .inr ⟨b, b', rfl, rfl⟩

theorem kin_breakOut [Host] {sur : Surroundings} (h : checked → sur.inLoop = true) :
    KinAt checked live (.block sur) (fun _ => True) breakOut breakOut := by
  refine kin_step kept_breakOut fun s t hm hs => ?_
  rw [breakOut_apply, breakOut_apply]
  rcases eq_none_or_some_of_isSome (hm.loops h) with ⟨hf, hf'⟩ | ⟨f, f', hf, hf'⟩
  · rw [hf, hf']
    exact .error (.same _) hm.akin fun hc => .plain (hs hc) rfl rfl
  · rw [hf, hf']
    exact .error .breakLoop hm.akin fun hc => ⟨hs hc, List.forall_mem_nil _, fun _ => h hc⟩

theorem kin_continueOn [Host] {sur : Surroundings} (h : checked → sur.inLoop = true) :
    KinAt checked live (.block sur) (fun _ => True) continueOn continueOn := by
  refine kin_step kept_continueOn fun s t hm hs => ?_
  rw [continueOn_apply, continueOn_apply]
  rcases eq_none_or_some_of_isSome (hm.loops h) with ⟨hf, hf'⟩ | ⟨f, f', hf, hf'⟩
  · rw [hf, hf']
    exact .error (.same _) hm.akin fun hc => .plain (hs hc) rfl rfl
  · rw [hf, hf']
    exact .error .continueLoop hm.akin fun hc => ⟨hs hc, List.forall_mem_nil _, fun _ => h hc⟩

theorem kin_returnWith [Host] {sur : Surroundings} {v : Value} (hv : Trusted checked live v) :
    KinAt checked live (.block sur) (fun _ => True) (returnWith v) (returnWith v) := by
  refine kin_step (kept_returnWith v) fun s t hm hs => ?_
  rw [returnWith_apply, returnWith_apply]
  rcases eq_none_or_some_of_isSome hm.akin.returns with ⟨hr, hr'⟩ | ⟨target, target', hr, hr'⟩
  · rw [hr, hr']
    exact .error (.same _) hm.akin fun hc => .plain (hs hc) rfl rfl
  · rw [hr, hr']
    refine .error .returnCall hm.akin fun hc => ⟨hs hc, fun w hw => ?_, Bool.noConfusion⟩
    rw [List.mem_singleton.1 hw]
    exact hv hc

/-! ## Loops -/

/-- An interrupt that is no exit of a loop is proper anywhere if it is so somewhere. -/
theorem Proper.elsewhere [Host] {site' : Site} {i : Interrupt} {s : State} (h : Proper live site i s)
    (hi : i.endsRound = false) : Proper live site' i s := by
  refine ⟨h.sound, h.values, fun he => ?_⟩
  rw [hi] at he
  cases he

theorem Proper.quiet [Host] {i : Interrupt} {s s' : State} (h : Proper live site i s)
    (hglobals : s'.env.globals = s.env.globals) (hframes : s'.env.frames = s.env.frames) (hheap : s'.heap = s.heap) :
    Proper live site i s' :=
  ⟨h.sound.quiet hglobals hframes hheap, h.values, h.inLoop⟩

section

variable {sur : Surroundings} {test test' : Eval Bool} {body body' orelse orelse' : Eval Unit}

theorem kin_turn [Host] (ht : KinAt checked live (.block sur) (fun _ => True) test test')
    (hb : KinAt checked live (.block sur) (fun _ => True) body body')
    (ho : KinAt checked live (.block sur) (fun _ => True) orelse orelse') :
    KinAt checked live (.block sur) (fun _ => True) (turn test body orelse) (turn test' body' orelse') := by
  refine .bind ht fun b _ => ?_
  cases b with
  | true => exact .bind hb fun _ _ => .pure trivial
  | false => exact .bind ho fun _ _ => .pure trivial

theorem Together.aimed [Host] {s t : State} {r r' : EStateM.Result Interrupt State α}
    (h : Together (tidy checked live site) (Abreast checked site) V s t r r') :
    (∀ i s', r = .error i s' → i.AimedAt s.env) ∧ ∀ i t', r' = .error i t' → i.AimedAt t.env := by
  constructor
  · rintro i s' rfl
    cases h with
    | error _ hs _ _ => exact hs.1
  · rintro i t' rfl
    cases h with
    | error _ _ ht _ => exact ht.1

theorem kin_round [Host]
    (h : KinAt checked live (.block sur.loopBody) (fun _ => True) (turn test body orelse) (turn test' body' orelse'))
    (b b' : ExitPoint) :
    Kin (tidyRounds checked live sur) Akin (fun _ => True) (round b test body orelse)
      (round b' test' body' orelse') := by
  intro s t hs ht hm
  have hround := h (roundState b s) (roundState b' t) (fun hc => (hs hc).quiet rfl rfl rfl)
    (fun hc => (ht hc).quiet rfl rfl rfl) ⟨⟨hm.globals, hm.frames, hm.returns, hm.heap, hm.output, hm.log⟩, fun _ => rfl⟩
  -- The rounds have different exit points, but each catches all that reach it.
  rw [round_caught hround.aimed.1, round_caught hround.aimed.2]
  have hconfined := confined_roundState b s
  have hconfined' := confined_roundState b' t
  generalize turn test body orelse (roundState b s) = r, turn test' body' orelse' (roundState b' t) = r' at hround
  cases hround with
  | ok _ hs' ht' hm' =>
    exact .ok trivial ⟨hconfined.trans hs'.1.1, hs'.2⟩ ⟨hconfined'.trans ht'.1.1, ht'.2⟩ hm'.akin
  | @error i j s' t' hi hs' ht' hm' =>
    obtain ⟨ha, hl, hp⟩ := hs'
    obtain ⟨ha', hl', hp'⟩ := ht'
    have hcaught : ∀ again : Bool, Together (tidyRounds checked live sur) Akin (fun _ => True) s t
        (.ok again s') (.ok again t') := fun again =>
      .ok trivial ⟨hconfined.trans hl.1, fun hc => (hp hc).sound⟩ ⟨hconfined'.trans hl'.1, fun hc => (hp' hc).sound⟩ hm'
    have hpassed : i.endsRound = false → j.endsRound = false → Together (α := Bool) (tidyRounds checked live sur) Akin
        (fun _ => True) s t (.error i s') (.error j t') := fun he he' =>
      .error hi ⟨ha.leavesLoop rfl he, hconfined.trans hl.1, fun hc => (hp hc).elsewhere he⟩
        ⟨ha'.leavesLoop rfl he', hconfined'.trans hl'.1, fun hc => (hp' hc).elsewhere he'⟩ hm'
    cases hi with
    | breakLoop | continueLoop => exact hcaught _
    | returnCall => exact hpassed rfl rfl
    | same =>
      cases i with
      | breakLoop _ | continueLoop _ => exact hcaught _
      | error _ | unwritable _ | returnCall _ _ | overflow | stalled => exact hpassed rfl rfl

theorem kin_rounds [Host]
    (h : KinAt checked live (.block sur.loopBody) (fun _ => True) (turn test body orelse) (turn test' body' orelse'))
    (b b' : ExitPoint) : ∀ limit : Nat,
    Kin (tidyRounds checked live sur) Akin (fun _ => True) (rounds b test body orelse limit)
      (rounds b' test' body' orelse' limit)
  | 0 => fun s t hs ht hm => .error (.same _) ⟨trivial, .refl s, fun hc => .plain (hs hc) rfl rfl⟩
    ⟨trivial, .refl t, fun hc => .plain (ht hc) rfl rfl⟩ hm
  | limit + 1 => by
    refine .bind (kin_round h b b') fun again _ => ?_
    cases again with
    | true => exact kin_rounds h b b' limit
    | false => exact .pure trivial

theorem kin_loop [Host] {limit : Nat}
    (h : KinAt checked live (.block sur.loopBody) (fun _ => True) (turn test body orelse) (turn test' body' orelse')) :
    KinAt checked live (.block sur) (fun _ => True) (loop limit test body orelse) (loop limit test' body' orelse') := by
  intro s t hs ht hm
  have hrounds := kin_rounds h ⟨"break", s.nextExit⟩ ⟨"break", t.nextExit⟩ limit { s with nextExit := s.nextExit + 1 }
    { t with nextExit := t.nextExit + 1 } (fun hc => (hs hc).quiet rfl rfl rfl) (fun hc => (ht hc).quiet rfl rfl rfl)
    ⟨hm.akin.globals, hm.akin.frames, hm.akin.returns, hm.akin.heap, hm.akin.output, hm.akin.log⟩
  rw [loop_apply, loop_apply]
  generalize hr : rounds ⟨"break", s.nextExit⟩ test body orelse limit { s with nextExit := s.nextExit + 1 } = r,
    hr' : rounds ⟨"break", t.nextExit⟩ test' body' orelse' limit { t with nextExit := t.nextExit + 1 } = r' at hrounds
  cases hrounds with
  | ok _ hs' ht' hm' =>
    rw [afterwards_ok hr, afterwards_ok hr']
    have hl := leaves_loopEnd hs'.1
    have hl' := leaves_loopEnd ht'.1
    exact .ok trivial ⟨hl, fun hc => (hs'.2 hc).quiet rfl rfl rfl⟩ ⟨hl', fun hc => (ht'.2 hc).quiet rfl rfl rfl⟩
      (hm.leaves hl hl' (hm'.setFlow _ _))
  | error hi hs' ht' hm' =>
    rw [afterwards_error hr, afterwards_error hr']
    obtain ⟨ha, hc, hp⟩ := hs'
    obtain ⟨ha', hc', hp'⟩ := ht'
    exact .error hi ⟨ha.aimedAt, leaves_loopEnd hc, fun h => (hp h).quiet rfl rfl rfl⟩
      ⟨ha'.aimedAt, leaves_loopEnd hc', fun h => (hp' h).quiet rfl rfl rfl⟩ (hm'.setFlow _ _)

end

/-! ## Class bodies and calls -/

/-- Where no exit of a loop may stand, whether a loop is around depends on nothing but the check. -/
theorem Abreast.inner {sur : Surroundings} (hsur : sur.inLoop = false) {s t s' t' : State}
    (h : Abreast checked site s t) (hakin : Akin s' t') (hs : s'.env.flow = s.env.flow) (ht : t'.env.flow = t.env.flow) :
    Abreast checked (.block sur) s' t' := by
  refine ⟨hakin, fun hin => ?_⟩
  rw [hs, ht]
  refine h.loops fun hc => ?_
  have habsurd : sur.inLoop = true := hin hc
  rw [hsur] at habsurd
  cases habsurd

theorem Sound.pushFrame [Host] {s : State} (h : Sound live s) : Sound live { s with env := s.env.pushFrame } :=
  ⟨h.held, h.names.pushFrame, h.heap⟩

theorem kin_defineClass [Host] {sur : Surroundings} {name : String} {body body' : Eval Unit}
    (h : KinAt checked live (.block .outermost) (fun _ => True) body body') :
    KinAt checked live (.block sur) (fun _ => True) (defineClass name body) (defineClass name body') := by
  intro s t hs ht hm
  have hbody := h { s with env := s.env.pushFrame } { t with env := t.env.pushFrame } (fun hc => (hs hc).pushFrame)
    (fun hc => (ht hc).pushFrame) (hm.inner rfl hm.akin.pushFrame rfl rfl)
  rw [defineClass_apply, defineClass_apply]
  generalize hr : body { s with env := s.env.pushFrame } = r, hr' : body' { t with env := t.env.pushFrame } = r' at hbody
  cases hbody with
  | @ok _ s' t' _ hs' ht' hm' =>
    obtain ⟨hne, hl⟩ := leaves_classEnd name hs'.1.1 hs'.1.2
    obtain ⟨hne', hl'⟩ := leaves_classEnd name ht'.1.1 ht'.1.2
    have hsound : ∀ {u : State}, (checked → Sound live u) → checked → Sound live (classState name u) := by
      intro u hu hc
      obtain ⟨_, -, hcls⟩ := (hu hc).classState name
      exact hcls
    rw [bind_ok hr, bind_ok hr', finishClass_apply name hne, finishClass_apply name hne']
    exact .ok trivial ⟨hl, hsound hs'.2⟩ ⟨hl', hsound ht'.2⟩ (hm.leaves hl hl' (hm'.akin.classState name))
  | error hi hs' ht' hm' =>
    rw [bind_error hr, bind_error hr']
    obtain ⟨ha, hl, hp⟩ := hs'
    obtain ⟨ha', hl', hp'⟩ := ht'
    have hout : ∀ {i u}, Proper live (.block .outermost) i u → Proper live (.block sur) i u := fun h =>
      ⟨h.sound, h.values, fun he => absurd (h.inLoop he) Bool.false_ne_true⟩
    exact .error hi ⟨ha, ⟨confined_classBody hl.1, hl.2⟩, fun hc => hout (hp hc)⟩
      ⟨ha', ⟨confined_classBody hl'.1, hl'.2⟩, fun hc => hout (hp' hc)⟩ hm'

section

variable {name : String} {params : List String} {args : List Value} {body body' : Eval Unit}

theorem Sound.callState [Host] {s : State} (h : Sound live s) (hargs : ∀ v ∈ args, Standard.bodies.Good live v) :
    Sound live (Eval.callState name params args s) := by
  obtain ⟨hheld, hnames, hheap⟩ := Custody.Intact.callState name params h hargs
  exact ⟨hheld, hnames, hheap⟩

theorem Sound.backFrom [Host] {s s' : State} (h : Sound live s) (h' : Sound live s')
    (hback : Undisturbed s (Eval.backFrom s s')) : Sound live (Eval.backFrom s s') := by
  refine ⟨h.held, ⟨h'.names.globals, ?_⟩, h'.heap⟩
  rw [hback.frames]
  exact h.names.frames

theorem kin_runFunction [Host] (hargs : ∀ v ∈ args, Trusted checked live v)
    (h : KinAt checked live (.block .functionBody) (fun _ => True) body body') :
    KinAt checked live .call (Trusted checked live) (runFunction name params args body)
      (runFunction name params args body') := by
  intro s t hs ht hm
  have hgood : checked → ∀ v ∈ args, Standard.bodies.Good live v := fun hc v hv => hargs v hv hc
  have hbody := h (callState name params args s) (callState name params args t) (fun hc => (hs hc).callState (hgood hc))
    (fun hc => (ht hc).callState (hgood hc)) (hm.inner rfl (hm.akin.callState name params args) rfl rfl)
  rw [runFunction_caught hbody.aimed.1, runFunction_caught hbody.aimed.2]
  generalize body (callState name params args s) = r, body' (callState name params args t) = r' at hbody
  cases hbody with
  | @ok _ s' t' _ hs' ht' hm' =>
    have hu := undisturbed_backFrom hs'.1.1 hs'.1.2
    have hu' := undisturbed_backFrom ht'.1.1 ht'.1.2
    exact .ok (trusted_scalar rfl) ⟨hu, fun hc => (hs hc).backFrom (hs'.2 hc) hu⟩
      ⟨hu', fun hc => (ht hc).backFrom (ht'.2 hc) hu'⟩ (hm.leaves hu hu' (hm.akin.backFrom hm'.akin))
  | @error i j s' t' hi hs' ht' hm' =>
    obtain ⟨ha, hl, hp⟩ := hs'
    obtain ⟨ha', hl', hp'⟩ := ht'
    have hu := undisturbed_backFrom hl.1 hl.2
    have hu' := undisturbed_backFrom hl'.1 hl'.2
    have hsound : checked → Sound live (backFrom s s') := fun hc => (hs hc).backFrom (hp hc).sound hu
    have hsound' : checked → Sound live (backFrom t t') := fun hc => (ht hc).backFrom (hp' hc).sound hu'
    have hakin := hm.akin.backFrom hm'
    have hflow : ∀ u : State, u.env.flow = (callState name params args u).env.flow := fun _ => rfl
    -- A `return` ends both calls with its value, and everything else passes.
    have hcaught : ∀ v ∈ i.values, Together (tidy checked live .call) (Abreast checked .call) (Trusted checked live) s t
        (.ok v (backFrom s s')) (.ok v (backFrom t t')) := fun v hv =>
      .ok (fun hc => (hp hc).values v hv) ⟨hu, hsound⟩ ⟨hu', hsound'⟩ (hm.leaves hu hu' hakin)
    have hpassed : i.endsCall = false → j.endsCall = false → Together (tidy checked live .call) (Abreast checked .call)
        (Trusted checked live) s t (.error i (backFrom s s')) (.error j (backFrom t t')) := fun he he' =>
      .error hi ⟨ha.leavesCall (hflow s) he, hu, fun hc => ⟨hsound hc, (hp hc).values, (hp hc).inLoop⟩⟩
        ⟨ha'.leavesCall (hflow t) he', hu', fun hc => ⟨hsound' hc, (hp' hc).values, (hp' hc).inLoop⟩⟩ hakin
    cases hi with
    | breakLoop | continueLoop => exact hpassed rfl rfl
    | returnCall => exact hcaught _ (List.mem_singleton.2 rfl)
    | same =>
      cases i with
      | returnCall _ _ => exact hcaught _ (List.mem_singleton.2 rfl)
      | error _ | unwritable _ | breakLoop _ | continueLoop _ | overflow | stalled => exact hpassed rfl rfl

end

/-! ## Evaluation -/

/-- What keeps runs together where no exit of a loop may stand does so elsewhere, too. -/
theorem KinAt.elsewhere [Host] {site' : Site} {x y : Eval α} (h : KinAt checked live site V x y)
    (hsite : site.surroundings.inLoop = false) (hleaves : ∀ s s', site.Leaves s s' → site'.Leaves s s') :
    KinAt checked live site' V x y := by
  intro s t hs ht hm
  have hno : ¬ site.surroundings.inLoop = true := by rw [hsite]; exact Bool.false_ne_true
  have hend := h s t hs ht ⟨hm.akin, fun hin => hm.loops fun hc => absurd (hin hc) hno⟩
  generalize x s = r, y t = r' at hend
  cases hend with
  | ok ha hs' ht' hm' =>
    have hl := hleaves _ _ hs'.1
    have hl' := hleaves _ _ ht'.1
    exact .ok ha ⟨hl, hs'.2⟩ ⟨hl', ht'.2⟩ (hm.leaves hl hl' hm'.akin)
  | error hi hs' ht' hm' =>
    have hout : ∀ {i u}, Proper live site i u → Proper live site' i u := fun h =>
      ⟨h.sound, h.values, fun he => absurd (h.inLoop he) hno⟩
    exact .error hi ⟨hs'.1, hleaves _ _ hs'.2.1, fun hc => hout (hs'.2.2 hc)⟩
      ⟨ht'.1, hleaves _ _ ht'.2.1, fun hc => hout (ht'.2.2 hc)⟩ hm'

/-- Every step of evaluation keeps runs together, of any program and on any values; and of a checked program on trusted
values also where the runs differ in the loops around them. -/
def kinship [Host] (settings : Settings) (checked : Prop) (live : Address → Prop) : Discipline settings settings where
  checked := checked
  Good := Trusted checked live
  Rel := KinAt checked live
  ret := .pure
  seq := .bind
  ofCall h := KinAt.elsewhere h rfl fun _ _ hl => hl
  ofExpression h := KinAt.elsewhere h rfl fun _ _ hl => .of_undisturbed hl
  literal h := trusted_scalar (Value.isScalar_ofLiteral h)
  tuple h hc := Value.within_tuple.2 ⟨trivial, Value.allWithin_iff.2 fun v hv => h v hv hc⟩
  function h hc := by
    simp only [Value.Within]
    exact h hc
  accepted h hc := (h hc).here
  failing h := kin_throw (fun _ => Standard.any.ordinary h) rfl rfl
  unwritable _ := kin_throw (fun _ => trivial) rfl rfl
  overflow := kin_throw (fun _ => trivial) rfl rfl
  truth _ := kin_ofExcept (Standard.any.truth trivial)
  unary _ := kin_ofExcept ((Standard.any.unary trivial).mono (fun _ he => he) fun _ => trusted_scalar)
  binary _ _ := kin_ofExcept ((Standard.any.binary trivial trivial).mono (fun _ he => he) fun _ => trusted_scalar)
  compare _ _ := kin_ofFailure (Standard.any.compare (Standard.good_any _) (Standard.good_any _))
  text _ := kin_ofFailure (Standard.any.text (Standard.good_any _))
  print line := kin_modify (fun _ => rfl) (fun _ => rfl) fun _ _ h =>
    ⟨h.globals, h.frames, h.returns, h.heap, congrArg (·.push line) h.output, h.log⟩
  getAttr := kin_getAttr
  findMethod := kin_findMethod
  setAttr := kin_setAttr
  newObject := kin_newObject
  runFunction := kin_runFunction
  lookup := kin_lookup
  update := kin_update
  announce _ st := kin_announce settings st
  breakOut := kin_breakOut
  continueOn := kin_continueOn
  returnWith _ hv := kin_returnWith hv
  loop ht hb ho := kin_loop (kin_turn ht hb ho)
  defineClass := kin_defineClass

end Eval

end Treewalk
