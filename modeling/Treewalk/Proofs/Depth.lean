/-
The limit on nested calls only ever cuts a run off. An evaluation under a limit stands beside one in which calls past
the limit are answered in any way at all: either both go the same way from start to end, or the first one ends at the
limit, and what it has recorded until then is where the records of the other one begin. No loop, call or class body
catches the overflow, so nothing of what a program does can depend on it.
-/
import Treewalk.Proofs.Composition

namespace Treewalk

/-! ## Records -/

/-- What a state records, a later one records as well, and possibly more behind it. -/
structure RecordsKept (s s' : State) : Prop where
  output : s.output.toList <+: s'.output.toList
  trace : s.trace.toList <+: s'.trace.toList
  log : s.log.toList <+: s'.log.toList

namespace RecordsKept

theorem of_eq {s s' : State} (houtput : s'.output = s.output) (htrace : s'.trace = s.trace) (hlog : s'.log = s.log) :
    RecordsKept s s' := by
  constructor
  · exact houtput ▸ List.prefix_refl _
  · exact htrace ▸ List.prefix_refl _
  · exact hlog ▸ List.prefix_refl _

theorem refl (s : State) : RecordsKept s s := of_eq rfl rfl rfl

theorem trans {a b c : State} (h : RecordsKept a b) (h' : RecordsKept b c) : RecordsKept a c :=
  ⟨h.output.trans h'.output, h.trace.trans h'.trace, h.log.trans h'.log⟩

theorem print (s : State) (line : Text) : RecordsKept s { s with output := s.output.push line } :=
  ⟨by simp, by simp, by simp⟩

theorem traced (s : State) (line : String) : RecordsKept s { s with trace := s.trace.push line } :=
  ⟨by simp, by simp, by simp⟩

theorem callState (name : String) (params : List String) (args : List Value) (s : State) :
    RecordsKept s (Eval.callState name params args s) :=
  ⟨by simp [Eval.callState], by simp [Eval.callState], by simp [Eval.callState]⟩

theorem classState (name : String) (s : State) : RecordsKept s (Eval.classState name s) :=
  ⟨by simp [Eval.classState], by simp [Eval.classState], by simp [Eval.classState]⟩

end RecordsKept

namespace Eval

/-! ## Evaluations side by side -/

/-- An evaluation that may be cut off, beside one that may not, from one state. Either both do the same or the first one
overflows. If `orderly` holds, the second one only adds to the records, to those of the first one too. -/
structure CutFrom (orderly : Prop) {α : Type} (V : α → Prop) (x y : Eval α) (s : State) : Prop where
  kept : orderly → RecordsKept s (after y s)
  result : ∀ a s', y s = .ok a s' → V a
  meets : x s = y s ∨ ∃ s', x s = .error .overflow s' ∧ (orderly → RecordsKept s' (after y s))

/-- The same from every state. -/
abbrev Cut (orderly : Prop) {α : Type} (V : α → Prop) (x y : Eval α) : Prop := ∀ s, CutFrom orderly V x y s

section

variable {orderly : Prop} {α β : Type} {V : α → Prop} {W : β → Prop}

/-- A step that both take. -/
theorem Cut.same {x : Eval α} (hkept : ∀ s, RecordsKept s (after x s)) (hresult : ∀ s a s', x s = .ok a s' → V a) :
    Cut orderly V x x :=
  fun s => ⟨fun _ => hkept s, hresult s, .inl rfl⟩

theorem Cut.pure {a : α} (h : V a) : Cut orderly V (pure a : Eval α) (pure a) := by
  refine .same (fun s => .refl s) fun s b s' hb => ?_
  cases hb
  exact h

theorem Cut.throw (i : Interrupt) : Cut orderly V (throw i : Eval α) (throw i) :=
  .same (fun s => .refl s) fun _ _ _ => nofun

theorem Cut.ofExcept {x : Except EvalError α} (h : ∀ a, V a) : Cut orderly V (ofExcept x) (ofExcept x) := by
  cases x with
  | ok a => exact .pure (h a)
  | error e => exact .throw _

theorem Cut.ofFailure {x : Except Failure α} (h : ∀ a, V a) : Cut orderly V (ofFailure x) (ofFailure x) := by
  cases x with
  | ok a => exact .pure (h a)
  | error f =>
    cases f with
    | error e => exact .throw _
    | unwritable cause => exact .throw _

theorem Cut.bind {x y : Eval α} {f g : α → Eval β} (hx : Cut orderly V x y)
    (hf : ∀ a, V a → Cut orderly W (f a) (g a)) : Cut orderly W (x >>= f) (y >>= g) := by
  intro s
  obtain ⟨hkept, hresult, hmeets⟩ := hx s
  cases hy : y s with
  | error i s₁ =>
    have hyg : (y >>= g) s = .error i s₁ := bind_error hy
    rw [after_error hy] at hkept hmeets
    refine ⟨?_, fun b s₂ hb => ?_, ?_⟩
    · rw [after_error hyg]
      exact hkept
    · rw [hyg] at hb
      cases hb
    · rw [hyg, after_error hyg]
      rcases hmeets with hsame | ⟨s₂, hcut, hrecords⟩
      · exact .inl (bind_error (hsame.trans hy))
      · exact .inr ⟨s₂, bind_error hcut, hrecords⟩
  | ok a s₁ =>
    obtain ⟨hkept', hresult', hmeets'⟩ := hf a (hresult a s₁ hy) s₁
    rw [after_ok hy] at hkept hmeets
    have hyg : (y >>= g) s = g a s₁ := bind_ok hy
    have hafter : after (y >>= g) s = after (g a) s₁ := by
      unfold after
      rw [hyg]
    refine ⟨fun ho => ?_, fun b s₂ hb => ?_, ?_⟩
    · rw [hafter]
      exact (hkept ho).trans (hkept' ho)
    · rw [hyg] at hb
      exact hresult' b s₂ hb
    · rw [hyg, hafter]
      rcases hmeets with hsame | ⟨s₂, hcut, hrecords⟩
      · have hxf : (x >>= f) s = f a s₁ := bind_ok (hsame.trans hy)
        rw [hxf]
        exact hmeets'
      · -- The first evaluation is over, and the second goes on.
        exact .inr ⟨s₂, bind_error hcut, fun ho => (hrecords ho).trans (hkept' ho)⟩

theorem Cut.get {f g : State → Eval α} (h : ∀ s, Cut orderly V (f s) (g s)) :
    Cut orderly V (do f (← get)) (do g (← get)) := fun s =>
  have ⟨hkept, hresult, hmeets⟩ := h s s
  ⟨hkept, hresult, hmeets⟩

theorem Cut.modifyGet {f : State → α × State} (hkept : ∀ s, RecordsKept s (f s).2) (h : ∀ a, V a) :
    Cut orderly V (modifyGet f : Eval α) (modifyGet f) :=
  .same hkept fun _ a _ _ => h a

end

/-! ## Handlers -/

section

variable {orderly : Prop}

/-- A handler that lets an overflow pass and leaves the state as it is keeps two evaluations side by side. -/
theorem Cut.handle {α : Type} {V : α → Prop} {x y : Eval α} (h : Cut orderly V x y) (handler : Interrupt → Eval α)
    (hpass : ∀ s, handler .overflow s = .error .overflow s) (hstays : ∀ i s, after (handler i) s = s) (hV : ∀ a, V a) :
    Cut orderly V (handle x handler) (handle y handler) := by
  intro s
  obtain ⟨hkept, -, hmeets⟩ := h s
  have hafter : after (Eval.handle y handler) s = after y s := by
    cases hy : y s with
    | ok a s₁ => rw [after_ok hy, after_ok (handle_ok hy)]
    | error i s₁ =>
      rw [after_error hy]
      have hi := hstays i s₁
      unfold after at hi ⊢
      rw [handle_error hy]
      exact hi
  refine ⟨?_, fun a _ _ => hV a, ?_⟩
  · rw [hafter]
    exact hkept
  · rw [hafter]
    rcases hmeets with hsame | ⟨s₁, hcut, hrecords⟩
    · left
      unfold Eval.handle
      rw [hsame]
    · exact .inr ⟨s₁, (handle_error hcut).trans (hpass s₁), hrecords⟩

theorem Cut.afterwards {α : Type} {V : α → Prop} {x y : Eval α} (h : Cut orderly V x y) (change : State → State)
    (hchange : ∀ s, RecordsKept s (change s) ∧ RecordsKept (change s) s) :
    Cut orderly V (afterwards x change) (afterwards y change) := by
  intro s
  obtain ⟨hkept, hresult, hmeets⟩ := h s
  have hafter : after (Eval.afterwards y change) s = change (after y s) := by
    cases hy : y s with
    | ok a s₁ => rw [after_ok hy, after_ok (afterwards_ok hy)]
    | error i s₁ => rw [after_error hy, after_error (afterwards_error hy)]
  refine ⟨fun ho => ?_, fun a s₁ ha => ?_, ?_⟩
  · rw [hafter]
    exact (hkept ho).trans (hchange _).1
  · cases hy : y s with
    | ok b s₂ =>
      rw [afterwards_ok hy] at ha
      cases ha
      exact hresult a s₂ hy
    | error i s₂ =>
      rw [afterwards_error hy] at ha
      cases ha
  · rw [hafter]
    rcases hmeets with hsame | ⟨s₁, hcut, hrecords⟩
    · left
      unfold Eval.afterwards
      rw [hsame]
    · refine .inr ⟨change s₁, afterwards_error hcut, fun ho => ?_⟩
      exact ((hchange s₁).2.trans (hrecords ho)).trans (hchange _).1

/-- Evaluations side by side from a state that both prepare. -/
theorem CutFrom.prepared {α : Type} {V : α → Prop} {x y x' y' : Eval α} {s t : State} (h : CutFrom orderly V x' y' t)
    (hx : x s = x' t) (hy : y s = y' t) (hkept : RecordsKept s t) : CutFrom orderly V x y s := by
  have hafter : after y s = after y' t := by
    unfold after
    rw [hy]
  obtain ⟨hkept', hresult, hmeets⟩ := h
  refine ⟨fun ho => ?_, fun a s' ha => ?_, ?_⟩
  · rw [hafter]
    exact hkept.trans (hkept' ho)
  · exact hresult a s' (hy ▸ ha)
  · rw [hx, hy, hafter]
    exact hmeets

/-! ## Loops, class bodies and calls -/

variable {test test' : Eval Bool} {body body' orelse orelse' : Eval Unit}

theorem cut_turn (ht : Cut orderly (fun _ => True) test test') (hb : Cut orderly (fun _ => True) body body')
    (ho : Cut orderly (fun _ => True) orelse orelse') :
    Cut orderly (fun _ => True) (turn test body orelse) (turn test' body' orelse') := by
  refine ht.bind fun b _ => ?_
  cases b with
  | true => exact hb.bind fun _ _ => .pure trivial
  | false => exact ho.bind fun _ _ => .pure trivial

theorem cut_round (breakTo : ExitPoint)
    (h : Cut orderly (fun _ => True) (turn test body orelse) (turn test' body' orelse')) :
    Cut orderly (fun _ => True) (round breakTo test body orelse) (round breakTo test' body' orelse') := by
  intro s
  have hstays : ∀ i t, after (catchExit breakTo ⟨"continue", s.nextExit⟩ i) t = t := by
    intro i t
    rcases catchExit_cases breakTo ⟨"continue", s.nextExit⟩ i with ⟨again, hc⟩ | hc
    · exact after_ok (hc t)
    · exact after_error (hc t)
  have hhandled := h.handle (catchExit breakTo ⟨"continue", s.nextExit⟩) (fun _ => rfl) hstays fun _ => trivial
  exact (hhandled (roundState breakTo s)).prepared (round_apply s) (round_apply s) (.of_eq rfl rfl rfl)

theorem cut_rounds (breakTo : ExitPoint)
    (h : Cut orderly (fun _ => True) (turn test body orelse) (turn test' body' orelse')) : ∀ limit : Nat,
    Cut orderly (fun _ => True) (rounds breakTo test body orelse limit) (rounds breakTo test' body' orelse' limit)
  | 0 => .throw _
  | limit + 1 => by
    refine (cut_round breakTo h).bind fun again _ => ?_
    cases again with
    | true => exact cut_rounds breakTo h limit
    | false => exact .pure trivial

theorem cut_loop (limit : Nat)
    (h : Cut orderly (fun _ => True) (turn test body orelse) (turn test' body' orelse')) :
    Cut orderly (fun _ => True) (loop limit test body orelse) (loop limit test' body' orelse') := by
  intro s
  have hrounds := (cut_rounds ⟨"break", s.nextExit⟩ h limit).afterwards (fun s' => s'.setFlow s.env.flow)
    fun _ => ⟨.of_eq rfl rfl rfl, .of_eq rfl rfl rfl⟩
  exact (hrounds { s with nextExit := s.nextExit + 1 }).prepared (loop_apply limit s) (loop_apply limit s)
    (.of_eq rfl rfl rfl)

theorem recordsKept_finishClass (name : String) (s : State) : RecordsKept s (after (finishClass name) s) := by
  by_cases hframes : s.env.frames = []
  · rw [after_error (finishClass_global name hframes)]
    exact .refl s
  · rw [after_ok (finishClass_apply name hframes)]
    exact .classState name s

theorem cut_defineClass (name : String) (h : Cut orderly (fun _ => True) body body') :
    Cut orderly (fun _ => True) (defineClass name body) (defineClass name body') := by
  intro s
  have hbody : Cut orderly (fun _ => True) (body >>= fun _ => finishClass name) (body' >>= fun _ => finishClass name) :=
    h.bind fun _ _ => .same (recordsKept_finishClass name) fun _ _ _ _ => trivial
  exact (hbody { s with env := s.env.pushFrame }).prepared (defineClass_apply name body s)
    (defineClass_apply name body' s) (.of_eq rfl rfl rfl)

theorem catchReturn_stays (target : ExitPoint) (i : Interrupt) (s : State) : after (catchReturn target i) s = s := by
  rcases catchReturn_cases target i with ⟨v, -, hc⟩ | hc
  · exact after_ok (hc s)
  · exact after_error (hc s)

theorem cut_runFunction {name : String} {params : List String} {args : List Value}
    (h : Cut orderly (fun _ => True) body body') :
    Cut orderly (fun _ => True) (runFunction name params args body) (runFunction name params args body') := by
  intro s
  have hreturns : Cut orderly (fun _ => True) (do body; return Value.none : Eval Value) (do body'; return Value.none) :=
    h.bind fun _ _ => .pure trivial
  have hcaught := hreturns.handle (catchReturn ⟨"return from " ++ name, s.nextExit⟩) (fun _ => rfl)
    (catchReturn_stays _) fun _ => trivial
  have hback := hcaught.afterwards (backFrom s) fun _ => ⟨.of_eq rfl rfl rfl, .of_eq rfl rfl rfl⟩
  exact (hback (callState name params args s)).prepared (runFunction_apply s) (runFunction_apply s)
    (.callState name params args s)

theorem cut_setAttr (name : String) (v target : Value) :
    Cut orderly (fun _ => True) (setAttr name v target) (setAttr name v target) := by
  refine .get fun s => .bind (V := fun _ => True) (.ofExcept fun _ => trivial) fun heap _ => ?_
  exact .modifyGet (fun _ => .of_eq rfl rfl rfl) fun _ => trivial

theorem cut_findMethod (name : String) (v : Value) :
    Cut orderly (fun _ => True) (findMethod name v) (findMethod name v) := by
  refine .get fun s => .bind (V := fun _ => True) (.ofExcept fun _ => trivial) fun found _ => ?_
  cases found with
  | none => exact .throw _
  | some method => exact .pure trivial

theorem cut_announce (settings : Settings) (st : Stmt) :
    Cut orderly (fun _ => True) (announce settings st) (announce settings st) := by
  unfold announce
  split
  · refine .bind (V := fun _ => True) ?_ fun line _ => .modifyGet (fun s => .traced s _) fun _ => trivial
    cases Unwritable.orLimit st.outline.text? with
    | ok line => exact .pure trivial
    | error cause => exact .throw _
  · exact .pure trivial

theorem cut_breakOut : Cut orderly (fun _ => True) breakOut breakOut := by
  refine .same (fun s => ?_) fun _ _ _ _ => trivial
  rw [after, breakOut_apply]
  cases s.env.flow with
  | none => exact .refl s
  | some f => exact .refl s

theorem cut_continueOn : Cut orderly (fun _ => True) continueOn continueOn := by
  refine .same (fun s => ?_) fun _ _ _ _ => trivial
  rw [after, continueOn_apply]
  cases s.env.flow with
  | none => exact .refl s
  | some f => exact .refl s

theorem cut_returnWith (v : Value) : Cut orderly (fun _ => True) (returnWith v) (returnWith v) := by
  refine .same (fun s => ?_) fun _ _ _ _ => trivial
  rw [after, returnWith_apply]
  cases s.env.returnTarget with
  | none => exact .refl s
  | some target => exact .refl s

end

/-! ## Evaluation -/

/-- Evaluation is cut off or goes its way, of any program and on any values. -/
def cutting [Host] (orderly : Prop) (settings : Settings) (depth : Nat) :
    Discipline settings { settings with depth := depth } where
  checked := False
  Good _ := True
  Rel _ V x y := Cut orderly V x y
  ret := .pure
  seq := .bind
  ofCall h := h
  ofExpression h := h
  literal _ := trivial
  tuple _ := trivial
  function _ := trivial
  accepted _ := accepted_unchecked
  failing _ := .throw _
  unwritable _ := .throw _
  overflow := .throw _
  truth _ := .ofExcept fun _ => trivial
  unary _ := .ofExcept fun _ => trivial
  binary _ _ := .ofExcept fun _ => trivial
  compare _ _ := .ofFailure fun _ => trivial
  text _ := .ofFailure fun _ => trivial
  print line := .modifyGet (fun s => .print s line) fun _ => trivial
  getAttr _ := .get fun _ => .ofExcept fun _ _ _ => trivial
  findMethod _ := cut_findMethod _ _
  setAttr _ _ := cut_setAttr _ _ _
  newObject _ := .modifyGet (fun _ => .of_eq rfl rfl rfl) fun _ => trivial
  runFunction _ h := cut_runFunction h
  lookup _ := .get fun _ => .ofExcept fun _ => trivial
  update _ := .modifyGet (fun _ => .of_eq rfl rfl rfl) fun _ => trivial
  announce _ st := cut_announce settings st
  breakOut _ := cut_breakOut
  continueOn _ := cut_continueOn
  returnWith _ _ := cut_returnWith _
  loop ht hb ho := cut_loop _ (cut_turn ht hb ho)
  defineClass h := cut_defineClass _ h

/-- Calls a value at most `depth` calls deep, and answers calls that would be deeper in another way. -/
def invokeOver [Host] (settings : Settings) (beyond : Caller) : (depth : Nat) → Caller
  | 0 => beyond
  | depth + 1 => callValue settings (invokeOver settings beyond depth)

theorem invokeOver_invoke [Host] (settings : Settings) (more : Nat) : ∀ depth : Nat,
    invokeOver settings (invoke settings more) depth = invoke settings (depth + more)
  | 0 => by rw [invokeOver, Nat.zero_add]
  | depth + 1 => by
    rw [invokeOver, invokeOver_invoke settings more depth, Nat.succ_add]
    rfl

/-- Whatever answers the calls past the limit, the evaluation under the limit goes the same way or overflows. -/
theorem cut_invoke [Host] (settings : Settings) (beyond : Caller) (depth' : Nat) : ∀ depth : Nat,
    (cutting (∀ callee args s, RecordsKept s (after (beyond callee args) s)) settings depth').Calls
      (invoke settings depth) (invokeOver { settings with depth := depth' } beyond depth)
  | 0, callee, args, _, _ => fun s =>
    ⟨fun horderly => horderly callee args s, fun _ _ _ => trivial,
      .inr ⟨s, rfl, fun horderly => horderly callee args s⟩⟩
  | depth + 1, callee, args, hcallee, hargs =>
    (cutting _ settings depth').callValue (cut_invoke settings beyond depth' depth) callee args hcallee hargs

end Eval

/-! ## Modules -/

/-- Executes a module with calls at most `depth` deep, and with calls that would be deeper answered in another way. -/
def runModuleOver [Host] (settings : Settings) (beyond : Caller) (depth : Nat) (body : List Stmt) (s : State) :
    Ending × State :=
  match Eval.block settings (Eval.invokeOver settings beyond depth) body s with
  | .ok _ s => (.finished, s)
  | .error i s => (i.ending, s)

theorem runModuleOver_invoke [Host] (settings : Settings) {depth more : Nat} (h : settings.depth = depth + more)
    (body : List Stmt) (s : State) :
    runModuleOver settings (Eval.invoke settings more) depth body s = runModule settings body s := by
  unfold runModuleOver
  rw [Eval.invokeOver_invoke, ← h]
  rfl

theorem runModule_cut [Host] (settings : Settings) (beyond : Caller) (depth : Nat) (body : List Stmt) (s : State) :
    let limited := runModule { settings with depth := depth } body s
    let free := runModuleOver settings beyond depth body s
    limited = free ∨ limited.1 = .failed .depthExceeded ∧
      ((∀ callee args t, RecordsKept t (Eval.after (beyond callee args) t)) → RecordsKept limited.2 free.2) := by
  intro limited free
  let left : Settings := { settings with depth := depth }
  let D := Eval.cutting (∀ callee args t, RecordsKept t (Eval.after (beyond callee args) t)) left settings.depth
  have hcalls := Eval.cut_invoke left beyond settings.depth depth
  obtain ⟨-, -, hmeets⟩ := D.block hcalls .outermost body False.elim s
  rcases hmeets with hsame | ⟨s', hcut, hrecords⟩
  · left
    show runModule left body s = runModuleOver settings beyond depth body s
    unfold runModuleOver
    rw [← hsame]
    rfl
  · right
    have hlimited : limited = (.failed .depthExceeded, s') := runModule_error hcut
    rw [hlimited]
    refine ⟨rfl, fun horderly => ?_⟩
    have hfree : free.2 = Eval.after (Eval.block settings (Eval.invokeOver settings beyond depth) body) s := by
      show (runModuleOver settings beyond depth body s).2 = _
      unfold runModuleOver Eval.after
      cases Eval.block settings (Eval.invokeOver settings beyond depth) body s <;> rfl
    rw [hfree]
    exact hrecords horderly

/-- No call takes anything from the records, whatever is called. -/
theorem recordsKept_invoke [Host] (settings : Settings) (depth : Nat) (callee : Value) (args : List Value) (s : State) :
    RecordsKept s (Eval.after (Eval.invoke settings depth callee args) s) := by
  let D := Eval.cutting True settings settings.depth
  exact (D.invoke depth callee args trivial (fun _ _ => trivial) s).kept trivial

/-- The limit on nested calls only cuts a run off. If a run under a limit does not end at it, every higher limit gives
the same ending and the same state. If a run under the higher limit ends at it, so does the one under the lower limit,
with records that are where those of the other begin. And nothing observes the limit or goes on behind it: the run ends
there, or calls past it may be answered in any way without a difference. -/
theorem runModule_limits [Host] (settings : Settings) {limit limit' : Nat} (hle : limit ≤ limit') (body : List Stmt)
    (s : State) :
    let shallow := runModule { settings with depth := limit } body s
    let deep := runModule { settings with depth := limit' } body s
    (shallow.1 ≠ .failed .depthExceeded → deep = shallow) ∧
      (deep.1 = .failed .depthExceeded → shallow.1 = .failed .depthExceeded ∧ RecordsKept shallow.2 deep.2) ∧
      ∀ beyond : Caller, shallow.1 = .failed .depthExceeded ∨ runModuleOver settings beyond limit body s = shallow := by
  intro shallow deep
  let settings' : Settings := { settings with depth := limit' }
  obtain ⟨more, rfl⟩ := Nat.exists_eq_add_of_le hle
  have hdeep : runModuleOver settings' (Eval.invoke settings' more) limit body s = deep :=
    runModuleOver_invoke settings' rfl body s
  have hcut := runModule_cut settings' (Eval.invoke settings' more) limit body s
  simp only [hdeep] at hcut
  refine ⟨fun hended => ?_, fun hexceeded => ?_, fun beyond => ?_⟩
  · rcases hcut with hsame | ⟨hexceeded, -⟩
    · exact hsame.symm
    · exact absurd hexceeded hended
  · rcases hcut with hsame | ⟨hexceeded', hrecords⟩
    · have hshallow : shallow = deep := hsame
      rw [hshallow]
      exact ⟨hexceeded, .refl _⟩
    · exact ⟨hexceeded', hrecords (recordsKept_invoke settings' more)⟩
  · rcases runModule_cut settings beyond limit body s with hsame | ⟨hexceeded, -⟩
    · exact .inr hsame.symm
    · exact .inl hexceeded

section

attribute [local instance] Host.standard

/-- The sample module calls a class and its constructor: two calls deep is enough, and one is not. -/
theorem runModule_limits_sample :
    (2 ≤ 5 ∧ runModule ⟨true, 5, 1⟩ sampleModule (.start sampleWorld) =
        runModule ⟨true, 2, 1⟩ sampleModule (.start sampleWorld)) ∧
      0 ≤ 1 ∧ (runModule ⟨true, 0, 1⟩ sampleModule (.start sampleWorld)).1 = .failed .depthExceeded ∧
        RecordsKept (runModule ⟨true, 0, 1⟩ sampleModule (.start sampleWorld)).2
          (runModule ⟨true, 1, 1⟩ sampleModule (.start sampleWorld)).2 := by
  have hfinished : (runModule ⟨true, 2, 1⟩ sampleModule (.start sampleWorld)).1 ≠ .failed .depthExceeded := by
    decide +kernel
  have hexceeded : (runModule ⟨true, 1, 1⟩ sampleModule (.start sampleWorld)).1 = .failed .depthExceeded := by
    decide +kernel
  obtain ⟨hsame, -⟩ := runModule_limits ⟨true, 0, 1⟩ (show 2 ≤ 5 by decide) sampleModule (.start sampleWorld)
  obtain ⟨-, hless, -⟩ := runModule_limits ⟨true, 0, 1⟩ (show 0 ≤ 1 by decide) sampleModule (.start sampleWorld)
  exact ⟨⟨by decide, hsame hfinished⟩, by decide, hless hexceeded⟩

end

end Treewalk
