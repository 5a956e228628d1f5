/-
Rules for contracts: attributes, loops, class bodies and calls. A rule for a construct says when it meets a contract if
the block inside it meets another one, and asks only for facts about the states that the construct passes through.
-/
import Treewalk.Eval.Call
import Treewalk.Proofs.Standard

namespace Treewalk

/-! ## Exits on their way -/

/-- The exits that end a round of a loop. -/
def Interrupt.endsRound : Interrupt → Bool
  | .breakLoop _ | .continueLoop _ => true
  | _ => false

/-- The exit that ends a call. -/
def Interrupt.endsCall : Interrupt → Bool
  | .returnCall .. => true
  | _ => false

/-- Whether an exit on its way carries an exit point that is current in an environment. Errors are those that values can
cause; that an exit escaped is not one of them. -/
def Interrupt.AimedAt (env : Environment) : Interrupt → Prop
  | .error e => Standard.any.admits e
  | .breakLoop target => ∃ f, env.flow = some f ∧ target = f.breakTo
  | .continueLoop target => ∃ f, env.flow = some f ∧ target = f.continueTo
  | .returnCall target _ => env.returnTarget = some target
  | _ => True

/-- The same for an interrupt that leaves a loop: no exit of a loop does. -/
def Interrupt.LeavesLoop (env : Environment) : Interrupt → Prop
  | .error e => Standard.any.admits e
  | .breakLoop _ | .continueLoop _ => False
  | .returnCall target _ => env.returnTarget = some target
  | _ => True

theorem Interrupt.AimedAt.of_eq {env env' : Environment} (hf : env'.flow = env.flow)
    (hr : env'.returnTarget = env.returnTarget) {i : Interrupt} (h : i.AimedAt env') : i.AimedAt env := by
  cases i with
  | breakLoop _ | continueLoop _ => simp only [AimedAt, hf] at h; exact h
  | returnCall _ _ => simp only [AimedAt, hr] at h; exact h
  | error _ => exact h
  | unwritable _ | overflow | stalled => trivial

theorem Interrupt.LeavesLoop.of_eq {env env' : Environment} (hr : env'.returnTarget = env.returnTarget) {i : Interrupt}
    (h : i.LeavesLoop env') : i.LeavesLoop env := by
  cases i with
  | breakLoop _ | continueLoop _ => exact h
  | returnCall _ _ => simp only [LeavesLoop, hr] at h; exact h
  | error _ => exact h
  | unwritable _ | overflow | stalled => trivial

theorem Interrupt.LeavesLoop.aimedAt {env : Environment} {i : Interrupt} (h : i.LeavesLoop env) : i.AimedAt env := by
  cases i with
  | breakLoop _ | continueLoop _ => exact h.elim
  | returnCall _ _ | error _ => exact h
  | unwritable _ | overflow | stalled => trivial

theorem Interrupt.AimedAt.leavesLoop {env env' : Environment} (hr : env'.returnTarget = env.returnTarget)
    {i : Interrupt} (h : i.AimedAt env) (hi : i.endsRound = false) : i.LeavesLoop env' := by
  cases i with
  | breakLoop _ | continueLoop _ => cases hi
  | returnCall _ _ => exact hr.trans h
  | error _ => exact h
  | unwritable _ | overflow | stalled => trivial

theorem Interrupt.AimedAt.leavesCall {env env' : Environment} (hf : env'.flow = env.flow) {i : Interrupt}
    (h : i.AimedAt env) (hi : i.endsCall = false) : i.AimedAt env' := by
  cases i with
  | breakLoop _ | continueLoop _ => simp only [AimedAt, hf]; exact h
  | returnCall _ _ => cases hi
  | error _ => exact h
  | unwritable _ | overflow | stalled => trivial

namespace Eval

theorem breakOut_apply (s : State) : breakOut s = match s.env.flow with
    | some f => .error (.breakLoop f.breakTo) s
    | none => .error (.error (.uncaught .breakLoop)) s := by
  show (match s.env.flow with | some f => throw (.breakLoop f.breakTo) | none => fail _ : Eval Unit) s = _
  cases s.env.flow <;> rfl

theorem continueOn_apply (s : State) : continueOn s = match s.env.flow with
    | some f => .error (.continueLoop f.continueTo) s
    | none => .error (.error (.uncaught .continueLoop)) s := by
  show (match s.env.flow with | some f => throw (.continueLoop f.continueTo) | none => fail _ : Eval Unit) s = _
  cases s.env.flow <;> rfl

theorem returnWith_apply (value : Value) (s : State) : returnWith value s = match s.env.returnTarget with
    | some target => .error (.returnCall target value) s
    | none => .error (.error (.uncaught .returnCall)) s := by
  show (ofExcept s.env.currentReturn >>= fun target => throw (.returnCall target value) : Eval Unit) s = _
  unfold Environment.currentReturn
  cases s.env.returnTarget <;> rfl

/-! ## Attributes and traces -/

namespace Contract.Met

variable {C : Contract} {P : EvalError → Prop} {name : String} {v target : Value}

theorem findMethod {V : Value → Prop}
    (h : ∀ s, C.pre s → Yields P (fun found => ∀ w, found = some w → V w) (v.getClassAttr s.heap name))
    (hunknown : P (.unknownMethod name)) (herr : ∀ e, P e → ∀ s, C.pre s → C.bad s (.error e) s) :
    C.Met V (findMethod name v) := by
  refine .get fun s hs => .bind (.ofExcept (h s hs) herr) fun found hf => ?_
  cases found with
  | none => exact .throw (herr _ hunknown)
  | some method => exact .pure (hf method rfl)

theorem setAttr {H : Heap → Prop} (h : ∀ s, C.pre s → Yields P H (target.setAttr s.heap name v))
    (herr : ∀ e, P e → ∀ s, C.pre s → C.bad s (.error e) s)
    (hok : ∀ heap, H heap → ∀ s, C.pre s → C.ok s { s with heap := heap }) :
    C.Met (fun _ => True) (setAttr name v target) :=
  .get fun s hs => .bind (.ofExcept (h s hs) herr) fun heap hheap =>
    .modifyGet fun t ht => ⟨trivial, hok heap hheap t ht⟩

theorem announce {settings : Settings} {st : Stmt} (hun : ∀ cause s, C.pre s → C.bad s (.unwritable cause) s)
    (hok : ∀ line s, C.pre s → C.ok s { s with trace := s.trace.push line }) :
    C.Met (fun _ => True) (announce settings st) := by
  unfold Eval.announce
  split
  · exact .bind (.ofText hun) fun _ _ => .modifyGet fun s hs => ⟨trivial, hok _ s hs⟩
  · exact .pure trivial

end Contract.Met

/-! ## Loops -/

/-- The state in which a round of a loop runs. -/
def roundState (breakTo : ExitPoint) (s : State) : State :=
  { s with nextExit := s.nextExit + 1 }.setFlow (some ⟨breakTo, ⟨"continue", s.nextExit⟩⟩)

section

variable {C L D : Contract} {breakTo : ExitPoint} {test : Eval Bool} {body orelse : Eval Unit}

theorem round_apply (s : State) :
    round breakTo test body orelse s =
      handle (turn test body orelse) (catchExit breakTo ⟨"continue", s.nextExit⟩) (roundState breakTo s) :=
  rfl

theorem loop_apply (limit : Nat) (s : State) :
    loop limit test body orelse s =
      afterwards (rounds ⟨"break", s.nextExit⟩ test body orelse limit) (fun s' => s'.setFlow s.env.flow)
        { s with nextExit := s.nextExit + 1 } :=
  rfl

/-- A round either catches an exit or passes it on, whatever the state, and changes nothing else. -/
theorem catchExit_cases (breakTo continueTo : ExitPoint) (i : Interrupt) :
    (∃ again, ∀ s, catchExit breakTo continueTo i s = .ok again s) ∨
      ∀ s, catchExit breakTo continueTo i s = .error i s := by
  unfold catchExit
  split
  · split
    · exact .inl ⟨true, fun _ => rfl⟩
    · exact .inr fun _ => rfl
  · split
    · exact .inl ⟨false, fun _ => rfl⟩
    · exact .inr fun _ => rfl
  · exact .inr fun _ => rfl

/-- A round catches every exit of a loop that reaches it if all of them are aimed at the round's own exit points. -/
theorem round_caught {s : State} (h : ∀ i s', turn test body orelse (roundState breakTo s) = .error i s' →
    i.AimedAt (roundState breakTo s).env) :
    round breakTo test body orelse s =
      match turn test body orelse (roundState breakTo s) with
      | .ok again s' => .ok again s'
      | .error (.continueLoop _) s' => .ok true s'
      | .error (.breakLoop _) s' => .ok false s'
      | .error i s' => .error i s' := by
  rw [round_apply]
  cases hr : turn test body orelse (roundState breakTo s) with
  | ok again s' => rw [handle_ok hr]
  | error i s' =>
    rw [handle_error hr]
    have ha := h i s' hr
    cases i with
    | continueLoop t =>
      -- The exit points that are current are the ones `roundState` has set.
      obtain ⟨f, hf, rfl⟩ := ha
      cases hf
      rw [catchExit, if_pos rfl]
      rfl
    | breakLoop t =>
      obtain ⟨f, hf, rfl⟩ := ha
      cases hf
      rw [catchExit, if_pos rfl]
      rfl
    | error _ | unwritable _ | returnCall _ _ | overflow | stalled => rfl

namespace Contract.Met

theorem turn (ht : C.Met (fun _ => True) test) (hb : C.Met (fun _ => True) body) (ho : C.Met (fun _ => True) orelse) :
    C.Met (fun _ => True) (turn test body orelse) := by
  refine .bind ht fun b _ => ?_
  cases b with
  | true => exact .bind hb fun _ _ => .pure trivial
  | false => exact .bind ho fun _ _ => .pure trivial

theorem round (h : C.Met (fun _ => True) (Eval.turn test body orelse))
    (hpre : ∀ s, L.pre s → C.pre (roundState breakTo s))
    (hok : ∀ s s', L.pre s → C.ok (roundState breakTo s) s' → L.ok s s')
    (hbad : ∀ s i s', L.pre s → C.bad (roundState breakTo s) i s' → i.AimedAt (roundState breakTo s).env ∧
      (i.endsRound = true → L.ok s s') ∧ (i.endsRound = false → L.bad s i s')) :
    L.Met (fun _ => True) (round breakTo test body orelse) := by
  intro s hs
  -- Any interrupt of the turn, with what the contract of the turn promises about it.
  have hbad' : ∀ i s', Eval.turn test body orelse (roundState breakTo s) = .error i s' → _ := fun i s' hr =>
    hbad s i s' hs (h.of_error (hpre s hs) hr)
  rw [round_caught fun i s' hr => (hbad' i s' hr).1]
  cases hr : Eval.turn test body orelse (roundState breakTo s) with
  | ok again s' => exact ⟨trivial, hok s s' hs (h.of_ok (hpre s hs) hr).2⟩
  | error i s' =>
    obtain ⟨-, hends, hpasses⟩ := hbad' i s' hr
    cases i with
    | breakLoop _ | continueLoop _ => exact ⟨trivial, hends rfl⟩
    | error _ | unwritable _ | returnCall _ _ | overflow | stalled => exact hpasses rfl

theorem rounds (hstall : ∀ s, L.pre s → L.bad s .stalled s)
    (h : L.Met (fun _ => True) (Eval.round breakTo test body orelse)) :
    ∀ limit : Nat, L.Met (fun _ => True) (rounds breakTo test body orelse limit)
  | 0 => .throw hstall
  | limit + 1 => by
    refine .bind h fun again _ => ?_
    cases again with
    | true => exact rounds hstall h limit
    | false => exact .pure trivial

theorem loop {limit : Nat} (h : ∀ b, L.Met (fun _ => True) (Eval.rounds b test body orelse limit))
    (hpre : ∀ s, D.pre s → L.pre { s with nextExit := s.nextExit + 1 })
    (hok : ∀ s s', D.pre s → L.ok { s with nextExit := s.nextExit + 1 } s' → D.ok s (s'.setFlow s.env.flow))
    (hbad : ∀ s i s', D.pre s → L.bad { s with nextExit := s.nextExit + 1 } i s' →
      D.bad s i (s'.setFlow s.env.flow)) :
    D.Met (fun _ => True) (loop limit test body orelse) := by
  intro s hs
  rw [loop_apply]
  cases hr : Eval.rounds ⟨"break", s.nextExit⟩ test body orelse limit { s with nextExit := s.nextExit + 1 } with
  | ok a s' =>
    rw [afterwards_ok hr]
    exact ⟨trivial, hok s s' hs ((h _).of_ok (hpre s hs) hr).2⟩
  | error i s' =>
    rw [afterwards_error hr]
    exact hbad s i s' hs ((h _).of_error (hpre s hs) hr)

end Contract.Met

end

/-! ## Class bodies -/

/-- The state behind a class definition, from the one in which the body of the class ended. -/
def classState (name : String) (s : State) : State :=
  { s with
    env := { s.env with frames := s.env.frames.tail }.update name (.cls name s.heap.maps.size)
    heap := (s.heap.alloc s.env.top).2
    log := s.log.push (.createdClass name (sortedNames s.env.top.keys)) }

theorem finishClass_apply (name : String) {s : State} (h : s.env.frames ≠ []) :
    finishClass name s = .ok () (classState name s) := by
  obtain ⟨⟨globals, frames, returnTarget, flow⟩, heap, nextExit, output, trace, log⟩ := s
  cases frames with
  | nil => exact absurd rfl h
  | cons frame rest => rfl

/-- Without a frame there is nothing to make a class of. -/
theorem finishClass_global (name : String) {s : State} (h : s.env.frames = []) :
    finishClass name s = .error (.error .globalFramePopped) s := by
  obtain ⟨⟨globals, frames, returnTarget, flow⟩, heap, nextExit, output, trace, log⟩ := s
  cases h
  rfl

theorem defineClass_apply (name : String) (body : Eval Unit) (s : State) :
    defineClass name body s = (body >>= fun _ => finishClass name : Eval Unit) { s with env := s.env.pushFrame } :=
  rfl

theorem Contract.Met.defineClass {C D : Contract} {name : String} {body : Eval Unit} (h : C.Met (fun _ => True) body)
    (hpre : ∀ s, D.pre s → C.pre { s with env := s.env.pushFrame })
    (hok : ∀ s s', D.pre s → C.ok { s with env := s.env.pushFrame } s' →
      s'.env.frames ≠ [] ∧ D.ok s (classState name s'))
    (hbad : ∀ s i s', D.pre s → C.bad { s with env := s.env.pushFrame } i s' → D.bad s i s') :
    D.Met (fun _ => True) (defineClass name body) := by
  intro s hs
  rw [defineClass_apply]
  cases hr : body { s with env := s.env.pushFrame } with
  | error i s' =>
    rw [bind_error hr]
    exact hbad s i s' hs (h.of_error (hpre s hs) hr)
  | ok _ s' =>
    obtain ⟨hne, hend⟩ := hok s s' hs (h.of_ok (hpre s hs) hr).2
    rw [bind_ok hr, finishClass_apply name hne]
    exact ⟨trivial, hend⟩

/-! ## Calls -/

/-- The state in which the body of a function runs. -/
def callState (name : String) (params : List String) (args : List Value) (s : State) : State :=
  { s with
    env := (s.env.enterCall (Bindings.ofList (params.zip args)) ⟨"return from " ++ name, s.nextExit⟩).2
    nextExit := s.nextExit + 1
    log := s.log.push (.calling name args.length) }

/-- The state that a call returns to, from the one in which its body ended. -/
def backFrom (s s' : State) : State := { s' with env := s'.env.restore ⟨s.env.frames.length, s.env.returnTarget⟩ }

section

variable {C D : Contract} {name : String} {params : List String} {args : List Value} {body : Eval Unit}

theorem runFunction_apply (s : State) :
    runFunction name params args body s =
      afterwards (handle (do body; return .none) (catchReturn ⟨"return from " ++ name, s.nextExit⟩)) (backFrom s)
        (callState name params args s) :=
  rfl

/-- A call either catches a `return` with its value or passes an interrupt on, whatever the state, and changes nothing
else. -/
theorem catchReturn_cases (target : ExitPoint) (i : Interrupt) :
    (∃ v, (∃ t, i = .returnCall t v) ∧ ∀ s, catchReturn target i s = .ok v s) ∨
      ∀ s, catchReturn target i s = .error i s := by
  unfold catchReturn
  split
  · split
    · exact .inl ⟨_, ⟨_, rfl⟩, fun _ => rfl⟩
    · exact .inr fun _ => rfl
  · exact .inr fun _ => rfl

/-- A call catches every `return` that reaches it if all of them are aimed at the call's own exit point. -/
theorem runFunction_caught {s : State} (h : ∀ i s', body (callState name params args s) = .error i s' →
    i.AimedAt (callState name params args s).env) :
    runFunction name params args body s =
      match body (callState name params args s) with
      | .ok _ s' => .ok .none (backFrom s s')
      | .error (.returnCall _ v) s' => .ok v (backFrom s s')
      | .error i s' => .error i (backFrom s s') := by
  rw [runFunction_apply]
  cases hr : body (callState name params args s) with
  | ok _ s' => exact afterwards_ok (handle_ok (bind_ok hr))
  | error i s' =>
    have hb : (do body; return Value.none : Eval Value) (callState name params args s) = .error i s' := bind_error hr
    have ha := h i s' hr
    cases i with
    | returnCall t v =>
      cases ha
      have hc : ∀ t, catchReturn t (.returnCall t v) s' = .ok v s' := fun t => by rw [catchReturn, if_pos rfl]; rfl
      exact afterwards_ok ((handle_error hb).trans (hc _))
    | error _ | unwritable _ | breakLoop _ | continueLoop _ | overflow | stalled =>
      exact afterwards_error (handle_error hb)

theorem Contract.Met.runFunction {V : Value → Prop} (h : C.Met (fun _ => True) body)
    (hpre : ∀ s, D.pre s → C.pre (callState name params args s))
    (hok : ∀ s s', D.pre s → C.ok (callState name params args s) s' → V .none ∧ D.ok s (backFrom s s'))
    (hbad : ∀ s i s', D.pre s → C.bad (callState name params args s) i s' →
      i.AimedAt (callState name params args s).env ∧
      (∀ t v, i = .returnCall t v → V v ∧ D.ok s (backFrom s s')) ∧
      (i.endsCall = false → D.bad s i (backFrom s s'))) :
    D.Met V (runFunction name params args body) := by
  intro s hs
  have hbad' : ∀ i s', body (callState name params args s) = .error i s' → _ := fun i s' hr =>
    hbad s i s' hs (h.of_error (hpre s hs) hr)
  rw [runFunction_caught fun i s' hr => (hbad' i s' hr).1]
  cases hr : body (callState name params args s) with
  | ok _ s' => exact hok s s' hs (h.of_ok (hpre s hs) hr).2
  | error i s' =>
    obtain ⟨-, hreturns, hpasses⟩ := hbad' i s' hr
    cases i with
    | returnCall t v => exact hreturns t v rfl
    | error _ | unwritable _ | breakLoop _ | continueLoop _ | overflow | stalled => exact hpasses rfl

end

end Eval

end Treewalk
