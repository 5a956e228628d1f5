/-
Journals account for evaluation. Along every evaluation, the lines that the trace gains are the announcements of the
statements that its journal says are started; if a missing text ends it, that text is the last one that the journal says
is asked for; and if no statement is without an announcement, the same evaluation without a trace goes the same way. All
statements in the journal belong to the program or to functions that can be reached where it starts, so whatever norm
these are held to, those in the journal meet.
-/
import Treewalk.Proofs.Custody
import Treewalk.Proofs.Journal

namespace Treewalk

/-! ## Norms -/

/-- A statement in the body of a function that can be reached from the global names. -/
def World.Defines (w : World) (st : Stmt) : Prop :=
  ∃ name params body, Reachable w.heap w.Bound (.function name params body) ∧ st ∈ body

def Handler.body : Handler → List Stmt
  | .mk _ _ body => body

def Case.body : Case → List Stmt
  | .mk _ _ body => body

/-- The statements of the blocks of a statement. -/
def Stmt.inside : Stmt → List Stmt
  | .functionDef _ _ _ body _ _ | .classDef _ _ _ body _ | .withStmt _ _ body => body
  | .ifStmt _ body orelse | .whileStmt _ body orelse | .forStmt _ _ _ body orelse => body ++ orelse
  | .tryStmt _ body handlers orelse final => body ++ handlers.flatMap Handler.body ++ orelse ++ final
  | .matchStmt _ cases => cases.flatMap Case.body
  | _ => []

/-- The expressions that a statement would assign to or delete. -/
def Stmt.targets : Stmt → List Expr
  | .assign targets _ | .delete targets => targets
  | .augAssign target _ _ => [target]
  | _ => []

/-- What statements are held to, together with those inside them. -/
structure Norm where
  Fine : Stmt → Prop
  inside : ∀ {st st' : Stmt}, Fine st → st' ∈ st.inside → Fine st'

namespace Norm

/-- Functions are held to the norm by their bodies. -/
def Fits (N : Norm) : Value → Prop
  | .function _ _ body => ∀ st ∈ body, N.Fine st
  | _ => True

def standard (N : Norm) : Standard where
  fits := N.Fits
  admits := Standard.any.admits
  scalar {v} h := by
    cases v with
    | function _ _ _ => cases h
    | none | bool _ | int _ | float _ | imaginary _ _ | string _ | tuple _ | cls _ _ | object _ _ | foreign _ => trivial
  tuple := trivial
  cls := trivial
  object := trivial
  ordinary := Standard.any.ordinary
  foreign _ := Standard.any.foreign trivial
  unclassed {_ own} _ hne := Standard.any.unclassed (show Standard.any.fits (.object _ own) from trivial) hne
  unescaped := Standard.any.unescaped

variable (N : Norm) (live : Address → Prop)

abbrev Good (v : Value) : Prop := N.standard.Good live v

/-- All functions that a frame binds or that are on the heap meet the norm. -/
structure Holds (s : State) : Prop where
  names : s.env.All (N.Good live)
  heap : N.standard.HeapOk live s.heap

/-- Every fine statement has an announcement. -/
def Writable : Prop := ∀ st, N.Fine st → st.outline.text?.isSome = true

variable {N live}

namespace Holds

variable {s s' : State}

theorem of_eq (h : N.Holds live s) (hglobals : s'.env.globals = s.env.globals) (hframes : s'.env.frames = s.env.frames)
    (hheap : s'.heap = s.heap) : N.Holds live s' :=
  ⟨⟨hglobals ▸ h.names.globals, hframes ▸ h.names.frames⟩, hheap ▸ h.heap⟩

theorem update (h : N.Holds live s) (name : String) {v : Value} (hv : N.Good live v) :
    N.Holds live { s with env := s.env.update name v } :=
  ⟨h.names.update name hv, h.heap⟩

theorem pushFrame (h : N.Holds live s) : N.Holds live { s with env := s.env.pushFrame } :=
  ⟨h.names.pushFrame, h.heap⟩

theorem classState (h : N.Holds live s) (name : String) : N.Holds live (Eval.classState name s) := by
  have hcls : N.Good live (.cls name s.heap.maps.size) :=
    Value.within_cls.2 ⟨trivial, h.heap.fresh _ (Nat.le_refl _)⟩
  have htail : ({ s.env with frames := s.env.frames.tail } : Environment).All (N.Good live) :=
    ⟨h.names.globals, fun frame hf => h.names.frames frame (List.mem_of_mem_tail hf)⟩
  exact ⟨htail.update name hcls, h.heap.alloc (h.names.top.top h.names.globals)⟩

theorem callState (h : N.Holds live s) (name : String) (params : List String) {args : List Value}
    (hargs : ∀ v ∈ args, N.Good live v) : N.Holds live (Eval.callState name params args s) := by
  refine ⟨⟨h.names.globals, fun frame hf => ?_⟩, h.heap⟩
  rcases List.mem_cons.1 hf with rfl | hf
  · exact .ofList fun entry he => hargs _ (List.of_mem_zip he).2
  · exact h.names.frames frame hf

/-- The end of a call only takes frames away. -/
theorem backFrom (h : N.Holds live s') (s : State) : N.Holds live (Eval.backFrom s s') :=
  ⟨⟨h.names.globals, fun frame hf => h.names.frames frame (List.mem_of_mem_drop hf)⟩, h.heap⟩

/-- The norm holds at the start if all functions meet it that can be reached from the global names. -/
theorem start {globals : Bindings Value} (s : State) (h : ∀ st, World.Defines ⟨globals, s.heap⟩ st → N.Fine st) :
    N.Holds (Live s.heap (World.Bound ⟨globals, s.heap⟩)) { s with env := .ofGlobals globals } := by
  have hfits : ∀ v, Reachable s.heap (World.Bound ⟨globals, s.heap⟩) v → N.Fits v := by
    intro v hv
    cases v with
    | function name params body => exact fun st hst => h st ⟨name, params, body, hv, hst⟩
    | none | bool _ | int _ | float _ | imaginary _ _ | string _ | tuple _ | cls _ _ | object _ _ | foreign _ => trivial
  refine ⟨⟨fun name v hv => ?_, fun frame hf => ?_⟩, Standard.heapOk_of_reachable hfits⟩
  · exact Standard.good_of_reachable hfits (.root ⟨name, hv⟩)
  · cases hf

theorem fine (h : N.Holds live s) {st : Stmt} (hst : s.world.Defines st) : N.Fine st := by
  obtain ⟨name, params, body, hv, hmem⟩ := hst
  have hgood := Standard.reachable_good h.heap (fun v ⟨name, hname⟩ => h.names.globals name v hname) hv
  exact hgood.here st hmem

end Holds

end Norm

/-- The statements in a note meet the norm; a target that is asked for belongs to such a statement. -/
def Note.Meets (N : Norm) : Note → Prop
  | .starting st | .asking (.outline st) => N.Fine st
  | .asking (.target e) => ∃ st, N.Fine st ∧ e ∈ st.targets
  | .asking (.deletion targets) => N.Fine (.delete targets)
  | .asking _ => True

/-! ## Traces -/

/-- The line that announces a statement; none if the statement has no outline that can be written. -/
def Stmt.announcement? (st : Stmt) : Option String := st.outline.text?.map ("*** Evaluating: " ++ ·)

/-- What the trace gains by what is noted. -/
def announcements (settings : Settings) (notes : List Note) : List (Option String) :=
  if settings.tracing then (started notes).map Stmt.announcement? else []

theorem started_append (xs ys : List Note) : started (xs ++ ys) = started xs ++ started ys := List.filterMap_append

theorem announcements_append (settings : Settings) (xs ys : List Note) :
    announcements settings (xs ++ ys) = announcements settings xs ++ announcements settings ys := by
  unfold announcements
  split
  · rw [started_append, List.map_append]
  · rfl

theorem announcements_nil (settings : Settings) : announcements settings [] = [] := by
  unfold announcements
  split
  · rfl
  · rfl

theorem announcements_asking (settings : Settings) (r : Rendering) : announcements settings [.asking r] = [] := by
  unfold announcements
  split
  · rfl
  · rfl

/-- A state without its trace. -/
def State.untraced (s : State) : State := { s with trace := #[] }

theorem State.eq_of_untraced {s t : State} (h : t.untraced = s.untraced) : t = { s with trace := t.trace } := by
  obtain ⟨env, heap, nextExit, output, trace, log⟩ := s
  obtain ⟨env', heap', nextExit', output', trace', log'⟩ := t
  cases h
  rfl

namespace Eval

/-- An outcome without its trace. -/
def muted {α : Type} : EStateM.Result Interrupt State α → EStateM.Result Interrupt State α
  | .ok a s => .ok a s.untraced
  | .error i s => .error i s.untraced

section

variable {α : Type} {r : EStateM.Result Interrupt State α} {s : State}

theorem muted_eq_ok {a : α} (h : muted r = muted (.ok a s)) : ∃ trace, r = .ok a { s with trace := trace } := by
  cases r with
  | ok b t =>
    obtain ⟨rfl, ht⟩ := EStateM.Result.ok.inj h
    exact ⟨t.trace, by rw [← State.eq_of_untraced ht]⟩
  | error i t => cases h

theorem muted_eq_error {i : Interrupt} (h : muted r = muted (.error i s)) :
    ∃ trace, r = .error i { s with trace := trace } := by
  cases r with
  | ok b t => cases h
  | error j t =>
    obtain ⟨rfl, ht⟩ := EStateM.Result.error.inj h
    exact ⟨t.trace, by rw [← State.eq_of_untraced ht]⟩

end

end Eval

/-! ## Accounts -/

/-- What evaluations are held to: the norm of their statements, the live addresses, and the settings. -/
structure Audit where
  norm : Norm
  live : Address → Prop
  settings : Settings

namespace Audit

open Eval Journal

variable [Host] (A : Audit) {α β : Type}

abbrev Good (v : Value) : Prop := A.norm.Good A.live v

abbrev Holds (s : State) : Prop := A.norm.Holds A.live s

/-- What has become of a state, by what was noted. -/
structure Booked (notes : List Note) (s s' : State) : Prop where
  holds : A.Holds s'
  trace : s'.trace.toList.map some = s.trace.toList.map some ++ announcements A.settings notes

/-- What an interrupt may bring: a good value from a `return`, and a missing text if it was the last one asked for. -/
def Explains (notes : List Note) : Interrupt → Prop
  | .returnCall _ v => A.Good v
  | .unwritable cause => ∃ r, notes.getLast? = some (.asking r) ∧ r.fault? = some cause
  | _ => True

/-- An outcome by what was noted on the way to it. -/
def Outcome (V : α → Prop) (notes : List Note) (s : State) : EStateM.Result Interrupt State α → Prop
  | .ok a s' => V a ∧ A.Booked notes s s'
  | .error i s' => A.Explains notes i ∧ A.Booked notes s s'

/-- What is known of an evaluation `x` from a state by its notes, and of an evaluation `y`, with notes of its own, that
writes no trace. -/
structure AccountFrom (V : α → Prop) (x y : Eval α) (notes : List Note) (notes' : Notes) (s : State) : Prop where
  outcome : A.Outcome V notes s (x s)
  meets : ∀ n ∈ notes, n.Meets A.norm
  mirror : A.norm.Writable → ∀ trace, muted (y { s with trace := trace }) = muted (x s) ∧
    started (notes' { s with trace := trace }) = started notes

/-- The same from every state in which the norm holds. -/
def Account (V : α → Prop) (x y : Eval α) (notes notes' : Notes) : Prop :=
  ∀ s, A.Holds s → A.AccountFrom V x y (notes s) notes' s

/-- A step that notes nothing, with or without a trace. -/
abbrev Silent (V : α → Prop) (x : Eval α) : Prop := A.Account V x x nothing nothing

variable {A} {V : α → Prop} {W : β → Prop} {s s₁ s' : State} {xs ys : List Note}

/-! ### Single steps -/

omit [Host] in
theorem Booked.silent (hs : A.Holds s') (htrace : s'.trace = s.trace) (hnotes : announcements A.settings xs = []) :
    A.Booked xs s s' :=
  ⟨hs, by rw [hnotes, htrace, List.append_nil]⟩

omit [Host] in
theorem Booked.nothing (hs : A.Holds s') (htrace : s'.trace = s.trace) : A.Booked [] s s' :=
  .silent hs htrace (announcements_nil _)

omit [Host] in
theorem Booked.asking (hs : A.Holds s) (r : Rendering) : A.Booked [.asking r] s s :=
  .silent hs rfl (announcements_asking _ r)

/-- A step that does not look at the trace. -/
theorem Account.step {x : Eval α} {notes : List Note} (h : ∀ s, A.Holds s → A.Outcome V notes s (x s))
    (hmeets : ∀ n ∈ notes, n.Meets A.norm) (hblind : ∀ s trace, muted (x { s with trace := trace }) = muted (x s)) :
    A.Account V x x (fun _ => notes) fun _ => notes :=
  fun s hs => ⟨h s hs, hmeets, fun _ trace => ⟨hblind s trace, rfl⟩⟩

theorem Account.pure {a : α} (h : V a) : A.Silent V (pure a : Eval α) :=
  .step (fun _ hs => ⟨h, .nothing hs rfl⟩) nofun fun _ _ => rfl

theorem Account.throw {i : Interrupt} (h : A.Explains [] i) : A.Silent V (throw i : Eval α) :=
  .step (fun _ hs => ⟨h, .nothing hs rfl⟩) nofun fun _ _ => rfl

theorem Account.fail (e : EvalError) : A.Silent V (fail e : Eval α) := .throw trivial

theorem Account.ofExcept {P : EvalError → Prop} {x : Except EvalError α} (h : Yields P V x) :
    A.Silent V (ofExcept x) := by
  cases h with
  | ok ha => exact .pure ha
  | error _ => exact .fail _

omit [Host] in
theorem meets_asking {N : Norm} {r : Rendering} (h : (Note.asking r).Meets N) : ∀ n ∈ [Note.asking r], n.Meets N := by
  intro n hn
  rw [List.mem_singleton.1 hn]
  exact h

/-- Something that depends on a text that is asked for. -/
theorem Account.ofFailure {x : Except Failure α} {r : Rendering} (hr : r.fault? = faultOf? x) (hV : ∀ a, V a)
    (hmeets : (Note.asking r).Meets A.norm) : A.Account V (ofFailure x) (ofFailure x) (Journal.note (.asking r))
      (Journal.note (.asking r)) := by
  cases x with
  | ok a => exact .step (fun _ hs => ⟨hV a, .asking hs r⟩) (meets_asking hmeets) fun _ _ => rfl
  | error f =>
    cases f with
    | error e => exact .step (fun _ hs => ⟨trivial, .asking hs r⟩) (meets_asking hmeets) fun _ _ => rfl
    | unwritable cause =>
      exact .step (fun _ hs => ⟨⟨r, rfl, hr⟩, .asking hs r⟩) (meets_asking hmeets) fun _ _ => rfl

/-- An error whose message asks for a text. -/
theorem Account.failWith {β : Type} {x : Except Unwritable β} {f : β → EvalError} {r : Rendering}
    (hr : r.fault? = missing? x) (hmeets : (Note.asking r).Meets A.norm) :
    A.Account V (do Eval.fail (f (← ofText x)) : Eval α) (do Eval.fail (f (← ofText x)))
      (Journal.note (.asking r)) (Journal.note (.asking r)) := by
  cases x with
  | ok text => exact .step (fun _ hs => ⟨trivial, .asking hs r⟩) (meets_asking hmeets) fun _ _ => rfl
  | error cause => exact .step (fun _ hs => ⟨⟨r, rfl, hr⟩, .asking hs r⟩) (meets_asking hmeets) fun _ _ => rfl

theorem Account.get {f : State → Eval α} (h : ∀ s, A.Holds s → A.Silent V (f s))
    (hblind : ∀ s trace, f { s with trace := trace } = f s) :
    A.Silent V (do f (← get)) := by
  intro s hs
  obtain ⟨houtcome, hmeets, hmirror⟩ := h s hs s hs
  refine ⟨houtcome, hmeets, fun hw trace => ⟨?_, rfl⟩⟩
  show muted (f { s with trace := trace } { s with trace := trace }) = _
  rw [hblind]
  exact (hmirror hw trace).1

theorem Account.modifyGet {f : State → α × State}
    (h : ∀ s, A.Holds s → V (f s).1 ∧ A.Holds (f s).2 ∧ (f s).2.trace = s.trace)
    (hblind : ∀ s trace, (f { s with trace := trace }).1 = (f s).1 ∧
      (f { s with trace := trace }).2.untraced = (f s).2.untraced) :
    A.Silent V (modifyGet f : Eval α) := by
  refine .step (fun s hs => ?_) nofun fun s trace => ?_
  · obtain ⟨ha, hs', htrace⟩ := h s hs
    exact ⟨ha, .nothing hs' htrace⟩
  · obtain ⟨ha, hs'⟩ := hblind s trace
    show EStateM.Result.ok (f { s with trace := trace }).1 (f { s with trace := trace }).2.untraced = _
    rw [ha, hs']
    rfl

/-! ### Sequences -/

omit [Host] in
theorem Booked.trans (h : A.Booked xs s s₁) (h' : A.Booked ys s₁ s') : A.Booked (xs ++ ys) s s' :=
  ⟨h'.holds, by rw [h'.trace, h.trace, announcements_append, List.append_assoc]⟩

theorem Explains.behind {i : Interrupt} (h : A.Explains ys i) : A.Explains (xs ++ ys) i := by
  cases i with
  | unwritable cause =>
    obtain ⟨r, hlast, hr⟩ := h
    exact ⟨r, by rw [List.getLast?_append, hlast]; rfl, hr⟩
  | returnCall target v => exact h
  | error _ | breakLoop _ | continueLoop _ | overflow | stalled => trivial

theorem Outcome.behind {r : EStateM.Result Interrupt State α} (h : A.Booked xs s s₁) (hr : A.Outcome V ys s₁ r) :
    A.Outcome V (xs ++ ys) s r := by
  cases r with
  | ok a s' => exact ⟨hr.1, h.trans hr.2⟩
  | error i s' => exact ⟨hr.1.behind, h.trans hr.2⟩

theorem Account.bind {x y : Eval α} {f g : α → Eval β} {notes notes' : Notes} {next next' : α → Notes}
    (hx : A.Account V x y notes notes') (hf : ∀ a, V a → A.Account W (f a) (g a) (next a) (next' a)) :
    A.Account W (x >>= f) (y >>= g) (andThen x notes next) (andThen y notes' next') := by
  intro s hs
  obtain ⟨houtcome, hmeets, hmirror⟩ := hx s hs
  unfold andThen
  cases hxs : x s with
  | error i s₁ =>
    rw [hxs] at houtcome hmirror
    simp only [List.append_nil]
    refine ⟨?_, hmeets, fun hw trace => ?_⟩
    · rw [bind_error hxs]
      exact houtcome
    · obtain ⟨hmuted, hstarted⟩ := hmirror hw trace
      obtain ⟨trace', hy⟩ := muted_eq_error hmuted
      rw [bind_error hxs, bind_error hy, hy, List.append_nil]
      exact ⟨rfl, hstarted⟩
  | ok a s₁ =>
    rw [hxs] at houtcome hmirror
    obtain ⟨ha, hbooked⟩ := houtcome
    obtain ⟨houtcome', hmeets', hmirror'⟩ := hf a ha s₁ hbooked.holds
    refine ⟨?_, fun n hn => (List.mem_append.1 hn).elim (hmeets n) (hmeets' n), fun hw trace => ?_⟩
    · rw [bind_ok hxs]
      exact .behind hbooked houtcome'
    · obtain ⟨hmuted, hstarted⟩ := hmirror hw trace
      obtain ⟨trace', hy⟩ := muted_eq_ok hmuted
      obtain ⟨hmuted', hstarted'⟩ := hmirror' hw trace'
      rw [bind_ok hxs, bind_ok hy, hy, started_append, started_append, hstarted]
      exact ⟨hmuted', congrArg _ hstarted'⟩

omit [Host] in
theorem andThen_nothing (x : Eval α) (notes : Notes) : andThen x notes (fun _ => nothing) = notes := by
  funext s
  unfold andThen
  cases x s <;> exact List.append_nil _

/-- Behind the last note of an evaluation more steps may follow. -/
theorem Account.finish {x y : Eval α} {f g : α → Eval β} {notes notes' : Notes} (hx : A.Account V x y notes notes')
    (hf : ∀ a, V a → A.Account W (f a) (g a) nothing nothing) : A.Account W (x >>= f) (y >>= g) notes notes' := by
  have h := hx.bind hf
  rwa [andThen_nothing, andThen_nothing] at h

theorem Account.ite {c : Prop} [Decidable c] {x y x' y' : Eval α} {xs ys xs' ys' : Notes} (h : A.Account V x y xs ys)
    (h' : A.Account V x' y' xs' ys') :
    A.Account V (if c then x else x') (if c then y else y') (if c then xs else xs') (if c then ys else ys') := by
  split
  · exact h
  · exact h'

/-! ### Evaluations around others -/

/-- An evaluation that goes on from a state prepared for it. -/
theorem AccountFrom.prepared {x y x' y' : Eval α} {s t : State} {ys ys' : Notes} (h : A.AccountFrom V x' y' xs ys' t)
    (hx : x s = x' t) (htrace : t.trace = s.trace)
    (hy : ∀ trace, y { s with trace := trace } = y' { t with trace := trace })
    (hys : ∀ trace, ys { s with trace := trace } = ys' { t with trace := trace }) : A.AccountFrom V x y xs ys s := by
  obtain ⟨houtcome, hmeets, hmirror⟩ := h
  refine ⟨?_, hmeets, fun hw trace => ?_⟩
  · rw [hx]
    cases hr : x' t with
    | ok a s' =>
      rw [hr] at houtcome
      exact ⟨houtcome.1, houtcome.2.holds, htrace ▸ houtcome.2.trace⟩
    | error i s' =>
      rw [hr] at houtcome
      exact ⟨houtcome.1, houtcome.2.holds, htrace ▸ houtcome.2.trace⟩
  · rw [hx, hy, hys]
    exact hmirror hw trace

/-- A handler that looks at the interrupt only, and catches it or passes it on. -/
theorem Account.handle {x y : Eval α} {notes notes' : Notes} (h : A.Account V x y notes notes')
    (handler : Interrupt → Eval α)
    (hhandler : ∀ i, (∃ a, (∀ s, handler i s = .ok a s) ∧ ∀ xs, A.Explains xs i → V a) ∨
      ∀ s, handler i s = .error i s) :
    A.Account V (Eval.handle x handler) (Eval.handle y handler) notes notes' := by
  intro s hs
  obtain ⟨houtcome, hmeets, hmirror⟩ := h s hs
  cases hxs : x s with
  | ok a s₁ =>
    rw [hxs] at houtcome hmirror
    refine ⟨?_, hmeets, fun hw trace => ?_⟩
    · rw [handle_ok hxs]
      exact houtcome
    · obtain ⟨hmuted, hstarted⟩ := hmirror hw trace
      obtain ⟨trace', hy⟩ := muted_eq_ok hmuted
      rw [handle_ok hxs, handle_ok hy]
      exact ⟨rfl, hstarted⟩
  | error i s₁ =>
    rw [hxs] at houtcome hmirror
    refine ⟨?_, hmeets, fun hw trace => ?_⟩
    · rw [handle_error hxs]
      rcases hhandler i with ⟨a, ha, hV⟩ | hi
      · rw [ha]
        exact ⟨hV _ houtcome.1, houtcome.2⟩
      · rw [hi]
        exact houtcome
    · obtain ⟨hmuted, hstarted⟩ := hmirror hw trace
      obtain ⟨trace', hy⟩ := muted_eq_error hmuted
      rw [handle_error hxs, handle_error hy]
      rcases hhandler i with ⟨a, ha, -⟩ | hi
      · rw [ha, ha]
        exact ⟨rfl, hstarted⟩
      · rw [hi, hi]
        exact ⟨rfl, hstarted⟩

theorem Account.afterwards {x y : Eval α} {notes notes' : Notes} (h : A.Account V x y notes notes')
    (change : State → State) (hholds : ∀ s, A.Holds s → A.Holds (change s))
    (hchange : ∀ s trace, change { s with trace := trace } = { change s with trace := trace }) :
    A.Account V (Eval.afterwards x change) (Eval.afterwards y change) notes notes' := by
  intro s hs
  obtain ⟨houtcome, hmeets, hmirror⟩ := h s hs
  have hbooked : ∀ {xs : List Note} {s'}, A.Booked xs s s' → A.Booked xs s (change s') := by
    intro xs s' hb
    have htrace : (change s').trace = s'.trace := by
      have h := congrArg State.trace (hchange s' s'.trace)
      exact h
    exact ⟨hholds s' hb.holds, htrace ▸ hb.trace⟩
  cases hxs : x s with
  | ok a s₁ =>
    rw [hxs] at houtcome hmirror
    refine ⟨?_, hmeets, fun hw trace => ?_⟩
    · rw [afterwards_ok hxs]
      exact ⟨houtcome.1, hbooked houtcome.2⟩
    · obtain ⟨hmuted, hstarted⟩ := hmirror hw trace
      obtain ⟨trace', hy⟩ := muted_eq_ok hmuted
      rw [afterwards_ok hxs, afterwards_ok hy, hchange]
      exact ⟨rfl, hstarted⟩
  | error i s₁ =>
    rw [hxs] at houtcome hmirror
    refine ⟨?_, hmeets, fun hw trace => ?_⟩
    · rw [afterwards_error hxs]
      exact ⟨houtcome.1, hbooked houtcome.2⟩
    · obtain ⟨hmuted, hstarted⟩ := hmirror hw trace
      obtain ⟨trace', hy⟩ := muted_eq_error hmuted
      rw [afterwards_error hxs, afterwards_error hy, hchange]
      exact ⟨rfl, hstarted⟩

/-! ### Names and attributes -/

theorem Account.lookup (name : String) : A.Silent A.Good (Eval.lookup name) := by
  refine .get (fun s hs => .ofExcept ((A.norm.standard.lookup s.env name).mono (fun _ h => h) ?_)) fun _ _ => rfl
  exact fun v hv => hs.names.top.get? hs.names.globals hv

theorem Account.update (name : String) {v : Value} (hv : A.Good v) :
    A.Silent (fun _ => True) (Eval.update name v) :=
  .modifyGet (fun _ hs => ⟨trivial, hs.update name hv, rfl⟩) fun _ _ => ⟨rfl, rfl⟩

omit [Host] in
/-- What an attribute map at a live address holds is good. -/
theorem good_entry (hs : A.Holds s) {name : String} {found : Option Value}
    (h : ∃ own, A.live own ∧ found = (s.heap.map own).get? name) : ∀ v, found = some v → A.Good v := by
  obtain ⟨own, hlive, rfl⟩ := h
  exact fun v hv => hs.heap.maps own hlive name v hv

theorem Account.getAttr (name : String) {v : Value} (hv : A.Good v) :
    A.Silent (fun found => ∀ w, found = some w → A.Good w) (Eval.getAttr name v) := by
  refine .get (fun s hs => ?_) fun _ _ => rfl
  exact .ofExcept ((A.norm.standard.getAttr hv).mono (fun _ h => h) fun _ h => good_entry hs h)

theorem Account.readAttr (name : String) {v : Value} (hv : A.Good v) :
    A.Silent A.Good (Eval.readAttr name v) := by
  refine .finish (.getAttr name hv) fun found hfound => ?_
  cases found with
  | none => exact .fail _
  | some w => exact .pure (hfound w rfl)

theorem Account.findMethod (name : String) {v : Value} (hv : A.Good v) :
    A.Silent A.Good (Eval.findMethod name v) := by
  refine .get (fun s hs => ?_) fun _ _ => rfl
  refine .finish (.ofExcept ((A.norm.standard.getClassAttr hv).mono (fun _ h => h) fun _ h => good_entry hs h)) ?_
  intro found hfound
  cases found with
  | none => exact .fail _
  | some w => exact .pure (hfound w rfl)

theorem Account.setAttr (name : String) {v target : Value} (hv : A.Good v) (htarget : A.Good target) :
    A.Silent (fun _ => True) (Eval.setAttr name v target) := by
  refine .get (fun s hs => ?_) fun _ _ => rfl
  have hheap : Yields A.norm.standard.admits (A.norm.standard.HeapOk A.live) (target.setAttr s.heap name v) := by
    refine (A.norm.standard.setAttr htarget).mono (fun _ h => h) ?_
    rintro _ ⟨own, -, rfl⟩
    exact hs.heap.write hv own
  exact .finish (.ofExcept hheap) fun heap h =>
    .modifyGet (fun _ ht => ⟨trivial, ⟨ht.names, h⟩, rfl⟩) fun _ _ => ⟨rfl, rfl⟩

theorem Account.newObject {name : String} {attrs : Address} (h : A.Good (.cls name attrs)) :
    A.Silent A.Good (Eval.newObject (.cls name attrs)) := by
  refine .modifyGet (fun s hs => ?_) fun _ _ => ⟨rfl, rfl⟩
  refine ⟨?_, ⟨hs.names, ?_⟩, rfl⟩
  · exact Value.within_object.2 ⟨trivial, hs.heap.fresh _ (Nat.le_refl _), h⟩
  · exact hs.heap.alloc (.insert .empty h)

theorem Account.print (line : Text) :
    A.Silent (fun _ => True) (Eval.print line) :=
  .modifyGet (fun _ hs => ⟨trivial, hs.of_eq rfl rfl rfl, rfl⟩) fun _ _ => ⟨rfl, rfl⟩

/-! ### Exits -/

theorem Account.breakOut : A.Silent (fun _ => True) Eval.breakOut := by
  refine .step (fun s hs => ?_) nofun fun s trace => ?_
  · rw [breakOut_apply]
    cases s.env.flow <;> exact ⟨trivial, .nothing hs rfl⟩
  · rw [breakOut_apply, breakOut_apply]
    cases s.env.flow <;> rfl

theorem Account.continueOn : A.Silent (fun _ => True) Eval.continueOn := by
  refine .step (fun s hs => ?_) nofun fun s trace => ?_
  · rw [continueOn_apply]
    cases s.env.flow <;> exact ⟨trivial, .nothing hs rfl⟩
  · rw [continueOn_apply, continueOn_apply]
    cases s.env.flow <;> rfl

theorem Account.returnWith {v : Value} (hv : A.Good v) :
    A.Silent (fun _ => True) (Eval.returnWith v) := by
  refine .step (fun s hs => ?_) nofun fun s trace => ?_
  · rw [returnWith_apply]
    cases s.env.returnTarget with
    | none => exact ⟨trivial, .nothing hs rfl⟩
    | some target => exact ⟨hv, .nothing hs rfl⟩
  · rw [returnWith_apply, returnWith_apply]
    cases s.env.returnTarget <;> rfl

/-! ### Loops -/

section

variable {test test' : Eval Bool} {body body' orelse orelse' : Eval Unit}
  {inTest inTest' inBody inBody' inOrelse inOrelse' inTurn inTurn' : Notes}

theorem Account.turn (ht : A.Account (fun _ => True) test test' inTest inTest')
    (hb : A.Account (fun _ => True) body body' inBody inBody')
    (ho : A.Account (fun _ => True) orelse orelse' inOrelse inOrelse') :
    A.Account (fun _ => True) (Eval.turn test body orelse) (Eval.turn test' body' orelse')
      (Journal.turn test inTest inBody inOrelse) (Journal.turn test' inTest' inBody' inOrelse') := by
  refine .bind ht fun b _ => ?_
  cases b with
  | true => exact .finish hb fun _ _ => .pure trivial
  | false => exact .finish ho fun _ _ => .pure trivial

theorem Account.round (breakTo : ExitPoint)
    (h : A.Account (fun _ => True) (Eval.turn test body orelse) (Eval.turn test' body' orelse') inTurn inTurn') :
    A.Account (fun _ => True) (Eval.round breakTo test body orelse) (Eval.round breakTo test' body' orelse')
      (fun s => inTurn (roundState breakTo s)) fun s => inTurn' (roundState breakTo s) := by
  intro s hs
  have hround : A.Holds (roundState breakTo s) := hs.of_eq rfl rfl rfl
  have hcaught := Account.handle h (catchExit breakTo ⟨"continue", s.nextExit⟩) fun i => ?_
  · exact (hcaught _ hround).prepared rfl rfl (fun _ => rfl) fun _ => rfl
  · rcases catchExit_cases breakTo ⟨"continue", s.nextExit⟩ i with ⟨again, hc⟩ | hc
    · exact .inl ⟨again, hc, fun _ _ => trivial⟩
    · exact .inr hc

theorem Account.rounds (breakTo : ExitPoint)
    (h : A.Account (fun _ => True) (Eval.turn test body orelse) (Eval.turn test' body' orelse') inTurn inTurn') :
    ∀ limit : Nat, A.Account (fun _ => True) (Eval.rounds breakTo test body orelse limit)
      (Eval.rounds breakTo test' body' orelse' limit) (Journal.rounds breakTo test body orelse inTurn limit)
      (Journal.rounds breakTo test' body' orelse' inTurn' limit)
  | 0 => .throw trivial
  | limit + 1 => .bind (.round breakTo h) fun _ _ => .ite (.rounds breakTo h limit) (.pure trivial)

theorem Account.loop (limit : Nat)
    (h : A.Account (fun _ => True) (Eval.turn test body orelse) (Eval.turn test' body' orelse') inTurn inTurn') :
    A.Account (fun _ => True) (Eval.loop limit test body orelse) (Eval.loop limit test' body' orelse')
      (Journal.loop limit test body orelse inTurn) (Journal.loop limit test' body' orelse' inTurn') := by
  intro s hs
  have hrounds := Account.afterwards (.rounds ⟨"break", s.nextExit⟩ h limit) (·.setFlow s.env.flow)
    (fun _ ht => ht.of_eq rfl rfl rfl) fun _ _ => rfl
  have hstart : A.Holds { s with nextExit := s.nextExit + 1 } := hs.of_eq rfl rfl rfl
  exact (hrounds _ hstart).prepared rfl rfl (fun _ => rfl) fun _ => rfl

end

/-! ### Class bodies and calls -/

theorem Account.finishClass (name : String) :
    A.Silent (fun _ => True) (Eval.finishClass name) := by
  refine .step (fun s hs => ?_) nofun fun s trace => ?_
  · by_cases h : s.env.frames = []
    · rw [finishClass_global name h]
      exact ⟨trivial, .nothing hs rfl⟩
    · rw [finishClass_apply name h]
      exact ⟨trivial, .nothing (hs.classState name) rfl⟩
  · by_cases h : s.env.frames = []
    · rw [finishClass_global name h, finishClass_global name (s := { s with trace := trace }) h]
      rfl
    · rw [finishClass_apply name h, finishClass_apply name (s := { s with trace := trace }) h]
      rfl

theorem Account.defineClass {name : String} {body body' : Eval Unit} {notes notes' : Notes}
    (h : A.Account (fun _ => True) body body' notes notes') :
    A.Account (fun _ => True) (Eval.defineClass name body) (Eval.defineClass name body')
      (fun s => notes { s with env := s.env.pushFrame }) fun s => notes' { s with env := s.env.pushFrame } := by
  intro s hs
  have hclass := Account.finish h fun _ _ => .finishClass name
  exact (hclass _ hs.pushFrame).prepared rfl rfl (fun _ => rfl) fun _ => rfl

theorem Account.runFunction {name : String} {params : List String} {args : List Value} {body body' : Eval Unit}
    {notes notes' : Notes} (hargs : ∀ v ∈ args, A.Good v) (h : A.Account (fun _ => True) body body' notes notes') :
    A.Account A.Good (Eval.runFunction name params args body) (Eval.runFunction name params args body')
      (fun s => notes (callState name params args s)) fun s => notes' (callState name params args s) := by
  intro s hs
  have hbody : A.Account A.Good (do body; return .none) (do body'; return .none) notes notes' :=
    .finish h fun _ _ => .pure (A.norm.standard.good_scalar rfl)
  have hcall := Account.afterwards (.handle hbody (catchReturn ⟨"return from " ++ name, s.nextExit⟩) fun i => ?_)
    (backFrom s) (fun _ ht => ht.backFrom s) fun _ _ => rfl
  · exact (hcall _ (hs.callState name params hargs)).prepared rfl rfl (fun _ => rfl) fun _ => rfl
  · rcases catchReturn_cases ⟨"return from " ++ name, s.nextExit⟩ i with ⟨v, ⟨t, rfl⟩, hc⟩ | hc
    · exact .inl ⟨v, hc, fun _ hv => hv⟩
    · exact .inr hc

end Audit

end Treewalk
