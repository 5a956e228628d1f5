/-
Contracts of evaluation steps: what a step may rely on in the state it starts from, what holds between that state and
the one it ends in, and what an interrupt promises. A contract is made so that steps which meet it can be put one after
the other.
-/
import Treewalk.Eval.State

namespace Treewalk

/-! ## Results -/

/-- A computation whose error satisfies `P` if it fails, and whose result satisfies `V` if it does not. -/
inductive Yields {ε α : Type} (P : ε → Prop) (V : α → Prop) : Except ε α → Prop
  | error {e : ε} (h : P e) : Yields P V (.error e)
  | ok {a : α} (h : V a) : Yields P V (.ok a)

namespace Yields

variable {ε ε' α β : Type} {P : ε → Prop} {Q : ε' → Prop} {V : α → Prop} {W : β → Prop}

theorem of_ok {x : Except ε α} {a : α} (h : Yields P V x) (hx : x = .ok a) : V a := by
  subst hx
  cases h with
  | ok ha => exact ha

theorem bind {x : Except ε α} {f : α → Except ε β} (hx : Yields P V x) (hf : ∀ a, V a → Yields P W (f a)) :
    Yields P W (x >>= f) := by
  cases hx with
  | error he => exact .error he
  | ok ha => exact hf _ ha

theorem map {x : Except ε α} {f : α → β} (hx : Yields P V x) (hf : ∀ a, V a → W (f a)) : Yields P W (x.map f) := by
  cases hx with
  | error he => exact .error he
  | ok ha => exact .ok (hf _ ha)

theorem mapError {x : Except ε α} {f : ε → ε'} (hx : Yields P V x) (hf : ∀ e, P e → Q (f e)) :
    Yields Q V (x.mapError f) := by
  cases hx with
  | error he => exact .error (hf _ he)
  | ok ha => exact .ok ha

theorem mono {P' : ε → Prop} {V' : α → Prop} {x : Except ε α} (hx : Yields P V x) (hP : ∀ e, P e → P' e)
    (hV : ∀ a, V a → V' a) : Yields P' V' x := by
  cases hx with
  | error he => exact .error (hP _ he)
  | ok ha => exact .ok (hV _ ha)

theorem ite {c : Prop} [Decidable c] {x y : Except ε α} (hx : Yields P V x) (hy : Yields P V y) :
    Yields P V (if c then x else y) := by
  split
  · exact hx
  · exact hy

end Yields

/-- The errors that a program runs into by what it does: its text was read, and no assumption of the evaluator is
violated. -/
def EvalError.Ordinary (e : EvalError) : Prop := e.kind ≠ .internalInvariant ∧ e.kind ≠ .parse

namespace Eval

/-! ## Running steps -/

/-- The state at the end of an evaluation, interrupted or not. -/
def after {α : Type} (x : Eval α) (s : State) : State :=
  match x s with
  | .ok _ s' => s'
  | .error _ s' => s'

section

variable {α β : Type} {x : Eval α} {f : α → Eval β} {s s' : State} {a : α} {i : Interrupt}

theorem after_ok (h : x s = .ok a s') : after x s = s' := by
  rw [after, h]

theorem after_error (h : x s = .error i s') : after x s = s' := by
  rw [after, h]

theorem bind_ok (h : x s = .ok a s') : (x >>= f) s = f a s' := by
  show EStateM.bind x f s = _
  rw [EStateM.bind, h]

theorem bind_error (h : x s = .error i s') : (x >>= f) s = .error i s' := by
  show EStateM.bind x f s = _
  rw [EStateM.bind, h]

/-- `discard` is a map; the laws of evaluation are about sequences. -/
theorem discard_eq_bind (x : Eval α) : (discard x : Eval Unit) = x >>= fun _ => pure () := by
  funext s
  show EStateM.map _ x s = EStateM.bind x _ s
  unfold EStateM.map EStateM.bind
  cases x s <;> rfl

theorem handle_ok {handler : Interrupt → Eval α} (h : x s = .ok a s') : handle x handler s = .ok a s' := by
  rw [handle, h]

theorem handle_error {handler : Interrupt → Eval α} (h : x s = .error i s') : handle x handler s = handler i s' := by
  rw [handle, h]

theorem afterwards_ok {change : State → State} (h : x s = .ok a s') :
    afterwards x change s = .ok a (change s') := by
  rw [afterwards, h]

theorem afterwards_error {change : State → State} (h : x s = .error i s') :
    afterwards x change s = .error i (change s') := by
  rw [afterwards, h]

end

/-! ## Contracts -/

structure Contract where
  pre : State → Prop
  ok : State → State → Prop
  bad : State → Interrupt → State → Prop
  refl : ∀ {s : State}, pre s → ok s s
  keep : ∀ {s s' : State}, pre s → ok s s' → pre s'
  trans : ∀ {a b c : State}, ok a b → ok b c → ok a c
  /-- What was done before an interrupt arose takes nothing from what it promises. -/
  early : ∀ {a b c : State} {i : Interrupt}, ok a b → bad b i c → bad a i c

namespace Contract

/-- A step that meets a contract, with results that satisfy `V`. -/
def Met (C : Contract) {α : Type} (V : α → Prop) (x : Eval α) : Prop := ∀ s, C.pre s → match x s with
  | .ok a s' => V a ∧ C.ok s s'
  | .error i s' => C.bad s i s'

variable {C : Contract} {α β : Type} {V : α → Prop} {W : β → Prop}

theorem Met.of_ok {x : Eval α} (h : C.Met V x) {s s' : State} {a : α} (hs : C.pre s) (hx : x s = .ok a s') :
    V a ∧ C.ok s s' := by
  have := h s hs
  rwa [hx] at this

theorem Met.of_error {x : Eval α} (h : C.Met V x) {s s' : State} {i : Interrupt} (hs : C.pre s)
    (hx : x s = .error i s') : C.bad s i s' := by
  have := h s hs
  rwa [hx] at this

theorem Met.pure {a : α} (h : V a) : C.Met V (pure a) := fun _ hs => ⟨h, C.refl hs⟩

theorem Met.throw {i : Interrupt} (h : ∀ s, C.pre s → C.bad s i s) : C.Met V (throw i : Eval α) := h

theorem Met.bind {x : Eval α} {f : α → Eval β} (hx : C.Met V x) (hf : ∀ a, V a → C.Met W (f a)) :
    C.Met W (x >>= f) := by
  intro s hs
  cases hxs : x s with
  | error i s' =>
    rw [bind_error hxs]
    exact hx.of_error hs hxs
  | ok a s' =>
    rw [bind_ok hxs]
    obtain ⟨ha, h1⟩ := hx.of_ok hs hxs
    have hs' := C.keep hs h1
    cases hfs : f a s' with
    | ok b s'' =>
      obtain ⟨hb, h2⟩ := (hf a ha).of_ok hs' hfs
      exact ⟨hb, C.trans h1 h2⟩
    | error i s'' => exact C.early h1 ((hf a ha).of_error hs' hfs)

theorem Met.modifyGet {f : State → α × State} (h : ∀ s, C.pre s → V (f s).1 ∧ C.ok s (f s).2) :
    C.Met V (modifyGet f : Eval α) := h

/-- A step that meets a contract meets every contract that relies on more and promises less. -/
theorem Met.mono {C' : Contract} {x : Eval α} (h : C.Met V x) (hpre : ∀ s, C'.pre s → C.pre s)
    (hok : ∀ s s', C'.pre s → C.ok s s' → C'.ok s s') (hbad : ∀ s i s', C'.pre s → C.bad s i s' → C'.bad s i s') :
    C'.Met V x := by
  intro s hs
  cases hx : x s with
  | ok a s' =>
    obtain ⟨ha, h1⟩ := h.of_ok (hpre s hs) hx
    exact ⟨ha, hok s s' hs h1⟩
  | error i s' => exact hbad s i s' hs (h.of_error (hpre s hs) hx)

/-- A step chosen by the state it starts in. -/
theorem Met.get {f : State → Eval α} (h : ∀ s, C.pre s → C.Met V (f s)) : C.Met V (do f (← get)) :=
  fun s hs => h s hs s hs

theorem Met.ofExcept {P : EvalError → Prop} {x : Except EvalError α} (h : Yields P V x)
    (herr : ∀ e, P e → ∀ s, C.pre s → C.bad s (.error e) s) : C.Met V (ofExcept x) := by
  cases h with
  | ok ha => exact .pure ha
  | error he => exact .throw (herr _ he)

theorem Met.ofFailure {P : Failure → Prop} {x : Except Failure α} (h : Yields P V x)
    (herr : ∀ e, P (.error e) → ∀ s, C.pre s → C.bad s (.error e) s)
    (hun : ∀ cause s, C.pre s → C.bad s (.unwritable cause) s) : C.Met V (ofFailure x) := by
  cases h with
  | ok ha => exact .pure ha
  | @error f hf =>
    cases f with
    | error e => exact .throw (herr e hf)
    | unwritable cause => exact .throw (hun cause)

theorem Met.ofText {α : Type} {x : Except Unwritable α} (hun : ∀ cause s, C.pre s → C.bad s (.unwritable cause) s) :
    C.Met (fun _ => True) (ofText x) := by
  cases x with
  | ok s => exact .pure trivial
  | error cause => exact .throw (hun cause)

end Contract

end Eval

end Treewalk
