/-
Where an evaluation comes to. Every part that an evaluation comes to leaves its moments in the history of the whole. And
no part of a program is guarded against errors: rounds of loops and calls catch exits only, so that an error of a part,
wherever it stands, is the error of the whole.
-/
import Treewalk.Proofs.History

namespace Treewalk

open Eval

namespace Watched

/-! ## Parts of an evaluation -/

/-- Evaluation of something from a state, with things pending, comes to the evaluation of `y` from `t`, with `d`
pending: as the first part of a sequence, behind parts that have run to their end, or inside of what holds values, runs
a statement or passes errors on. -/
inductive ComesTo {β : Type} (y : Watched β) (d : Pending) (t : State) : {α : Type} → Watched α → Pending → State → Prop
  | here : ComesTo y d t y d t
  | first {α γ : Type} {x : Watched α} {f : α → Watched γ} {c : Pending} {s : State} :
    ComesTo y d t x c s → ComesTo y d t (x >>= f) c s
  | next {α γ : Type} {x : Watched α} {f : α → Watched γ} {c : Pending} {s s' : State} {a : α} :
    x.run s = .ok a s' → ComesTo y d t (f a) c s' → ComesTo y d t (x >>= f) c s
  | holding {α : Type} {x : Watched α} {values : List Value} {c : Pending} {s : State} :
    ComesTo y d t x (c.hold values) s → ComesTo y d t (holding values x) c s
  | during {x : Watched Unit} {st : Stmt} {c : Pending} {s : State} :
    ComesTo y d t x c s → ComesTo y d t (during st x) c s
  | around {α γ : Type} {inner : State → Watched α} {prepare : State → State} {under : Pending → State → Pending}
    {finish : State → Eval α → Eval γ} {values : γ → List Value} {c : Pending} {s : State} :
    (∀ x e s', x (prepare s) = .error (.error e) s' → ∃ s'', finish s x (prepare s) = .error (.error e) s'') →
    ComesTo y d t (inner s) (under c s) (prepare s) → ComesTo y d t (around inner prepare under finish values) c s

namespace ComesTo

variable {α β : Type} {x : Watched α} {y : Watched β} {c d : Pending} {s t : State}

theorem trans {γ : Type} {z : Watched γ} {d' : Pending} {t' : State} (hy : ComesTo z d' t' y d t)
    (hx : ComesTo y d t x c s) : ComesTo z d' t' x c s := by
  induction hx with
  | here => exact hy
  | first _ ih => exact .first ih
  | next hrun _ ih => exact .next hrun ih
  | holding _ ih => exact .holding ih
  | during _ ih => exact .during ih
  | around hpasses _ ih => exact .around hpasses ih

/-- The moments of a part are moments of the whole. -/
theorem seen (h : ComesTo y d t x c s) {m : Moment} (hm : m ∈ y.seen d t) : m ∈ x.seen c s := by
  induction h with
  | here => exact hm
  | first _ ih => exact List.mem_append_left _ ih
  | @next _ _ x f c s s' a hrun _ ih =>
    refine List.mem_append_right _ ?_
    rw [hrun]
    exact ih
  | holding _ ih => exact ih
  | during _ ih => exact List.mem_append_left _ (List.mem_cons_of_mem _ ih)
  | around _ _ ih => exact List.mem_append_left _ (List.mem_cons_of_mem _ ih)

/-- The error of a part is the error of the whole. -/
theorem fails (h : ComesTo y d t x c s) {e : EvalError} {t' : State} (ht : y.run t = .error (.error e) t') :
    ∃ s', x.run s = .error (.error e) s' := by
  induction h with
  | here => exact ⟨t', ht⟩
  | first _ ih =>
    obtain ⟨s', hs⟩ := ih
    exact ⟨s', bind_error hs⟩
  | next hrun _ ih =>
    obtain ⟨s', hs⟩ := ih
    exact ⟨s', (bind_ok hrun).trans hs⟩
  | holding _ ih => exact ih
  | during _ ih => exact ih
  | around hpasses _ ih =>
    obtain ⟨s', hs⟩ := ih
    exact hpasses _ _ _ hs

end ComesTo

/-! ## What passes errors on -/

section

variable {β : Type} {y : Watched β} {c d : Pending} {s t : State} {test : Watched Bool} {body orelse : Watched Unit}
  {breakTo : ExitPoint}

/-- A round of a loop catches no error. -/
theorem comesTo_round (h : ComesTo y d t (turn test body orelse) c (roundState breakTo s)) :
    ComesTo y d t (round breakTo test body orelse) c s :=
  .around (fun _ _ s' hx => ⟨s', handle_error hx⟩) h

/-- Rounds come to whatever the first of them comes to, and behind it to whatever the others come to. -/
theorem comesTo_rounds {limit : Nat} (h : ComesTo y d t (round breakTo test body orelse) c s ∨
      ∃ s', (round breakTo test body orelse).run s = .ok true s' ∧
        ComesTo y d t (rounds breakTo test body orelse limit) c s') :
    ComesTo y d t (rounds breakTo test body orelse (limit + 1)) c s := by
  rcases h with h | ⟨s', hround, h⟩
  · exact .first h
  · exact .next hround h

theorem comesTo_loop {limit : Nat} (h : ComesTo y d t (rounds ⟨"break", s.nextExit⟩ test body orelse limit) c
    { s with nextExit := s.nextExit + 1 }) : ComesTo y d t (loop limit test body orelse) c s :=
  .around (fun _ _ _ hx => ⟨_, afterwards_error hx⟩) h

theorem comesTo_defineClass {name : String} (h : ComesTo y d t body c { s with env := s.env.pushFrame }) :
    ComesTo y d t (defineClass name body) c s :=
  .around (fun _ _ s' hx => ⟨s', bind_error hx⟩) h

/-- A call catches no error. -/
theorem comesTo_runFunction {name : String} {params : List String} {args : List Value}
    (h : ComesTo y d t body (c.enter (.ofCall name params args s)) (callState name params args s)) :
    ComesTo y d t (runFunction name params args body) c s :=
  .around (fun _ _ _ hx => ⟨_, afterwards_error (handle_error (bind_error hx))⟩) h

/-- Statements come to whatever one of them comes to, once those before it have run to their end. -/
theorem comesTo_block [Host] {settings : Settings} {call : WatchedCaller} {st : Stmt} {rest : List Stmt} {s₁ s₂ : State}
    (hannounce : announce settings st s₁ = .ok () s₂) (h : ComesTo y d t (stmt settings call st) c s₂) :
    ∀ (before : List Stmt) {s : State}, Eval.block settings call.run before s = .ok () s₁ →
      ComesTo y d t (block settings call (before ++ st :: rest)) c s
  | [], s, hbefore => by
    cases hbefore
    rw [List.nil_append, block]
    exact .next hannounce (.first (.during h))
  | first :: before, s, hbefore => by
    rw [Eval.block] at hbefore
    cases hfirst : announce settings first s with
    | error i s' =>
      rw [bind_error hfirst] at hbefore
      cases hbefore
    | ok _ s' =>
      rw [bind_ok hfirst] at hbefore
      cases hran : Eval.stmt settings call.run first s' with
      | error i s'' =>
        rw [bind_error hran] at hbefore
        cases hbefore
      | ok _ s'' =>
        rw [bind_ok hran] at hbefore
        have hran' : (during first (stmt settings call first)).run s' = .ok () s'' := by rw [run_during, run_stmt, hran]
        rw [List.cons_append, block]
        exact .next hfirst (.next hran' (comesTo_block hannounce h before hbefore))

end

/-! ## Operations and prints -/

section

variable {call : WatchedCaller} {c : Pending} {s s₁ s₂ s₃ : State} {l r old v : Value}

/-- An operation on what its operands have yielded, while both are held. -/
theorem comesTo_binary [Host] {left right : Expr} (op : Operator) (hl : Eval.expr call.run left s = .ok l s₁)
    (hr : Eval.expr call.run right s₁ = .ok r s₂) :
    ComesTo (value (ofExcept (op.applyBinary l r))) (c.hold [l, r]) s₂ (expr call (.binary left op right)) c s := by
  have hleft : (expr call left).run s = .ok l s₁ := by rw [run_expr, hl]
  have hright : (holding [l] (expr call right)).run s₁ = .ok r s₂ := by rw [run_holding, run_expr, hr]
  rw [expr]
  exact .next hleft (.next hright (.holding .here))

theorem comesTo_augment_name [Host] {id : String} {ctx : Context} {operand : Expr} (op : Operator)
    (hold : lookup id s = .ok old s₁) (hv : Eval.expr call.run operand s₁ = .ok v s₂) :
    ComesTo (value (ofExcept (op.applyBinary old v))) (c.hold [old, v]) s₂
      (augment call (.name id ctx) op operand) c s := by
  have hoperand : (holding [old] (expr call operand)).run s₁ = .ok v s₂ := by rw [run_holding, run_expr, hv]
  exact .next hold (.next hoperand (.first (.holding .here)))

theorem comesTo_augment_attribute [Host] {receiver operand : Expr} {attr : String} {ctx : Context} (op : Operator)
    (hr : Eval.expr call.run receiver s = .ok r s₁) (hold : readAttr attr r s₁ = .ok old s₂)
    (hv : Eval.expr call.run operand s₂ = .ok v s₃) :
    ComesTo (value (ofExcept (op.applyBinary old v))) (c.hold [r, old, v]) s₃
      (augment call (.attribute receiver attr ctx) op operand) c s := by
  have hreceiver : (expr call receiver).run s = .ok r s₁ := by rw [run_expr, hr]
  have hoperand : (holding [r, old] (expr call operand)).run s₂ = .ok v s₃ := by rw [run_holding, run_expr, hv]
  exact .next hreceiver (.next hold (.next hoperand (.first (.holding .here))))

/-- An operation of a program on two values: of a binary expression, or of an augmented assignment. -/
inductive Operates [Host] {α : Type} (x : Watched α) (c : Pending) (s : State) (op : Operator) (l r : Value) : Prop
  | binary {call : WatchedCaller} {left right : Expr} {d : Pending} {t t₁ t₂ : State} :
    ComesTo (expr call (.binary left op right)) d t x c s → Eval.expr call.run left t = .ok l t₁ →
    Eval.expr call.run right t₁ = .ok r t₂ → Operates x c s op l r
  | augmentName {call : WatchedCaller} {id : String} {ctx : Context} {operand : Expr} {d : Pending} {t t₁ t₂ : State} :
    ComesTo (augment call (.name id ctx) op operand) d t x c s → lookup id t = .ok l t₁ →
    Eval.expr call.run operand t₁ = .ok r t₂ → Operates x c s op l r
  | augmentAttribute {call : WatchedCaller} {receiver operand : Expr} {attr : String} {ctx : Context} {d : Pending}
    {t t₁ t₂ t₃ : State} {v : Value} :
    ComesTo (augment call (.attribute receiver attr ctx) op operand) d t x c s →
    Eval.expr call.run receiver t = .ok v t₁ → readAttr attr v t₁ = .ok l t₂ →
    Eval.expr call.run operand t₂ = .ok r t₃ → Operates x c s op l r

/-- Whatever the form, the operator is applied while both values are held. -/
theorem Operates.comesTo [Host] {α : Type} {x : Watched α} {op : Operator} (h : Operates x c s op l r) :
    ∃ d t, ComesTo (value (ofExcept (op.applyBinary l r))) d t x c s ∧ l ∈ d.held ∧ r ∈ d.held := by
  cases h with
  | binary hx hl hr =>
    exact ⟨_, _, (comesTo_binary op hl hr).trans hx, by simp [Pending.hold], by simp [Pending.hold]⟩
  | augmentName hx hl hr =>
    exact ⟨_, _, (comesTo_augment_name op hl hr).trans hx, by simp [Pending.hold], by simp [Pending.hold]⟩
  | augmentAttribute hx hv hl hr =>
    exact ⟨_, _, (comesTo_augment_attribute op hv hl hr).trans hx, by simp [Pending.hold], by simp [Pending.hold]⟩

/-- The text of what the first argument has yielded, while it is held. -/
theorem comesTo_print [Host] {callee e : Expr} (hprint : callee.isPrint = true) (rest : List Expr)
    (keywords : List Keyword) (hv : Eval.expr call.run e s = .ok v s₁) :
    ComesTo (step (ofFailure v.printed)) (c.hold [v]) s₁ (expr call (.call callee (e :: rest) keywords)) c s := by
  have harg : (expr call e).run s = .ok v s₁ := by rw [run_expr, hv]
  rw [expr.eq_def]
  simp only [hprint, if_true]
  rw [printedText]
  exact .first (.next harg (.holding .here))

end

/-! ## Modules -/

section

variable {β : Type} {y : Watched β} {settings : Settings} {body : List Stmt} {d : Pending} {s t : State}

/-- What a part of a module passes through is in the history of the module. -/
theorem ComesTo.history [Host] (h : ComesTo y d t (moduleBody settings body) .top s) {m : Moment} (hm : m ∈ y.seen d t) :
    m ∈ Treewalk.history settings body s :=
  List.mem_append_left _ (List.mem_cons_of_mem _ (h.seen hm))

/-- An error of a part of a module is how its run ends. -/
theorem ComesTo.runModule [Host] (h : ComesTo y d t (moduleBody settings body) .top s) {e : EvalError} {t' : State}
    (ht : y.run t = .error (.error e) t') : (Treewalk.runModule settings body s).1 = .failed e := by
  obtain ⟨s', hs⟩ := h.fails ht
  rw [run_moduleBody] at hs
  rw [Treewalk.runModule, hs]
  rfl

end

end Watched

end Treewalk
