/-
Expressions that reach no call. Such an expression reads the state and leaves it as it is, whether it ends with a value
or fails, so it can be evaluated once more to the same end. An operator joined with a store is therefore the plain store
of what the operator gives: always when the store goes to a name, and for an attribute when its receiver and the operand
reach no call.
-/
import Treewalk.Eval.Call
import Treewalk.Proofs.Contract

namespace Treewalk

/-! ## Without calls -/

mutual

/-- Whether evaluating an expression reaches no call. The forms that evaluation refuses reach none, since nothing inside
them is evaluated. -/
def Expr.callFree : Expr → Bool
  | .call .. => false
  | .tuple items _ => Expr.allCallFree items
  | .attribute value _ _ => value.callFree
  | .unary _ operand => operand.callFree
  | .binary left _ right => left.callFree && right.callFree
  | .boolean _ operands => Expr.allCallFree operands
  | .compare left _ operands => left.callFree && Expr.allCallFree operands
  | .conditional test body orelse => test.callFree && body.callFree && orelse.callFree
  | _ => true

def Expr.allCallFree : List Expr → Bool
  | [] => true
  | e :: rest => e.callFree && Expr.allCallFree rest

end

namespace Eval

/-- Steps that leave the state as it is, interrupted or not. -/
def still : Contract where
  pre _ := True
  ok s s' := s' = s
  bad s _ s' := s' = s
  refl _ := rfl
  keep _ _ := trivial
  trans h h' := h'.trans h
  early h h' := h'.trans h

/-- A step that leaves the state as it is. -/
abbrev Still {α : Type} (x : Eval α) : Prop := still.Met (fun _ => True) x

namespace Still

variable {α β : Type} {x : Eval α} {f : α → Eval β}

theorem of_ok (h : Still x) {s s' : State} {a : α} (hx : x s = .ok a s') : s' = s :=
  (Contract.Met.of_ok h trivial hx).2

theorem of_error (h : Still x) {s s' : State} {i : Interrupt} (hx : x s = .error i s') : s' = s :=
  Contract.Met.of_error h trivial hx

theorem pure {a : α} : Still (Pure.pure a) := Contract.Met.pure trivial

theorem throw {i : Interrupt} : Still (MonadExcept.throw i : Eval α) := Contract.Met.throw fun _ _ => rfl

theorem bind (hx : Still x) (hf : ∀ a, Still (f a)) : Still (x >>= f) := Contract.Met.bind hx fun a _ => hf a

theorem ofExcept {x : Except EvalError α} : Still (ofExcept x) := by
  cases x with
  | ok _ => exact pure
  | error _ => exact throw

theorem ofFailure {x : Except Failure α} : Still (ofFailure x) := by
  cases x with
  | ok _ => exact pure
  | error f =>
    cases f with
    | error _ => exact throw
    | unwritable _ => exact throw

theorem ofText {α : Type} {x : Except Unwritable α} : Still (ofText x) := Contract.Met.ofText fun _ _ _ => rfl

theorem reading {f : State → Eval α} (h : ∀ s, Still (f s)) : Still (do f (← get)) :=
  Contract.Met.get fun s _ => h s

theorem readAttr {name : String} {v : Value} : Still (readAttr name v) := by
  refine bind (reading fun _ => ofExcept) fun found => ?_
  cases found with
  | none => exact throw
  | some _ => exact pure

/-- What a step that leaves the state as it is has found once, it finds again behind other such steps. -/
theorem bind_again {γ δ : Type} {y : α → Eval γ} {g : α → γ → α → Eval δ} (hx : Still x) (hy : ∀ a, Still (y a)) :
    (do let a ← x; let b ← y a; let a' ← x; g a b a') = (do let a ← x; let b ← y a; g a b a) := by
  funext s
  cases hxs : x s with
  | error i s' => rw [bind_error hxs, bind_error hxs]
  | ok a s' =>
    rw [bind_ok hxs, bind_ok hxs]
    cases hx.of_ok hxs
    cases hys : y a s with
    | error i s' => rw [bind_error hys, bind_error hys]
    | ok b s' =>
      rw [bind_ok hys, bind_ok hys]
      cases (hy a).of_ok hys
      exact bind_ok hxs

end Still

section

variable {call : Caller}

mutual

/-- Evaluating an expression that reaches no call leaves the state as it is. -/
theorem still_expr [Host] : ∀ {e : Expr}, e.callFree = true → Still (expr call e)
  | .constant value _, _ => by
    simp only [expr]
    split
    · exact .pure
    · exact .bind .ofText fun _ => .throw
  | .name _ .load, _ => by
    simp only [expr]
    exact .reading fun _ => .ofExcept
  | .name _ .store, _ | .name _ .del, _ => by
    simp only [expr]
    exact .throw
  | .tuple _ _, h => by
    rw [Expr.callFree] at h
    simp only [expr]
    exact .bind (still_exprs h) fun _ => .pure
  | .attribute _ _ _, h => by
    rw [Expr.callFree] at h
    simp only [expr]
    exact .bind (still_expr h) fun _ => .readAttr
  | .unary _ _, h => by
    rw [Expr.callFree] at h
    simp only [expr]
    exact .bind (still_expr h) fun _ => .ofExcept
  | .binary _ _ _, h => by
    rw [Expr.callFree, Bool.and_eq_true] at h
    simp only [expr]
    exact .bind (still_expr h.1) fun _ => .bind (still_expr h.2) fun _ => .ofExcept
  | .boolean _ _, h => by
    rw [Expr.callFree] at h
    simp only [expr]
    exact still_firstDeciding h
  | .compare _ _ _, h => by
    rw [Expr.callFree, Bool.and_eq_true] at h
    simp only [expr]
    exact .bind (still_expr h.1) fun _ => .bind (still_chain h.2) fun _ => .pure
  | .conditional _ _ _, h => by
    rw [Expr.callFree, Bool.and_eq_true, Bool.and_eq_true] at h
    simp only [expr]
    refine .bind (still_expr h.1.1) fun _ => .bind .ofExcept fun b => ?_
    cases b with
    | true => exact still_expr h.1.2
    | false => exact still_expr h.2
  | .call _ _ _, h => by
    rw [Expr.callFree] at h
    cases h
  | .subscript .., _ | .slice .., _ | .starred .., _ | .list .., _ | .set .., _ | .dict .., _ | .lambda .., _
  | .named .., _ | .listComp .., _ | .setComp .., _ | .dictComp .., _ | .generator .., _ | .await .., _ | .yield .., _
  | .yieldFrom .., _ | .joined .., _ | .formatted .., _ => by
    simp only [expr]
    exact .throw

theorem still_exprs [Host] : ∀ {es : List Expr}, Expr.allCallFree es = true → Still (exprs call es)
  | [], _ => by
    rw [exprs]
    exact .pure
  | _ :: _, h => by
    rw [Expr.allCallFree, Bool.and_eq_true] at h
    rw [exprs]
    exact .bind (still_expr h.1) fun _ => .bind (still_exprs h.2) fun _ => .pure

theorem still_firstDeciding [Host] {decisive : Bool} : ∀ {es : List Expr} {last : Value},
    Expr.allCallFree es = true → Still (firstDeciding call decisive last es)
  | [], _, _ => by
    rw [firstDeciding]
    exact .pure
  | _ :: _, _, h => by
    rw [Expr.allCallFree, Bool.and_eq_true] at h
    rw [firstDeciding]
    refine .bind (still_expr h.1) fun v => .bind .ofExcept fun b => ?_
    split
    · exact .pure
    · exact still_firstDeciding h.2

theorem still_chain [Host] : ∀ {es : List Expr} {ops : List Operator} {left : Value},
    Expr.allCallFree es = true → Still (chain call left ops es)
  | [], _, _, _ => by
    rw [chain]
    · exact .pure
    · nofun
  | _ :: _, [], _, _ => by
    rw [chain]
    · exact .pure
    · nofun
  | _ :: _, _ :: _, _, h => by
    rw [Expr.allCallFree, Bool.and_eq_true] at h
    rw [chain]
    refine .bind (still_expr h.1) fun _ => .bind .ofFailure fun b => ?_
    cases b with
    | true => exact still_chain h.2
    | false => exact .pure

end

/-! ## An operator joined with a store -/

theorem assign_single [Host] (settings : Settings) (target value : Expr) :
    stmt settings call (.assign [target] value) = (do let v ← expr call value; assignTo call target v) := by
  simp only [stmt, assignAll, bind_pure_unit]

/-- The old value of a name is read first on both sides, and the store goes to the frame that is on top in the end. -/
theorem augment_name [Host] (id : String) (ctx ctx' : Context) (op : Operator) (operand : Expr) :
    augment call (.name id ctx) op operand =
      (do let v ← expr call (.binary (.name id .load) op operand); assignTo call (.name id ctx') v) := by
  simp only [augment, assignTo, expr, bind_assoc]

/-- The receiver of the store is the one that was read from: evaluating it again finds the same value. -/
theorem augment_attribute [Host] {receiver operand : Expr} (attr : String) (ctx ctx' ctx'' : Context) (op : Operator)
    (hr : receiver.callFree = true) (ho : operand.callFree = true) :
    augment call (.attribute receiver attr ctx) op operand =
      (do let v ← expr call (.binary (.attribute receiver attr ctx'') op operand)
          assignTo call (.attribute receiver attr ctx') v) := by
  -- Between the two evaluations of the receiver lie the read, the operand and the operator.
  have hbetween (r : Value) : Still (do
      let old ← readAttr attr r
      let v ← expr call operand
      ofExcept (op.applyBinary old v)) :=
    .bind .readAttr fun _ => .bind (still_expr ho) fun _ => .ofExcept
  have hreceiver : Still (expr call receiver) := still_expr hr
  have hagain := hreceiver.bind_again hbetween (g := fun _ new r => setAttr attr new r)
  simp only [bind_assoc] at hagain
  simp only [augment, assignTo, expr, bind_assoc, hagain]

/-- An operator joined with a store is its expansion, as a function of the state: same end, same states, whatever calls
do. For a name there is no condition; for an attribute neither the receiver nor the operand may reach a call. -/
theorem stmt_augAssign_eq_assign [Host] (settings : Settings) (call : Caller) (op : Operator) (operand : Expr) :
    (∀ (id : String) (ctx ctx' : Context),
      stmt settings call (.augAssign (.name id ctx) op operand) =
        stmt settings call (.assign [.name id ctx'] (.binary (.name id .load) op operand))) ∧
    ∀ (receiver : Expr) (attr : String) (ctx ctx' ctx'' : Context),
      receiver.callFree = true → operand.callFree = true →
        stmt settings call (.augAssign (.attribute receiver attr ctx) op operand) =
          stmt settings call
            (.assign [.attribute receiver attr ctx'] (.binary (.attribute receiver attr ctx'') op operand)) := by
  constructor
  · intro id ctx ctx'
    rw [assign_single, stmt, augment_name]
  · intro receiver attr ctx ctx' ctx'' hr ho
    rw [assign_single, stmt, augment_attribute attr ctx ctx' ctx'' op hr ho]

section

attribute [local instance] Host.standard

/-- `p.q.x += -p.q.x`, with functions called at most two calls deep. -/
theorem stmt_augAssign_eq_assign_sample :
    let receiver : Expr := .attribute (.name "p" .load) "q" .load
    let operand : Expr := .unary .minus (.attribute receiver "x" .load)
    receiver.callFree = true ∧ operand.callFree = true ∧
      stmt ⟨false, 2, 1⟩ (invoke ⟨false, 2, 1⟩ 2) (.augAssign (.attribute receiver "x" .store) .add operand) =
        stmt ⟨false, 2, 1⟩ (invoke ⟨false, 2, 1⟩ 2)
          (.assign [.attribute receiver "x" .store] (.binary (.attribute receiver "x" .load) .add operand)) := by
  refine ⟨rfl, rfl, ?_⟩
  exact (stmt_augAssign_eq_assign ⟨false, 2, 1⟩ (invoke ⟨false, 2, 1⟩ 2) .add _).2 _ "x" .store .store .load rfl rfl

end

end

end Eval

end Treewalk
