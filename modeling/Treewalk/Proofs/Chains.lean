/-
Chains of comparisons. Whatever its operands do, a chain evaluates them from the left, each at most once and each only
if all links before it hold, and it is true exactly when all its links hold of the values found. A chain whose operands
reach no call ends as the conjunction of its links does, although the conjunction evaluates most operands twice.
-/
import Treewalk.Proofs.Purity
import Treewalk.Run

namespace Treewalk

namespace Expr

/-- A chain, by its first operand and its links. -/
def chainOf (first : Expr) (links : List (Operator × Expr)) : Expr :=
  .compare first (links.map (·.1)) (links.map (·.2))

/-- The links of a chain, each as a comparison of its own. -/
def pairwise (first : Expr) : List (Operator × Expr) → List Expr
  | [] => []
  | (op, e) :: rest => first.chainOf [(op, e)] :: e.pairwise rest

/-- Expressions joined by `and`; a single one is not joined to anything. -/
def conjunction : List Expr → Expr
  | [e] => e
  | es => .boolean .and es

end Expr

/-- Each value stands to the next one in the relation of the operator between them. -/
def Linked : List Operator → List Value → Prop
  | op :: ops, left :: right :: rest => op.applyCompare left right = .ok true ∧ Linked ops (right :: rest)
  | _, _ => True

namespace Eval

/-! ## How far a chain gets -/

/-- The first operand and those of the links are evaluated from the left, once each, and all links hold of their
values. -/
structure Reached [Host] (call : Caller) (first : Expr) (links : List (Operator × Expr)) (s : State) (values : List Value)
    (t : State) : Prop where
  operands : exprs call (first :: links.map (·.2)) s = .ok values t
  linked : Linked (links.map (·.1)) values

/-- How the evaluation of a chain ends: with the interrupt of an operand, with the failure of a comparison, at a link
that does not hold, or behind the last link. The operands before that place have been evaluated and their links hold,
and the operands behind it are not evaluated. -/
inductive ChainEnds [Host] (call : Caller) (first : Expr) (links : List (Operator × Expr)) (s : State) :
    EStateM.Result Interrupt State Value → Prop
  | first {i : Interrupt} {t : State} (hfirst : expr call first s = .error i t) : ChainEnds call first links s (.error i t)
  | operand {before behind : List (Operator × Expr)} {op : Operator} {e : Expr} {values : List Value} {t u : State}
    {i : Interrupt} (hsplit : links = before ++ (op, e) :: behind) (hreached : Reached call first before s values t)
    (hoperand : expr call e t = .error i u) : ChainEnds call first links s (.error i u)
  | failing {before behind : List (Operator × Expr)} {op : Operator} {e : Expr} {values : List Value} {t u : State}
    {left right : Value} {i : Interrupt} (hsplit : links = before ++ (op, e) :: behind)
    (hreached : Reached call first before s values t) (hlast : values.getLast? = some left)
    (hoperand : expr call e t = .ok right u) (hlink : ofFailure (op.applyCompare left right) u = .error i u) :
    ChainEnds call first links s (.error i u)
  | broken {before behind : List (Operator × Expr)} {op : Operator} {e : Expr} {values : List Value} {t u : State}
    {left right : Value} (hsplit : links = before ++ (op, e) :: behind)
    (hreached : Reached call first before s values t) (hlast : values.getLast? = some left)
    (hoperand : expr call e t = .ok right u) (hlink : op.applyCompare left right = .ok false) :
    ChainEnds call first links s (.ok (.bool false) u)
  | whole {values : List Value} {t : State} (hreached : Reached call first links s values t) :
    ChainEnds call first links s (.ok (.bool true) t)

section

variable {call : Caller} {first : Expr} {links : List (Operator × Expr)} {s t u : State} {values : List Value}

theorem exprs_cons_ok [Host] {e : Expr} {rest : List Expr} (h : exprs call (e :: rest) s = .ok values u) :
    ∃ v vs t, expr call e s = .ok v t ∧ exprs call rest t = .ok vs u ∧ values = v :: vs := by
  rw [exprs] at h
  cases hfirst : expr call e s with
  | error i t =>
    rw [bind_error hfirst] at h
    cases h
  | ok v t =>
    rw [bind_ok hfirst] at h
    cases hrest : exprs call rest t with
    | error i u' =>
      rw [bind_error hrest] at h
      cases h
    | ok vs u' =>
      rw [bind_ok hrest] at h
      cases h
      exact ⟨v, vs, t, rfl, hrest, rfl⟩

theorem exprs_cons [Host] {e : Expr} {rest : List Expr} {v : Value} {vs : List Value} (he : expr call e s = .ok v t)
    (hrest : exprs call rest t = .ok vs u) : exprs call (e :: rest) s = .ok (v :: vs) u := by
  rw [exprs, bind_ok he, bind_ok hrest]
  rfl

theorem exprs_length [Host] : ∀ {es : List Expr} {s : State} {values : List Value},
    exprs call es s = .ok values t → values.length = es.length
  | [], _, _, h => by
    rw [exprs] at h
    cases h
    rfl
  | e :: rest, _, _, h => by
    obtain ⟨v, vs, s', -, hrest, rfl⟩ := exprs_cons_ok h
    rw [List.length_cons, List.length_cons, exprs_length hrest]

theorem exprs_concat [Host] {e : Expr} {v : Value} (he : expr call e t = .ok v u) : ∀ {es : List Expr} {s : State}
    {values : List Value}, exprs call es s = .ok values t → exprs call (es ++ [e]) s = .ok (values ++ [v]) u
  | [], _, _, h => by
    rw [exprs] at h
    cases h
    have hnone : exprs call [] u = .ok [] u := by rw [exprs]; rfl
    exact exprs_cons he hnone
  | e' :: rest, _, _, h => by
    obtain ⟨v', vs, s', hfirst, hrest, rfl⟩ := exprs_cons_ok h
    exact exprs_cons hfirst (exprs_concat he hrest)

theorem linked_concat {op : Operator} {left right : Value} (h : op.applyCompare left right = .ok true) :
    ∀ {ops : List Operator} {values : List Value}, values.length = ops.length + 1 → values.getLast? = some left →
      Linked ops values → Linked (ops ++ [op]) (values ++ [right])
  | [], [v], _, hlast, _ => by
    cases hlast
    exact ⟨h, trivial⟩
  | _ :: _, l :: r :: rest, hlength, hlast, hlinked => by
    rw [List.getLast?_cons_cons] at hlast
    exact ⟨hlinked.1, linked_concat h (by simpa using hlength) hlast hlinked.2⟩

namespace Reached

theorem start [Host] {v : Value} (h : expr call first s = .ok v t) : Reached call first [] s [v] t := by
  have hnone : exprs call [] t = .ok [] t := by rw [exprs]; rfl
  exact ⟨exprs_cons h hnone, trivial⟩

/-- A link that holds takes a chain one operand further. -/
theorem next [Host] {op : Operator} {e : Expr} {left right : Value} (h : Reached call first links s values t)
    (hlast : values.getLast? = some left) (hoperand : expr call e t = .ok right u)
    (hlink : op.applyCompare left right = .ok true) :
    Reached call first (links ++ [(op, e)]) s (values ++ [right]) u := by
  have hlength : values.length = (links.map (·.1)).length + 1 := by
    rw [exprs_length h.operands, List.length_cons, List.length_map, List.length_map]
  constructor
  · rw [List.map_append, ← List.cons_append]
    exact exprs_concat hoperand h.operands
  · rw [List.map_append]
    exact linked_concat hlink hlength hlast h.linked

end Reached

/-! ## Evaluation of a chain -/

/-- What a chain makes of the value of its first operand. -/
def linksValue [Host] (call : Caller) (left : Value) (links : List (Operator × Expr)) : Eval Value := do
  return .bool (← chain call left (links.map (·.1)) (links.map (·.2)))

theorem chain_nil [Host] (left : Value) : chain call left [] [] = pure true := by
  rw [chain]
  nofun

theorem linksValue_nil [Host] (left : Value) : linksValue call left [] = pure (.bool true) := by
  rw [linksValue, List.map_nil, List.map_nil, chain_nil, pure_bind]

theorem linksValue_cons [Host] (left : Value) (op : Operator) (e : Expr) :
    linksValue call left ((op, e) :: links) = (do
      let right ← expr call e
      if ← ofFailure (op.applyCompare left right) then linksValue call right links else return .bool false) := by
  rw [linksValue, List.map_cons, List.map_cons, chain, bind_assoc]
  refine bind_congr fun right => ?_
  rw [bind_assoc]
  refine bind_congr fun holds => ?_
  cases holds with
  | false => rfl
  | true => rfl

theorem expr_chainOf_error [Host] {i : Interrupt} (h : expr call first s = .error i t) :
    expr call (.chainOf first links) s = .error i t := by
  rw [Expr.chainOf, expr, bind_error h]

theorem expr_chainOf_ok [Host] {v : Value} (h : expr call first s = .ok v t) :
    expr call (.chainOf first links) s = linksValue call v links t := by
  rw [Expr.chainOf, expr, bind_ok h]
  rfl

theorem ofFailure_error (f : Failure) (s : State) : ∃ i, ofFailure (.error f : Except Failure Bool) s = .error i s := by
  cases f with
  | error e => exact ⟨.error e, rfl⟩
  | unwritable cause => exact ⟨.unwritable cause, rfl⟩

/-- What a chain makes of the links that are left. The induction is on these, with the links before them passed. -/
theorem chainEnds_of_reached [Host] : ∀ (rest : List (Operator × Expr)) {before : List (Operator × Expr)}
    {values : List Value} {left : Value} {t : State},
    Reached call first before s values t → values.getLast? = some left →
      ChainEnds call first (before ++ rest) s (linksValue call left rest t)
  | [], before, values, left, t, hreached, _ => by
    rw [List.append_nil, linksValue_nil]
    exact .whole hreached
  | (op, e) :: rest, before, values, left, t, hreached, hlast => by
    rw [linksValue_cons]
    cases hoperand : expr call e t with
    | error i u =>
      rw [bind_error hoperand]
      exact .operand rfl hreached hoperand
    | ok right u =>
      rw [bind_ok hoperand]
      cases hlink : op.applyCompare left right with
      | error f =>
        obtain ⟨i, hi⟩ := ofFailure_error f u
        rw [bind_error hi]
        exact .failing rfl hreached hlast hoperand (hlink.symm ▸ hi)
      | ok holds =>
        cases holds with
        | false => exact .broken rfl hreached hlast hoperand hlink
        | true =>
          have hnext := hreached.next hlast hoperand hlink
          have hends := chainEnds_of_reached rest hnext List.getLast?_concat
          rwa [List.append_assoc, List.singleton_append] at hends

theorem chainEnds_chainOf [Host] (call : Caller) (first : Expr) (links : List (Operator × Expr)) (s : State) :
    ChainEnds call first links s (expr call (.chainOf first links) s) := by
  cases hfirst : expr call first s with
  | error i t =>
    rw [expr_chainOf_error hfirst]
    exact .first hfirst
  | ok v t =>
    rw [expr_chainOf_ok hfirst]
    exact chainEnds_of_reached links (.start hfirst) rfl

/-- A chain is true only behind its last link. -/
theorem ChainEnds.reached [Host] (h : ChainEnds call first links s (.ok (.bool true) t)) :
    ∃ values, Reached call first links s values t := by
  cases h with
  | whole hreached => exact ⟨_, hreached⟩

/-- Links that do not all hold decide whatever stands behind them. -/
theorem linksValue_append [Host] : ∀ {before : List (Operator × Expr)} (behind : List (Operator × Expr)) {left : Value}
    {t : State}, (∀ u, linksValue call left before t ≠ .ok (.bool true) u) →
      linksValue call left (before ++ behind) t = linksValue call left before t
  | [], _, left, t, h => by
    rw [linksValue_nil] at h
    exact absurd rfl (h t)
  | (op, e) :: rest, behind, left, t, h => by
    rw [linksValue_cons] at h
    rw [List.cons_append, linksValue_cons, linksValue_cons]
    cases hoperand : expr call e t with
    | error i u => rw [bind_error hoperand, bind_error hoperand]
    | ok right u =>
      rw [bind_ok hoperand] at h
      rw [bind_ok hoperand, bind_ok hoperand]
      cases hlink : op.applyCompare left right with
      | error f =>
        obtain ⟨i, hi⟩ := ofFailure_error f u
        rw [bind_error hi, bind_error hi]
      | ok holds =>
        rw [hlink] at h
        cases holds with
        | false => rfl
        | true => exact linksValue_append behind h

/-- What stands behind links that do not all hold makes no difference. -/
theorem expr_chainOf_unreached [Host] {before behind : List (Operator × Expr)}
    (hnone : ¬ ∃ values t, Reached call first before s values t) :
    expr call (.chainOf first (before ++ behind)) s = expr call (.chainOf first before) s := by
  cases hfirst : expr call first s with
  | error i t => rw [expr_chainOf_error hfirst, expr_chainOf_error hfirst]
  | ok v t =>
    rw [expr_chainOf_ok hfirst, expr_chainOf_ok hfirst]
    refine linksValue_append behind fun u htrue => ?_
    have hends := chainEnds_chainOf call first before s
    rw [expr_chainOf_ok hfirst, htrue] at hends
    obtain ⟨values, hreached⟩ := hends.reached
    exact hnone ⟨values, u, hreached⟩

/-- Behind links that all hold, a chain goes on from the last of the values found. -/
theorem linksValue_past [Host] : ∀ {before behind : List (Operator × Expr)} {left last : Value} {vs : List Value}
    {t : State}, exprs call (before.map (·.2)) t = .ok vs u → Linked (before.map (·.1)) (left :: vs) →
      (left :: vs).getLast? = some last → linksValue call left (before ++ behind) t = linksValue call last behind u
  | [], behind, left, last, vs, t, hoperands, _, hlast => by
    rw [List.map_nil, exprs] at hoperands
    cases hoperands
    cases hlast
    rfl
  | (op, e) :: rest, behind, left, last, vs, t, hoperands, hlinked, hlast => by
    obtain ⟨right, vs, t', hoperand, hrest, rfl⟩ := exprs_cons_ok hoperands
    obtain ⟨hlink, hlinked⟩ := hlinked
    rw [List.getLast?_cons_cons] at hlast
    rw [List.cons_append, linksValue_cons, bind_ok hoperand, hlink]
    exact linksValue_past hrest hlinked hlast

theorem expr_chainOf_append [Host] {before : List (Operator × Expr)} (behind : List (Operator × Expr)) {left : Value}
    (h : Reached call first before s values t) (hlast : values.getLast? = some left) :
    expr call (.chainOf first (before ++ behind)) s = linksValue call left behind t := by
  obtain ⟨hoperands, hlinked⟩ := h
  obtain ⟨v, vs, s', hfirst, hrest, rfl⟩ := exprs_cons_ok hoperands
  rw [expr_chainOf_ok hfirst]
  exact linksValue_past hrest hlinked hlast

theorem expr_chainOf_of_reached [Host] (h : Reached call first links s values t) :
    expr call (.chainOf first links) s = .ok (.bool true) t := by
  have hne : values ≠ [] := by
    intro hnil
    have hlength := exprs_length h.operands
    rw [hnil] at hlength
    cases hlength
  have hpast := expr_chainOf_append [] h (List.getLast?_eq_some_getLast hne)
  rw [List.append_nil, linksValue_nil] at hpast
  exact hpast

/-! ## The conjunction of the links -/

/-- The first operand of a conjunction replaces the value to fall back on. -/
theorem firstDeciding_cons [Host] (decisive : Bool) (last last' : Value) (e : Expr) (rest : List Expr) :
    firstDeciding call decisive last (e :: rest) = firstDeciding call decisive last' (e :: rest) := by
  rw [firstDeciding, firstDeciding]

/-- Behind an operand that has a value, the links one by one do what the chain does. -/
theorem firstDeciding_pairwise [Host] : ∀ {links : List (Operator × Expr)} {first : Expr} {left : Value} {s : State},
    (∀ link ∈ links, link.2.callFree = true) → expr call first s = .ok left s →
      firstDeciding call false (.bool true) (first.pairwise links) s = linksValue call left links s
  | [], first, left, s, _, _ => by
    rw [Expr.pairwise, firstDeciding, linksValue_nil]
  | (op, e) :: rest, first, left, s, hfree, hfirst => by
    obtain ⟨he, hrest⟩ := List.forall_mem_cons.1 hfree
    have hlink : expr call (first.chainOf [(op, e)]) s = linksValue call left [(op, e)] s := expr_chainOf_ok hfirst
    rw [linksValue_cons] at hlink
    rw [Expr.pairwise, firstDeciding, linksValue_cons]
    cases hoperand : expr call e s with
    | error i t =>
      rw [bind_error hoperand] at hlink
      rw [bind_error hlink, bind_error hoperand]
    | ok right t =>
      -- The operand reaches no call, so that the next link finds the same state.
      cases (still_expr he).of_ok hoperand
      rw [bind_ok hoperand] at hlink
      rw [bind_ok hoperand]
      cases hcompare : op.applyCompare left right with
      | error f =>
        obtain ⟨i, hi⟩ := ofFailure_error f s
        rw [hcompare, bind_error hi] at hlink
        rw [bind_error hlink, bind_error hi]
      | ok holds =>
        rw [hcompare] at hlink
        cases holds with
        | false =>
          have hfalse : expr call (first.chainOf [(op, e)]) s = .ok (.bool false) s := hlink
          rw [bind_ok hfalse]
          rfl
        | true =>
          have htrue : expr call (first.chainOf [(op, e)]) s = .ok (.bool true) s := by
            rw [hlink]
            show linksValue call right [] s = _
            rw [linksValue_nil]
            rfl
          rw [bind_ok htrue]
          exact firstDeciding_pairwise hrest hoperand

/-- A chain without calls in its operands ends as the conjunction of its links. -/
theorem expr_chainOf_eq_conjunction [Host] (hne : links ≠ []) (hfirst : first.callFree = true)
    (hlinks : ∀ link ∈ links, link.2.callFree = true) :
    expr call (.chainOf first links) s = expr call (.conjunction (first.pairwise links)) s := by
  match links, hne, hlinks with
  | [(op, e)], _, _ => rfl
  | (op, e) :: (op', e') :: rest, _, hlinks =>
    have hjoined : expr call (.conjunction (first.pairwise ((op, e) :: (op', e') :: rest))) s =
        firstDeciding call false (.bool true) (first.pairwise ((op, e) :: (op', e') :: rest)) s := by
      rw [Expr.pairwise, Expr.pairwise, Expr.conjunction, expr]
      · exact congrFun (firstDeciding_cons ..) s
      · nofun
    rw [hjoined]
    cases hvalue : expr call first s with
    | error i t =>
      have hlink : expr call (first.chainOf [(op, e)]) s = .error i t := expr_chainOf_error hvalue
      rw [expr_chainOf_error hvalue, Expr.pairwise, firstDeciding, bind_error hlink]
    | ok left t =>
      cases (still_expr hfirst).of_ok hvalue
      rw [expr_chainOf_ok hvalue, firstDeciding_pairwise hlinks hvalue]

theorem callFree_chainOf (hfirst : first.callFree = true) (hlinks : ∀ link ∈ links, link.2.callFree = true) :
    (Expr.chainOf first links).callFree = true := by
  rw [Expr.chainOf, Expr.callFree, hfirst, Bool.true_and]
  induction links with
  | nil => rfl
  | cons link rest ih =>
    obtain ⟨hlink, hrest⟩ := List.forall_mem_cons.1 hlinks
    rw [List.map_cons, Expr.allCallFree, hlink, ih hrest]
    rfl

theorem Still.after [Host] (h : Still (expr call first)) : Eval.after (expr call first) s = s := by
  cases hx : expr call first s with
  | ok v t => rw [after_ok hx, h.of_ok hx]
  | error i t => rw [after_error hx, h.of_error hx]

end

/-- A comparison chain evaluates its operands from the left, each at most once, and ends at the first operand or link
that fails or does not hold. Behind links that all hold the next operand is evaluated, and otherwise what stands there
makes no difference. The chain is true exactly when every operand has a value and every link holds of these values.
Without calls in its operands it ends as the conjunction of its links does, with the state as it was. -/
theorem chain_eq_conjunction [Host] (call : Caller) (first : Expr) (links : List (Operator × Expr)) (s : State) :
    (links ≠ [] → first.callFree = true → (∀ link ∈ links, link.2.callFree = true) →
      expr call (.chainOf first links) s = expr call (.conjunction (first.pairwise links)) s ∧
        after (expr call (.chainOf first links)) s = s) ∧
      ChainEnds call first links s (expr call (.chainOf first links) s) ∧
      (∀ before op e behind, links = before ++ (op, e) :: behind →
        (∀ values left t, Reached call first before s values t → values.getLast? = some left →
          expr call (.chainOf first links) s =
            (do
              let right ← expr call e
              if ← ofFailure (op.applyCompare left right) then linksValue call right behind else return .bool false) t) ∧
        ((¬ ∃ values t, Reached call first before s values t) →
          ∀ behind', expr call (.chainOf first links) s = expr call (.chainOf first (before ++ behind')) s)) ∧
      ∀ t, expr call (.chainOf first links) s = .ok (.bool true) t ↔ ∃ values, Reached call first links s values t := by
  refine ⟨fun hne hfirst hlinks => ⟨?conjunction, ?untouched⟩, chainEnds_chainOf call first links s, ?order,
    fun t => ⟨fun htrue => ?reached, ?true⟩⟩
  case conjunction => exact expr_chainOf_eq_conjunction hne hfirst hlinks
  case untouched => exact (still_expr (callFree_chainOf hfirst hlinks)).after
  case order =>
    rintro before op e behind rfl
    constructor
    · intro values left t hreached hlast
      rw [expr_chainOf_append _ hreached hlast, linksValue_cons]
    · intro hnone behind'
      rw [expr_chainOf_unreached hnone, expr_chainOf_unreached hnone]
  case reached =>
    have hends := chainEnds_chainOf call first links s
    rw [htrue] at hends
    exact hends.reached
  case true =>
    rintro ⟨values, hreached⟩
    exact expr_chainOf_of_reached hreached

section

attribute [local instance] Host.standard

/-- `1 < x <= 1 // 0` in a state where `x` has no value: both sides end with the same error. -/
theorem chain_eq_conjunction_sample :
    let first : Expr := .constant (.int 1) none
    let links : List (Operator × Expr) :=
      [(.less, .name "x" .load), (.lessEq, .binary (.constant (.int 1) none) .floorDiv (.constant (.int 0) none))]
    links ≠ [] ∧ first.callFree = true ∧ (∀ link ∈ links, link.2.callFree = true) ∧
      expr (invoke ⟨false, 2, 1⟩ 2) (.chainOf first links) (.start .empty) =
        expr (invoke ⟨false, 2, 1⟩ 2) (.conjunction (first.pairwise links)) (.start .empty) := by
  intro first links
  have hlinks : ∀ link ∈ links, link.2.callFree = true := by decide
  exact ⟨by decide, rfl, hlinks, ((chain_eq_conjunction _ first links _).1 (by decide) rfl hlinks).1⟩

end

end Eval

end Treewalk
