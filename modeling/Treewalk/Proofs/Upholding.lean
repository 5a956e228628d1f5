/-
Evaluation upholds its laws. Loops, class bodies and calls are evaluations around other ones: what has to be shown of
each is how the law fares on the way in and on the way out. Expressions, statements and calls follow by induction along
the evaluator, and with them every moment of the history of a module.
-/
import Treewalk.Proofs.Law

namespace Treewalk

open Eval

variable [Host]

namespace Law

variable {settings : Settings} {L : Law settings} {r : L.Record} {α β : Type}

/-! ## Evaluations around others -/

theorem Upholds.around {U : L.Record → α → Prop} {V : L.Record → β → Prop} {x : Eval β} {inner : State → Watched α}
    {prepare : State → State} {under : Pending → State → Pending} {finish : State → Eval α → Eval β}
    {values : β → List Value} (hx : (Watched.around inner prepare under finish values).run = x)
    (hinner : ∀ s, L.Upholds r U (inner s))
    (hin : ∀ r' c s, L.le r r' → L.Holds r' c s → L.Holds r' (under c s) (prepare s) ∧ Steady s (prepare s))
    (hout : ∀ r' r'' c s, L.le r r' → L.Holds r' c s → L.le r' r'' →
      L.Final U r'' (under c s) ((inner s).run (prepare s)) →
      L.Outcome V r'' c (x s) ∧
        Course (after (inner s).run (prepare s)) [Watched.behind values c (x s)] (after x s))
    (hvalues : ∀ r' b, V r' b → ∀ v ∈ values b, L.Good r' v) :
    L.Upholds r V (Watched.around inner prepare under finish values) := by
  subst hx
  intro r₁ c s hr hs
  obtain ⟨hs', hsteady⟩ := hin r₁ c s hr hs
  obtain ⟨⟨r₂, hr₂, hfinal, hsees⟩, hcourse⟩ := hinner s r₁ (under c s) (prepare s) hr hs'
  obtain ⟨⟨r₃, hr₃, hend⟩, hlast⟩ := hout r₁ r₂ c s hr hs hr₂ hfinal
  refine ⟨⟨r₃, L.trans hr₂ hr₃, hend, fun m hm => ?_⟩, .cons hsteady rfl (hcourse.append hlast)⟩
  rcases List.mem_cons.1 hm with rfl | hm
  · exact ⟨⟨r₁, L.trans hr₂ hr₃, hs'⟩, nofun⟩
  · rcases List.mem_append.1 hm with hm | hm
    · exact (hsees m hm).mono hr₃
    · rw [List.mem_singleton.1 hm]
      exact sees_behind hend hvalues

omit [Host] in
/-- The end of an evaluation around another one, if no map is made behind that. -/
theorem course_behind {values : β → List Value} {c : Pending} {x : Eval β} {s s' : State} (h : Steady s' (after x s)) :
    Course s' [Watched.behind values c (x s)] (after x s) :=
  .ending h (state_behind values c x s)

/-! ## Loops -/

section

variable {test : Watched Bool} {body orelse : Watched Unit}

theorem upholds_turn (ht : L.Upholds r L.Any test) (hb : L.Upholds r L.Any body) (ho : L.Upholds r L.Any orelse) :
    L.Upholds r L.Any (Watched.turn test body orelse) := by
  refine .bind ht fun r' b hr _ => .ite ?_ ?_
  · exact .bind (hb.mono hr) fun _ _ _ _ => .pure fun _ _ => trivial
  · exact .bind (ho.mono hr) fun _ _ _ _ => .pure fun _ _ => trivial

theorem upholds_round (breakTo : ExitPoint) (h : L.Upholds r L.Any (Watched.turn test body orelse)) :
    L.Upholds r L.Any (Watched.round breakTo test body orelse) := by
  refine .around (Watched.run_round breakTo test body orelse) (fun _ => h) ?_ ?_ fun _ _ _ => nofun
  · exact fun r' c s _ hs => ⟨L.quiet hs rfl rfl rfl, .of_eq rfl rfl⟩
  intro r' r'' c s _ _ _ hfinal
  rw [Watched.run_turn] at hfinal ⊢
  cases ht : turn test.run body.run orelse.run (roundState breakTo s) with
  | ok again s' =>
    have hround : round breakTo test.run body.run orelse.run s = .ok again s' := by
      rw [round_apply, handle_ok ht]
    rw [ht] at hfinal
    refine ⟨⟨r'', L.refl r'', ?_⟩, course_behind ?_⟩
    · rw [hround]
      exact hfinal
    · rw [after_ok ht, after_ok hround]
      exact .refl _
  | error i s' =>
    rw [ht] at hfinal
    rw [after_error ht]
    rcases catchExit_cases breakTo ⟨"continue", s.nextExit⟩ i with ⟨again, hc⟩ | hc
    · have hround : round breakTo test.run body.run orelse.run s = .ok again s' := by
        rw [round_apply, handle_error ht, hc]
      refine ⟨⟨r'', L.refl r'', ?_⟩, course_behind ?_⟩
      · rw [hround]
        exact ⟨hfinal.1, trivial⟩
      · rw [after_ok hround]
        exact .refl _
    · have hround : round breakTo test.run body.run orelse.run s = .error i s' := by
        rw [round_apply, handle_error ht, hc]
      refine ⟨⟨r'', L.refl r'', ?_⟩, course_behind ?_⟩
      · rw [hround]
        exact hfinal
      · rw [after_error hround]
        exact .refl _

theorem upholds_rounds (breakTo : ExitPoint) (h : L.Upholds r L.Any (Watched.turn test body orelse)) :
    ∀ limit : Nat, L.Upholds r L.Any (Watched.rounds breakTo test body orelse limit)
  | 0 => Upheld.step (.throw nofun)
  | limit + 1 => by
    refine .bind (upholds_round breakTo h) fun r' again hr _ => .ite ?_ ?_
    · exact (upholds_rounds breakTo h limit).mono hr
    · exact .pure fun _ _ => trivial

theorem upholds_loop (limit : Nat) (h : L.Upholds r L.Any (Watched.turn test body orelse)) :
    L.Upholds r L.Any (Watched.loop limit test body orelse) := by
  refine .around (Watched.run_loop limit test body orelse) (fun s => upholds_rounds _ h limit) ?_ ?_ fun _ _ _ => nofun
  · exact fun r' c s _ hs => ⟨L.quiet hs rfl rfl rfl, .of_eq rfl rfl⟩
  · intro r' r'' c s _ _ _ hfinal
    rw [Watched.run_rounds] at hfinal ⊢
    cases hr : rounds ⟨"break", s.nextExit⟩ test.run body.run orelse.run limit
        { s with nextExit := s.nextExit + 1 } with
    | ok a s' =>
      have hloop : loop limit test.run body.run orelse.run s = .ok a (s'.setFlow s.env.flow) := by
        rw [loop_apply, afterwards_ok hr]
      rw [hr] at hfinal
      refine ⟨⟨r'', L.refl r'', ?_⟩, course_behind ?_⟩
      · rw [hloop]
        exact ⟨L.quiet hfinal.1 rfl rfl rfl, trivial⟩
      · rw [after_ok hr, after_ok hloop]
        exact .of_eq rfl rfl
    | error i s' =>
      have hloop : loop limit test.run body.run orelse.run s = .error i (s'.setFlow s.env.flow) := by
        rw [loop_apply, afterwards_error hr]
      rw [hr] at hfinal
      refine ⟨⟨r'', L.refl r'', ?_⟩, course_behind ?_⟩
      · rw [hloop]
        exact ⟨L.quiet hfinal.1 rfl rfl rfl, hfinal.2⟩
      · rw [after_error hr, after_error hloop]
        exact .of_eq rfl rfl

end

/-! ## Class bodies and calls -/

theorem upholds_defineClass {name : String} {body : Watched Unit} {sur : Surroundings}
    (hkept : Kept (.block sur) (fun _ => True) body.run) (h : L.Upholds r L.Any body) :
    L.Upholds r L.Any (Watched.defineClass name body) := by
  refine .around (Watched.run_defineClass name body) (fun _ => h) ?_ ?_ fun _ _ _ => nofun
  · exact fun r' c s _ hs => ⟨L.push hs, .of_eq rfl rfl⟩
  intro r' r'' c s _ hs hr hfinal
  cases hb : body.run { s with env := s.env.pushFrame } with
  | ok a s' =>
    obtain ⟨-, hconfined, hflow⟩ := hkept.of_ok trivial hb
    have hne := (leaves_classEnd name hconfined hflow).1
    have hdefine : defineClass name body.run s = .ok () (classState name s') := by
      rw [defineClass_apply, bind_ok hb, finishClass_apply name hne]
    rw [hb] at hfinal
    obtain ⟨r₁, hr₁, hs₁⟩ := L.define name hs hr hfinal.1 hconfined
    rw [hdefine, after_ok hb, after_ok hdefine]
    refine ⟨⟨r₁, hr₁, hs₁, trivial⟩, .single (.classState name s') rfl fun a ha ha' => .inr ⟨name, ?_⟩⟩
    -- The only new map is that of the class.
    have hsize : (classState name s').heap.maps.size = s'.heap.maps.size + 1 := by simp [classState, Heap.alloc]
    obtain rfl : a = s'.heap.maps.size := by omega
    exact Environment.get?_update ..
  | error i s' =>
    have hdefine : defineClass name body.run s = .error i s' := by
      rw [defineClass_apply, bind_error hb]
    rw [hb] at hfinal
    refine ⟨⟨r'', L.refl r'', ?_⟩, course_behind ?_⟩
    · rw [hdefine]
      exact hfinal
    · rw [after_error hb, after_error hdefine]
      exact .refl _

theorem upholds_runFunction {name : String} {params : List String} {args : List Value} {body : Watched Unit}
    {sur : Surroundings} (hargs : ∀ v ∈ args, L.Good r v) (hkept : Kept (.block sur) (fun _ => True) body.run)
    (h : L.Upholds r L.Any body) : L.Upholds r L.Good (Watched.runFunction name params args body) := by
  refine .around (Watched.run_runFunction name params args body) (fun _ => h) ?_ ?_ ?_
  · exact fun r' c s hr hs => ⟨L.enter name params hs fun v hv => L.mono hr (hargs v hv), .of_eq rfl rfl⟩
  · intro r' r'' c s _ hs hr hfinal
    have hback : ∀ s', after body.run (callState name params args s) = s' → Undisturbed s (backFrom s s') := by
      intro s' hs'
      obtain ⟨hconfined, hflow⟩ := hkept.after (callState name params args s)
      rw [hs'] at hconfined hflow
      exact undisturbed_backFrom hconfined hflow
    cases hb : body.run (callState name params args s) with
    | ok a s' =>
      have hrun : runFunction name params args body.run s = .ok .none (backFrom s s') := by
        rw [runFunction_apply]
        exact afterwards_ok (handle_ok (bind_ok hb))
      rw [hb] at hfinal
      refine ⟨⟨r'', L.refl r'', ?_⟩, course_behind ?_⟩
      · rw [hrun]
        exact ⟨L.leave hs hr hfinal.1 (hback s' (after_ok hb)), (L.scalars r'').none⟩
      · rw [after_ok hb, after_ok hrun]
        exact .of_eq rfl rfl
    | error i s' =>
      have hpass : (do body.run; return Value.none : Eval Value) (callState name params args s) = .error i s' :=
        bind_error hb
      rw [hb] at hfinal
      have hs₁ := L.leave hs hr hfinal.1 (hback s' (after_error hb))
      rw [after_error hb]
      rcases catchReturn_cases ⟨"return from " ++ name, s.nextExit⟩ i with ⟨v, ⟨t, rfl⟩, hc⟩ | hc
      · have hrun : runFunction name params args body.run s = .ok v (backFrom s s') := by
          rw [runFunction_apply, afterwards_ok ((handle_error hpass).trans (hc s'))]
        refine ⟨⟨r'', L.refl r'', ?_⟩, course_behind ?_⟩
        · rw [hrun]
          exact ⟨hs₁, hfinal.2 v (List.mem_singleton.2 rfl)⟩
        · rw [after_ok hrun]
          exact .of_eq rfl rfl
      · have hrun : runFunction name params args body.run s = .error i (backFrom s s') := by
          rw [runFunction_apply, afterwards_error ((handle_error hpass).trans (hc s'))]
        refine ⟨⟨r'', L.refl r'', ?_⟩, course_behind ?_⟩
        · rw [hrun]
          exact ⟨hs₁, hfinal.2⟩
        · rw [after_error hrun]
          exact .of_eq rfl rfl
  · intro r' v hv w hw
    rwa [List.mem_singleton.1 hw]

/-! ## Expressions -/

/-- A caller that upholds the law on good values. -/
def Calls (L : Law settings) (call : WatchedCaller) : Prop :=
  ∀ (r : L.Record) (callee : Value) (args : List Value), L.Good r callee → (∀ v ∈ args, L.Good r v) →
    L.Upholds r L.Good (call callee args)

theorem good_cons {v : Value} {vs : List Value} (hv : L.Good r v) (hvs : ∀ w ∈ vs, L.Good r w) :
    ∀ w ∈ v :: vs, L.Good r w := by
  intro w hw
  rcases List.mem_cons.1 hw with rfl | hw
  · exact hv
  · exact hvs w hw

theorem good_singleton {v : Value} (hv : L.Good r v) : ∀ w ∈ [v], L.Good r w := good_cons hv nofun

theorem mono_list {r' : L.Record} {vs : List Value} (hr : L.le r r') (hvs : ∀ v ∈ vs, L.Good r v) :
    ∀ v ∈ vs, L.Good r' v := fun v hv => L.mono hr (hvs v hv)

theorem upheld_literal {l : Literal} {v : Value} (hl : L.allows l) (h : Value.ofLiteral? l = some v) :
    L.Upheld r L.Good (pure v) :=
  .pure fun r' _ => (L.scalars r').literal hl h

/-- Literals that the law allows. -/
abbrev Allowed (L : Law settings) (ls : List Literal) : Prop := ∀ l ∈ ls, L.allows l

section

variable {call : WatchedCaller}

mutual

theorem upholds_expr (hcall : L.Calls call) : ∀ (r : L.Record) (e : Expr), L.Allowed e.literals →
    L.Upholds r L.Good (Watched.expr call e)
  | r, .tuple items _, h => by
    rw [Expr.literals] at h
    simp only [Watched.expr]
    refine .bind (upholds_exprs hcall r items h) fun r' vs _ hvs => .holding hvs (Upheld.value (.pure fun r'' hr => ?_))
    exact L.tuple (mono_list hr hvs)
  | r, .attribute e attr _, h => by
    rw [Expr.literals] at h
    simp only [Watched.expr]
    refine .bind (upholds_expr hcall r e h) fun r' v _ hv => .holding (good_singleton hv) ?_
    exact Upheld.value (upheld_readAttr hv)
  | r, .unary op e, h => by
    rw [Expr.literals] at h
    simp only [Watched.expr]
    refine .bind (upholds_expr hcall r e h) fun r' v _ hv => .holding (good_singleton hv) ?_
    exact Upheld.value (upheld_unary hv)
  | r, .binary left op right, h => by
    rw [Expr.literals, Allowed, List.forall_mem_append] at h
    simp only [Watched.expr]
    refine .bind (upholds_expr hcall r left h.1) fun r₁ v _ hv => ?_
    refine .bind (.holding (good_singleton hv) (upholds_expr hcall r₁ right h.2)) fun r₂ w hr hw => ?_
    have hv₂ := L.mono hr hv
    exact .holding (good_cons hv₂ (good_singleton hw)) (Upheld.value (upheld_binary hv₂ hw))
  | r, .boolean op operands, h => by
    rw [Expr.literals] at h
    simp only [Watched.expr]
    exact upholds_firstDeciding hcall r _ .none (L.scalars r).none operands h
  | r, .compare left ops operands, h => by
    rw [Expr.literals, Allowed, List.forall_mem_append] at h
    simp only [Watched.expr]
    refine .bind (upholds_expr hcall r left h.1) fun r₁ v _ hv => ?_
    refine .bind (upholds_chain hcall r₁ v hv ops operands h.2) fun r₂ b _ _ => .pure fun r₃ _ => ?_
    exact (L.scalars r₃).bool b
  | r, .conditional test body orelse, h => by
    rw [Expr.literals, Allowed, List.forall_mem_append, List.forall_mem_append] at h
    simp only [Watched.expr]
    refine .bind (upholds_expr hcall r test h.1) fun r₁ v _ hv => ?_
    refine .bind (.holding (good_singleton hv) (Upheld.step upheld_truth)) fun r₂ b _ _ => .ite ?_ ?_
    · exact upholds_expr hcall r₂ body h.2.1
    · exact upholds_expr hcall r₂ orelse h.2.2
  | r, .call callee args keywords, h => by
    rw [Expr.literals, Allowed, List.forall_mem_append] at h
    obtain ⟨hcallee, hargs⟩ := h
    rw [Watched.expr.eq_def]
    simp only
    split
    · refine .bind (upholds_printedText hcall r args hargs) fun r₁ line _ _ => ?_
      refine .bind (V := L.Any) ?_ fun r₂ _ _ _ => .pure fun r₃ _ => (L.scalars r₃).none
      exact Upheld.step (.modify (fun _ => rfl) (fun _ => rfl) fun _ => rfl)
    · split
      · exact Upheld.value (.fail _)
      · split
        · rename_i e attr _ _
          rw [Expr.literals] at hcallee
          refine .bind (upholds_expr hcall r e hcallee) fun r₁ v _ hv => ?_
          refine .bind (.holding (good_singleton hv) (upholds_exprs hcall r₁ args hargs)) fun r₂ vs hr hvs => ?_
          have hall := good_cons (L.mono hr hv) hvs
          refine .bind (.holding hall (Upheld.value (upheld_findMethod (L.mono hr hv)))) fun r₃ m hr' hm => ?_
          exact hcall r₃ m _ hm (mono_list hr' hall)
        · refine .bind (upholds_expr hcall r callee hcallee) fun r₁ f _ hf => ?_
          refine .bind (.holding (good_singleton hf) (upholds_exprs hcall r₁ args hargs)) fun r₂ vs hr hvs => ?_
          exact hcall r₂ f vs (L.mono hr hf) hvs
  | r, .constant l kind, h => by
    rw [Expr.literals] at h
    simp only [Watched.expr, Eval.expr]
    refine Upheld.value ?_
    split
    · rename_i v hv
      exact upheld_literal (h l (List.mem_singleton.2 rfl)) hv
    · exact .bind .ofText fun _ _ _ _ => .fail _
  | r, .name id .load, _ => by
    simp only [Watched.expr, Eval.expr]
    exact Upheld.value (upheld_lookup id)
  | r, .name id .store, _ | r, .name id .del, _ => by
    simp only [Watched.expr, Eval.expr]
    exact Upheld.value (.fail _)
  | r, .subscript .., _ | r, .slice .., _ | r, .starred .., _ | r, .list .., _ | r, .set .., _ | r, .dict .., _
  | r, .lambda .., _ | r, .named .., _ | r, .listComp .., _ | r, .setComp .., _ | r, .dictComp .., _
  | r, .generator .., _ | r, .await .., _ | r, .yield .., _ | r, .yieldFrom .., _ | r, .joined .., _
  | r, .formatted .., _ => by
    simp only [Watched.expr, Eval.expr]
    exact Upheld.value (.fail _)

theorem upholds_exprs (hcall : L.Calls call) : ∀ (r : L.Record) (es : List Expr), L.Allowed (Expr.allLiterals es) →
    L.Upholds r (fun r' vs => ∀ v ∈ vs, L.Good r' v) (Watched.exprs call es)
  | r, [], _ => by
    simp only [Watched.exprs]
    exact .pure fun _ _ => nofun
  | r, e :: rest, h => by
    rw [Expr.allLiterals, Allowed, List.forall_mem_append] at h
    simp only [Watched.exprs]
    refine .bind (upholds_expr hcall r e h.1) fun r₁ v _ hv => ?_
    refine .bind (.holding (good_singleton hv) (upholds_exprs hcall r₁ rest h.2)) fun r₂ vs hr hvs => ?_
    exact .pure fun r₃ hr' => mono_list hr' (good_cons (L.mono hr hv) hvs)

theorem upholds_firstDeciding (hcall : L.Calls call) : ∀ (r : L.Record) (decisive : Bool) (last : Value), L.Good r last →
    ∀ es : List Expr, L.Allowed (Expr.allLiterals es) →
      L.Upholds r L.Good (Watched.firstDeciding call decisive last es)
  | r, decisive, last, hlast, [], _ => by
    simp only [Watched.firstDeciding]
    exact .pure fun _ hr => L.mono hr hlast
  | r, decisive, last, _, e :: rest, h => by
    rw [Expr.allLiterals, Allowed, List.forall_mem_append] at h
    simp only [Watched.firstDeciding]
    refine .bind (upholds_expr hcall r e h.1) fun r₁ v _ hv => ?_
    refine .bind (.holding (good_singleton hv) (Upheld.step upheld_truth)) fun r₂ b hr _ => .ite ?_ ?_
    · exact .pure fun _ hr' => L.mono (L.trans hr hr') hv
    · exact upholds_firstDeciding hcall r₂ decisive v (L.mono hr hv) rest h.2

theorem upholds_chain (hcall : L.Calls call) : ∀ (r : L.Record) (left : Value), L.Good r left →
    ∀ (ops : List Operator) (es : List Expr), L.Allowed (Expr.allLiterals es) →
      L.Upholds r L.Any (Watched.chain call left ops es)
  | r, left, hl, op :: ops, e :: rest, h => by
    rw [Expr.allLiterals, Allowed, List.forall_mem_append] at h
    simp only [Watched.chain]
    refine .bind (.holding (good_singleton hl) (upholds_expr hcall r e h.1)) fun r₁ w hr hw => ?_
    have hboth := good_cons (L.mono hr hl) (good_singleton hw)
    refine .bind (.holding hboth (Upheld.step .ofFailure)) fun r₂ b hr' _ => .ite ?_ ?_
    · exact upholds_chain hcall r₂ w (L.mono hr' hw) ops rest h.2
    · exact .pure fun _ _ => trivial
  | r, left, hl, [], _, _ => by
    simp only [Watched.chain]
    exact .pure fun _ _ => trivial
  | r, left, hl, _ :: _, [], _ => by
    simp only [Watched.chain]
    exact .pure fun _ _ => trivial

theorem upholds_printedText (hcall : L.Calls call) : ∀ (r : L.Record) (es : List Expr),
    L.Allowed (Expr.allLiterals es) → L.Upholds r L.Any (Watched.printedText call es)
  | r, [], _ => by
    simp only [Watched.printedText]
    exact .pure fun _ _ => trivial
  | r, e :: rest, h => by
    rw [Expr.allLiterals, Allowed, List.forall_mem_append] at h
    simp only [Watched.printedText]
    exact .bind (upholds_expr hcall r e h.1) fun r₁ v _ hv => .holding (good_singleton hv) (Upheld.step .ofFailure)

end

theorem upholds_test (hcall : L.Calls call) {e : Expr} (h : L.Allowed e.literals) :
    L.Upholds r L.Any (Watched.test call e) :=
  .bind (upholds_expr hcall r e h) fun _ _ _ hv => .holding (good_singleton hv) (Upheld.step upheld_truth)

/-! ## Statements -/

theorem upholds_assignTo (hcall : L.Calls call) (target : Expr) {v : Value} (hv : L.Good r v)
    (h : L.Allowed target.literals) : L.Upholds r L.Any (Watched.assignTo call target v) := by
  unfold Watched.assignTo
  split
  · exact Upheld.step (upheld_update hv)
  · rw [Expr.literals] at h
    refine .bind (upholds_expr hcall r _ h) fun r₁ w hr hw => .holding (good_singleton hw) ?_
    exact Upheld.step (upheld_setAttr (L.mono hr hv) hw)
  · exact Upheld.step (.bind .ofText fun _ _ _ _ => .fail _)

theorem upholds_assignAll (hcall : L.Calls call) {v : Value} : ∀ (r : L.Record) (targets : List Expr), L.Good r v →
    L.Allowed (Expr.allLiterals targets) → L.Upholds r L.Any (Watched.assignAll call v targets)
  | _, [], _, _ => .pure fun _ _ => trivial
  | _, target :: rest, hv, h => by
    rw [Expr.allLiterals, Allowed, List.forall_mem_append] at h
    exact .bind (upholds_assignTo hcall target hv h.1) fun r' _ hr _ =>
      upholds_assignAll hcall r' rest (L.mono hr hv) h.2

theorem upholds_augment (hcall : L.Calls call) (target : Expr) (op : Operator) {operand : Expr}
    (ht : L.Allowed target.literals) (ho : L.Allowed operand.literals) :
    L.Upholds r L.Any (Watched.augment call target op operand) := by
  unfold Watched.augment
  split
  · refine .bind (Upheld.value (upheld_lookup _)) fun r₁ old _ hold => ?_
    refine .bind (.holding (good_singleton hold) (upholds_expr hcall r₁ operand ho)) fun r₂ v hr hv => ?_
    have hold₂ := L.mono hr hold
    refine .bind (.holding ?_ (Upheld.value (upheld_binary hold₂ hv))) fun r₃ w _ hw => Upheld.step (upheld_update hw)
    exact good_cons hold₂ (good_singleton hv)
  · rw [Expr.literals] at ht
    refine .bind (upholds_expr hcall r _ ht) fun r₁ t _ ht => ?_
    refine .bind (.holding (good_singleton ht) (Upheld.value (upheld_readAttr ht))) fun r₂ old hr₂ hold => ?_
    have ht₂ := L.mono hr₂ ht
    refine .bind (.holding (good_cons ht₂ (good_singleton hold)) (upholds_expr hcall r₂ operand ho)) ?_
    intro r₃ v hr₃ hv
    have ht₃ := L.mono hr₃ ht₂
    have hold₃ := L.mono hr₃ hold
    have hall := good_cons ht₃ (good_cons hold₃ (good_singleton hv))
    refine .bind (.holding hall (Upheld.value (upheld_binary hold₃ hv))) fun r₄ w hr₄ hw => ?_
    have ht₄ := L.mono hr₄ ht₃
    exact .holding (good_singleton ht₄) (Upheld.step (upheld_setAttr hw ht₄))
  · exact Upheld.step (.bind .ofText fun _ _ _ _ => .fail _)

end

theorem Upholds.during {st : Stmt} {x : Watched Unit} (hx : L.Upholds r L.Any x)
    (hends : ∀ r' c s s', L.Holds r' c s → x.run s = .ok () s' → L.Ends st s') :
    L.Upholds r L.Any (Watched.during st x) := by
  intro r₁ c s hr hs
  obtain ⟨⟨r₂, hr₂, hfinal, hsees⟩, hcourse⟩ := hx r₁ c s hr hs
  have hstart : L.SeesUnder r₂ ⟨.starting st, s, c⟩ := ⟨⟨r₁, hr₂, hs⟩, nofun⟩
  cases hxs : x.run s with
  | error i s' =>
    have hseen : (Watched.during st x).seen c s = ⟨.starting st, s, c⟩ :: x.seen c s := by
      show _ :: x.seen c s ++ _ = _
      rw [hxs, List.append_nil]
    refine ⟨⟨r₂, hr₂, hfinal, fun m hm => ?_⟩, ?_⟩
    · rw [hseen] at hm
      rcases List.mem_cons.1 hm with rfl | hm
      · exact hstart
      · exact hsees m hm
    · rw [hseen]
      exact .cons (.refl s) rfl hcourse
  | ok a s' =>
    have hseen : (Watched.during st x).seen c s =
        ⟨.starting st, s, c⟩ :: (x.seen c s ++ [⟨.finished st, s', c⟩]) := by
      show _ :: x.seen c s ++ _ = _
      rw [hxs]
      rfl
    have hafter : after x.run s = s' := after_ok hxs
    refine ⟨⟨r₂, hr₂, hfinal, fun m hm => ?_⟩, ?_⟩
    · rw [hseen] at hm
      rcases List.mem_cons.1 hm with rfl | hm
      · exact hstart
      · rcases List.mem_append.1 hm with hm | hm
        · exact hsees m hm
        · rw [List.mem_singleton.1 hm]
          rw [hxs] at hfinal
          refine ⟨⟨r₂, L.refl r₂, hfinal.1⟩, fun st' hst => ?_⟩
          cases hst
          exact hends r₁ c s s' hs hxs
    · rw [hseen]
      exact .cons (.refl s) rfl (hcourse.append (.ending (.refl _) hafter.symm))

/-- Blocks leave alone what they must, also when they are watched. -/
theorem kept_watchedBlock (settings : Settings) (depth : Nat) (sur : Surroundings) (body : List Stmt) :
    Kept (.block sur) (fun _ => True) (Watched.block settings (Watched.invoke settings depth) body).run := by
  rw [Watched.run_block, Watched.run_invoke]
  exact (confinement settings settings).block ((confinement settings settings).invoke depth) sur body False.elim

section

variable {depth : Nat}

mutual

theorem upholds_stmt (hcall : L.Calls (Watched.invoke settings depth)) :
    ∀ (r : L.Record) (sur : Surroundings) (st : Stmt), (L.checked → AcceptedStmt sur st) → L.Allowed st.literals →
      L.Upholds r L.Any (Watched.stmt settings (Watched.invoke settings depth) st)
  | r, sur, .expr e, _, hl => by
    rw [Stmt.literals] at hl
    simp only [Watched.stmt]
    exact .bind (upholds_expr hcall r e hl) fun _ _ _ _ => .pure fun _ _ => trivial
  | r, sur, .assert e _, _, hl => by
    rw [Stmt.literals] at hl
    simp only [Watched.stmt]
    refine .bind (upholds_test hcall hl) fun _ _ _ _ => .ite ?_ ?_
    · exact .pure fun _ _ => trivial
    · exact Upheld.step (.fail _)
  | r, sur, .assign targets e, _, hl => by
    rw [Stmt.literals, Allowed, List.forall_mem_append] at hl
    simp only [Watched.stmt]
    refine .bind (upholds_expr hcall r e hl.1) fun r₁ v _ hv => .holding (good_singleton hv) ?_
    exact upholds_assignAll hcall r₁ targets hv hl.2
  | r, sur, .augAssign target op e, _, hl => by
    rw [Stmt.literals, Allowed, List.forall_mem_append] at hl
    simp only [Watched.stmt]
    exact upholds_augment hcall target op hl.1 hl.2
  | r, sur, .ifStmt e body orelse, h, hl => by
    rw [Stmt.literals, Allowed, List.forall_mem_append, List.forall_mem_append] at hl
    simp only [Watched.stmt]
    refine .bind (upholds_test hcall hl.1) fun r₁ _ _ _ => .ite ?_ ?_
    · exact upholds_block hcall r₁ sur body (fun hc => (h hc).branches.1) hl.2.1
    · exact upholds_block hcall r₁ sur orelse (fun hc => (h hc).branches.2) hl.2.2
  | r, sur, .whileStmt e body orelse, h, hl => by
    rw [Stmt.literals, Allowed, List.forall_mem_append, List.forall_mem_append] at hl
    simp only [Watched.stmt]
    refine upholds_loop _ (upholds_turn (upholds_test hcall hl.1) ?_ ?_)
    · exact upholds_block hcall r sur.loopBody body (fun hc => (h hc).loopBlocks.1) hl.2.1
    · exact upholds_block hcall r sur.loopBody orelse (fun hc => (h hc).loopBlocks.2) hl.2.2
  | r, sur, .returnStmt _ (some e), _, hl => by
    rw [Stmt.literals] at hl
    simp only [Watched.stmt]
    refine .bind (upholds_expr hcall r e hl) fun r₁ v _ hv => .holding (good_singleton hv) ?_
    exact Upheld.step (upheld_returnWith hv)
  | r, sur, .classDef name bases keywords body decorators, h, hl => by
    rw [Stmt.literals] at hl
    simp only [Watched.stmt]
    refine .ite (Upheld.step (.fail _)) (upholds_defineClass (kept_watchedBlock settings depth sur body) ?_)
    exact upholds_block hcall r .outermost body (fun hc => (h hc).classBody) hl
  | r, sur, .functionDef false name params body decorators returns, h, hl => by
    rw [Stmt.literals] at hl
    simp only [Watched.stmt, Eval.stmt]
    refine Upheld.step ?_
    split
    · exact .fail _
    · split
      · exact .fail _
      · exact upheld_update (L.function (fun hc => (h hc).functionBody) hl)
  | r, sur, .pass, _, _ => by
    simp only [Watched.stmt, Eval.stmt]
    exact Upheld.step (.pure fun _ _ => trivial)
  | r, sur, .breakStmt _, _, _ => by
    simp only [Watched.stmt, Eval.stmt]
    exact Upheld.step upheld_breakOut
  | r, sur, .continueStmt _, _, _ => by
    simp only [Watched.stmt, Eval.stmt]
    exact Upheld.step upheld_continueOn
  | r, sur, .returnStmt _ none, _, _ => by
    simp only [Watched.stmt, Eval.stmt]
    exact Upheld.step (upheld_returnWith (L.scalars r).none)
  | r, sur, .delete targets, _, _ => by
    simp only [Watched.stmt, Eval.stmt]
    exact Upheld.step (.bind .ofText fun _ _ _ _ => .fail _)
  | r, sur, .annAssign .., _, _ | r, sur, .forStmt .., _, _ | r, sur, .functionDef true .., _, _
  | r, sur, .withStmt .., _, _ | r, sur, .raise .., _, _ | r, sur, .tryStmt .., _, _ | r, sur, .importNames .., _, _
  | r, sur, .importFrom .., _, _ | r, sur, .globalNames .., _, _ | r, sur, .nonlocalNames .., _, _
  | r, sur, .matchStmt .., _, _ => by
    simp only [Watched.stmt, Eval.stmt]
    exact Upheld.step (.fail _)

theorem upholds_block (hcall : L.Calls (Watched.invoke settings depth)) :
    ∀ (r : L.Record) (sur : Surroundings) (body : List Stmt), (L.checked → Accepted sur body) →
      L.Allowed (Stmt.allLiterals body) →
      L.Upholds r L.Any (Watched.block settings (Watched.invoke settings depth) body)
  | r, sur, [], _, _ => by
    simp only [Watched.block]
    exact .pure fun _ _ => trivial
  | r, sur, st :: rest, h, hl => by
    rw [Stmt.allLiterals, Allowed, List.forall_mem_append] at hl
    simp only [Watched.block]
    have hst : L.checked → AcceptedStmt sur st := fun hc => (accepted_cons.1 (h hc)).1
    refine .bind (Upheld.step upheld_announce) fun r₁ _ _ _ => ?_
    refine .bind (.during (upholds_stmt hcall r₁ sur st hst hl.1) ?_) fun r₂ _ _ _ => ?_
    · intro r' c s s' hs hrun
      rw [Watched.run_stmt, Watched.run_invoke] at hrun
      exact L.ended hs hst hrun
    · exact upholds_block hcall r₂ sur rest (fun hc => (accepted_cons.1 (h hc)).2) hl.2

end

end

/-! ## Calls and modules -/

omit [Host] in
/-- What is held for a sequence is held for each of its parts. -/
theorem holding_bind (vs : List Value) (x : Watched α) (f : α → Watched β) :
    Watched.holding vs (x >>= f) = Watched.holding vs x >>= fun a => Watched.holding vs (f a) :=
  rfl

-- The induction is on the depth: whatever a body calls, it calls one level deeper.
theorem upholds_invoke : ∀ depth : Nat, L.Calls (Watched.invoke settings depth)
  | 0, _, _, _, _, _ => Upheld.value (.throw nofun)
  | depth + 1, r, .cls name attrs, args, hcallee, hargs => by
    rw [Watched.invoke, holding_bind]
    refine .bind (upholds_newObject hcallee hargs) fun r₁ obj hr₁ hobj => ?_
    refine .holding (mono_list hr₁ (good_cons hcallee hargs)) ?_
    refine .bind (.holding (good_singleton hobj) (Upheld.seeing (upheld_getAttr (L.mono hr₁ hcallee)) ?_)) ?_
    · intro r' found hfound v hv
      exact hfound v (Option.mem_toList.1 hv)
    · intro r₂ found hr₂ hfound
      have hobj₂ := L.mono hr₂ hobj
      cases found with
      | none => exact .pure fun _ hr => L.mono hr hobj₂
      | some constructor =>
        have hall := good_cons hobj₂ (mono_list (L.trans hr₁ hr₂) hargs)
        have hinvoke := upholds_invoke depth r₂ constructor (obj :: args) (hfound _ rfl) hall
        refine .bind (.holding (good_singleton hobj₂) hinvoke) fun r₃ _ hr₃ _ => .pure fun _ hr => ?_
        exact L.mono (L.trans hr₃ hr) hobj₂
  | depth + 1, r, .function name params body, args, hcallee, hargs => by
    rw [Watched.invoke]
    refine .holding (good_cons hcallee hargs) ?_
    refine upholds_runFunction hargs (kept_watchedBlock settings depth .functionBody body) ?_
    exact upholds_block (upholds_invoke depth) r .functionBody body (L.accepted hcallee) (L.allowed hcallee)
  | depth + 1, r, .none, args, hcallee, hargs | depth + 1, r, .bool _, args, hcallee, hargs
  | depth + 1, r, .int _, args, hcallee, hargs | depth + 1, r, .float _, args, hcallee, hargs
  | depth + 1, r, .imaginary .., args, hcallee, hargs | depth + 1, r, .string _, args, hcallee, hargs
  | depth + 1, r, .tuple _, args, hcallee, hargs | depth + 1, r, .object .., args, hcallee, hargs
  | depth + 1, r, .foreign _, args, hcallee, hargs => by
    simp only [Watched.invoke]
    exact .holding (good_cons hcallee hargs) (Upheld.value (.bind .ofFailure fun _ _ _ _ => .fail _))

/-- A law that holds where a module starts holds at every moment of its history, under records that all have grown to one
in the end. No key is lost from one moment to a later one, and no map is made unseen. -/
theorem history_upholds_under (L : Law settings) (body : List Stmt) {r : L.Record} {s : State} (hs : L.Holds r .top s)
    (hbody : L.checked → Accepted .outermost body) (hliterals : L.Allowed (Stmt.allLiterals body)) :
    (∃ r', L.le r r' ∧ ∀ m ∈ history settings body s, L.SeesUnder r' m) ∧
      Course s (history settings body s) (after (moduleBody settings body) s) := by
  have h : L.Upholds r L.Any (Watched.moduleBody settings body) :=
    upholds_block (upholds_invoke settings.depth) r .outermost body hbody hliterals
  obtain ⟨⟨r', hr, hfinal, hsees⟩, hcourse⟩ := h r .top s (L.refl r) hs
  refine ⟨⟨r', hr, fun m hm => ?_⟩, .cons (.refl s) rfl (hcourse.append ?_)⟩
  · rcases List.mem_cons.1 hm with rfl | hm
    · exact ⟨⟨r, hr, hs⟩, nofun⟩
    · rcases List.mem_append.1 hm with hm | hm
      · exact hsees m hm
      · rw [List.mem_singleton.1 hm]
        exact sees_behind hfinal fun _ _ _ => nofun
  · rw [← Watched.run_moduleBody]
    exact course_behind (.refl _)

/-- A law that holds where a module starts holds at every moment of its history, and no key is lost from one moment to a
later one. -/
theorem history_upholds (L : Law settings) (body : List Stmt) {r : L.Record} {s : State} (hs : L.Holds r .top s)
    (hbody : L.checked → Accepted .outermost body)
    (hliterals : L.Allowed (Stmt.allLiterals body) := by exact fun _ _ => trivial) :
    (∀ m ∈ history settings body s, L.Sees m) ∧
      (history settings body s).Pairwise fun m m' => KeysKept m.state m'.state := by
  obtain ⟨⟨r', -, hsees⟩, hcourse⟩ := L.history_upholds_under body hs hbody hliterals
  exact ⟨fun m hm => (hsees m hm).sees, hcourse.order⟩

/-- The law that asks for nothing. -/
def idle (settings : Settings) : Law settings where
  Record := Unit
  le _ _ := True
  refl _ := trivial
  trans _ _ := trivial
  checked := False
  allows _ := True
  Good _ _ := True
  Holds _ _ _ := True
  Ends _ _ := True
  mono _ _ := trivial
  scalars _ := .of_scalar fun _ => trivial
  tuple _ := trivial
  function _ _ := trivial
  accepted _ := False.elim
  allowed _ _ _ := trivial
  typeOf _ := trivial
  hold _ _ := trivial
  release _ := trivial
  quiet _ _ _ _ := trivial
  lookup _ _ := trivial
  entry _ _ _ _ := trivial
  update _ _ _ := trivial
  write _ _ _ _ _ := trivial
  create _ _ := ⟨(), trivial, trivial, trivial⟩
  push _ := trivial
  define _ _ _ _ _ := ⟨(), trivial, trivial⟩
  enter _ _ _ _ := trivial
  leave _ _ _ _ := trivial
  ended _ _ _ := trivial

end Law

theorem Law.Upholds.keysKept {settings : Settings} {α : Type} {V : (Law.idle settings).Record → α → Prop} {x : Watched α}
    (h : (Law.idle settings).Upholds () V x) (s : State) : KeysKept s (after x.run s) :=
  (h () .top s trivial trivial).course.whole

/-- No call loses a key, whatever is called. -/
theorem keysKept_invoke (settings : Settings) (depth : Nat) (callee : Value) (args : List Value) (s : State) :
    KeysKept s (after (invoke settings depth callee args) s) := by
  have h := Law.upholds_invoke (L := .idle settings) depth () callee args trivial fun _ _ => trivial
  have hrun : (Watched.invoke settings depth callee args).run = invoke settings depth callee args :=
    congrFun (congrFun (Watched.run_invoke settings depth) callee) args
  rw [← hrun]
  exact h.keysKept s

theorem keysKept_moduleBody (settings : Settings) (body : List Stmt) (s : State) :
    KeysKept s (after (moduleBody settings body) s) := by
  have h := Law.upholds_block (L := .idle settings) (Law.upholds_invoke settings.depth) () .outermost body False.elim
    fun _ _ => trivial
  rw [← Watched.run_moduleBody]
  exact h.keysKept s

end Treewalk
