/-
The journal of a module accounts for its execution: one walk along the evaluator and its journal, expression by
expression, statement by statement and call by call.
-/
import Treewalk.Proofs.Account

namespace Treewalk

/-- The same settings without a trace. -/
def Settings.untraced (settings : Settings) : Settings := { settings with tracing := false }

variable [Host]

namespace Audit

open Eval Journal

variable {A : Audit}

/-- Callers, with and without a trace, that are accounted for on good values. -/
def Calls (A : Audit) (call call' : Treewalk.Caller) (noted noted' : Journal.Caller) : Prop :=
  ∀ (callee : Value) (args : List Value), A.Good callee → (∀ v ∈ args, A.Good v) →
    A.Account A.Good (call callee args) (call' callee args) (noted callee args) (noted' callee args)

omit [Host] in
theorem good_scalar {v : Value} (h : v.isScalar = true) : A.Good v := A.norm.standard.good_scalar h

theorem Account.scalar {P : EvalError → Prop} {x : Except EvalError Value}
    (h : Yields P (fun v => v.isScalar = true) x) : A.Silent A.Good (Eval.ofExcept x) :=
  .ofExcept (h.mono (fun _ he => he) fun _ hv => good_scalar hv)

theorem Account.truth {v : Value} (hv : A.Good v) : A.Silent (fun _ => True) (Eval.truth v) :=
  .ofExcept (A.norm.standard.truth hv.here)

omit [Host] in
theorem good_cons {v : Value} {vs : List Value} (hv : A.Good v) (hvs : ∀ w ∈ vs, A.Good w) :
    ∀ w ∈ v :: vs, A.Good w := by
  intro w hw
  rcases List.mem_cons.1 hw with rfl | hw
  · exact hv
  · exact hvs w hw

section

variable {call call' : Treewalk.Caller} {noted noted' : Journal.Caller}

/-! ## Expressions -/

mutual

theorem expr (hcall : A.Calls call call' noted noted') : ∀ e : Expr,
    A.Account A.Good (Eval.expr call e) (Eval.expr call' e) (Journal.expr call noted e) (Journal.expr call' noted' e)
  | .constant value kind => by
    simp only [Eval.expr, Journal.expr]
    cases hv : Value.ofLiteral? value with
    | some v => exact .pure (good_scalar (Value.isScalar_ofLiteral hv))
    | none => exact .failWith rfl trivial
  | .name id .load => by
    simp only [Eval.expr, Journal.expr]
    exact .lookup id
  | .name id .store | .name id .del => by
    simp only [Eval.expr, Journal.expr]
    exact .fail _
  | .tuple items ctx => by
    simp only [Eval.expr, Journal.expr]
    refine .finish (exprs hcall items) fun vs hvs => .pure ?_
    exact Value.within_tuple.2 ⟨trivial, Value.allWithin_iff.2 hvs⟩
  | .attribute value attr ctx => by
    simp only [Eval.expr, Journal.expr]
    exact .finish (expr hcall value) fun v hv => .readAttr attr hv
  | .unary op operand => by
    simp only [Eval.expr, Journal.expr]
    exact .finish (expr hcall operand) fun v hv => .scalar (A.norm.standard.unary hv.here)
  | .binary left op right => by
    simp only [Eval.expr, Journal.expr]
    refine .bind (expr hcall left) fun l hl => .finish (expr hcall right) fun r hr => ?_
    exact .scalar (A.norm.standard.binary hl.here hr.here)
  | .boolean op operands => by
    simp only [Eval.expr, Journal.expr]
    exact firstDeciding hcall _ .none (good_scalar rfl) operands
  | .compare left ops operands => by
    simp only [Eval.expr, Journal.expr]
    refine .bind (expr hcall left) fun l hl => .finish (chain hcall l hl ops operands) fun b _ => ?_
    exact .pure (good_scalar rfl)
  | .conditional test body orelse => by
    simp only [Eval.expr, Journal.expr]
    exact .bind (expr hcall test) fun v hv => .bind (.truth hv) fun b _ => .ite (expr hcall body) (expr hcall orelse)
  | .call callee args keywords => by
    rw [Eval.expr.eq_def, Eval.expr.eq_def, Journal.expr.eq_def, Journal.expr.eq_def]
    simp only
    split
    · refine .finish (printedText hcall args) fun line _ => ?_
      exact .finish (.print line) fun _ _ => .pure (good_scalar rfl)
    · split
      · exact .fail _
      · have hplain := Account.bind (expr hcall callee) fun f hf => .bind (exprs hcall args) fun vs hvs =>
          hcall f vs hf hvs
        cases callee with
        | «attribute» value attr ctx =>
          refine .bind (expr hcall value) fun receiver hr => .bind (exprs hcall args) fun vs hvs => ?_
          exact .bind (.findMethod attr hr) fun method hm => hcall method _ hm (good_cons hr hvs)
        | _ => exact hplain
  | .subscript .. | .slice .. | .starred .. | .list .. | .set .. | .dict .. | .lambda .. | .named .. | .listComp ..
  | .setComp .. | .dictComp .. | .generator .. | .await .. | .yield .. | .yieldFrom .. | .joined ..
  | .formatted .. => by
    simp only [Eval.expr, Journal.expr]
    exact .fail _

theorem exprs (hcall : A.Calls call call' noted noted') : ∀ es : List Expr,
    A.Account (fun vs => ∀ v ∈ vs, A.Good v) (Eval.exprs call es) (Eval.exprs call' es)
      (Journal.exprs call noted es) (Journal.exprs call' noted' es)
  | [] => by
    simp only [Eval.exprs, Journal.exprs]
    exact .pure (by simp)
  | e :: rest => by
    simp only [Eval.exprs, Journal.exprs]
    refine .bind (expr hcall e) fun v hv => .finish (exprs hcall rest) fun vs hvs => ?_
    exact .pure (good_cons hv hvs)

theorem firstDeciding (hcall : A.Calls call call' noted noted') (decisive : Bool) :
    ∀ last : Value, A.Good last → ∀ es : List Expr,
    A.Account A.Good (Eval.firstDeciding call decisive last es) (Eval.firstDeciding call' decisive last es)
      (Journal.firstDeciding call noted decisive es) (Journal.firstDeciding call' noted' decisive es)
  | last, hlast, [] => by
    simp only [Eval.firstDeciding, Journal.firstDeciding]
    exact .pure hlast
  | last, hlast, e :: rest => by
    simp only [Eval.firstDeciding, Journal.firstDeciding]
    refine .bind (expr hcall e) fun v hv => .bind (.truth hv) fun b _ => ?_
    exact .ite (.pure hv) (firstDeciding hcall decisive v hv rest)

theorem chain (hcall : A.Calls call call' noted noted') :
    ∀ left : Value, A.Good left → ∀ (ops : List Operator) (es : List Expr),
    A.Account (fun _ => True) (Eval.chain call left ops es) (Eval.chain call' left ops es)
      (Journal.chain call noted left ops es) (Journal.chain call' noted' left ops es)
  | left, hl, op :: ops, e :: rest => by
    simp only [Eval.chain, Journal.chain]
    refine .bind (expr hcall e) fun right hr => .bind (.ofFailure rfl (fun _ => trivial) trivial) fun b _ => ?_
    exact .ite (chain hcall right hr ops rest) (.pure trivial)
  | left, hl, [], _ => by
    simp only [Eval.chain, Journal.chain]
    exact .pure trivial
  | left, hl, _ :: _, [] => by
    simp only [Eval.chain, Journal.chain]
    exact .pure trivial

theorem printedText (hcall : A.Calls call call' noted noted') : ∀ es : List Expr,
    A.Account (fun _ => True) (Eval.printedText call es) (Eval.printedText call' es)
      (Journal.printedText call noted es) (Journal.printedText call' noted' es)
  | [] => by
    simp only [Eval.printedText, Journal.printedText]
    exact .pure trivial
  | e :: rest => by
    simp only [Eval.printedText, Journal.printedText]
    exact .bind (expr hcall e) fun v _ => .ofFailure rfl (fun _ => trivial) trivial

end

/-! ## Statements -/

/-- A target of a statement that meets the norm. -/
def OfFine (A : Audit) (e : Expr) : Prop := ∃ st, A.norm.Fine st ∧ e ∈ st.targets

theorem assignTo (hcall : A.Calls call call' noted noted') {v : Value} (hv : A.Good v) :
    ∀ {target : Expr}, A.OfFine target →
    A.Account (fun _ => True) (Eval.assignTo call target v) (Eval.assignTo call' target v)
      (Journal.assignTo call noted target) (Journal.assignTo call' noted' target)
  | .name id _, _ => .update id hv
  | .attribute receiver attr _, _ => .finish (expr hcall receiver) fun _ hr => .setAttr attr hv hr
  | .constant .., h | .subscript .., h | .slice .., h | .starred .., h | .tuple .., h | .list .., h | .set .., h
  | .dict .., h | .unary .., h | .binary .., h | .boolean .., h | .compare .., h | .conditional .., h | .call .., h
  | .lambda .., h | .named .., h | .listComp .., h | .setComp .., h | .dictComp .., h | .generator .., h
  | .await .., h | .yield .., h | .yieldFrom .., h | .joined .., h | .formatted .., h => .failWith rfl h

theorem assignAll (hcall : A.Calls call call' noted noted') {v : Value} (hv : A.Good v) :
    ∀ {targets : List Expr}, (∀ e ∈ targets, A.OfFine e) →
    A.Account (fun _ => True) (Eval.assignAll call v targets) (Eval.assignAll call' v targets)
      (Journal.assignAll call noted v targets) (Journal.assignAll call' noted' v targets)
  | [], _ => .pure trivial
  | _ :: _, h =>
    .bind (assignTo hcall hv (h _ (List.mem_cons_self ..))) fun _ _ =>
      assignAll hcall hv fun e he => h e (List.mem_cons_of_mem _ he)

theorem augment (hcall : A.Calls call call' noted noted') (op : Operator) (operand : Expr) :
    ∀ {target : Expr}, A.OfFine target →
    A.Account (fun _ => True) (Eval.augment call target op operand) (Eval.augment call' target op operand)
      (Journal.augment call noted target operand) (Journal.augment call' noted' target operand)
  | .name id _, _ =>
    .bind (.lookup id) fun _ ho => .finish (expr hcall operand) fun _ hv =>
      .finish (.scalar (A.norm.standard.binary ho.here hv.here)) fun _ hw => .update id hw
  | .attribute receiver attr _, _ =>
    .bind (expr hcall receiver) fun _ hr => .bind (.readAttr attr hr) fun _ ho =>
      .finish (expr hcall operand) fun _ hv =>
        .finish (.scalar (A.norm.standard.binary ho.here hv.here)) fun _ hw => .setAttr attr hw hr
  | .constant .., h | .subscript .., h | .slice .., h | .starred .., h | .tuple .., h | .list .., h | .set .., h
  | .dict .., h | .unary .., h | .binary .., h | .boolean .., h | .compare .., h | .conditional .., h | .call .., h
  | .lambda .., h | .named .., h | .listComp .., h | .setComp .., h | .dictComp .., h | .generator .., h
  | .await .., h | .yield .., h | .yieldFrom .., h | .joined .., h | .formatted .., h => .failWith rfl h

/-- The truth of a condition. -/
theorem test (hcall : A.Calls call call' noted noted') (e : Expr) :
    A.Account (fun _ => True) (do Eval.truth (← Eval.expr call e)) (do Eval.truth (← Eval.expr call' e))
      (Journal.expr call noted e) (Journal.expr call' noted' e) :=
  .finish (expr hcall e) fun _ hv => .truth hv

/-- A statement that has been announced is started; without a trace all are. -/
theorem AccountFrom.started {st : Stmt} (hst : A.norm.Fine st) {x y : Eval Unit} {s s₁ : State}
    {asked notes : List Note} {notes' : Notes} (h : A.AccountFrom (fun _ => True) x y notes notes' s₁)
    (hrun : Eval.announce A.settings st s = .ok () s₁) (hs₁ : s₁.untraced = s.untraced)
    (hbooked : A.Booked (asked ++ [.starting st]) s s₁) (hasked : ∀ n ∈ asked, n.Meets A.norm)
    (hstarted : Treewalk.started asked = []) :
    A.AccountFrom (fun _ => True) (do Eval.announce A.settings st; x) (do Eval.announce A.settings.untraced st; y)
      (asked ++ .starting st :: notes) (fun s => .starting st :: notes' s) s := by
  have hnotes : asked ++ .starting st :: notes = asked ++ [.starting st] ++ notes := by
    rw [List.append_assoc]
    rfl
  obtain ⟨houtcome, hmeets, hmirror⟩ := h
  refine ⟨?_, fun n hn => ?_, fun hw trace => ?_⟩
  · rw [bind_ok hrun, hnotes]
    exact .behind hbooked houtcome
  · rcases List.mem_append.1 hn with hn | hn
    · exact hasked n hn
    · rcases List.mem_cons.1 hn with rfl | hn
      · exact hst
      · exact hmeets n hn
  · have hsame : ({ s₁ with trace := trace } : State) = { s with trace := trace } := by
      rw [State.eq_of_untraced hs₁]
    obtain ⟨hmuted, hstarted'⟩ := hmirror hw trace
    rw [hsame] at hmuted hstarted'
    rw [bind_ok hrun, started_append, hstarted]
    exact ⟨hmuted, congrArg (st :: ·) hstarted'⟩

/-- A statement is announced and then started; without an announcement that is the end. -/
theorem announced {st : Stmt} (hst : A.norm.Fine st) {x y : Eval Unit} {notes notes' : Notes}
    (h : A.Account (fun _ => True) x y notes notes') :
    A.Account (fun _ => True) (do Eval.announce A.settings st; x) (do Eval.announce A.settings.untraced st; y)
      (andThen (Eval.announce A.settings st) (Journal.announce A.settings st) fun _ s => .starting st :: notes s)
      (andThen (Eval.announce A.settings.untraced st) (Journal.announce A.settings.untraced st) fun _ s =>
        .starting st :: notes' s) := by
  intro s hs
  -- Without a trace there is nothing to announce, and nothing is asked for.
  show A.AccountFrom _ _ _ _ (fun s => .starting st :: notes' s) s
  by_cases ht : A.settings.tracing = true
  · have hasked : Journal.announce A.settings st = Journal.note (.asking (.outline st)) := if_pos ht
    have hmeets : ∀ n ∈ [Note.asking (.outline st)], n.Meets A.norm := meets_asking hst
    cases htext : st.outline.text? with
    | none =>
      have hrun : Eval.announce A.settings st s = .error (.unwritable .digitLimit) s := by
        rw [Eval.announce, if_pos ht, htext]
        rfl
      have hfault : (Rendering.outline st).fault? = some .digitLimit := by
        rw [Rendering.fault?, htext]
        rfl
      unfold andThen
      rw [hrun, hasked]
      refine ⟨?_, hmeets, fun hw => ?_⟩
      · rw [bind_error hrun]
        exact ⟨⟨_, rfl, hfault⟩, .asking hs _⟩
      · have hsome := hw st hst
        rw [htext] at hsome
        cases hsome
    | some text =>
      have hrun : Eval.announce A.settings st s =
          .ok () { s with trace := s.trace.push ("*** Evaluating: " ++ text) } := by
        rw [Eval.announce, if_pos ht, htext]
        rfl
      have hs₁ : A.Holds { s with trace := s.trace.push ("*** Evaluating: " ++ text) } := hs.of_eq rfl rfl rfl
      have hline : announcements A.settings [.asking (.outline st), .starting st] =
          [some ("*** Evaluating: " ++ text)] := by
        rw [announcements, if_pos ht]
        show [st.announcement?] = _
        rw [Stmt.announcement?, htext]
        rfl
      unfold andThen
      rw [hrun, hasked]
      refine (h _ hs₁).started hst hrun rfl ⟨hs₁, ?_⟩ hmeets rfl
      show _ = _ ++ announcements A.settings [.asking (.outline st), .starting st]
      rw [hline, Array.toList_push, List.map_append]
      rfl
  · have hasked : Journal.announce A.settings st = nothing := if_neg ht
    have hrun : Eval.announce A.settings st s = .ok () s := by
      rw [Eval.announce, if_neg ht]
      rfl
    unfold andThen
    rw [hrun, hasked]
    exact (h s hs).started hst hrun rfl (.silent hs rfl (if_neg ht)) nofun rfl

mutual

theorem stmt (hcall : A.Calls call call' noted noted') : ∀ {st : Stmt}, A.norm.Fine st →
    A.Account (fun _ => True) (Eval.stmt A.settings call st) (Eval.stmt A.settings.untraced call' st)
      (Journal.stmt call noted A.settings st) (Journal.stmt call' noted' A.settings.untraced st)
  | .expr value, _ => by
    simp only [Eval.stmt, Journal.stmt, discard_eq_bind]
    exact .finish (expr hcall value) fun _ _ => .pure trivial
  | .pass, _ => by
    simp only [Eval.stmt, Journal.stmt]
    exact .pure trivial
  | .assert condition _, _ => by
    simp only [Eval.stmt, Journal.stmt, ← bind_assoc]
    refine .finish (test hcall condition) fun b _ => ?_
    cases b with
    | true => exact .pure trivial
    | false => exact .fail _
  | .assign targets value, hst => by
    simp only [Eval.stmt, Journal.stmt]
    exact .bind (expr hcall value) fun v hv => assignAll hcall hv fun e he => ⟨_, hst, he⟩
  | .augAssign target op value, hst => by
    simp only [Eval.stmt, Journal.stmt]
    exact augment hcall op value ⟨_, hst, List.mem_singleton.2 rfl⟩
  | .ifStmt condition body orelse, hst => by
    simp only [Eval.stmt, Journal.stmt, ← bind_assoc]
    refine .bind (test hcall condition) fun b _ => .ite (block hcall fun st h => ?_) (block hcall fun st h => ?_)
    · exact A.norm.inside hst (List.mem_append_left _ h)
    · exact A.norm.inside hst (List.mem_append_right _ h)
  | .whileStmt condition body orelse, hst => by
    simp only [Eval.stmt, Journal.stmt]
    refine .loop _ (.turn (test hcall condition) (block hcall fun st h => ?_) (block hcall fun st h => ?_))
    · exact A.norm.inside hst (List.mem_append_left _ h)
    · exact A.norm.inside hst (List.mem_append_right _ h)
  | .breakStmt _, _ => by
    simp only [Eval.stmt, Journal.stmt]
    exact .breakOut
  | .continueStmt _, _ => by
    simp only [Eval.stmt, Journal.stmt]
    exact .continueOn
  | .returnStmt _ (some value), _ => by
    simp only [Eval.stmt, Journal.stmt]
    exact .finish (expr hcall value) fun v hv => .returnWith hv
  | .returnStmt _ none, _ => by
    simp only [Eval.stmt, Journal.stmt]
    exact .returnWith (good_scalar rfl)
  | .delete targets, hst => by
    simp only [Eval.stmt, Journal.stmt]
    exact .failWith rfl hst
  | .functionDef false name params body decorators _, hst => by
    simp only [Eval.stmt, Journal.stmt]
    split
    · exact .fail _
    · split
      · exact .fail _
      · exact .update name fun st h => A.norm.inside hst h
  | .classDef name _ keywords body decorators, hst => by
    simp only [Eval.stmt, Journal.stmt]
    exact .ite (.fail _) (.defineClass (block hcall fun st h => A.norm.inside hst h))
  | .annAssign .., _ | .forStmt .., _ | .functionDef true .., _ | .withStmt .., _ | .raise .., _ | .tryStmt .., _
  | .importNames .., _ | .importFrom .., _ | .globalNames .., _ | .nonlocalNames .., _ | .matchStmt .., _ => by
    simp only [Eval.stmt, Journal.stmt]
    exact .fail _

theorem block (hcall : A.Calls call call' noted noted') : ∀ {body : List Stmt}, (∀ st ∈ body, A.norm.Fine st) →
    A.Account (fun _ => True) (Eval.block A.settings call body) (Eval.block A.settings.untraced call' body)
      (Journal.block call noted A.settings body) (Journal.block call' noted' A.settings.untraced body)
  | [], _ => by
    simp only [Eval.block, Journal.block]
    exact .pure trivial
  | st :: rest, h => by
    simp only [Eval.block, Journal.block]
    obtain ⟨hst, hrest⟩ := List.forall_mem_cons.1 h
    exact announced hst (.bind (stmt hcall hst) fun _ _ => block hcall hrest)

end

/-! ## Calls -/

theorem callValue (hcall : A.Calls call call' noted noted') :
    A.Calls (Eval.callValue A.settings call) (Eval.callValue A.settings.untraced call')
      (Journal.callValue call noted A.settings) (Journal.callValue call' noted' A.settings.untraced)
  | .cls name attrs, args, hcallee, hargs => by
    simp only [Eval.callValue, Journal.callValue, discard_eq_bind]
    refine .bind (.newObject hcallee) fun obj hobj => .bind (.getAttr constructorName hcallee) fun found hfound => ?_
    cases found with
    | none => exact .pure hobj
    | some constructor =>
      have hconstructor := hcall constructor (obj :: args) (hfound _ rfl) (good_cons hobj hargs)
      exact .finish (hconstructor.finish (W := fun _ => True) fun _ _ => .pure trivial) fun _ _ => .pure hobj
  | .function name params body, args, hcallee, hargs => by
    simp only [Eval.callValue, Journal.callValue]
    exact .runFunction hargs (block hcall hcallee.here)
  | .none, _, _, _ | .bool _, _, _, _ | .int _, _, _, _ | .float _, _, _, _ | .imaginary .., _, _, _
  | .string _, _, _, _ | .tuple _, _, _, _ | .object .., _, _, _ | .foreign _, _, _, _ => by
    simp only [Eval.callValue, Journal.callValue]
    exact .finish (.ofFailure rfl (fun _ => trivial) trivial) fun _ _ => .fail _

end

-- The induction is on the depth: whatever a body calls, it calls one level deeper.
theorem invoke : ∀ depth : Nat,
    A.Calls (Eval.invoke A.settings depth) (Eval.invoke A.settings.untraced depth) (Journal.invoke A.settings depth)
      (Journal.invoke A.settings.untraced depth)
  | 0, _, _, _, _ => .throw trivial
  | depth + 1, callee, args, hcallee, hargs => callValue (invoke depth) callee args hcallee hargs

/-- The journal of a module accounts for its execution. -/
theorem moduleBody {body : List Stmt} (hbody : ∀ st ∈ body, A.norm.Fine st) :
    A.Account (fun _ => True) (Eval.moduleBody A.settings body) (Eval.moduleBody A.settings.untraced body)
      (journal A.settings body) (journal A.settings.untraced body) :=
  block (invoke A.settings.depth) hbody

theorem runModule_booked {body : List Stmt} (hbody : ∀ st ∈ body, A.norm.Fine st) {s : State}
    (hs : A.Holds s) : A.Booked (journal A.settings body s) s (runModule A.settings body s).2 := by
  have houtcome := (moduleBody hbody s hs).outcome
  unfold runModule
  cases hr : Eval.moduleBody A.settings body s with
  | ok a s' =>
    rw [hr] at houtcome
    exact houtcome.2
  | error i s' =>
    rw [hr] at houtcome
    exact houtcome.2

end Audit

end Treewalk
