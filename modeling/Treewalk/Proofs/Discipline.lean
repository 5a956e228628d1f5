/-
What every step of evaluation respects, evaluation as a whole respects. A discipline says which values are good and
relates two evaluations at each site of a program; it lists what has to be shown of the single steps. Expressions,
blocks and calls then follow by one induction along the evaluator, for every property that can be put in this form.
-/
import Treewalk.Eval.Call
import Treewalk.Proofs.Contract
import Treewalk.Proofs.Placement

namespace Treewalk.Eval

/-- Where a step of evaluation stands: in a call, which sees no frame of its caller; in an expression, which reads the
top frame; or in a block, which also binds names and has exits. -/
inductive Site where
  | call
  | expression
  | block (s : Surroundings)

/-- What exits at a site may rely on; in a call and in an expression there are none. -/
def Site.surroundings : Site → Surroundings
  | .call | .expression => .outermost
  | .block s => s

variable [Host]

/-- A text is made first, and then the output may refuse it. -/
theorem ofFailure_printed (v : Value) : ofFailure v.printed = (do
    let t ← ofFailure v.text
    match Host.complaint? t with
    | some complaint => throw (.unwritable (.refused complaint))
    | none => pure t) := by
  rw [Value.printed]
  cases v.text with
  | error f => cases f <;> rfl
  | ok t =>
    rw [show ofFailure (.ok t) = pure t from rfl, pure_bind, show (Except.ok t : Except Failure Text) = pure t from rfl,
      pure_bind]
    cases Host.complaint? t <;> rfl

/-- A relation between the evaluations of one program under two settings, on good values. `Rel site V x y` relates two
steps whose results satisfy `V`; `checked` says whether exits are known to stand where they may. -/
structure Discipline (settings settings' : Settings) where
  checked : Prop
  Good : Value → Prop
  Rel : {α : Type} → Site → (α → Prop) → Eval α → Eval α → Prop
  ret : ∀ {α : Type} {site : Site} {V : α → Prop} {a : α}, V a → Rel site V (pure a) (pure a)
  seq : ∀ {α β : Type} {site : Site} {V : α → Prop} {W : β → Prop} {x y : Eval α} {f g : α → Eval β},
    Rel site V x y → (∀ a, V a → Rel site W (f a) (g a)) → Rel site W (x >>= f) (y >>= g)
  ofCall : ∀ {α : Type} {V : α → Prop} {x y : Eval α}, Rel .call V x y → Rel .expression V x y
  ofExpression : ∀ {α : Type} {s : Surroundings} {V : α → Prop} {x y : Eval α},
    Rel .expression V x y → Rel (.block s) V x y
  -- values
  literal : ∀ {l : Literal} {v : Value}, Value.ofLiteral? l = some v → Good v
  tuple : ∀ {items : List Value}, (∀ v ∈ items, Good v) → Good (.tuple items)
  function : ∀ {name : String} {params : List String} {body : List Stmt},
    (checked → Accepted .functionBody body) → Good (.function name params body)
  accepted : ∀ {name : String} {params : List String} {body : List Stmt},
    Good (.function name params body) → checked → Accepted .functionBody body
  -- steps that see no frame
  failing : ∀ {α : Type} {V : α → Prop} {e : EvalError}, e.Ordinary → Rel .call V (fail e) (fail e)
  unwritable : ∀ {α : Type} {V : α → Prop} (cause : Unwritable),
    Rel .call V (throw (.unwritable cause)) (throw (.unwritable cause))
  overflow : ∀ {α : Type} {V : α → Prop}, Rel .call V (throw .overflow) (throw .overflow)
  truth : ∀ {v : Value}, Good v → Rel .call (fun _ => True) (truth v) (truth v)
  unary : ∀ {op : Operator} {v : Value}, Good v →
    Rel .call Good (ofExcept (op.applyUnary v)) (ofExcept (op.applyUnary v))
  binary : ∀ {op : Operator} {l r : Value}, Good l → Good r →
    Rel .call Good (ofExcept (op.applyBinary l r)) (ofExcept (op.applyBinary l r))
  compare : ∀ {op : Operator} {l r : Value}, Good l → Good r →
    Rel .call (fun _ => True) (ofFailure (op.applyCompare l r)) (ofFailure (op.applyCompare l r))
  text : ∀ {v : Value}, Good v → Rel .call (fun _ => True) (ofFailure v.text) (ofFailure v.text)
  print : ∀ (line : Text), Rel .call (fun _ => True) (print line) (print line)
  getAttr : ∀ {name : String} {v : Value}, Good v →
    Rel .call (fun found => ∀ w, found = some w → Good w) (getAttr name v) (getAttr name v)
  findMethod : ∀ {name : String} {v : Value}, Good v → Rel .call Good (findMethod name v) (findMethod name v)
  setAttr : ∀ {name : String} {v target : Value}, Good v → Good target →
    Rel .call (fun _ => True) (setAttr name v target) (setAttr name v target)
  newObject : ∀ {name : String} {attrs : Address}, Good (.cls name attrs) →
    Rel .call Good (newObject (.cls name attrs)) (newObject (.cls name attrs))
  runFunction : ∀ {name : String} {params : List String} {args : List Value} {body body' : Eval Unit},
    (∀ v ∈ args, Good v) → Rel (.block .functionBody) (fun _ => True) body body' →
    Rel .call Good (runFunction name params args body) (runFunction name params args body')
  -- steps that read or bind names, and exits
  lookup : ∀ (name : String), Rel .expression Good (lookup name) (lookup name)
  update : ∀ {s : Surroundings} {name : String} {v : Value}, Good v →
    Rel (.block s) (fun _ => True) (update name v) (update name v)
  announce : ∀ (s : Surroundings) (st : Stmt),
    Rel (.block s) (fun _ => True) (announce settings st) (announce settings' st)
  breakOut : ∀ {s : Surroundings}, (checked → s.inLoop = true) → Rel (.block s) (fun _ => True) breakOut breakOut
  continueOn : ∀ {s : Surroundings}, (checked → s.inLoop = true) →
    Rel (.block s) (fun _ => True) continueOn continueOn
  returnWith : ∀ {s : Surroundings} {v : Value}, (checked → s.inFunction = true) → Good v →
    Rel (.block s) (fun _ => True) (returnWith v) (returnWith v)
  loop : ∀ {s : Surroundings} {test test' : Eval Bool} {body body' orelse orelse' : Eval Unit},
    Rel (.block s.loopBody) (fun _ => True) test test' → Rel (.block s.loopBody) (fun _ => True) body body' →
    Rel (.block s.loopBody) (fun _ => True) orelse orelse' →
    Rel (.block s) (fun _ => True) (loop settings.rounds test body orelse) (loop settings'.rounds test' body' orelse')
  defineClass : ∀ {s : Surroundings} {name : String} {body body' : Eval Unit},
    Rel (.block .outermost) (fun _ => True) body body' →
    Rel (.block s) (fun _ => True) (defineClass name body) (defineClass name body')

omit [Host] in
/-- For disciplines that do not ask for checked bodies. -/
theorem accepted_unchecked {body : List Stmt} (h : False) : Accepted .functionBody body := h.elim

namespace Discipline

variable {settings settings' : Settings} (D : Discipline settings settings')

/-- Two ways to call values that are related on good ones. -/
def Calls (call call' : Caller) : Prop :=
  ∀ (callee : Value) (args : List Value), D.Good callee → (∀ v ∈ args, D.Good v) →
    D.Rel .call D.Good (call callee args) (call' callee args)

/-! ## Composed steps -/

theorem ofText {α : Type} {x : Except Unwritable α} : D.Rel .call (fun _ => True) (ofText x) (ofText x) := by
  cases x with
  | error cause => exact D.unwritable cause
  | ok s => exact D.ret trivial

theorem printed {v : Value} (hv : D.Good v) :
    D.Rel .call (fun _ => True) (ofFailure v.printed) (ofFailure v.printed) := by
  rw [ofFailure_printed]
  refine D.seq (D.text hv) fun t _ => ?_
  split
  · exact D.unwritable _
  · exact D.ret trivial

theorem readAttr {name : String} {v : Value} (hv : D.Good v) :
    D.Rel .call D.Good (readAttr name v) (readAttr name v) := by
  refine D.seq (D.getAttr hv) fun found hf => ?_
  cases found with
  | none => exact D.failing ⟨nofun, nofun⟩
  | some w => exact D.ret (hf w rfl)

theorem discards {α : Type} {site : Site} {V : α → Prop} {x y : Eval α} (h : D.Rel site V x y) :
    D.Rel site (fun _ => True) (discard x) (discard y) := by
  rw [discard_eq_bind, discard_eq_bind]
  exact D.seq h fun _ _ => D.ret trivial

/-! ## Expressions -/

section

variable {call call' : Caller}

mutual

theorem expr (hcall : D.Calls call call') : ∀ e : Expr, D.Rel .expression D.Good (expr call e) (expr call' e)
  | .constant value kind => by
    simp only [Eval.expr]
    split
    · rename_i v hv
      exact D.ret (D.literal hv)
    · exact D.ofCall (D.seq D.ofText fun _ _ => D.failing ⟨nofun, nofun⟩)
  | .name id .load => by
    simp only [Eval.expr]
    exact D.lookup id
  | .name id .store | .name id .del => by
    simp only [Eval.expr]
    exact D.ofCall (D.failing ⟨nofun, nofun⟩)
  | .tuple items ctx => by
    simp only [Eval.expr]
    exact D.seq (exprs hcall items) fun vs hvs => D.ret (D.tuple hvs)
  | .attribute value attr ctx => by
    simp only [Eval.expr]
    exact D.seq (expr hcall value) fun v hv => D.ofCall (D.readAttr hv)
  | .unary op operand => by
    simp only [Eval.expr]
    exact D.seq (expr hcall operand) fun v hv => D.ofCall (D.unary hv)
  | .binary left op right => by
    simp only [Eval.expr]
    refine D.seq (expr hcall left) fun l hl => D.seq (expr hcall right) fun r hr => ?_
    exact D.ofCall (D.binary hl hr)
  | .boolean op operands => by
    simp only [Eval.expr]
    exact firstDeciding hcall _ .none (D.literal (l := .none) rfl) operands
  | .compare left ops operands => by
    simp only [Eval.expr]
    refine D.seq (expr hcall left) fun l hl => D.seq (chain hcall l hl ops operands) fun b _ => ?_
    exact D.ret (D.literal (l := .bool b) rfl)
  | .conditional test body orelse => by
    simp only [Eval.expr]
    refine D.seq (expr hcall test) fun v hv => D.seq (D.ofCall (D.truth hv)) fun b _ => ?_
    cases b with
    | true => exact expr hcall body
    | false => exact expr hcall orelse
  | .call callee args keywords => by
    -- Which form of call it is depends on the callee alone, so both evaluations take the same branch.
    rw [Eval.expr.eq_def, Eval.expr.eq_def]
    simp only
    split
    · refine D.seq (printedText hcall args) fun line _ => D.seq (D.ofCall (D.print line)) fun _ _ => ?_
      exact D.ret (D.literal (l := .none) rfl)
    · split
      · exact D.ofCall (D.failing ⟨nofun, nofun⟩)
      · split
        · rename_i value attr ctx _
          refine D.seq (expr hcall value) fun r hr => D.seq (exprs hcall args) fun vs hvs => ?_
          refine D.ofCall (D.seq (D.findMethod hr) fun m hm => hcall m _ hm ?_)
          intro v hv
          rcases List.mem_cons.1 hv with rfl | hv
          · exact hr
          · exact hvs v hv
        · refine D.seq (expr hcall callee) fun f hf => D.seq (exprs hcall args) fun vs hvs => ?_
          exact D.ofCall (hcall f vs hf hvs)
  | .subscript .. | .slice .. | .starred .. | .list .. | .set .. | .dict .. | .lambda .. | .named .. | .listComp ..
  | .setComp .. | .dictComp .. | .generator .. | .await .. | .yield .. | .yieldFrom .. | .joined ..
  | .formatted .. => by
    simp only [Eval.expr]
    exact D.ofCall (D.failing ⟨nofun, nofun⟩)

theorem exprs (hcall : D.Calls call call') : ∀ es : List Expr,
    D.Rel .expression (fun vs => ∀ v ∈ vs, D.Good v) (exprs call es) (exprs call' es)
  | [] => by
    simp only [Eval.exprs]
    exact D.ret (by simp)
  | e :: rest => by
    simp only [Eval.exprs]
    refine D.seq (expr hcall e) fun v hv => D.seq (exprs hcall rest) fun vs hvs => D.ret ?_
    intro w hw
    rcases List.mem_cons.1 hw with rfl | hw
    · exact hv
    · exact hvs w hw

theorem firstDeciding (hcall : D.Calls call call') (decisive : Bool) :
    ∀ (last : Value), D.Good last → ∀ es : List Expr,
    D.Rel .expression D.Good (firstDeciding call decisive last es) (firstDeciding call' decisive last es)
  | last, hlast, [] => by
    simp only [Eval.firstDeciding]
    exact D.ret hlast
  | last, hlast, e :: rest => by
    simp only [Eval.firstDeciding]
    refine D.seq (expr hcall e) fun v hv => D.seq (D.ofCall (D.truth hv)) fun b _ => ?_
    split
    · exact D.ret hv
    · exact firstDeciding hcall decisive v hv rest

theorem chain (hcall : D.Calls call call') :
    ∀ (left : Value), D.Good left → ∀ (ops : List Operator) (es : List Expr),
    D.Rel .expression (fun _ => True) (chain call left ops es) (chain call' left ops es)
  | left, hl, op :: ops, e :: rest => by
    simp only [Eval.chain]
    refine D.seq (expr hcall e) fun r hr => D.seq (D.ofCall (D.compare hl hr)) fun b _ => ?_
    split
    · exact chain hcall r hr ops rest
    · exact D.ret trivial
  | left, hl, [], _ => by
    simp only [Eval.chain]
    exact D.ret trivial
  | left, hl, _ :: _, [] => by
    simp only [Eval.chain]
    exact D.ret trivial

theorem printedText (hcall : D.Calls call call') : ∀ es : List Expr,
    D.Rel .expression (fun _ => True) (printedText call es) (printedText call' es)
  | [] => by
    simp only [Eval.printedText]
    exact D.ret trivial
  | e :: rest => by
    simp only [Eval.printedText]
    exact D.seq (expr hcall e) fun v hv => D.ofCall (D.printed hv)

end

/-! ## Statements -/

theorem assignTo (hcall : D.Calls call call') {s : Surroundings} (target : Expr) {v : Value} (hv : D.Good v) :
    D.Rel (.block s) (fun _ => True) (assignTo call target v) (assignTo call' target v) := by
  unfold Eval.assignTo
  split
  · exact D.update hv
  · exact D.ofExpression (D.seq (D.expr hcall _) fun r hr => D.ofCall (D.setAttr hv hr))
  · exact D.ofExpression (D.ofCall (D.seq D.ofText fun _ _ => D.failing ⟨nofun, nofun⟩))

theorem assignAll (hcall : D.Calls call call') {s : Surroundings} {v : Value} (hv : D.Good v) :
    ∀ targets : List Expr,
      D.Rel (.block s) (fun _ => True) (assignAll call v targets) (assignAll call' v targets)
  | [] => D.ret trivial
  | target :: rest => D.seq (D.assignTo hcall target hv) fun _ _ => assignAll hcall hv rest

theorem augment (hcall : D.Calls call call') {s : Surroundings} (target : Expr) (op : Operator) (operand : Expr) :
    D.Rel (.block s) (fun _ => True) (augment call target op operand) (augment call' target op operand) := by
  unfold Eval.augment
  split
  · refine D.seq (D.ofExpression (D.lookup _)) fun old ho => ?_
    refine D.seq (D.ofExpression (D.expr hcall operand)) fun v hv => ?_
    exact D.seq (D.ofExpression (D.ofCall (D.binary ho hv))) fun w hw => D.update hw
  · refine D.ofExpression (D.seq (D.expr hcall _) fun r hr => D.seq (D.ofCall (D.readAttr hr)) fun old ho => ?_)
    refine D.seq (D.expr hcall operand) fun v hv => D.ofCall ?_
    exact D.seq (D.binary ho hv) fun _ hw => D.setAttr hw hr
  · exact D.ofExpression (D.ofCall (D.seq D.ofText fun _ _ => D.failing ⟨nofun, nofun⟩))

/-- The truth of a condition. -/
theorem test (hcall : D.Calls call call') {s : Surroundings} (e : Expr) :
    D.Rel (.block s) (fun _ => True) (do Eval.truth (← Eval.expr call e)) (do Eval.truth (← Eval.expr call' e)) :=
  D.ofExpression (D.seq (D.expr hcall e) fun _ hv => D.ofCall (D.truth hv))

mutual

theorem stmt (hcall : D.Calls call call') : ∀ (s : Surroundings) (st : Stmt), (D.checked → AcceptedStmt s st) →
    D.Rel (.block s) (fun _ => True) (stmt settings call st) (stmt settings' call' st)
  | s, .expr value, _ => by
    simp only [Eval.stmt]
    exact D.ofExpression (D.discards (D.expr hcall value))
  | s, .pass, _ => by
    simp only [Eval.stmt]
    exact D.ret trivial
  | s, .assert test message, _ => by
    simp only [Eval.stmt, ← bind_assoc]
    refine D.seq (D.test hcall test) fun b _ => ?_
    cases b with
    | true => exact D.ret trivial
    | false => exact D.ofExpression (D.ofCall (D.failing ⟨nofun, nofun⟩))
  | s, .assign targets value, _ => by
    simp only [Eval.stmt]
    exact D.seq (D.ofExpression (D.expr hcall value)) fun v hv => D.assignAll hcall hv targets
  | s, .augAssign target op value, _ => by
    simp only [Eval.stmt]
    exact D.augment hcall target op value
  | s, .ifStmt test body orelse, h => by
    simp only [Eval.stmt, ← bind_assoc]
    refine D.seq (D.test hcall test) fun b _ => ?_
    cases b with
    | true => exact block hcall s body fun hc => (h hc).branches.1
    | false => exact block hcall s orelse fun hc => (h hc).branches.2
  | s, .whileStmt test body orelse, h => by
    simp only [Eval.stmt]
    exact D.loop (D.test hcall test) (block hcall s.loopBody body fun hc => (h hc).loopBlocks.1)
      (block hcall s.loopBody orelse fun hc => (h hc).loopBlocks.2)
  | s, .breakStmt line, h => by
    simp only [Eval.stmt]
    exact D.breakOut fun hc => (h hc).inLoop_break
  | s, .continueStmt line, h => by
    simp only [Eval.stmt]
    exact D.continueOn fun hc => (h hc).inLoop_continue
  | s, .returnStmt line (some value), h => by
    simp only [Eval.stmt]
    refine D.seq (D.ofExpression (D.expr hcall value)) fun v hv => ?_
    exact D.returnWith (fun hc => (h hc).inFunction_return) hv
  | s, .returnStmt line none, h => by
    simp only [Eval.stmt]
    exact D.returnWith (fun hc => (h hc).inFunction_return) (D.literal (l := .none) rfl)
  | s, .delete targets, _ => by
    simp only [Eval.stmt]
    exact D.ofExpression (D.ofCall (D.seq D.ofText fun _ _ => D.failing ⟨nofun, nofun⟩))
  | s, .functionDef false name params body decorators returns, h => by
    simp only [Eval.stmt]
    split
    · exact D.ofExpression (D.ofCall (D.failing ⟨nofun, nofun⟩))
    · split
      · exact D.ofExpression (D.ofCall (D.failing ⟨nofun, nofun⟩))
      · exact D.update (D.function fun hc => (h hc).functionBody)
  | s, .classDef name bases keywords body decorators, h => by
    simp only [Eval.stmt]
    split
    · exact D.ofExpression (D.ofCall (D.failing ⟨nofun, nofun⟩))
    · exact D.defineClass (block hcall .outermost body fun hc => (h hc).classBody)
  | s, .annAssign .., _ | s, .forStmt .., _ | s, .functionDef true .., _ | s, .withStmt .., _ | s, .raise .., _
  | s, .tryStmt .., _ | s, .importNames .., _ | s, .importFrom .., _ | s, .globalNames .., _
  | s, .nonlocalNames .., _ | s, .matchStmt .., _ => by
    simp only [Eval.stmt]
    exact D.ofExpression (D.ofCall (D.failing ⟨nofun, nofun⟩))

theorem block (hcall : D.Calls call call') : ∀ (s : Surroundings) (body : List Stmt), (D.checked → Accepted s body) →
    D.Rel (.block s) (fun _ => True) (block settings call body) (block settings' call' body)
  | s, [], _ => by
    simp only [Eval.block]
    exact D.ret trivial
  | s, st :: rest, h => by
    simp only [Eval.block]
    refine D.seq (D.announce s st) fun _ _ => D.seq (stmt hcall s st ?_) fun _ _ => block hcall s rest ?_
    · exact fun hc => (accepted_cons.1 (h hc)).1
    · exact fun hc => (accepted_cons.1 (h hc)).2

end

end

/-! ## Calls -/

theorem uncallable {v : Value} (hv : D.Good v) {V : Value → Prop} :
    D.Rel .call V (do fail (.notCallable (← ofFailure v.text))) (do fail (.notCallable (← ofFailure v.text))) :=
  D.seq (D.text hv) fun _ _ => D.failing ⟨nofun, nofun⟩

theorem callValue {call call' : Caller} (hcall : D.Calls call call') :
    D.Calls (callValue settings call) (callValue settings' call')
  | .cls name attrs, args, hcallee, hargs => by
    simp only [Eval.callValue]
    refine D.seq (D.newObject hcallee) fun obj hobj => D.seq (D.getAttr hcallee) fun found hfound => ?_
    cases found with
    | none => exact D.ret hobj
    | some constructor =>
      refine D.seq (D.discards (hcall constructor _ (hfound _ rfl) ?_)) fun _ _ => D.ret hobj
      intro v hv
      rcases List.mem_cons.1 hv with rfl | hv
      · exact hobj
      · exact hargs v hv
  | .function name params body, args, hcallee, hargs => by
    simp only [Eval.callValue]
    exact D.runFunction hargs (D.block hcall .functionBody body (D.accepted hcallee))
  | .none, _, hcallee, _ | .bool _, _, hcallee, _ | .int _, _, hcallee, _ | .float _, _, hcallee, _
  | .imaginary .., _, hcallee, _ | .string _, _, hcallee, _ | .tuple _, _, hcallee, _ | .object .., _, hcallee, _
  | .foreign _, _, hcallee, _ => by
    simp only [Eval.callValue]
    exact D.uncallable hcallee

-- The induction is on the depth: whatever a body calls, it calls one level deeper.
theorem invoke : ∀ depth : Nat, D.Calls (invoke settings depth) (invoke settings' depth)
  | 0, _, _, _, _ => D.overflow
  | depth + 1, callee, args, hcallee, hargs => D.callValue (invoke depth) callee args hcallee hargs

end Discipline

end Treewalk.Eval
