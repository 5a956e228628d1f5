/-
Programs make no infinities and no not-a-numbers. Operations on floats refuse results that are not finite, and the
quotient of two integers, which is not looked at again, is finite by the way integers are rounded. So if only finite
floats are written in a program and found where it starts, then at every moment of its run all floats are finite that
evaluation holds or that can be reached from a name.
-/
import Treewalk.Proofs.Ownership
import Treewalk.Proofs.Passage
import Treewalk.Proofs.Rounding

namespace Treewalk

/-! ## Finite floats -/

/-- A literal that is finite, if it is a float. -/
def Literal.FiniteFloat : Literal → Prop
  | .float x => x.isFinite = true
  | _ => True

/-- A float that is finite, or a function in whose body all float literals are. -/
def Value.FiniteFloats : Value → Prop
  | .float x => x.isFinite = true
  | .function _ _ body => ∀ l ∈ Stmt.allLiterals body, l.FiniteFloat
  | _ => True

namespace Operator

/-! ## Results that are not refused -/

/-- What a rule yields, if anything: a float only if it is finite. -/
def FiniteIfAny (found : Option Value) : Prop := ∀ x, found = some (.float x) → x.isFinite = true

theorem FiniteIfAny.float {x : Double} (h : x.isFinite = true) : FiniteIfAny (some (.float x)) := by
  intro y hy
  cases hy
  exact h

theorem toDouble_eq (op : Operator) (n : Int) :
    op.toDouble n = if (Double.ofInt n).isFinite then .ok (.ofInt n) else op.fault .intTooLarge := by
  rw [toDouble, Double.ofInt?_eq]
  cases (Double.ofInt n).isFinite <;> rfl

theorem toDouble_finite (op : Operator) (n : Int) :
    Arithmetical (fun x => x = .ofInt n ∧ x.isFinite = true) (op.toDouble n) := by
  rw [toDouble_eq]
  split
  · rename_i hn
    exact .ok ⟨rfl, hn⟩
  · exact fault_arithmetical

/-- The quotient of two integers is not looked at again: it is finite wherever there is one. -/
theorem intQuotient_finite (op : Operator) (l r : Int) :
    Arithmetical (fun x => x.isFinite = true) (op.intQuotient l r) := by
  refine (op.toDouble_finite l).bind fun x hx => (op.toDouble_finite r).bind fun y hy => ?_
  obtain ⟨rfl, hx⟩ := hx
  obtain ⟨rfl, hy⟩ := hy
  cases hzero : (Double.ofInt r).isZero with
  | true => exact fault_arithmetical
  | false => exact .ok (Double.isFinite_div_ofInt hx hy hzero)

theorem onInts_finite [Host] (op : Operator) (l r : Int) : Arithmetical FiniteIfAny (op.onInts l r) := by
  have hint : ∀ n : Int, FiniteIfAny (some (.int n)) := fun _ _ h => by cases h
  have hnone : FiniteIfAny none := fun _ h => by cases h
  cases op with
  | div => exact (intQuotient_finite ..).bind fun _ hx => .ok (.float hx)
  | floorDiv =>
    exact (intQuotient_arithmetical ..).bind fun _ _ => (floorOf_arithmetical ..).bind fun n _ => .ok (hint n)
  | mod => exact .ite fault_arithmetical (.ok (hint _))
  | pow =>
    refine .ite (.error rfl) (.ite (.ok (hint _)) (.ite (.ok (hint _)) (.ite (.ok (hint _)) ?_)))
    exact .ite fault_arithmetical (.ok (hint _))
  | shiftLeft => exact .ite (.error rfl) (.ite (.ok (hint _)) (.ite fault_arithmetical (.ok (hint _))))
  | shiftRight => exact .ite (.error rfl) (.ok (hint _))
  | add | sub | mult | bitAnd | bitOr | bitXor => exact .ok (hint _)
  | matMult | not | plus | minus | invert | eq | notEq | less | lessEq | greater | greaterEq | same | notSame | member
  | notMember | and | or | other _ => exact .ok hnone

section

variable {op : Operator} {x y z : Double}

theorem onFloats_finite (op : Operator) (hx : x.isFinite = true) (hy : y.isFinite = true) :
    Arithmetical FiniteIfAny (op.onFloats x y) := by
  unfold onFloats
  refine (op.floatResult_arithmetical x y).bind fun found _ => ?_
  cases found with
  | none => exact .ok fun _ h => by cases h
  | some z =>
    simp only [hx, hy, Bool.and_true]
    cases hz : z.isFinite with
    | true => exact .ok (.float hz)
    | false => exact fault_arithmetical

theorem binaryRule_finite [Host] (op : Operator) {l r : Value} (hl : l.FiniteFloats) (hr : r.FiniteFloats) :
    Arithmetical FiniteIfAny (op.binaryRule l r) := by
  have hstring : ∀ t : Text, FiniteIfAny (some (.string t)) := fun _ _ h => by cases h
  have hnone : FiniteIfAny none := fun _ h => by cases h
  have hrepeated : ∀ s n, Arithmetical FiniteIfAny (repeated s n) := fun s n =>
    .ite fault_arithmetical (.ite fault_arithmetical (.ite fault_arithmetical (.ok (hstring _))))
  unfold binaryRule
  split
  · exact onInts_finite op _ _
  · exact (op.toDouble_finite _).bind fun x hx => onFloats_finite op hx.2 hr
  · exact (op.toDouble_finite _).bind fun y hy => onFloats_finite op hl hy.2
  · exact onFloats_finite op hl hr
  · split
    · exact .ok (hstring _)
    · exact .ok hnone
  · exact .ite (hrepeated _ _) (.ok hnone)
  · exact .ite (hrepeated _ _) (.ok hnone)
  · exact .ok hnone

end

theorem binaryRule_of_applyBinary [Host] {op : Operator} {l r v : Value} (h : op.applyBinary l r = .ok v) :
    op.binaryRule l r = .ok (some v) := by
  unfold applyBinary at h
  cases hl : l.kind with
  | error e =>
    rw [hl] at h
    cases h
  | ok leftKind =>
    cases hr : r.kind with
    | error e =>
      rw [hl, hr] at h
      cases h
    | ok rightKind =>
      rw [hl, hr] at h
      cases hrule : op.binaryRule l r with
      | error e =>
        rw [hrule] at h
        cases h
      | ok found =>
        rw [hrule] at h
        cases found with
        | none => cases h
        | some w =>
          cases h
          rfl

/-- Operators make finite floats of finite ones. -/
theorem applyBinary_finite [Host] {op : Operator} {l r v : Value} (hl : l.FiniteFloats) (hr : r.FiniteFloats)
    (h : op.applyBinary l r = .ok v) : v.isScalar = true ∧ v.FiniteFloats := by
  have hrule := binaryRule_of_applyBinary h
  have hscalar : v.isScalar = true := (op.binaryRule_arithmetical l r).of_ok hrule v rfl
  refine ⟨hscalar, ?_⟩
  cases v with
  | float x => exact (op.binaryRule_finite hl hr).of_ok hrule x rfl
  | none | bool _ | int _ | imaginary _ _ | string _ => trivial
  | tuple _ | cls _ _ | object _ _ | function _ _ _ | foreign _ => cases hscalar

theorem unaryRule_of_applyUnary {op : Operator} {v w : Value} (h : op.applyUnary v = .ok w) :
    op.unaryRule v = some w := by
  unfold applyUnary at h
  cases hv : v.kind with
  | error e =>
    rw [hv] at h
    cases h
  | ok kind =>
    rw [hv] at h
    cases hrule : op.unaryRule v with
    | none =>
      rw [hrule] at h
      cases h
    | some u =>
      rw [hrule] at h
      cases h
      rfl

theorem applyUnary_finite {op : Operator} {v w : Value} (hv : v.FiniteFloats) (h : op.applyUnary v = .ok w) :
    w.isScalar = true ∧ w.FiniteFloats := by
  have hrule := unaryRule_of_applyUnary h
  refine ⟨op.unaryRule_scalar v w hrule, ?_⟩
  unfold unaryRule at hrule
  split at hrule
  · cases hrule
    trivial
  · cases hrule
    trivial
  · cases hrule
    exact hv
  · cases hrule
    trivial
  · rename_i x
    cases hrule
    -- The sign of a float says nothing about its range.
    cases x with
    | finite => rfl
    | nan | infinite _ => cases hv
  · cases hrule
    trivial
  · cases hrule

/-! ## Results that are refused -/

/-- What an operator gives on two floats if nothing is refused. -/
def onDoubles? (op : Operator) (x y : Double) : Option Double :=
  match op with
  | .add => some (x.add y)
  | .sub => some (x.sub y)
  | .mult => some (x.mul y)
  | .div => some (x.div y)
  | .mod => some (x.floorMod y)
  | .floorDiv => some (((x.div y).floor?.map Double.ofInt).getD (x.div y))
  | .pow => some (x.pow y)
  | _ => none

/-- The float that an operation on numbers gives if nothing is refused. Integers are converted by rounding alone, so
that those out of range become infinite. -/
def float? (op : Operator) : Value → Value → Option Double
  | .int a, .int b => if op = .div then some ((Double.ofInt a).div (.ofInt b)) else none
  | .int a, .float y => op.onDoubles? (.ofInt a) y
  | .float x, .int b => op.onDoubles? x (.ofInt b)
  | .float x, .float y => op.onDoubles? x y
  | _, _ => none

/-- A computation that ends in an arithmetic fault of an operator. -/
def Faults {α : Type} (op : Operator) (x : Except EvalError α) : Prop := ∃ f, x = .error (.arithmetic op f)

theorem Faults.bind {α β : Type} {op : Operator} {x : Except EvalError α} (h : op.Faults x)
    (f : α → Except EvalError β) : op.Faults (x >>= f) := by
  obtain ⟨fault, rfl⟩ := h
  exact ⟨fault, rfl⟩

/-- Converting an integer succeeds in the finite range, and fails with a fault elsewhere. -/
theorem toDouble_cases (op : Operator) (n : Int) :
    (op.toDouble n = .ok (.ofInt n) ∧ (Double.ofInt n).isFinite = true) ∨ op.Faults (op.toDouble n) := by
  rw [toDouble_eq]
  cases hn : (Double.ofInt n).isFinite with
  | true => exact .inl ⟨rfl, rfl⟩
  | false => exact .inr ⟨_, rfl⟩

section

variable {op : Operator} {x y z : Double}

/-- A result that is not finite is refused. -/
theorem onFloats_outOfRange (hx : x.isFinite = true) (hy : y.isFinite = true) (hz : z.isFinite = false)
    (h : op.floatResult x y = .ok (some z)) : op.Faults (op.onFloats x y) := by
  refine ⟨.outOfRange, ?_⟩
  unfold onFloats
  rw [h]
  change (if (!z.isFinite && x.isFinite && y.isFinite) = true then op.fault .outOfRange else _) = _
  rw [hx, hy, hz]
  rfl

/-- A quotient out of the finite range has no floor, and a floor out of the range cannot be converted. -/
theorem floatFloorDiv_faults (hz : (((x.div y).floor?.map Double.ofInt).getD (x.div y)).isFinite = false) :
    Operator.Faults .floorDiv (floatFloorDiv x y) := by
  unfold floatFloorDiv
  cases hzero : y.isZero with
  | true => exact Faults.bind ⟨.divisionByZero, by rw [floatQuotient, hzero]; rfl⟩ _
  | false =>
    have hquotient : floatQuotient .floorDiv x y = .ok (x.div y) := by rw [floatQuotient, hzero]; rfl
    rw [hquotient]
    change Operator.Faults .floorDiv (floorOf .floorDiv (x.div y) >>= toDouble .floorDiv)
    cases hfloor : (x.div y).floor? with
    | none =>
      have hfault : Operator.Faults .floorDiv (floorOf .floorDiv (x.div y)) :=
        ⟨if (x.div y).isNaN then .nanToInteger else .infinityToInteger, by rw [floorOf, hfloor]; rfl⟩
      exact hfault.bind (toDouble .floorDiv)
    | some n =>
      have hfloorOf : floorOf .floorDiv (x.div y) = .ok n := by rw [floorOf, hfloor]
      rw [hfloorOf]
      rw [hfloor] at hz
      rcases toDouble_cases .floorDiv n with ⟨-, hn⟩ | hfault
      · rw [Option.map_some, Option.getD_some, hn] at hz
        cases hz
      · exact hfault

/-- Whatever an operator would make of two finite floats, it is refused if it is not finite: by the check of the result,
or before, as a division by zero, as a power out of range or as a quotient that has no floor. -/
theorem onFloats_faults (hx : x.isFinite = true) (hy : y.isFinite = true) (h : op.onDoubles? x y = some z)
    (hz : z.isFinite = false) : op.Faults (op.onFloats x y) := by
  have hfault : op.Faults (op.floatResult x y) → op.Faults (op.onFloats x y) := fun hf => hf.bind _
  cases op with
  | add | sub | mult =>
    cases h
    exact onFloats_outOfRange hx hy hz rfl
  | div =>
    cases h
    cases hzero : y.isZero with
    | true => exact hfault ⟨.divisionByZero, by rw [floatResult, floatQuotient, hzero]; rfl⟩
    | false => exact onFloats_outOfRange hx hy hz (by rw [floatResult, floatQuotient, hzero]; rfl)
  | mod =>
    cases h
    cases hzero : y.isZero with
    | true => exact hfault ⟨.floatModulo, by rw [floatResult, hzero]; rfl⟩
    | false => exact onFloats_outOfRange hx hy hz (by rw [floatResult, hzero]; rfl)
  | floorDiv =>
    cases h
    obtain ⟨f, hf⟩ := floatFloorDiv_faults hz
    exact hfault ⟨f, by rw [floatResult, hf]; rfl⟩
  | pow =>
    cases h
    refine hfault ⟨if (x.pow y).isNaN || x.isZero then .domain else .range, ?_⟩
    rw [floatResult, floatPower, hx, hy, hz]
    rfl
  | matMult | bitAnd | bitOr | bitXor | shiftLeft | shiftRight | not | plus | minus | invert | eq | notEq | less
  | lessEq | greater | greaterEq | same | notSame | member | notMember | and | or | other _ => cases h

end

/-- A quotient of integers that would not be finite is refused: one of them cannot be converted, or the divisor is
zero. -/
theorem intQuotient_faults {l r : Int} (h : ((Double.ofInt l).div (.ofInt r)).isFinite = false) :
    Operator.Faults .div (intQuotient .div l r) := by
  unfold intQuotient
  rcases toDouble_cases .div l with ⟨hl, hfinite⟩ | hfault
  · rw [hl]
    rcases toDouble_cases .div r with ⟨hr, hfinite'⟩ | hfault
    · rw [hr]
      change Operator.Faults .div (if (Double.ofInt r).isZero = true then Operator.div.fault .divisionByZero else _)
      cases hzero : (Double.ofInt r).isZero with
      | true => exact ⟨.divisionByZero, rfl⟩
      | false =>
        rw [Double.isFinite_div_ofInt hfinite hfinite' hzero] at h
        cases h
    · exact hfault.bind _
  · exact hfault.bind _

theorem binaryRule_faults [Host] {op : Operator} {l r : Value} {z : Double} (hl : l.FiniteFloats) (hr : r.FiniteFloats)
    (h : op.float? l r = some z) (hz : z.isFinite = false) : op.Faults (op.binaryRule l r) := by
  unfold float? at h
  split at h
  · split at h
    · rename_i hdiv
      subst hdiv
      cases h
      exact (intQuotient_faults hz).bind _
    · cases h
  · rename_i a y
    change op.Faults (op.toDouble a >>= fun x => op.onFloats x y)
    rcases op.toDouble_cases a with ⟨ha, hfinite⟩ | hfault
    · rw [ha]
      exact onFloats_faults hfinite hr h hz
    · exact hfault.bind _
  · rename_i x b
    change op.Faults (op.toDouble b >>= fun y => op.onFloats x y)
    rcases op.toDouble_cases b with ⟨hb, hfinite⟩ | hfault
    · rw [hb]
      exact onFloats_faults hl hfinite h hz
    · exact hfault.bind _
  · exact onFloats_faults hl hr h hz
  · cases h

/-- An operation on integers and finite floats that would give a float which is not finite ends in a fault. -/
theorem applyBinary_faults [Host] {op : Operator} {l r : Value} {z : Double} (hl : l.FiniteFloats) (hr : r.FiniteFloats)
    (h : op.float? l r = some z) (hz : z.isFinite = false) : op.Faults (op.applyBinary l r) := by
  have hkinds : (∃ k, l.kind = .ok k) ∧ ∃ k, r.kind = .ok k := by
    unfold float? at h
    split at h
    · exact ⟨⟨_, rfl⟩, _, rfl⟩
    · exact ⟨⟨_, rfl⟩, _, rfl⟩
    · exact ⟨⟨_, rfl⟩, _, rfl⟩
    · exact ⟨⟨_, rfl⟩, _, rfl⟩
    · cases h
  obtain ⟨⟨leftKind, hleft⟩, rightKind, hright⟩ := hkinds
  unfold applyBinary
  rw [hleft, hright]
  exact (binaryRule_faults hl hr h hz).bind _

end Operator

/-! ## Finite floats in a run -/

open Eval

theorem Literal.FiniteFloat.ofLiteral {l : Literal} {v : Value} (hl : l.FiniteFloat)
    (hv : Value.ofLiteral? l = some v) : v.FiniteFloats := by
  cases l with
  | float x =>
    cases hv
    exact hl
  | none | bool _ | int _ | imaginary _ _ | string _ =>
    cases hv
    trivial
  | bytes _ | ellipsis | tuple _ | other _ => cases hv

/-- Operators and finite literals make finite floats. -/
theorem scalars_finite [Host] (live : Address → Prop) :
    Scalars Literal.FiniteFloat (Value.Within Value.FiniteFloats live) := by
  have hscalar : ∀ {v : Value}, v.isScalar = true → v.FiniteFloats → v.Within Value.FiniteFloats live := by
    intro v hv hfinite
    cases v with
    | none | bool _ | int _ | float _ | imaginary _ _ | string _ =>
      simp only [Value.Within]
      exact hfinite
    | tuple _ | cls _ _ | object _ _ | function _ _ _ | foreign _ => cases hv
  refine ⟨fun hl hv => ?_, hscalar rfl trivial, fun b => hscalar rfl trivial, fun hv hw => ?_, fun hv hw hu => ?_⟩
  · exact hscalar (Value.isScalar_ofLiteral hv) (hl.ofLiteral hv)
  · obtain ⟨hw', hfinite⟩ := Operator.applyUnary_finite hv.here hw
    exact hscalar hw' hfinite
  · obtain ⟨hu', hfinite⟩ := Operator.applyBinary_finite hv.here hw.here hu
    exact hscalar hu' hfinite

/-- Finite floats are kept finite, at live addresses. -/
def finiteFloats [Host] (live : Address → Prop) : Custody :=
  .within Value.FiniteFloats live False Literal.FiniteFloat (scalars_finite live) trivial trivial trivial
    ⟨fun h => ⟨False.elim, h⟩, fun h => h.2⟩

theorem finiteFloats_start [Host] {globals : Bindings Value} (s : State)
    (h : ∀ v, Reachable s.heap (World.Bound ⟨globals, s.heap⟩) v → v.FiniteFloats) :
    (finiteFloats (Live s.heap (World.Bound ⟨globals, s.heap⟩))).Intact () .top { s with env := .ofGlobals globals } :=
  .start (fun name _ hv => Standard.good_of_reachable h (.root ⟨name, hv⟩)) (Standard.heapOk_of_reachable h)

/-- Whatever can be reached from what a moment refers to has finite floats. -/
theorem finiteFloats_reachable [Host] {live : Address → Prop} {m : Moment}
    (h : (finiteFloats live).Intact () m.pending m.state) {v : Value} (hv : Reachable m.state.heap m.Refers v) :
    v.FiniteFloats := by
  have hgood : v.Within Value.FiniteFloats live := Standard.reachable_good h.heap (fun _ hw => h.refers hw) hv
  exact hgood.here

/-- What is held during a step can be found in the moment behind it. -/
theorem Watched.refers_behind {α : Type} {values : α → List Value} {c : Pending} {v : Value} (hv : v ∈ c.held)
    (r : EStateM.Result Interrupt State α) : (Watched.behind values c r).Refers v := by
  cases r with
  | ok a s => exact .inl (List.mem_append_right _ hv)
  | error i s => exact .inl (List.mem_append_right _ hv)

/-- Making the text of a value changes nothing, also if there is none. -/
theorem Watched.state_behind_ofFailure {α : Type} (values : α → List Value) (c : Pending) (x : Except Failure α)
    (s : State) : (Watched.behind values c (ofFailure x s)).state = s := by
  cases x with
  | ok a => rfl
  | error f =>
    cases f with
    | error e => rfl
    | unwritable cause => rfl

section

variable {settings : Settings} {body : List Stmt} {globals : Bindings Value} {s start : State} {v w : Value}
  (hbody : ∀ l ∈ Stmt.allLiterals body, l.FiniteFloat)
  (hglobals : ∀ v, Reachable s.heap (World.Bound ⟨globals, s.heap⟩) v → v.FiniteFloats)
  (hstart : start = { s with env := .ofGlobals globals })

include hbody hglobals hstart

theorem finiteFloats_history [Host] {m : Moment} (hm : m ∈ history settings body start)
    (hv : Reachable m.state.heap m.Refers v) : v.FiniteFloats := by
  subst hstart
  let C := finiteFloats (Live s.heap (World.Bound ⟨globals, s.heap⟩))
  let L : Law settings := C.law (fun _ _ => True) fun _ _ _ => trivial
  obtain ⟨hsees, -⟩ := L.history_upholds body (r := ()) (finiteFloats_start s hglobals) False.elim hbody
  obtain ⟨⟨_, hintact⟩, -⟩ := hsees m hm
  exact finiteFloats_reachable hintact hv

theorem finiteFloats_final [Host]
    (hv : Reachable (runModule settings body start).2.heap (runModule settings body start).2.world.Bound v) :
    v.FiniteFloats := by
  obtain ⟨m, hm, hfinal⟩ := Option.map_eq_some_iff.1 (history_getLast settings body start)
  rw [← hfinal] at hv
  exact finiteFloats_history hbody hglobals hstart (List.mem_of_getLast? hm) (hv.mono fun _ hw => .inr (.inl hw))

theorem finiteFloats_printed [Host] {call : WatchedCaller} {callee e : Expr} {rest : List Expr} {keywords : List Keyword}
    {c : Pending} {t t' : State} (hprint : callee.isPrint = true)
    (hcomes : Watched.ComesTo (.expr call (.call callee (e :: rest) keywords)) c t (Watched.moduleBody settings body)
      .top start) (hv : Eval.expr call.run e t = .ok v t') (hw : Reachable t'.heap (· = v) w) : w.FiniteFloats := by
  have hmoment := ((Watched.comesTo_print hprint rest keywords hv).trans hcomes).history (List.mem_singleton.2 rfl)
  refine finiteFloats_history hbody hglobals hstart hmoment ?_
  rw [Watched.state_behind_ofFailure]
  refine hw.mono ?_
  rintro _ rfl
  exact Watched.refers_behind (List.mem_append_left _ (List.mem_singleton.2 rfl)) _

/-- A run that comes to an operation whose result would not be finite ends in the failure of the operator. -/
theorem ended_of_operates [Host] {op : Operator} {z : Double}
    (hoperates : Watched.Operates (Watched.moduleBody settings body) .top start op v w) (hz : op.float? v w = some z)
    (hinfinite : z.isFinite = false) : ∃ f, (runModule settings body start).1 = .failed (.arithmetic op f) := by
  obtain ⟨c, t, hcomes, hv, hw⟩ := hoperates.comesTo
  have hmoment := hcomes.history (List.mem_singleton.2 rfl)
  have hheld : ∀ u ∈ c.held, u.FiniteFloats := fun u hu =>
    finiteFloats_history hbody hglobals hstart hmoment (.root (Watched.refers_behind hu _))
  obtain ⟨f, hf⟩ := Operator.applyBinary_faults (hheld v hv) (hheld w hw) hz hinfinite
  have hfails : Eval.ofExcept (op.applyBinary v w) t = .error (.error (.arithmetic op f)) t := by
    rw [hf]
    rfl
  exact ⟨f, hcomes.runModule hfails⟩

end

/-- Programs make no infinities and no not-a-numbers. If the float literals of a module are finite, and so is every
float that can be reached from the global names, in tuples, attribute maps and the literals of functions, then every
float is finite that can be reached at any moment of the run from what evaluation holds or a frame binds, that can be
reached from the global names which the run leaves, or that is printed. And if the run comes to an operation on integers
and floats which would give an infinity or a not-a-number, then an arithmetic failure of the operator is how it ends. -/
theorem history_finite [Host] (settings : Settings) (body : List Stmt) (globals : Bindings Value) (s : State)
    (hbody : ∀ l ∈ Stmt.allLiterals body, l.FiniteFloat)
    (hglobals : ∀ v, Reachable s.heap (World.Bound ⟨globals, s.heap⟩) v → v.FiniteFloats) :
    let start : State := { s with env := .ofGlobals globals }
    let whole := Watched.moduleBody settings body
    let ended := runModule settings body start
    (∀ m ∈ history settings body start, ∀ v, Reachable m.state.heap m.Refers v → v.FiniteFloats) ∧
      (∀ v, Reachable ended.2.heap ended.2.world.Bound v → v.FiniteFloats) ∧
      (∀ (call : WatchedCaller) (callee e : Expr) rest keywords c t v t', callee.isPrint = true →
        Watched.ComesTo (.expr call (.call callee (e :: rest) keywords)) c t whole .top start →
        Eval.expr call.run e t = .ok v t' → ∀ w, Reachable t'.heap (· = v) w → w.FiniteFloats) ∧
      ∀ (op : Operator) l r z, Watched.Operates whole .top start op l r → op.float? l r = some z → z.isFinite = false →
        ∃ f, ended.1 = .failed (.arithmetic op f) ∧ (EvalError.arithmetic op f).kind = .arithmeticFailure := by
  intro start whole ended
  refine ⟨fun m hm v hv => ?_, fun v hv => ?_, ?_, fun op l r z hoperates hz hinfinite => ?_⟩
  · exact finiteFloats_history hbody hglobals rfl hm hv
  · exact finiteFloats_final hbody hglobals rfl hv
  · intro call callee e rest keywords c t v t' hprint hcomes hv w hw
    exact finiteFloats_printed hbody hglobals rfl hprint hcomes hv hw
  · obtain ⟨f, hended⟩ := ended_of_operates hbody hglobals rfl hoperates hz hinfinite
    exact ⟨f, hended, rfl⟩

/-- The greatest power of two that is in range. -/
def greatestPower : Double := .finite false Double.leadingBit Double.greatestExponent (by decide)

/-- Defines a class in whose body the greatest power of two is doubled. -/
def doubling : Value :=
  let product : Expr := .binary (.constant (.float greatestPower) none) .mult (.constant (.float .two) none)
  .function "double" [] [.classDef "C" [] [] [.assign [.name "x" .store] product] []]

def doublingWorld : World := ⟨.ofList [("double", doubling), ("x", .float greatestPower)], .empty⟩

/-- Calls the function for ever. -/
def doublingModule : List Stmt :=
  [.whileStmt (.constant (.float .two) none) [.expr (.call (.name "double" .load) [] [])] []]

theorem doublingWorld_finite : ∀ v, Reachable doublingWorld.heap doublingWorld.Bound v → v.FiniteFloats := by
  have hheap : doublingWorld.heap.Within Value.FiniteFloats fun _ => True :=
    ⟨fun a _ => by rw [Heap.map_of_le (Nat.zero_le a)]; exact .empty, fun _ _ => trivial⟩
  have hdoubling : doubling.FiniteFloats := by
    intro l hl
    rcases List.mem_cons.1 hl with rfl | hl
    · rfl
    · rw [List.mem_singleton.1 hl]
      rfl
  intro v hv
  refine (Standard.reachable_good hheap ?_ hv).here
  rintro w ⟨name, hw⟩
  refine Bindings.All.ofList (P := Value.Within Value.FiniteFloats fun _ => True) (fun entry he => ?_) name w hw
  simp only [List.mem_cons, List.not_mem_nil, or_false] at he
  rcases he with rfl | rfl
  · simp only [doubling, Value.Within]
    exact hdoubling
  · simp only [Value.Within]
    rfl

section

attribute [local instance] Host.standard

/-- The first round of the loop calls the function, which multiplies in the body of the class. -/
theorem doublingModule_operates :
    Watched.Operates (Watched.moduleBody ⟨false, 2, 1⟩ doublingModule) .top (.start doublingWorld) .mult
      (.float greatestPower) (.float .two) := by
  let inLoop : State := { State.start doublingWorld with nextExit := 1 }
  let inRound := roundState ⟨"break", 0⟩ inLoop
  let inCall := callState "double" [] [] inRound
  let inClass : State := { inCall with env := inCall.env.pushFrame }
  let call := Watched.invoke ⟨false, 2, 1⟩ 1
  let operation : Expr := .binary (.constant (.float greatestPower) none) .mult (.constant (.float .two) none)
  let pending := (Pending.top.hold [doubling]).enter (.ofCall "double" [] [] inRound)
  have hcomes : Watched.ComesTo (.expr call operation) pending inClass
      (Watched.moduleBody ⟨false, 2, 1⟩ doublingModule) .top (.start doublingWorld) := by
    refine Watched.comesTo_block rfl ?_ [] rfl
    rw [Watched.stmt]
    refine Watched.comesTo_loop (Watched.comesTo_rounds (.inl (Watched.comesTo_round ?_)))
    refine .next (a := true) rfl (.first (Watched.comesTo_block rfl ?_ [] rfl))
    rw [Watched.stmt, Watched.expr.eq_def _ (.call _ _ _)]
    refine .first (.next (a := doubling) rfl (.next rfl (.holding (Watched.comesTo_runFunction ?_))))
    refine Watched.comesTo_block rfl ?_ [] rfl
    rw [Watched.stmt]
    refine Watched.comesTo_defineClass (Watched.comesTo_block rfl ?_ [] rfl)
    rw [Watched.stmt]
    exact .first .here
  exact .binary hcomes rfl rfl

/-- The floats of the sample are finite, and stay so until its run ends in the failure of the multiplication. -/
theorem history_finite_sample :
    (∀ l ∈ Stmt.allLiterals doublingModule, l.FiniteFloat) ∧
      (∀ v, Reachable doublingWorld.heap doublingWorld.Bound v → v.FiniteFloats) ∧
      (∀ m ∈ history ⟨false, 2, 1⟩ doublingModule (.start doublingWorld), ∀ v, Reachable m.state.heap m.Refers v →
        v.FiniteFloats) ∧
      ∃ f, (runModule ⟨false, 2, 1⟩ doublingModule (.start doublingWorld)).1 = .failed (.arithmetic .mult f) := by
  have hbody : ∀ l ∈ Stmt.allLiterals doublingModule, l.FiniteFloat := by
    intro l hl
    rw [List.mem_singleton.1 hl]
    rfl
  obtain ⟨hfinite, -, -, hfails⟩ := history_finite ⟨false, 2, 1⟩ doublingModule doublingWorld.globals
    (.start doublingWorld) hbody doublingWorld_finite
  obtain ⟨f, hended, -⟩ := hfails .mult _ _ _ doublingModule_operates rfl (by decide +kernel)
  exact ⟨hbody, doublingWorld_finite, hfinite, f, hended⟩

end

end Treewalk
