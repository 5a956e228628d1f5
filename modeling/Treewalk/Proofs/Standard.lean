/-
Standards for values. A standard says what is required of a value and of everything inside it, and which errors the
operations on such values may then end with. Operators, comparisons, texts and attributes keep to a standard.
-/
import Treewalk.Operator.Comparison
import Treewalk.Proofs.Contract

namespace Treewalk

namespace Value

mutual

/-- A value whose every part fits, with attribute maps at live addresses only. The maps themselves are not looked into.
-/
def Within (fits : Value → Prop) (live : Address → Prop) : Value → Prop
  | .tuple items => fits (.tuple items) ∧ AllWithin fits live items
  | .cls name attrs => fits (.cls name attrs) ∧ live attrs
  | .object type attrs => fits (.object type attrs) ∧ live attrs ∧ Within fits live type
  | v => fits v

def AllWithin (fits : Value → Prop) (live : Address → Prop) : List Value → Prop
  | [] => True
  | v :: rest => Within fits live v ∧ AllWithin fits live rest

end

section

variable {fits : Value → Prop} {live : Address → Prop}

theorem allWithin_iff : ∀ {items : List Value}, AllWithin fits live items ↔ ∀ v ∈ items, v.Within fits live
  | [] => by simp [AllWithin]
  | v :: rest => by simp [AllWithin, allWithin_iff]

@[simp] theorem within_tuple {items : List Value} :
    (tuple items).Within fits live ↔ fits (.tuple items) ∧ AllWithin fits live items := by
  rw [Within]

@[simp] theorem within_cls {name : String} {attrs : Address} :
    (cls name attrs).Within fits live ↔ fits (.cls name attrs) ∧ live attrs := by
  rw [Within]

@[simp] theorem within_object {type : Value} {attrs : Address} :
    (object type attrs).Within fits live ↔ fits (.object type attrs) ∧ live attrs ∧ type.Within fits live := by
  rw [Within]

theorem Within.here {v : Value} (h : v.Within fits live) : fits v := by
  cases v with
  | tuple _ => exact (within_tuple.1 h).1
  | cls _ _ => exact (within_cls.1 h).1
  | object _ _ => exact (within_object.1 h).1
  | none | bool _ | int _ | float _ | imaginary _ _ | string _ | function _ _ _ | foreign _ =>
    simp only [Within] at h; exact h

mutual

theorem within_trivial (hf : ∀ v, fits v) (hl : ∀ a, live a) : ∀ v : Value, v.Within fits live
  | .tuple items => within_tuple.2 ⟨hf _, allWithin_trivial hf hl items⟩
  | .cls .. => within_cls.2 ⟨hf _, hl _⟩
  | .object type _ => within_object.2 ⟨hf _, hl _, within_trivial hf hl type⟩
  | .none | .bool _ | .int _ | .float _ | .imaginary .. | .string _ | .function .. | .foreign _ => by
    simp only [Within]; exact hf _

theorem allWithin_trivial (hf : ∀ v, fits v) (hl : ∀ a, live a) : ∀ items : List Value, AllWithin fits live items
  | [] => by simp only [AllWithin]
  | v :: rest => by
    simp only [AllWithin]
    exact ⟨within_trivial hf hl v, allWithin_trivial hf hl rest⟩

end

mutual

theorem Within.imp {fits' : Value → Prop} (hf : ∀ v, fits v → fits' v) :
    ∀ {v : Value}, v.Within fits live → v.Within fits' live
  | .tuple _, h => within_tuple.2 ⟨hf _ (within_tuple.1 h).1, AllWithin.imp hf (within_tuple.1 h).2⟩
  | .cls .., h => within_cls.2 ⟨hf _ (within_cls.1 h).1, (within_cls.1 h).2⟩
  | .object .., h =>
    within_object.2 ⟨hf _ (within_object.1 h).1, (within_object.1 h).2.1, Within.imp hf (within_object.1 h).2.2⟩
  | .none, h | .bool _, h | .int _, h | .float _, h | .imaginary .., h | .string _, h | .function .., h
  | .foreign _, h => by
    simp only [Within] at h ⊢
    exact hf _ h

theorem AllWithin.imp {fits' : Value → Prop} (hf : ∀ v, fits v → fits' v) :
    ∀ {items : List Value}, AllWithin fits live items → AllWithin fits' live items
  | [], _ => by simp only [AllWithin]
  | _ :: _, h => by
    simp only [AllWithin] at h ⊢
    exact ⟨Within.imp hf h.1, AllWithin.imp hf h.2⟩

end

end

/-- The values that literals denote and operators yield. -/
def isScalar : Value → Bool
  | .none | .bool _ | .int _ | .float _ | .imaginary .. | .string _ => true
  | _ => false

theorem isScalar_ofLiteral {l : Literal} {v : Value} (h : ofLiteral? l = some v) : v.isScalar = true := by
  cases l <;> cases h <;> rfl

end Value

/-- What is required of values, and the errors that operations on such values may end with. Scalars, tuples, classes and
objects of classes always meet the requirement, and ordinary errors are always admitted. -/
structure Standard where
  fits : Value → Prop
  admits : EvalError → Prop
  scalar : ∀ {v : Value}, v.isScalar = true → fits v
  tuple : ∀ {items : List Value}, fits (.tuple items)
  cls : ∀ {name : String} {attrs : Address}, fits (.cls name attrs)
  object : ∀ {name : String} {attrs own : Address}, fits (.object (.cls name attrs) own)
  ordinary : ∀ {e : EvalError}, e.Ordinary → admits e
  foreign : ∀ {type : String}, fits (.foreign type) → admits (.foreignValue type)
  unclassed : ∀ {type : Value} {own : Address}, fits (.object type own) → (∀ name attrs, type ≠ .cls name attrs) →
    admits .objectWithoutClass
  unescaped : ∀ {exit : Exit}, ¬ admits (.escaped exit)

namespace Standard

/-- Any values are fine, and operations on them may end with the errors of values. -/
def any : Standard where
  fits _ := True
  admits e := ∀ exit, e ≠ .escaped exit
  scalar _ := trivial
  tuple := trivial
  cls := trivial
  object := trivial
  ordinary h exit he := by subst he; exact h.1 rfl
  foreign _ _ := nofun
  unclassed _ _ _ := nofun
  unescaped h := h _ rfl

/-- The failures of renderings and comparisons that a standard admits; that a text does not exist is always one. -/
def AdmitsFailure (S : Standard) : Failure → Prop
  | .error e => S.admits e
  | .unwritable _ => True

variable (S : Standard) {live : Address → Prop}

/-- The values of a standard, with attribute maps at live addresses only. -/
abbrev Good (live : Address → Prop) (v : Value) : Prop := v.Within S.fits live

variable {S}

theorem good_any (v : Value) : any.Good (fun _ => True) v :=
  Value.within_trivial (fun _ => trivial) (fun _ => trivial) v

theorem good_scalar {v : Value} (h : v.isScalar = true) : S.Good live v := by
  cases v with
  | none | bool _ | int _ | float _ | imaginary _ _ | string _ => simp only [Value.Within]; exact S.scalar h
  | tuple _ | cls _ _ | object _ _ | function _ _ _ | foreign _ => cases h

end Standard

/-! ## Arithmetic -/

namespace Operator

/-- Arithmetic fails as arithmetic does, if at all. -/
abbrev Arithmetical {α : Type} (V : α → Prop) (x : Except EvalError α) : Prop :=
  Yields (fun e => e.kind = .arithmeticFailure) V x

/-- What a rule yields, if anything: a scalar. -/
def ScalarIfAny (found : Option Value) : Prop := ∀ v, found = some v → v.isScalar = true

theorem fault_arithmetical {α : Type} {V : α → Prop} {op : Operator} {f : ArithmeticFault} :
    Arithmetical V (op.fault f) :=
  .error rfl

theorem ScalarIfAny.some {v : Value} (h : v.isScalar = true) : ScalarIfAny (some v) := by
  intro w hw
  cases hw
  exact h

theorem ScalarIfAny.none : ScalarIfAny none := nofun

theorem toDouble_arithmetical (op : Operator) (n : Int) : Arithmetical (fun _ => True) (op.toDouble n) := by
  unfold toDouble
  split
  · exact .ok trivial
  · exact fault_arithmetical

theorem intQuotient_arithmetical (op : Operator) (l r : Int) : Arithmetical (fun _ => True) (op.intQuotient l r) :=
  (op.toDouble_arithmetical l).bind fun _ _ => (op.toDouble_arithmetical r).bind fun _ _ =>
    .ite fault_arithmetical (.ok trivial)

theorem floorOf_arithmetical (op : Operator) (x : Double) : Arithmetical (fun _ => True) (op.floorOf x) := by
  unfold floorOf
  split
  · exact .ok trivial
  · exact fault_arithmetical

theorem intPower_arithmetical [Host] (base : Int) (exponent : Nat) : Arithmetical ScalarIfAny (intPower base exponent) :=
  .ite (.ok (.some rfl)) (.ite (.ok (.some rfl)) (.ite (.ok (.some rfl)) (.ite fault_arithmetical (.ok (.some rfl)))))

theorem intShiftLeft_arithmetical [Host] (n : Int) (count : Nat) : Arithmetical ScalarIfAny (intShiftLeft n count) :=
  .ite (.ok (.some rfl)) (.ite fault_arithmetical (.ok (.some rfl)))

theorem onInts_arithmetical [Host] (op : Operator) (l r : Int) : Arithmetical ScalarIfAny (op.onInts l r) := by
  cases op with
  | div => exact (intQuotient_arithmetical ..).bind fun _ _ => .ok (.some rfl)
  | floorDiv =>
    exact (intQuotient_arithmetical ..).bind fun _ _ => (floorOf_arithmetical ..).bind fun _ _ => .ok (.some rfl)
  | mod => exact .ite fault_arithmetical (.ok (.some rfl))
  | pow => exact .ite (.error rfl) (intPower_arithmetical l r.toNat)
  | shiftLeft => exact .ite (.error rfl) (intShiftLeft_arithmetical l r.toNat)
  | shiftRight => exact .ite (.error rfl) (.ok (.some rfl))
  | add | sub | mult | bitAnd | bitOr | bitXor => exact .ok (.some rfl)
  | matMult | not | plus | minus | invert | eq | notEq | less | lessEq | greater | greaterEq | same | notSame | member
  | notMember | and | or | other _ => exact .ok .none

theorem floatQuotient_arithmetical (op : Operator) (l r : Double) :
    Arithmetical (fun _ => True) (op.floatQuotient l r) :=
  .ite fault_arithmetical (.ok trivial)

theorem floatFloorDiv_arithmetical (l r : Double) : Arithmetical (fun _ => True) (floatFloorDiv l r) :=
  (floatQuotient_arithmetical ..).bind fun _ _ => (floorOf_arithmetical ..).bind fun _ _ => toDouble_arithmetical ..

theorem floatPower_arithmetical (l r : Double) : Arithmetical (fun _ => True) (floatPower l r) :=
  .ite fault_arithmetical (.ok trivial)

theorem floatResult_arithmetical (op : Operator) (l r : Double) :
    Arithmetical (fun _ => True) (op.floatResult l r) := by
  cases op with
  | div => exact (floatQuotient_arithmetical ..).map fun _ _ => trivial
  | mod => exact .ite fault_arithmetical (.ok trivial)
  | floorDiv => exact (floatFloorDiv_arithmetical l r).map fun _ _ => trivial
  | pow => exact (floatPower_arithmetical l r).map fun _ _ => trivial
  | add | sub | mult | matMult | bitAnd | bitOr | bitXor | shiftLeft | shiftRight | not | plus | minus | invert | eq
  | notEq | less | lessEq | greater | greaterEq | same | notSame | member | notMember | and | or | other _ =>
    exact .ok trivial

theorem onFloats_arithmetical (op : Operator) (l r : Double) : Arithmetical ScalarIfAny (op.onFloats l r) := by
  refine (op.floatResult_arithmetical l r).bind fun found _ => ?_
  cases found with
  | none => exact .ok .none
  | some x => exact .ite fault_arithmetical (.ok (.some rfl))

theorem repeated_arithmetical [Host] (t : Text) (count : Int) : Arithmetical ScalarIfAny (repeated t count) :=
  .ite fault_arithmetical (.ite fault_arithmetical (.ite fault_arithmetical (.ok (.some rfl))))

theorem binaryRule_arithmetical [Host] (op : Operator) (l r : Value) : Arithmetical ScalarIfAny (op.binaryRule l r) := by
  unfold binaryRule
  split
  · exact onInts_arithmetical op _ _
  · exact (op.toDouble_arithmetical _).bind fun _ _ => onFloats_arithmetical op _ _
  · exact (op.toDouble_arithmetical _).bind fun _ _ => onFloats_arithmetical op _ _
  · exact onFloats_arithmetical op _ _
  · split
    · exact .ok (.some rfl)
    · exact .ok .none
  · exact .ite (repeated_arithmetical _ _) (.ok .none)
  · exact .ite (repeated_arithmetical _ _) (.ok .none)
  · exact .ok .none

theorem numericOrder_arithmetical (op : Operator) (l r : Value) :
    Arithmetical (fun _ => True) (op.numericOrder l r) := by
  unfold numericOrder
  split
  · exact .ok trivial
  · exact (op.toDouble_arithmetical _).bind fun _ _ => .ok trivial
  · exact (op.toDouble_arithmetical _).bind fun _ _ => .ok trivial
  · exact .ok trivial
  · exact .ok trivial

theorem unaryRule_scalar (op : Operator) (v : Value) : ScalarIfAny (op.unaryRule v) := by
  unfold unaryRule
  split <;> first | exact .some rfl | exact .none

end Operator

/-! ## Operations on the values of a standard -/

namespace Standard

variable {S : Standard} {live : Address → Prop}

theorem arithmetic {α : Type} {V : α → Prop} {x : Except EvalError α} (h : Operator.Arithmetical V x) :
    Yields S.admits V x :=
  h.mono (fun e he => S.ordinary ⟨by rw [he]; nofun, by rw [he]; nofun⟩) fun _ hv => hv

theorem kind {v : Value} (hv : S.fits v) : Yields S.admits (fun _ => True) v.kind := by
  cases v with
  | foreign type => exact .error (S.foreign hv)
  | none | bool _ | int _ | float _ | imaginary _ _ | string _ | tuple _ | function _ _ _ | cls _ _ | object _ _ =>
    exact .ok trivial

theorem truth {v : Value} (hv : S.fits v) : Yields S.admits (fun _ => True) v.truth := by
  cases v with
  | foreign type => exact .error (S.foreign hv)
  | none | bool _ | int _ | float _ | imaginary _ _ | string _ | tuple _ | function _ _ _ | cls _ _ | object _ _ =>
    exact .ok trivial

theorem unary {op : Operator} {v : Value} (hv : S.fits v) :
    Yields S.admits (fun w => w.isScalar = true) (op.applyUnary v) := by
  refine (S.kind hv).bind fun kind _ => ?_
  have hs := op.unaryRule_scalar v
  cases hr : op.unaryRule v with
  | none => exact .error (S.ordinary ⟨nofun, nofun⟩)
  | some w => exact .ok (hs w hr)

theorem binary [Host] {op : Operator} {l r : Value} (hl : S.fits l) (hr : S.fits r) :
    Yields S.admits (fun w => w.isScalar = true) (op.applyBinary l r) := by
  refine (S.kind hl).bind fun leftKind _ => (S.kind hr).bind fun rightKind _ => ?_
  refine (S.arithmetic (op.binaryRule_arithmetical l r)).bind fun found hf => ?_
  cases found with
  | none => exact .error (S.ordinary ⟨nofun, nofun⟩)
  | some w => exact .ok (hf w rfl)

theorem orLimit {α : Type} {x : Option α} : Yields S.AdmitsFailure (fun _ => True) (Failure.orLimit x) := by
  cases x with
  | none => exact .error trivial
  | some a => exact .ok trivial

/-- Apart from two tuples or two objects, only foreign values end a comparison with an error. -/
theorem equal_flat {l r : Value} (hl : S.fits l) (hr : S.fits r) (ht : ∀ as bs, l = .tuple as → r ≠ .tuple bs)
    (ho : ∀ type own type' own', l = .object type own → r ≠ .object type' own') :
    Yields S.AdmitsFailure (fun _ => True) (l.equal r) := by
  unfold Value.equal
  split
  · exact .ok trivial
  · exact .ok trivial
  · exact .ok trivial
  · exact .ok trivial
  · exact .ok trivial
  · exact .ok trivial
  · exact absurd rfl (ht _ _ rfl)
  · exact .ite (S.orLimit.bind fun _ _ => S.orLimit.bind fun _ _ => .ok trivial) (.ok trivial)
  · exact .ok trivial
  · exact absurd rfl (ho _ _ _ _ rfl)
  · exact .error (S.foreign hl)
  · exact .error (S.foreign hr)
  · exact .ok trivial

-- Comparison looks into two tuples and into the classes of two objects; the recursion is on the left value.
mutual

theorem equal : ∀ {l r : Value}, S.Good live l → S.Good live r →
    Yields S.AdmitsFailure (fun _ => True) (l.equal r)
  | .tuple as, r, hl, hr => by
    cases r with
    | tuple bs =>
      simp only [Value.equal]
      exact .ite (allEqual (Value.within_tuple.1 hl).2 (Value.within_tuple.1 hr).2) (.ok trivial)
    | none | bool _ | int _ | float _ | imaginary _ _ | string _ | function _ _ _ | cls _ _ | object _ _ | foreign _ =>
      exact S.equal_flat hl.here hr.here nofun nofun
  | .object type own, r, hl, hr => by
    cases r with
    | object type' own' =>
      simp only [Value.equal]
      refine (equal (Value.within_object.1 hl).2.2 (Value.within_object.1 hr).2.2).bind fun same _ => ?_
      exact .ite (.ok trivial) (.ok trivial)
    | none | bool _ | int _ | float _ | imaginary _ _ | string _ | tuple _ | function _ _ _ | cls _ _ | foreign _ =>
      exact S.equal_flat hl.here hr.here nofun nofun
  | .none, r, hl, hr | .bool _, r, hl, hr | .int _, r, hl, hr | .float _, r, hl, hr | .imaginary .., r, hl, hr
  | .string _, r, hl, hr | .function .., r, hl, hr | .cls .., r, hl, hr | .foreign _, r, hl, hr =>
    S.equal_flat hl.here hr.here nofun nofun

theorem allEqual : ∀ {ls rs : List Value}, Value.AllWithin S.fits live ls → Value.AllWithin S.fits live rs →
    Yields S.AdmitsFailure (fun _ => True) (Value.allEqual ls rs)
  | l :: ls, r :: rs, hl, hr => by
    simp only [Value.allEqual]
    refine (equal hl.1 hr.1).bind fun same _ => ?_
    cases same with
    | true => exact allEqual hl.2 hr.2
    | false => exact .ok trivial
  | [], _, _, _ => by simp only [Value.allEqual]; exact .ok trivial
  | _ :: _, [], _, _ => by simp only [Value.allEqual]; exact .ok trivial

end

theorem compare {op : Operator} {l r : Value} (hl : S.Good live l) (hr : S.Good live r) :
    Yields S.AdmitsFailure (fun _ => True) (op.applyCompare l r) := by
  have fails : ∀ e, S.admits e → S.AdmitsFailure (.error e) := fun _ h => h
  refine ((S.kind hl.here).mapError fails).bind fun leftKind _ => ?_
  refine ((S.kind hr.here).mapError fails).bind fun rightKind _ => ?_
  refine .ite (((S.arithmetic (op.numericOrder_arithmetical l r)).mapError fails).bind fun order _ => ?_) ?_
  · cases order <;> exact .ok trivial
  · unfold Operator.compareOther
    split
    · exact equal hl hr
    · exact (equal hl hr).map fun _ _ => trivial
    · exact .error (S.ordinary ⟨nofun, nofun⟩)

mutual

theorem text : ∀ {v : Value}, S.Good live v → Yields S.AdmitsFailure (fun _ => True) v.text
  | .tuple items, h => by
    simp only [Value.text]
    exact (texts (Value.within_tuple.1 h).2).bind fun _ _ => .ok trivial
  | .object type attrs, h => by
    have ho := S.unclassed h.here
    cases type with
    | cls name own => simp only [Value.text]; exact .ok trivial
    | none | bool _ | int _ | float _ | imaginary _ _ | string _ | tuple _ | function _ _ _ | object _ _ | foreign _ =>
      simp only [Value.text]
      exact .error (ho nofun)
  | .foreign type, h => by
    simp only [Value.text]
    exact .error (S.foreign h.here)
  | .int n, _ => by
    simp only [Value.text]
    exact S.orLimit
  | .none, _ | .bool true, _ | .bool false, _ | .float _, _ | .imaginary .., _ | .string _, _ | .function .., _
  | .cls .., _ => by
    simp only [Value.text]
    exact .ok trivial

theorem texts : ∀ {items : List Value}, Value.AllWithin S.fits live items →
    Yields S.AdmitsFailure (fun _ => True) (Value.texts items)
  | [], _ => by simp only [Value.texts]; exact .ok trivial
  | v :: rest, h => by
    simp only [Value.texts]
    exact (text h.1).bind fun _ _ => (texts h.2).bind fun _ _ => .ok trivial

end

theorem printed [Host] {v : Value} (h : S.Good live v) : Yields S.AdmitsFailure (fun _ => True) v.printed := by
  refine (S.text h).bind fun t _ => ?_
  split
  · exact .error trivial
  · exact .ok trivial

/-! ## Names and attributes -/

theorem lookup (env : Environment) (name : String) :
    Yields S.admits (fun v => env.get? name = some v) (env.lookup name) := by
  unfold Environment.lookup
  split
  · rename_i v hv
    exact .ok hv
  · refine .error (S.ordinary ⟨?_, ?_⟩)
    · rintro ⟨⟩
    · rintro ⟨⟩

theorem getAttr {h : Heap} {name : String} {v : Value} (hv : S.Good live v) :
    Yields S.admits (fun found => ∃ own, live own ∧ found = (h.map own).get? name) (v.getAttr h name) := by
  cases v with
  | cls _ own => exact .ok ⟨own, (Value.within_cls.1 hv).2, rfl⟩
  | object _ own => exact .ok ⟨own, (Value.within_object.1 hv).2.1, rfl⟩
  | none | bool _ | int _ | float _ | imaginary _ _ | string _ | tuple _ | function _ _ _ | foreign _ =>
    exact (S.kind hv.here).bind fun _ _ => .error (S.ordinary ⟨nofun, nofun⟩)

theorem getClassAttr {h : Heap} {name : String} {v : Value} (hv : S.Good live v) :
    Yields S.admits (fun found => ∃ own, live own ∧ found = (h.map own).get? name) (v.getClassAttr h name) := by
  cases v with
  | object type own =>
    have ho := S.unclassed hv.here
    obtain ⟨-, -, ht⟩ := Value.within_object.1 hv
    cases type with
    | cls name attrs => exact .ok ⟨attrs, (Value.within_cls.1 ht).2, rfl⟩
    | none | bool _ | int _ | float _ | imaginary _ _ | string _ | tuple _ | function _ _ _ | object _ _ | foreign _ =>
      exact .error (ho nofun)
  | none | bool _ | int _ | float _ | imaginary _ _ | string _ | tuple _ | function _ _ _ | cls _ _ | foreign _ =>
    exact (S.kind hv.here).bind fun _ _ => .error (S.ordinary ⟨nofun, nofun⟩)

theorem setAttr {h : Heap} {name : String} {target value : Value} (ht : S.Good live target) :
    Yields S.admits (fun h' => ∃ own, live own ∧ h' = h.write own name value) (target.setAttr h name value) := by
  cases target with
  | cls _ own => exact .ok ⟨own, (Value.within_cls.1 ht).2, rfl⟩
  | object _ own => exact .ok ⟨own, (Value.within_object.1 ht).2.1, rfl⟩
  | none | bool _ | int _ | float _ | imaginary _ _ | string _ | tuple _ | function _ _ _ | foreign _ =>
    exact (S.kind ht.here).bind fun _ _ => .error (S.ordinary ⟨nofun, nofun⟩)

end Standard

end Treewalk
