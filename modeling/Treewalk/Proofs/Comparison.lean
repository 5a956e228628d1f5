/-
The comparing operators, seen together. A comparison is decided in one of three ways: between two integers, between floats
after a conversion, or by the equality of values. Whichever way it is, an operator and its negation, an operator and its
converse, and equality and the strict orders agree, also about when there is no result.
-/
import Mathlib.Order.Compare
import Mathlib.Order.WithBot
import Treewalk.Proofs.Arithmetic
import Treewalk.Proofs.Equality

namespace Treewalk

/-! ## The order of floats -/

namespace Double

/-- Where a float stands among the rational numbers and the two infinities; a not-a-number stands nowhere. -/
def level? : Double → Option (WithBot (WithTop ℚ))
  | .nan => none
  | .infinite true => some ⊥
  | .infinite false => some ⊤
  | .finite negative m e _ => some (rational negative m e : WithTop ℚ)

theorem exists_level {x : Double} (h : x.isNaN = false) : ∃ a, x.level? = some a := by
  cases x with
  | nan => cases h
  | infinite negative => cases negative <;> exact ⟨_, rfl⟩
  | finite negative m e _ => exact ⟨_, rfl⟩

theorem compare_significandAt (a b : Bool) (m n : Nat) (e f : Int) :
    compare (significandAt a m e (min e f)) (significandAt b n f (min e f)) =
      compare (rational a m e) (rational b n f) := by
  have hmono : StrictMono fun s : Int => (s : ℚ) * 2 ^ min e f := fun s t h =>
    mul_lt_mul_of_pos_right (Int.cast_lt.2 h) (two_zpow_pos _)
  rw [← significandAt_rat a m (min_le_left e f), ← significandAt_rat b n (min_le_right e f), ← cmp_eq_compare,
    ← cmp_eq_compare]
  exact (hmono.cmp_map_eq _ _).symm

/-- Floats are ordered as what they stand for. -/
theorem compare?_of_levels {x y : Double} {a b : WithBot (WithTop ℚ)} (hx : x.level? = some a)
    (hy : y.level? = some b) : x.compare? y = some (compare a b) := by
  have hbot (q : ℚ) : ⊥ < ((q : WithTop ℚ) : WithBot (WithTop ℚ)) := WithBot.bot_lt_coe _
  have htop (q : ℚ) : ((q : WithTop ℚ) : WithBot (WithTop ℚ)) < ⊤ := WithBot.coe_lt_coe.2 (WithTop.coe_lt_top q)
  unfold level? at hx hy
  split at hx <;> cases hx <;> split at hy <;> cases hy
  · rw [compare_eq_iff_eq.2 rfl]
    rfl
  · rw [compare_lt_iff_lt.2 bot_lt_top]
    rfl
  · rw [compare_lt_iff_lt.2 (hbot _)]
    rfl
  · rw [compare_gt_iff_gt.2 bot_lt_top]
    rfl
  · rw [compare_eq_iff_eq.2 rfl]
    rfl
  · rw [compare_gt_iff_gt.2 (htop _)]
    rfl
  · rw [compare_gt_iff_gt.2 (hbot _)]
    rfl
  · rw [compare_lt_iff_lt.2 (htop _)]
    rfl
  · have hmono : StrictMono fun q : ℚ => ((q : WithTop ℚ) : WithBot (WithTop ℚ)) := fun p q h =>
      WithBot.coe_lt_coe.2 (WithTop.coe_lt_coe.2 h)
    rw [compare?, compare_significandAt, ← cmp_eq_compare, ← cmp_eq_compare]
    exact congrArg some (hmono.cmp_map_eq _ _).symm

/-- Seen from the other side, the order is turned round. -/
theorem compare?_comm (x y : Double) : y.compare? x = (x.compare? y).map Ordering.swap := by
  cases hx : x.isNaN with
  | true =>
    cases x <;> cases hx
    cases y <;> rfl
  | false =>
    cases hy : y.isNaN with
    | true =>
      cases y <;> cases hy
      cases x <;> rfl
    | false =>
      obtain ⟨a, ha⟩ := exists_level hx
      obtain ⟨b, hb⟩ := exists_level hy
      rw [compare?_of_levels ha hb, compare?_of_levels hb ha, Option.map_some, ← cmp_eq_compare, ← cmp_eq_compare,
        cmp_swap]

end Double

namespace Value

/-- The values that are ordered. -/
def isNumeric : Value → Bool
  | .int _ | .float _ => true
  | _ => false

/-- Where a number stands when it is compared with another one: an integer beside a float is rounded to a float first. -/
def levelBeside : Value → Value → Option (WithBot (WithTop ℚ))
  | .int n, .float _ => (Double.ofInt n).level?
  | .int n, _ => some ((n : ℚ) : WithTop ℚ)
  | .float x, _ => x.level?
  | _, _ => Option.none

end Value

namespace Operator

/-! ## The order of numbers -/

/-- An integer that cannot become a float meets a float. -/
def Unfit : Value → Value → Prop
  | .int n, .float _ | .float _, .int n => ¬ Fits n
  | _, _ => False

/-- An integer meets a float. -/
def Mixed : Value → Value → Prop
  | .int _, .float _ | .float _, .int _ => True
  | _, _ => False

section

variable {l r : Value}

theorem eq_of_numeric {v : Value} (h : v.isNumeric = true) : (∃ n, v = .int n) ∨ ∃ x, v = .float x := by
  cases v with
  | int n => exact .inl ⟨n, rfl⟩
  | float x => exact .inr ⟨x, rfl⟩
  | none | bool _ | imaginary _ _ | string _ | tuple _ | function _ _ _ | cls _ _ | object _ _ | foreign _ => cases h

theorem isNumeric_of_unfit (h : Unfit l r) : l.isNumeric = true ∧ r.isNumeric = true := by
  unfold Unfit at h
  split at h
  · exact ⟨rfl, rfl⟩
  · exact ⟨rfl, rfl⟩
  · exact h.elim

theorem faulty_numericOrder (h : Unfit l r) (op : Operator) : Faulty (op.numericOrder l r) := by
  unfold Unfit at h
  split at h
  · exact (faulty_toDouble h op).bind _
  · exact (faulty_toDouble h op).bind _
  · exact h.elim

theorem isNumeric_of_level {v w : Value} {a : WithBot (WithTop ℚ)} (h : v.levelBeside w = some a) :
    v.isNumeric = true := by
  unfold Value.levelBeside at h
  split at h
  · rfl
  · rfl
  · rfl
  · cases h

theorem isNaN_ofInt {n : Int} (h : Fits n) : (Double.ofInt n).isNaN = false := by
  have hfinite := (Double.isFinite_ofInt_iff n).2 h
  cases hof : Double.ofInt n with
  | finite negative m e _ => rfl
  | nan | infinite _ =>
    rw [hof] at hfinite
    cases hfinite

theorem exists_levelBeside (hl : l.isNumeric = true) (hr : r.isNumeric = true) (hnumber : l.IsNumber)
    (h : ¬ Unfit l r) : ∃ a, l.levelBeside r = some a := by
  obtain ⟨n, rfl⟩ | ⟨x, rfl⟩ := eq_of_numeric hl
  · obtain ⟨m, rfl⟩ | ⟨y, rfl⟩ := eq_of_numeric hr
    · exact ⟨_, rfl⟩
    · exact Double.exists_level (isNaN_ofInt (not_not.1 h))
  · exact Double.exists_level hnumber

/-- How two numbers are ordered does not depend on the operator, and is turned round with the operands. -/
theorem numericOrder_ok (hl : l.isNumeric = true) (hr : r.isNumeric = true) (h : ¬ Unfit l r) :
    ∃ order : Option Ordering, (∀ op : Operator, op.numericOrder l r = .ok (some order)) ∧
      (∀ op : Operator, op.numericOrder r l = .ok (some (order.map Ordering.swap))) ∧
      ∀ a b, l.levelBeside r = some a → r.levelBeside l = some b → order = some (compare a b) := by
  obtain ⟨m, rfl⟩ | ⟨x, rfl⟩ := eq_of_numeric hl <;> obtain ⟨n, rfl⟩ | ⟨y, rfl⟩ := eq_of_numeric hr
  · refine ⟨some (compare m n), fun _ => rfl, fun op => ?_, fun a b ha hb => ?_⟩
    · rw [Option.map_some, ← cmp_eq_compare, cmp_swap, cmp_eq_compare]
      rfl
    · have hmono : StrictMono fun k : Int => (((k : ℚ) : WithTop ℚ) : WithBot (WithTop ℚ)) := fun k k' hlt =>
        WithBot.coe_lt_coe.2 (WithTop.coe_lt_coe.2 (Int.cast_lt.2 hlt))
      cases ha
      cases hb
      rw [← cmp_eq_compare, ← cmp_eq_compare]
      exact congrArg some (hmono.cmp_map_eq m n).symm
  · have hfits : Fits m := not_not.1 h
    refine ⟨(Double.ofInt m).compare? y, fun op => ?_, fun op => ?_, fun a b => Double.compare?_of_levels⟩
    · rw [numericOrder, toDouble_of_fits hfits]
      rfl
    · rw [numericOrder, toDouble_of_fits hfits, ← Double.compare?_comm]
      rfl
  · have hfits : Fits n := not_not.1 h
    refine ⟨x.compare? (.ofInt n), fun op => ?_, fun op => ?_, fun a b => Double.compare?_of_levels⟩
    · rw [numericOrder, toDouble_of_fits hfits]
      rfl
    · rw [numericOrder, toDouble_of_fits hfits, ← Double.compare?_comm]
      rfl
  · refine ⟨x.compare? y, fun _ => rfl, fun op => ?_, fun a b => Double.compare?_of_levels⟩
    rw [← Double.compare?_comm]
    rfl

end

/-! ## Outcomes -/

/-- A comparison that ends with an error of this kind. -/
def Fails (kind : ErrorKind) (x : Except Failure Bool) : Prop := ∃ e, x = .error (.error e) ∧ e.kind = kind

/-- Two comparisons with the same result, or with errors of the same kind. -/
def Agree (x y : Except Failure Bool) : Prop := (∃ b, x = .ok b ∧ y = .ok b) ∨ ∃ kind, Fails kind x ∧ Fails kind y

section

variable {op : Operator} {l r : Value} {kind : ErrorKind}

theorem Fails.not_ok {b : Bool} : ¬ Fails kind (.ok b) := by
  rintro ⟨e, he, -⟩
  cases he

theorem Fails.unique {kind' : ErrorKind} {x : Except Failure Bool} (h : Fails kind x) (h' : Fails kind' x) :
    kind = kind' := by
  obtain ⟨e, rfl, rfl⟩ := h
  obtain ⟨e', he, rfl⟩ := h'
  cases he
  rfl

theorem Agree.same (b : Bool) : Agree (.ok b) (.ok b) := .inl ⟨b, rfl, rfl⟩

end

/-! ## Two numbers -/

section

variable {op : Operator} {l r : Value}

theorem applyCompare_numbers (hop : op.isOrdering = true) (hl : l.isNumeric = true) (hr : r.isNumeric = true) :
    op.applyCompare l r = (do
      match ← (op.numericOrder l r).mapError .error with
      | some order => return op.holds order
      | none => return false) := by
  have hcond : (op.isOrdering && true && true) = true := by rw [hop]; rfl
  obtain ⟨a, rfl⟩ | ⟨x, rfl⟩ := eq_of_numeric hl <;> obtain ⟨b, rfl⟩ | ⟨y, rfl⟩ := eq_of_numeric hr
  all_goals exact if_pos hcond

theorem applyCompare_of_order {order : Option Ordering} (hop : op.isOrdering = true) (hl : l.isNumeric = true)
    (hr : r.isNumeric = true) (h : op.numericOrder l r = .ok (some order)) :
    op.applyCompare l r = .ok (op.holds order) := by
  rw [applyCompare_numbers hop hl hr, h]
  rfl

/-- Numbers that stand somewhere are compared as they stand. -/
theorem applyCompare_of_levels (hfit : ¬ Unfit l r) {a b : WithBot (WithTop ℚ)} (ha : l.levelBeside r = some a)
    (hb : r.levelBeside l = some b) (hop : op.isOrdering = true) :
    op.applyCompare l r = .ok (op.holds (some (compare a b))) := by
  have hl := isNumeric_of_level ha
  have hr := isNumeric_of_level hb
  obtain ⟨order, horder, -, hlevels⟩ := numericOrder_ok hl hr hfit
  rw [applyCompare_of_order hop hl hr (horder op), hlevels a b ha hb]

theorem fails_of_unfit (hop : op.isOrdering = true) (h : Unfit l r) :
    Fails .arithmeticFailure (op.applyCompare l r) := by
  obtain ⟨hl, hr⟩ := isNumeric_of_unfit h
  obtain ⟨e, he, hkind⟩ := faulty_numericOrder h op
  refine ⟨e, ?_, hkind⟩
  rw [applyCompare_numbers hop hl hr, he]
  rfl

/-! ## Other values -/

theorem kind_isNumeric {v : Value} {kind : Kind} (h : v.kind = .ok kind) : kind.isNumeric = v.isNumeric := by
  cases v <;> cases h <;> rfl

theorem applyCompare_others {leftKind rightKind : Kind} (hl : l.kind = .ok leftKind) (hr : r.kind = .ok rightKind)
    (h : ¬ (op.isOrdering = true ∧ l.isNumeric = true ∧ r.isNumeric = true)) :
    op.applyCompare l r = op.compareOther l r leftKind rightKind := by
  have hcond : ¬ (op.isOrdering && leftKind.isNumeric && rightKind.isNumeric) = true := by
    rwa [kind_isNumeric hl, kind_isNumeric hr, Bool.and_eq_true, Bool.and_eq_true, and_assoc]
  rw [applyCompare, hl, hr]
  exact if_neg hcond

theorem fails_compareOther {leftKind rightKind : Kind} (heq : op ≠ .eq) (hne : op ≠ .notEq) :
    Fails .unsupportedOperand (op.compareOther l r leftKind rightKind) := by
  cases op with
  | eq => exact absurd rfl heq
  | notEq => exact absurd rfl hne
  | _ => exact ⟨_, rfl, rfl⟩

/-! ## Operands in the other order -/

/-- The operator that says of two operands in the other order what this one says of them. -/
def converse : Operator → Operator
  | .less => .greater
  | .greater => .less
  | .lessEq => .greaterEq
  | .greaterEq => .lessEq
  | op => op

theorem isOrdering_converse (op : Operator) : op.converse.isOrdering = op.isOrdering := by
  cases op <;> rfl

theorem converse_eq_iff : (op.converse = .eq ↔ op = .eq) ∧ (op.converse = .notEq ↔ op = .notEq) := by
  cases op <;> simp [converse]

theorem holds_converse (op : Operator) (order : Option Ordering) :
    op.converse.holds (order.map Ordering.swap) = op.holds order := by
  cases order with
  | none => cases op <;> rfl
  | some order => cases order <;> cases op <;> rfl

theorem unfit_comm : Unfit r l ↔ Unfit l r := by
  constructor
  all_goals
    intro h
    unfold Unfit at h
    split at h
    · exact h
    · exact h
    · exact h.elim

theorem equal_comm (hl : l.Sound) (hr : r.Sound) : ∃ b, l.equal r = .ok b ∧ r.equal l = .ok b := by
  obtain ⟨b, hb, hsame⟩ := Value.tells_equal hl hr
  obtain ⟨b', hb', hsame'⟩ := Value.tells_equal hr hl
  have hiff : b = true ↔ b' = true := by
    rw [hsame, hsame']
    exact ⟨.symm, .symm⟩
  exact ⟨b, hb, by rw [hb', Bool.eq_iff_iff.2 hiff]⟩

theorem agree_converse (hl : l.Sound) (hr : r.Sound) (op : Operator) :
    Agree (op.applyCompare l r) (op.converse.applyCompare r l) := by
  have hconverse := isOrdering_converse op
  by_cases hnumeric : op.isOrdering = true ∧ l.isNumeric = true ∧ r.isNumeric = true
  · obtain ⟨hop, hleft, hright⟩ := hnumeric
    by_cases hunfit : Unfit l r
    · exact .inr ⟨_, fails_of_unfit hop hunfit, fails_of_unfit (hconverse.trans hop) (unfit_comm.2 hunfit)⟩
    · obtain ⟨order, horder, hswap, -⟩ := numericOrder_ok hleft hright hunfit
      rw [applyCompare_of_order hop hleft hright (horder op),
        applyCompare_of_order (hconverse.trans hop) hright hleft (hswap op.converse), holds_converse]
      exact .same _
  · obtain ⟨leftKind, hleft⟩ := Value.exists_kind hl
    obtain ⟨rightKind, hright⟩ := Value.exists_kind hr
    have hother : ¬ (op.converse.isOrdering = true ∧ r.isNumeric = true ∧ l.isNumeric = true) := by
      rwa [hconverse, and_comm (a := r.isNumeric = true)]
    rw [applyCompare_others hleft hright hnumeric, applyCompare_others hright hleft hother]
    obtain ⟨b, hb, hb'⟩ := equal_comm hl hr
    by_cases heq : op = .eq
    · subst heq
      exact .inl ⟨b, hb, hb'⟩
    · by_cases hne : op = .notEq
      · subst hne
        refine .inl ⟨!b, ?_, ?_⟩
        · rw [compareOther, hb]
          rfl
        · change (r.equal l).map (!·) = _
          rw [hb']
          rfl
      · have heqIff : op.converse = .eq ↔ op = .eq := converse_eq_iff.1
        have hneIff : op.converse = .notEq ↔ op = .notEq := converse_eq_iff.2
        exact .inr ⟨_, fails_compareOther heq hne, fails_compareOther (mt heqIff.1 heq) (mt hneIff.1 hne)⟩

/-! ## The three ways of a comparison -/

/-- How the comparisons of two values are decided. -/
inductive Decided (l r : Value) : Prop
  /-- An integer would have to become a float and cannot. -/
  | refused (hunfit : Unfit l r)
    (hfails : ∀ op : Operator, op.isOrdering = true → Fails .arithmeticFailure (op.applyCompare l r))
  /-- Two numbers are compared by their order. -/
  | ordered (order : Option Ordering) (hl : l.isNumeric = true) (hr : r.isNumeric = true) (hfit : ¬ Unfit l r)
    (hholds : ∀ op : Operator, op.isOrdering = true → op.applyCompare l r = .ok (op.holds order))
  /-- Other values are equal or not. -/
  | other (same : Bool) (hothers : ¬ (l.isNumeric = true ∧ r.isNumeric = true))
    (heq : Operator.eq.applyCompare l r = .ok same) (hne : Operator.notEq.applyCompare l r = .ok !same)
    (hfails : ∀ op : Operator, op ≠ .eq → op ≠ .notEq → Fails .unsupportedOperand (op.applyCompare l r))

theorem decided (hl : l.Sound) (hr : r.Sound) : Decided l r := by
  by_cases hnumeric : l.isNumeric = true ∧ r.isNumeric = true
  · obtain ⟨hleft, hright⟩ := hnumeric
    by_cases hunfit : Unfit l r
    · exact .refused hunfit fun op hop => fails_of_unfit hop hunfit
    · obtain ⟨order, horder, -, -⟩ := numericOrder_ok hleft hright hunfit
      exact .ordered order hleft hright hunfit fun op hop => applyCompare_of_order hop hleft hright (horder op)
  · obtain ⟨leftKind, hleft⟩ := Value.exists_kind hl
    obtain ⟨rightKind, hright⟩ := Value.exists_kind hr
    obtain ⟨b, hb, -⟩ := equal_comm hl hr
    have hother (op : Operator) : op.applyCompare l r = op.compareOther l r leftKind rightKind :=
      applyCompare_others hleft hright fun h => hnumeric h.2
    refine .other b hnumeric ?_ ?_ fun op heq hne => ?_
    · rw [hother, compareOther, hb]
    · rw [hother, compareOther, hb]
      rfl
    · rw [hother]
      exact fails_compareOther heq hne

theorem fails_of_not_isOrdering (hl : l.Sound) (hr : r.Sound) (hop : ¬ op.isOrdering = true) :
    Fails .unsupportedOperand (op.applyCompare l r) := by
  obtain ⟨leftKind, hleft⟩ := Value.exists_kind hl
  obtain ⟨rightKind, hright⟩ := Value.exists_kind hr
  rw [applyCompare_others hleft hright fun h => hop h.1]
  refine fails_compareOther ?_ ?_ <;>
  · rintro rfl
    exact hop rfl

/-! ## Agreement -/

/-- The operators that need numbers. -/
def ranking : List Operator := [.less, .lessEq, .greater, .greaterEq]

/-- What the comparisons of two values have to do with one another. -/
structure Consistent (l r : Value) : Prop where
  /-- The tests for equality and for inequality have opposite results, or both fail as arithmetic does. -/
  opposite : (∃ b, Operator.eq.applyCompare l r = .ok b ∧ Operator.notEq.applyCompare l r = .ok !b) ∨
    (Fails .arithmeticFailure (Operator.eq.applyCompare l r) ∧
      Fails .arithmeticFailure (Operator.notEq.applyCompare l r))
  /-- Operands can be put in the other order if the operator is turned round with them. -/
  turned : ∀ op : Operator, Agree (op.applyCompare l r) (op.converse.applyCompare r l)
  /-- Equality is that of values, unless an integer meets a float. -/
  equality : ¬ Mixed l r → Operator.eq.applyCompare l r = l.equal r
  /-- Every comparison has a result, or fails in one of two ways. -/
  total : ∀ op : Operator, (∃ b, op.applyCompare l r = .ok b) ∨ Fails .unsupportedOperand (op.applyCompare l r) ∨
    Fails .arithmeticFailure (op.applyCompare l r)
  /-- Only numbers are ordered. -/
  unsupported : ∀ op ∈ ranking,
    (Fails .unsupportedOperand (op.applyCompare l r) ↔ ¬ (l.isNumeric = true ∧ r.isNumeric = true))
  /-- Arithmetic fails exactly where an integer that cannot become a float meets a float, under all six operators. -/
  unfit : ∀ op : Operator, op.isOrdering = true → (Fails .arithmeticFailure (op.applyCompare l r) ↔ Unfit l r)
  /-- Numbers are compared as what they stand for. -/
  levels : ¬ Unfit l r → ∀ a b, l.levelBeside r = some a → r.levelBeside l = some b →
    ∀ op : Operator, op.isOrdering = true → op.applyCompare l r = .ok (op.holds (some (compare a b)))
  /-- Of two numbers the first is less, equal or greater, and only one of these. -/
  trichotomy : l.isNumeric = true → r.isNumeric = true → l.IsNumber → r.IsNumber → ¬ Unfit l r →
    ∃ less equal greater, Operator.less.applyCompare l r = .ok less ∧ Operator.eq.applyCompare l r = .ok equal ∧
      Operator.greater.applyCompare l r = .ok greater ∧ [less, equal, greater].count true = 1 ∧
      Operator.lessEq.applyCompare l r = .ok (less || equal) ∧
      Operator.greaterEq.applyCompare l r = .ok (greater || equal)

theorem of_mem_ranking (h : op ∈ ranking) : op.isOrdering = true ∧ op ≠ .eq ∧ op ≠ .notEq := by
  have hcases : op = .less ∨ op = .lessEq ∨ op = .greater ∨ op = .greaterEq := by simpa [ranking] using h
  rcases hcases with rfl | rfl | rfl | rfl <;> exact ⟨rfl, nofun, nofun⟩

theorem applyCompare_eq (hl : l.Sound) (hr : r.Sound) (h : ¬ Mixed l r) :
    Operator.eq.applyCompare l r = l.equal r := by
  by_cases hnumeric : l.isNumeric = true ∧ r.isNumeric = true
  · obtain ⟨hleft, hright⟩ := hnumeric
    obtain ⟨a, rfl⟩ | ⟨x, rfl⟩ := eq_of_numeric hleft <;> obtain ⟨b, rfl⟩ | ⟨y, rfl⟩ := eq_of_numeric hright
    · have horder : Operator.eq.numericOrder (.int a) (.int b) = .ok (some (some (compare a b))) := rfl
      refine (applyCompare_of_order rfl rfl rfl horder).trans (congrArg Except.ok ?_)
      rw [Bool.eq_iff_iff, holds, beq_iff_eq, beq_iff_eq, Option.some_inj, compare_eq_iff_eq]
    · exact absurd trivial h
    · exact absurd trivial h
    · have horder : Operator.eq.numericOrder (.float x) (.float y) = .ok (some (x.compare? y)) := rfl
      exact applyCompare_of_order rfl rfl rfl horder
  · obtain ⟨leftKind, hleft⟩ := Value.exists_kind hl
    obtain ⟨rightKind, hright⟩ := Value.exists_kind hr
    exact applyCompare_others hleft hright fun h => hnumeric h.2

/-- The comparisons of any two sound values are consistent. -/
theorem applyCompare_consistent {l r : Value} (hl : l.Sound) (hr : r.Sound) : Consistent l r where
  opposite := by
    cases decided hl hr with
    | refused _ hfails => exact .inr ⟨hfails .eq rfl, hfails .notEq rfl⟩
    | ordered order _ _ _ hholds => exact .inl ⟨_, hholds .eq rfl, hholds .notEq rfl⟩
    | other same _ heq hne => exact .inl ⟨same, heq, hne⟩
  turned := agree_converse hl hr
  equality := applyCompare_eq hl hr
  total op := by
    by_cases hop : op.isOrdering = true
    · cases decided hl hr with
      | refused _ hfails => exact .inr (.inr (hfails op hop))
      | ordered order _ _ _ hholds => exact .inl ⟨_, hholds op hop⟩
      | other same _ heq hne hfails =>
        by_cases h : op = .eq ∨ op = .notEq
        · rcases h with rfl | rfl
          · exact .inl ⟨_, heq⟩
          · exact .inl ⟨_, hne⟩
        · obtain ⟨h, h'⟩ := not_or.1 h
          exact .inr (.inl (hfails op h h'))
    · exact .inr (.inl (fails_of_not_isOrdering hl hr hop))
  unsupported op hmem := by
    obtain ⟨hop, hnotEq, hnotNe⟩ := of_mem_ranking hmem
    cases decided hl hr with
    | refused hunfit hfails =>
      refine iff_of_false (fun h => ?_) (not_not.2 (isNumeric_of_unfit hunfit))
      cases h.unique (hfails op hop)
    | ordered order hleft hright _ hholds =>
      refine iff_of_false ?_ (not_not.2 ⟨hleft, hright⟩)
      rw [hholds op hop]
      exact Fails.not_ok
    | other _ hothers _ _ hfails => exact iff_of_true (hfails op hnotEq hnotNe) hothers
  unfit op hop := by
    cases decided hl hr with
    | refused hunfit hfails => exact iff_of_true (hfails op hop) hunfit
    | ordered order _ _ hfit hholds =>
      refine iff_of_false ?_ hfit
      rw [hholds op hop]
      exact Fails.not_ok
    | other same hothers heq hne hfails =>
      refine iff_of_false (fun h => ?_) fun hunfit => hothers (isNumeric_of_unfit hunfit)
      by_cases hequality : op = .eq ∨ op = .notEq
      · rcases hequality with rfl | rfl
        · rw [heq] at h
          exact h.not_ok
        · rw [hne] at h
          exact h.not_ok
      · obtain ⟨hnotEq, hnotNe⟩ := not_or.1 hequality
        cases h.unique (hfails op hnotEq hnotNe)
  levels hfit a b ha hb op hop := applyCompare_of_levels hfit ha hb hop
  trichotomy hleft hright hnumber hnumber' hfit := by
    obtain ⟨a, ha⟩ := exists_levelBeside hleft hright hnumber hfit
    obtain ⟨b, hb⟩ := exists_levelBeside hright hleft hnumber' fun h => hfit (unfit_comm.1 h)
    have hholds (op : Operator) (hop : op.isOrdering = true) := applyCompare_of_levels hfit ha hb hop
    refine ⟨_, _, _, hholds .less rfl, hholds .eq rfl, hholds .greater rfl, ?_, hholds .lessEq rfl, hholds .greaterEq rfl⟩
    cases compare a b <;> rfl

end

/-- An integer out of the range of floats beside a float, and one that can become a float. -/
theorem applyCompare_consistent_sample :
    let huge : Value := .int (2 ^ 1024)
    let one : Value := .float Double.one
    huge.Sound ∧ one.Sound ∧ Fails .arithmeticFailure (Operator.eq.applyCompare huge one) ∧
      Fails .arithmeticFailure (Operator.less.applyCompare one huge) ∧
      ∃ less equal greater, Operator.less.applyCompare (.int 2) one = .ok less ∧
        Operator.eq.applyCompare (.int 2) one = .ok equal ∧ Operator.greater.applyCompare (.int 2) one = .ok greater ∧
        [less, equal, greater].count true = 1 := by
  intro huge one
  have hhuge : huge.Sound := trivial
  have hone : one.Sound := trivial
  have htwo : (Value.int 2).Sound := trivial
  have hunfit : ¬ Fits (2 ^ 1024) := by
    have hnatAbs (k : Nat) : ((2 : Int) ^ k).natAbs = 2 ^ k := Int.natAbs_pow 2 k
    rw [Fits, hnatAbs, not_lt]
    exact Nat.sub_le ..
  have hfits : Fits 2 := fits_of_lt_pow (k := 2) (by decide) (by decide)
  refine ⟨hhuge, hone, ((applyCompare_consistent hhuge hone).unfit .eq rfl).2 hunfit,
    ((applyCompare_consistent hone hhuge).unfit .less rfl).2 hunfit, ?_⟩
  obtain ⟨less, equal, greater, hless, hequal, hgreater, hcount, -⟩ :=
    (applyCompare_consistent htwo hone).trichotomy rfl rfl trivial rfl (not_not.2 hfits)
  exact ⟨less, equal, greater, hless, hequal, hgreater, hcount⟩

end Operator

end Treewalk
