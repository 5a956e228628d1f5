/-
The binary operators on all values, classified by the kinds of the operands: which pairs they cover, which results they
have there, and under which conditions they fail. An integer that meets a float is converted before the operator is
looked at, so that an integer out of range fails even where the operator would not be covered.
-/
import Treewalk.Proofs.Finiteness

namespace Treewalk

/-! ## Outcomes -/

/-- A computation that fails as arithmetic does. -/
def Faulty {α : Type} (x : Except EvalError α) : Prop := ∃ e, x = .error e ∧ e.kind = .arithmeticFailure

/-- A computation that fails as arithmetic does, if it fails. -/
theorem Operator.Arithmetical.ok_or_faulty {α : Type} {V : α → Prop} {x : Except EvalError α}
    (h : Operator.Arithmetical V x) : (∃ a, x = .ok a ∧ V a) ∨ Faulty x := by
  cases h with
  | error he => exact .inr ⟨_, rfl, he⟩
  | ok ha => exact .inl ⟨_, rfl, ha⟩

namespace Faulty

variable {α β : Type} {x : Except EvalError α}

theorem bind (h : Faulty x) (f : α → Except EvalError β) : Faulty (x >>= f) := by
  obtain ⟨e, rfl, he⟩ := h
  exact ⟨e, rfl, he⟩

theorem not_ok {a : α} : ¬ Faulty (.ok a : Except EvalError α) := by
  rintro ⟨e, he, -⟩
  cases he

end Faulty

namespace Operator

theorem faulty_fault {α : Type} (op : Operator) (f : ArithmeticFault) : Faulty (op.fault f : Except EvalError α) :=
  ⟨_, rfl, rfl⟩

/-! ## Integers -/

/-- An integer that can become a float. -/
def Fits (n : Int) : Prop := n.natAbs < 2 ^ 1024 - 2 ^ 970

/-- Powers and shifts whose results would have too many bits to be formed. -/
def TooLarge [Host] (op : Operator) (l r : Int) : Prop :=
  (op = .pow ∧ 1 < l.natAbs ∧ Host.bitLimit ≤ l.natAbs.log2 * r.toNat) ∨
    (op = .shiftLeft ∧ l ≠ 0 ∧ Host.bitLimit ≤ r.toNat)

/-- What is refused for its size has more bits than there may be. -/
theorem TooLarge.bits [Host] {op : Operator} {l r : Int} (h : op.TooLarge l r) :
    (op = .pow ∧ Host.bitLimit ≤ (l ^ r.toNat).natAbs.log2) ∨
      (op = .shiftLeft ∧ Host.bitLimit ≤ (Bits.shiftLeft l r.toNat).natAbs.log2) := by
  obtain ⟨hop, hbase, hlarge⟩ | ⟨hop, hl, hlarge⟩ := h
  · refine .inl ⟨hop, ?_⟩
    have hpos : l.natAbs ≠ 0 := by omega
    rw [Int.natAbs_pow, Nat.le_log2 (pow_ne_zero _ hpos)]
    calc 2 ^ Host.bitLimit ≤ 2 ^ (l.natAbs.log2 * r.toNat) := pow_le_pow_right₀ one_le_two hlarge
      _ = (2 ^ l.natAbs.log2) ^ r.toNat := pow_mul ..
      _ ≤ l.natAbs ^ r.toNat := Nat.pow_le_pow_left (Nat.log2_self_le hpos) _
  · refine .inr ⟨hop, ?_⟩
    have hpos : 0 < l.natAbs := Int.natAbs_pos.2 hl
    have hpow : 0 < 2 ^ r.toNat := pow_pos two_pos _
    have htwo : Int.natAbs 2 = 2 := rfl
    rw [Bits.shiftLeft, Int.shiftLeft_eq, Int.natAbs_mul, Int.natAbs_pow, htwo, Nat.le_log2 (Nat.mul_pos hpos hpow).ne']
    calc 2 ^ Host.bitLimit ≤ 1 * 2 ^ r.toNat := by
          rw [one_mul]
          exact pow_le_pow_right₀ one_le_two hlarge
      _ ≤ l.natAbs * 2 ^ r.toNat := Nat.mul_le_mul_right _ hpos

/-- Why an operator fails on two integers. -/
def IntFault [Host] (op : Operator) (l r : Int) : Prop :=
  (op ∈ [.div, .floorDiv, .mod] ∧ r = 0) ∨ (op ∈ [.div, .floorDiv] ∧ (¬ Fits l ∨ ¬ Fits r)) ∨
    (op ∈ [.pow, .shiftLeft, .shiftRight] ∧ r < 0) ∨ op.TooLarge l r

section

variable {op : Operator} {l r : Int}

theorem fits_of_lt_pow {n : Int} {k : Nat} (hk : k ≤ 1023) (h : n.natAbs < 2 ^ k) : Fits n := by
  have hpow : 2 ^ k ≤ 2 ^ 1023 := pow_le_pow_right₀ one_le_two hk
  exact (h.trans_le hpow).trans_le Double.overflowBound_between.1

theorem toDouble_of_fits {n : Int} (h : Fits n) (op : Operator) : op.toDouble n = .ok (.ofInt n) := by
  rw [toDouble_eq, if_pos ((Double.isFinite_ofInt_iff n).2 h)]

theorem faulty_toDouble {n : Int} (h : ¬ Fits n) (op : Operator) : Faulty (op.toDouble n) := by
  rw [toDouble_eq, if_neg fun hfinite => h ((Double.isFinite_ofInt_iff n).1 hfinite)]
  exact op.faulty_fault _

/-- An integer is not rounded to zero. -/
theorem isZero_ofInt_iff {n : Int} (h : Fits n) : (Double.ofInt n).isZero = true ↔ n = 0 := by
  constructor
  · intro hzero
    by_contra hne
    obtain ⟨m, e, hshape, hof, hone⟩ := Double.ofInt_of_isFinite ((Double.isFinite_ofInt_iff n).2 h)
    rw [hof] at hzero
    cases m with
    | zero =>
      have hle := hone hne
      rw [Nat.cast_zero, zero_mul] at hle
      exact absurd hle (by norm_num)
    | succ m => cases hzero
  · rintro rfl
    rfl

/-- The quotient of two integers, when there is one. -/
theorem intQuotient_ok (hl : Fits l) (hr : Fits r) (hne : r ≠ 0) (op : Operator) :
    op.intQuotient l r = .ok ((Double.ofInt l).div (.ofInt r)) := by
  have hzero : ¬ (Double.ofInt r).isZero = true := fun h => hne ((isZero_ofInt_iff hr).1 h)
  rw [intQuotient, toDouble_of_fits hl, toDouble_of_fits hr]
  exact if_neg hzero

theorem faulty_intQuotient (h : ¬ Fits l ∨ ¬ Fits r ∨ r = 0) (op : Operator) : Faulty (op.intQuotient l r) := by
  unfold intQuotient
  by_cases hl : Fits l
  · rw [toDouble_of_fits hl]
    by_cases hr : Fits r
    · rw [toDouble_of_fits hr]
      have hzero : (Double.ofInt r).isZero = true := by
        obtain hl' | hr' | hzero := h
        · exact absurd hl hl'
        · exact absurd hr hr'
        · exact (isZero_ofInt_iff hr).2 hzero
      change Faulty (if (Double.ofInt r).isZero = true then op.fault .divisionByZero else _)
      rw [if_pos hzero]
      exact op.faulty_fault _
    · exact (faulty_toDouble hr op).bind _
  · exact (faulty_toDouble hl op).bind _

/-- Every quotient of two integers has a floor. -/
theorem floorOf_intQuotient_ok (hl : Fits l) (hr : Fits r) (hne : r ≠ 0) (op : Operator) :
    ∃ n, op.floorOf ((Double.ofInt l).div (.ofInt r)) = .ok n := by
  have hfinite := (op.intQuotient_finite l r).of_ok (intQuotient_ok hl hr hne op)
  unfold floorOf
  cases hquotient : (Double.ofInt l).div (.ofInt r) with
  | finite negative m e => exact ⟨_, rfl⟩
  | nan | infinite _ =>
    rw [hquotient] at hfinite
    cases hfinite

theorem intPower_ok [Host] (h : ¬ op.TooLarge l r) (hop : op = .pow) : ∃ n, intPower l r.toNat = .ok (some (.int n)) := by
  unfold intPower
  split
  · exact ⟨_, rfl⟩
  · split
    · exact ⟨_, rfl⟩
    · split
      · exact ⟨_, rfl⟩
      · have hlarge : ¬ Host.bitLimit ≤ l.natAbs.log2 * r.toNat := fun hle => h (.inl ⟨hop, by omega, hle⟩)
        rw [if_neg hlarge]
        exact ⟨_, rfl⟩

theorem faulty_intPower [Host] (hbase : 1 < l.natAbs) (h : Host.bitLimit ≤ l.natAbs.log2 * r.toNat) :
    Faulty (intPower l r.toNat) := by
  unfold intPower
  rw [if_neg (by omega), if_neg (by omega), if_neg (by omega), if_pos h]
  exact faulty_fault ..

/-- Nothing that is formed has too many digits, so the order of the two refusals is of no consequence. -/
theorem shiftedDigits_le [Host] {n : Int} {count : Nat} (hn : n.natAbs.log2 < Host.bitLimit)
    (hcount : count < Host.bitLimit) : shiftedDigits n count ≤ maxDigits := by
  have hlimit : Host.bitLimit ≤ 0x8000000000000000 := Host.bitLimit_le
  unfold shiftedDigits maxDigits
  split <;> omega

theorem intShiftLeft_ok [Host] (h : ¬ Operator.shiftLeft.TooLarge l r) :
    intShiftLeft l r.toNat = .ok (some (.int (Bits.shiftLeft l r.toNat))) := by
  unfold intShiftLeft
  by_cases hl : l = 0
  · rw [if_pos hl, hl, Bits.shiftLeft, Int.zero_shiftLeft]
  · have hlarge : ¬ Host.bitLimit ≤ r.toNat := fun hle => h (.inr ⟨rfl, hl, hle⟩)
    rw [if_neg hl, if_neg hlarge]

theorem faulty_intShiftLeft [Host] (hl : l ≠ 0) (h : Host.bitLimit ≤ r.toNat) : Faulty (intShiftLeft l r.toNat) := by
  unfold intShiftLeft
  rw [if_neg hl, if_pos h]
  exact faulty_fault ..

theorem faulty_onInts [Host] (h : op.IntFault l r) : Faulty (op.onInts l r) := by
  obtain ⟨hop, hzero⟩ | ⟨hop, hfits⟩ | ⟨hop, hneg⟩ | ⟨rfl, hbase, hlarge⟩ | ⟨rfl, hl, hlarge⟩ := h
  case inl =>
    have hquotient : ¬ Fits l ∨ ¬ Fits r ∨ r = 0 := .inr (.inr hzero)
    obtain rfl | rfl | rfl : op = .div ∨ op = .floorDiv ∨ op = .mod := by simpa using hop
    · exact (faulty_intQuotient hquotient _).bind _
    · exact (faulty_intQuotient hquotient _).bind _
    · rw [onInts, if_pos hzero]
      exact faulty_fault ..
  case inr.inl =>
    have hquotient : ¬ Fits l ∨ ¬ Fits r ∨ r = 0 := hfits.imp_right .inl
    obtain rfl | rfl : op = .div ∨ op = .floorDiv := by simpa using hop
    · exact (faulty_intQuotient hquotient _).bind _
    · exact (faulty_intQuotient hquotient _).bind _
  case inr.inr.inl =>
    obtain rfl | rfl | rfl : op = .pow ∨ op = .shiftLeft ∨ op = .shiftRight := by simpa using hop
    all_goals
      rw [onInts, if_pos hneg]
      exact ⟨_, rfl, rfl⟩
  case inr.inr.inr.inl =>
    rw [onInts]
    split
    · exact ⟨_, rfl, rfl⟩
    · exact faulty_intPower hbase hlarge
  case inr.inr.inr.inr =>
    rw [onInts]
    split
    · exact ⟨_, rfl, rfl⟩
    · exact faulty_intShiftLeft hl hlarge

/-- The kind of the result of an operator on two integers. -/
def intResult (op : Operator) : Kind := if op = .div then .float else .int

theorem onInts_ok [Host] (hop : op.group? = some .binary) (hne : op ≠ .matMult) (h : ¬ op.IntFault l r) :
    ∃ v, op.onInts l r = .ok (some v) ∧ v.kind = .ok op.intResult := by
  unfold IntFault at h
  push Not at h
  obtain ⟨hzero, hfits, hneg, hlarge⟩ := h
  cases op with
  | add | sub | mult | bitAnd | bitOr | bitXor => exact ⟨_, rfl, rfl⟩
  | div =>
    obtain ⟨hl, hr⟩ := hfits (by decide)
    rw [onInts, intQuotient_ok hl hr (hzero (by decide))]
    exact ⟨_, rfl, rfl⟩
  | floorDiv =>
    obtain ⟨hl, hr⟩ := hfits (by decide)
    have hne := hzero (by decide)
    obtain ⟨n, hfloor⟩ := floorOf_intQuotient_ok hl hr hne .floorDiv
    rw [onInts, intQuotient_ok hl hr hne]
    refine ⟨.int n, ?_, rfl⟩
    change (do return some (Value.int (← Operator.floorDiv.floorOf ((Double.ofInt l).div (.ofInt r))))) = _
    rw [hfloor]
    rfl
  | mod =>
    rw [onInts, if_neg (hzero (by decide))]
    exact ⟨_, rfl, rfl⟩
  | pow =>
    obtain ⟨n, hpower⟩ := intPower_ok hlarge rfl
    rw [onInts, if_neg (not_lt.2 (hneg (by decide))), hpower]
    exact ⟨_, rfl, rfl⟩
  | shiftLeft =>
    rw [onInts, if_neg (not_lt.2 (hneg (by decide))), intShiftLeft_ok hlarge]
    exact ⟨_, rfl, rfl⟩
  | shiftRight =>
    rw [onInts, if_neg (not_lt.2 (hneg (by decide)))]
    exact ⟨_, rfl, rfl⟩
  | matMult => exact absurd rfl hne
  | not | plus | minus | invert | eq | notEq | less | lessEq | greater | greaterEq | same | notSame | member
  | notMember | and | or | other _ => cases hop

end

/-! ## Floats -/

/-- The binary operators that floats do not have. -/
def wholeOnly : List Operator := [.matMult, .bitAnd, .bitOr, .bitXor, .shiftLeft, .shiftRight]

section

variable {op : Operator} {x y : Double}

theorem onFloats_none (h : op ∈ wholeOnly) : op.onFloats x y = .ok none := by
  obtain rfl | rfl | rfl | rfl | rfl | rfl : op = .matMult ∨ op = .bitAnd ∨ op = .bitOr ∨ op = .bitXor ∨
      op = .shiftLeft ∨ op = .shiftRight := by simpa [wholeOnly] using h
  all_goals rfl

theorem map_some_or_faulty {V : Double → Prop} {x : Except EvalError Double} (h : Arithmetical V x) :
    (∃ z, x.map some = .ok (some z)) ∨ Faulty (x.map some) := by
  obtain ⟨z, hz, -⟩ | ⟨e, he, hkind⟩ := h.ok_or_faulty
  · exact .inl ⟨z, by rw [hz]; rfl⟩
  · exact .inr ⟨e, by rw [he]; rfl, hkind⟩

theorem floatResult_some (hop : op.group? = some .binary) (h : op ∉ wholeOnly) :
    (∃ z, op.floatResult x y = .ok (some z)) ∨ Faulty (op.floatResult x y) := by
  cases op with
  | add | sub | mult => exact .inl ⟨_, rfl⟩
  | div => exact map_some_or_faulty (floatQuotient_arithmetical ..)
  | floorDiv => exact map_some_or_faulty (floatFloorDiv_arithmetical ..)
  | pow => exact map_some_or_faulty (floatPower_arithmetical ..)
  | mod =>
    rw [floatResult]
    split
    · exact .inr (faulty_fault ..)
    · exact .inl ⟨_, rfl⟩
  | matMult | bitAnd | bitOr | bitXor | shiftLeft | shiftRight => exact absurd (by decide) h
  | not | plus | minus | invert | eq | notEq | less | lessEq | greater | greaterEq | same | notSame | member
  | notMember | and | or | other _ => cases hop

/-- The operators that floats have fail on them, or have a float as their result. -/
theorem onFloats_some (hop : op.group? = some .binary) (h : op ∉ wholeOnly) :
    (∃ z, op.onFloats x y = .ok (some (.float z))) ∨ Faulty (op.onFloats x y) := by
  obtain ⟨z, hz⟩ | hfaulty := floatResult_some (x := x) (y := y) hop h
  · have hchecked : op.onFloats x y =
        if !z.isFinite && x.isFinite && y.isFinite then op.fault .outOfRange else .ok (some (.float z)) := by
      rw [onFloats, hz]
      rfl
    rw [hchecked]
    split
    · exact .inr (op.faulty_fault _)
    · exact .inl ⟨z, rfl⟩
  · exact .inr (hfaulty.bind _)

end

/-! ## Strings -/

/-- Repetitions whose counts do not fit the machine, or whose results would be too long to be formed. -/
def TooLong [Host] (t : Text) (count : Int) : Prop := indexLimit ≤ count.toNat ∨ Host.lengthLimit ≤ t.length * count.toNat

/-- A text that consists of so many copies of another one. -/
def CopiesOf (t : Text) (count : Nat) (u : Text) : Prop := u.points = (List.replicate count t.points).flatten

theorem copies_spec (t : Text) (count : Nat) : CopiesOf t count (copies t count) := by
  unfold CopiesOf copies
  split
  · rename_i hempty
    have hnil : t.points = [] := List.isEmpty_iff.1 hempty
    rw [hnil]
    simp [Text.empty]
  · have hrepeat : ∀ n, (n.repeat (· ++ t) .empty).points = (List.replicate n t.points).flatten := by
      intro n
      induction n with
      | zero => rfl
      | succ n ih =>
        rw [Nat.repeat, Text.points_append, ih, List.replicate_succ', List.flatten_append, List.flatten_singleton]
    exact hrepeat count

theorem faulty_repeated [Host] {t : Text} {count : Int} (h : TooLong t count) : Faulty (repeated t count) := by
  unfold repeated
  dsimp only
  by_cases hindex : indexLimit ≤ count.toNat
  · rw [if_pos hindex]
    exact faulty_fault ..
  · rw [if_neg hindex, if_pos (h.resolve_left hindex)]
    split
    · exact faulty_fault ..
    · exact faulty_fault ..

theorem repeated_ok [Host] {t : Text} {count : Int} (h : ¬ TooLong t count) :
    repeated t count = .ok (some (.string (copies t count.toNat))) := by
  obtain ⟨hindex, hlength⟩ := not_or.1 h
  have hmachine : ¬ indexLimit ≤ t.length * count.toNat := fun hle => hlength (le_trans Host.lengthLimit_le hle)
  unfold repeated
  dsimp only
  rw [if_neg hindex, if_neg hmachine, if_neg hlength]

/-! ## All pairs of values -/

/-- Which pairs of kinds an operator is tried on. -/
def triedOn (op : Operator) : Kind → Kind → Bool
  | .string, .string => op == .add
  | .int, .string | .string, .int => op == .mult
  | leftKind, rightKind => leftKind.isNumeric && rightKind.isNumeric

/-- A value that can stand beside a float: an integer only if it can become one. -/
def FitsFloat : Value → Prop
  | .int n => Fits n
  | _ => True

/-- The operator is not supported between two kinds. -/
def Unsupported [Host] (op : Operator) (l r : Value) (leftKind rightKind : Kind) : Prop :=
  op.applyBinary l r = .error (.unsupportedBinary op leftKind rightKind)

section

variable {op : Operator} {l r : Value} {leftKind rightKind : Kind}

theorem applyBinary_some [Host] {v : Value} (hl : l.kind = .ok leftKind) (hr : r.kind = .ok rightKind)
    (h : op.binaryRule l r = .ok (some v)) : op.applyBinary l r = .ok v := by
  rw [applyBinary, hl, hr]
  change (op.binaryRule l r >>= _) = _
  rw [h]
  rfl

theorem unsupported_of_none [Host] (hl : l.kind = .ok leftKind) (hr : r.kind = .ok rightKind)
    (h : op.binaryRule l r = .ok none) : op.Unsupported l r leftKind rightKind := by
  rw [Unsupported, applyBinary, hl, hr]
  change (op.binaryRule l r >>= _) = _
  rw [h]
  rfl

theorem applyBinary_error [Host] {e : EvalError} (hl : l.kind = .ok leftKind) (hr : r.kind = .ok rightKind)
    (h : op.binaryRule l r = .error e) : op.applyBinary l r = .error e := by
  rw [applyBinary, hl, hr]
  change (op.binaryRule l r >>= _) = _
  rw [h]
  rfl

theorem faulty_applyBinary [Host] (hl : l.kind = .ok leftKind) (hr : r.kind = .ok rightKind)
    (h : Faulty (op.binaryRule l r)) : Faulty (op.applyBinary l r) := by
  obtain ⟨e, he, hkind⟩ := h
  exact ⟨e, applyBinary_error hl hr he, hkind⟩

/-- An operator fails as arithmetic does, has a value, or does not support the kinds of its operands. -/
theorem applyBinary_total [Host] (hl : l.kind = .ok leftKind) (hr : r.kind = .ok rightKind) :
    (∃ v, op.applyBinary l r = .ok v) ∨ Faulty (op.applyBinary l r) ∨ op.Unsupported l r leftKind rightKind := by
  obtain ⟨found, hfound, -⟩ | hfaulty := (op.binaryRule_arithmetical l r).ok_or_faulty
  · cases found with
    | none => exact .inr (.inr (unsupported_of_none hl hr hfound))
    | some v => exact .inl ⟨v, applyBinary_some hl hr hfound⟩
  · exact .inr (.inl (faulty_applyBinary hl hr hfaulty))

theorem Unsupported.not_faulty [Host] (h : op.Unsupported l r leftKind rightKind) : ¬ Faulty (op.applyBinary l r) := by
  rintro ⟨e, he, hkind⟩
  rw [h] at he
  cases he
  cases hkind

theorem Unsupported.ne_ok [Host] (h : op.Unsupported l r leftKind rightKind) (v : Value) :
    op.applyBinary l r ≠ .ok v := by
  rw [h]
  nofun

end

/-! ### Two integers -/

section

variable {op : Operator} {a b : Int}

theorem unsupported_ints_iff [Host] (hop : op.group? = some .binary) :
    op.Unsupported (.int a) (.int b) .int .int ↔ op = .matMult := by
  constructor
  · intro h
    by_contra hne
    by_cases hfault : op.IntFault a b
    · exact h.not_faulty (faulty_applyBinary rfl rfl (faulty_onInts hfault))
    · obtain ⟨v, hv, -⟩ := onInts_ok hop hne hfault
      exact h.ne_ok v (applyBinary_some rfl rfl hv)
  · rintro rfl
    exact unsupported_of_none rfl rfl rfl

theorem faulty_ints_iff [Host] (hop : op.group? = some .binary) :
    Faulty (op.applyBinary (.int a) (.int b)) ↔ op.IntFault a b := by
  constructor
  · intro h
    by_contra hfault
    by_cases hne : op = .matMult
    · exact ((unsupported_ints_iff hop).2 hne).not_faulty h
    · obtain ⟨v, hv, -⟩ := onInts_ok hop hne hfault
      have hvalue : op.applyBinary (.int a) (.int b) = .ok v := applyBinary_some rfl rfl hv
      rw [hvalue] at h
      exact Faulty.not_ok h
  · intro hfault
    exact faulty_applyBinary rfl rfl (faulty_onInts hfault)

theorem kind_of_ints [Host] (hop : op.group? = some .binary) {v : Value} (h : op.applyBinary (.int a) (.int b) = .ok v) :
    v.kind = .ok op.intResult := by
  have hfault : ¬ op.IntFault a b := by
    intro hfault
    have hfaulty := (faulty_ints_iff hop).2 hfault
    rw [h] at hfaulty
    exact Faulty.not_ok hfaulty
  have hne : op ≠ .matMult := by
    rintro rfl
    exact (unsupported_ints_iff hop).2 rfl |>.ne_ok v h
  obtain ⟨w, hw, hkind⟩ := onInts_ok hop hne hfault
  have hvalue : op.applyBinary (.int a) (.int b) = .ok w := applyBinary_some rfl rfl hw
  rw [hvalue] at h
  cases h
  exact hkind

end

/-! ### A float among the operands -/

section

variable {op : Operator} {l r : Value} {leftKind rightKind : Kind}

theorem eq_of_isNumeric {v : Value} {kind : Kind} (hv : v.kind = .ok kind) (h : kind.isNumeric = true) :
    (∃ n, v = .int n ∧ kind = .int) ∨ ∃ x, v = .float x ∧ kind = .float := by
  cases v with
  | int n =>
    cases hv
    exact .inl ⟨n, rfl, rfl⟩
  | float x =>
    cases hv
    exact .inr ⟨x, rfl, rfl⟩
  | none | bool _ | imaginary _ _ | string _ | tuple _ | function _ _ _ | cls _ _ | object _ _ =>
    cases hv
    cases h
  | foreign _ => cases hv

/-- Numbers beside a float: the rule is the one for floats as soon as both can become one, and fails otherwise. -/
theorem binaryRule_floats [Host] (hl : l.kind = .ok leftKind) (hr : r.kind = .ok rightKind)
    (hleft : leftKind.isNumeric = true) (hright : rightKind.isNumeric = true)
    (hfloat : leftKind = .float ∨ rightKind = .float) :
    (FitsFloat l → FitsFloat r → ∃ x y, op.binaryRule l r = op.onFloats x y) ∧
      (¬ FitsFloat l ∨ ¬ FitsFloat r → Faulty (op.binaryRule l r)) := by
  obtain ⟨a, rfl, rfl⟩ | ⟨x, rfl, rfl⟩ := eq_of_isNumeric hl hleft
  · obtain ⟨b, rfl, rfl⟩ | ⟨y, rfl, rfl⟩ := eq_of_isNumeric hr hright
    · exact absurd hfloat (by decide)
    · refine ⟨fun hfits _ => ⟨.ofInt a, y, ?_⟩, fun h => ?_⟩
      · rw [binaryRule, toDouble_of_fits hfits]
        rfl
      · exact (faulty_toDouble (h.resolve_right fun hy => hy trivial) op).bind _
  · obtain ⟨b, rfl, rfl⟩ | ⟨y, rfl, rfl⟩ := eq_of_isNumeric hr hright
    · refine ⟨fun _ hfits => ⟨x, .ofInt b, ?_⟩, fun h => ?_⟩
      · rw [binaryRule, toDouble_of_fits hfits]
        rfl
      · exact (faulty_toDouble (h.resolve_left fun hx => hx trivial) op).bind _
    · refine ⟨fun _ _ => ⟨x, y, rfl⟩, fun h => ?_⟩
      obtain hx | hy := h
      · exact absurd trivial hx
      · exact absurd trivial hy

end

/-! ### Strings -/

section

variable {op : Operator} {l r : Value} {leftKind rightKind : Kind}

/-- A repetition, whichever of the two operands is the count. -/
theorem applyBinary_repeated [Host] (n : Int) (s : Text) :
    Operator.mult.applyBinary (.int n) (.string s) = Operator.mult.applyBinary (.string s) (.int n) ∧
      (TooLong s n → Faulty (Operator.mult.applyBinary (.int n) (.string s))) ∧
      (¬ TooLong s n → ∃ t, Operator.mult.applyBinary (.int n) (.string s) = .ok (.string t) ∧
        CopiesOf s n.toNat t) := by
  have hrule : Operator.mult.binaryRule (.int n) (.string s) = repeated s n := rfl
  have hrule' : Operator.mult.binaryRule (.string s) (.int n) = repeated s n := rfl
  have hfailed (e : EvalError) (he : repeated s n = .error e) :
      Operator.mult.applyBinary (.int n) (.string s) = .error e ∧
        Operator.mult.applyBinary (.string s) (.int n) = .error e := by
    rw [he] at hrule hrule'
    exact ⟨applyBinary_error rfl rfl hrule, applyBinary_error rfl rfl hrule'⟩
  by_cases hlong : TooLong s n
  · obtain ⟨e, he, hkind⟩ := faulty_repeated hlong
    obtain ⟨hleft, hright⟩ := hfailed e he
    exact ⟨hleft.trans hright.symm, fun _ => ⟨e, hleft, hkind⟩, fun h => absurd hlong h⟩
  · rw [repeated_ok hlong] at hrule hrule'
    have hleft := applyBinary_some rfl rfl hrule
    have hright := applyBinary_some rfl rfl hrule'
    exact ⟨hleft.trans hright.symm, fun h => absurd h hlong, fun _ => ⟨_, hleft, copies_spec s n.toNat⟩⟩

/-- Between other kinds there is no rule at all. -/
theorem binaryRule_untried [Host] (hl : l.kind = .ok leftKind) (hr : r.kind = .ok rightKind)
    (h : op.triedOn leftKind rightKind = false) : op.binaryRule l r = .ok none := by
  unfold binaryRule
  split
  case h_1 | h_2 | h_3 | h_4 =>
    injection hl with hl
    injection hr with hr
    subst hl hr
    cases h
  case h_5 =>
    injection hl with hl
    injection hr with hr
    subst hl hr
    have hne : op ≠ .add := by simpa [triedOn] using h
    rw [if_neg hne]
  case h_6 | h_7 =>
    injection hl with hl
    injection hr with hr
    subst hl hr
    have hne : op ≠ .mult := by simpa [triedOn] using h
    rw [if_neg hne]
  case h_8 => rfl

end

/-! ### The classification -/

/-- What a binary operator does with two values of the language, by their kinds. -/
structure Classified [Host] (op : Operator) (l r : Value) (leftKind rightKind : Kind) : Prop where
  /-- There is a value, an arithmetic failure, or an error that names the operator and both kinds. -/
  total : (∃ v, op.applyBinary l r = .ok v) ∨ Faulty (op.applyBinary l r) ∨ op.Unsupported l r leftKind rightKind
  /-- Two integers have a float as their quotient and an integer otherwise. -/
  ints : ∀ a b, l = .int a → r = .int b →
    (op.Unsupported l r leftKind rightKind ↔ op = .matMult) ∧ (Faulty (op.applyBinary l r) ↔ op.IntFault a b) ∧
      ∀ v, op.applyBinary l r = .ok v → v.kind = .ok op.intResult
  /-- With a float among two numbers, an integer must become one before the operator is looked at. -/
  floats : leftKind.isNumeric = true → rightKind.isNumeric = true → leftKind = .float ∨ rightKind = .float →
    (¬ FitsFloat l ∨ ¬ FitsFloat r → Faulty (op.applyBinary l r)) ∧
      (FitsFloat l → FitsFloat r →
        (op.Unsupported l r leftKind rightKind ↔ op ∈ wholeOnly) ∧
          (op ∉ wholeOnly → (∃ z, op.applyBinary l r = .ok (.float z)) ∨ Faulty (op.applyBinary l r)))
  /-- Two strings are joined. -/
  joined : ∀ s t, l = .string s → r = .string t → op = .add → op.applyBinary l r = .ok (.string (s ++ t))
  /-- A string is repeated as often as an integer says, on either side of it, unless the result is too long. -/
  repeated : ∀ n s, (l = .int n ∧ r = .string s) ∨ (l = .string s ∧ r = .int n) → op = .mult →
    op.applyBinary l r = op.applyBinary r l ∧ (TooLong s n → Faulty (op.applyBinary l r)) ∧
      (¬ TooLong s n → ∃ t, op.applyBinary l r = .ok (.string t) ∧ CopiesOf s (max n 0).toNat t)
  /-- Nothing else is supported. -/
  others : op.triedOn leftKind rightKind = false → op.Unsupported l r leftKind rightKind

/-- Every binary operator does on every pair of values what the classification says. -/
theorem applyBinary_classified [Host] {op : Operator} (hop : op.group? = some .binary) {l r : Value}
    {leftKind rightKind : Kind} (hl : l.kind = .ok leftKind) (hr : r.kind = .ok rightKind) : op.Classified l r leftKind rightKind where
  total := applyBinary_total hl hr
  ints := by
    rintro a b rfl rfl
    cases hl
    cases hr
    exact ⟨unsupported_ints_iff hop, faulty_ints_iff hop, fun v h => kind_of_ints hop h⟩
  floats hleft hright hfloat := by
    obtain ⟨hrule, hfaulty⟩ : (FitsFloat l → FitsFloat r → ∃ x y, op.binaryRule l r = op.onFloats x y) ∧
        (¬ FitsFloat l ∨ ¬ FitsFloat r → Faulty (op.binaryRule l r)) := binaryRule_floats hl hr hleft hright hfloat
    refine ⟨fun h => faulty_applyBinary hl hr (hfaulty h), fun hfitsLeft hfitsRight => ?_⟩
    obtain ⟨x, y, hrule⟩ := hrule hfitsLeft hfitsRight
    have hsome : op ∉ wholeOnly →
        (∃ z, op.applyBinary l r = .ok (.float z)) ∨ Faulty (op.applyBinary l r) := by
      intro hwhole
      obtain ⟨z, hz⟩ | hfaulty := onFloats_some (x := x) (y := y) hop hwhole
      · exact .inl ⟨z, applyBinary_some hl hr (hrule.trans hz)⟩
      · exact .inr (faulty_applyBinary hl hr (hrule ▸ hfaulty))
    refine ⟨⟨fun h => ?_, fun hwhole => ?_⟩, hsome⟩
    · by_contra hwhole
      obtain ⟨z, hz⟩ | hfaulty := hsome hwhole
      · exact h.ne_ok _ hz
      · exact h.not_faulty hfaulty
    · exact unsupported_of_none hl hr (hrule.trans (onFloats_none hwhole))
  joined := by
    rintro s t rfl rfl rfl
    exact applyBinary_some rfl rfl rfl
  repeated := by
    rintro n s (⟨rfl, rfl⟩ | ⟨rfl, rfl⟩) rfl
    all_goals
      have hcount : (max n 0).toNat = n.toNat := by omega
      obtain ⟨horder, hlong, hshort⟩ := applyBinary_repeated n s
      rw [hcount]
    · exact ⟨horder, hlong, hshort⟩
    · rw [← horder]
      exact ⟨rfl, hlong, hshort⟩
  others h := unsupported_of_none hl hr (binaryRule_untried hl hr h)

section

attribute [local instance] Host.standard

/-- `10 ** 400 & 1.0`: the integer is out of the range of floats, which is what is reported. -/
theorem applyBinary_classified_sample :
    Operator.bitAnd.group? = some .binary ∧ ¬ FitsFloat (.int (10 ^ 400)) ∧
      Faulty (Operator.bitAnd.applyBinary (.int (10 ^ 400)) (.float Double.one)) := by
  have hpow (k : Nat) : 2 ^ (3 * k) ≤ 10 ^ k := by
    calc 2 ^ (3 * k) = (2 ^ 3) ^ k := pow_mul 2 3 k
      _ ≤ 10 ^ k := Nat.pow_le_pow_left (by decide) k
  have hlarge : 2 ^ 1024 ≤ 10 ^ 400 := le_trans (pow_le_pow_right₀ one_le_two (by decide)) (hpow 400)
  have hfits : ¬ FitsFloat (.int (10 ^ 400)) := by
    have hnatAbs (k : Nat) : ((10 : Int) ^ k).natAbs = 10 ^ k := Int.natAbs_pow 10 k
    rw [FitsFloat, Fits, hnatAbs, not_lt]
    exact (Nat.sub_le ..).trans hlarge
  have hclassified : Operator.bitAnd.Classified (.int (10 ^ 400)) (.float Double.one) .int .float :=
    applyBinary_classified rfl rfl rfl
  exact ⟨rfl, hfits, (hclassified.floats rfl rfl (.inr rfl)).1 (.inl hfits)⟩

end

end Operator

end Treewalk
