/-
The bit operators on integers of any sign and size, in infinite two's complement. The digit of an integer at a place is the
floor of its quotient by a power of two, modulo two. The operators have a formula for each combination of signs, and by all
of them they decide each digit apart; an integer is known from its digits, so that the laws of the operators are laws of
digits. A shift to the left multiplies by a power of two, one to the right takes the floor of the quotient by it.
-/
import Mathlib.Data.Int.ModEq
import Mathlib.Data.Rat.Floor
import Treewalk.Proofs.Arithmetic

namespace Treewalk

namespace Bits

/-! ## Digits -/

/-- Whether the binary digit of an integer at a place is one: the floor of `n / 2 ^ i`, modulo two. -/
def digit (n : Int) (i : Nat) : Bool := decide (⌊(n / 2 ^ i : ℚ)⌋ % 2 = 1)

theorem floor_div_two_pow (n : Int) (i : Nat) : ⌊(n / 2 ^ i : ℚ)⌋ = n / 2 ^ i := by
  have hratio : (n / 2 ^ i : ℚ) = n / (2 ^ i : Nat) := by rw [Nat.cast_pow, Nat.cast_two]
  rw [hratio, Rat.floor_intCast_div_natCast, Nat.cast_pow, Nat.cast_two]

theorem toInt_digit (n : Int) (i : Nat) : (digit n i).toInt = ⌊(n / 2 ^ i : ℚ)⌋ % 2 := by
  unfold digit
  rcases Int.emod_two_eq_zero_or_one ⌊(n / 2 ^ i : ℚ)⌋ with h | h
  · simp [h]
  · simp [h]

theorem digit_ofNat (m i : Nat) : digit (.ofNat m) i = m.testBit i := by
  have hdiv : (Int.ofNat m : Int) / 2 ^ i = (m / 2 ^ i : Nat) := by
    push_cast
    rfl
  rw [digit, floor_div_two_pow, hdiv, Nat.testBit_eq_decide_div_mod_eq, decide_eq_decide]
  omega

/-- The digits of a negative number are those of its complement, turned around. -/
theorem digit_negSucc (m i : Nat) : digit (.negSucc m) i = !m.testBit i := by
  have hpow : (0 : Int) < 2 ^ i := pow_pos two_pos i
  have hdiv : (Int.negSucc m : Int) / 2 ^ i = -((m / 2 ^ i : Nat) + 1) := by
    rw [Int.negSucc_ediv m hpow]
    push_cast
    rfl
  rw [digit, floor_div_two_pow, hdiv, Nat.testBit_eq_decide_div_mod_eq, ← decide_not, decide_eq_decide]
  omega

/-! ### An integer is known from its digits -/

/-- The remainder by a power of two grows by one digit with the power. -/
theorem emod_two_pow_succ (n : Int) (i : Nat) : n % 2 ^ (i + 1) = n % 2 ^ i + 2 ^ i * (digit n i).toInt := by
  have hpow : (0 : Int) ≤ 2 ^ i := (pow_pos two_pos i).le
  have hhalf : n / 2 ^ (i + 1) = n / 2 ^ i / 2 := by rw [pow_succ, Int.ediv_ediv_of_nonneg hpow]
  rw [toInt_digit, floor_div_two_pow, Int.emod_def n, Int.emod_def n, Int.emod_def (n / 2 ^ i), hhalf, pow_succ]
  ring

/-- Integers are equal if no power of two tells them apart. -/
theorem eq_of_modEq_two_pow {a b : Int} (h : ∀ i : Nat, a ≡ b [ZMOD 2 ^ i]) : a = b := by
  -- The size of the difference, taken as an exponent, gives a power that is greater than the difference.
  have hdvd := (h (b - a).natAbs).dvd
  have hlt : |b - a| < 2 ^ (b - a).natAbs := by
    rw [Int.abs_eq_natAbs]
    exact_mod_cast Nat.lt_two_pow_self
  have hzero := Int.eq_zero_of_abs_lt_dvd hdvd hlt
  omega

theorem eq_of_digit_eq {a b : Int} (h : ∀ i, digit a i = digit b i) : a = b := by
  refine eq_of_modEq_two_pow fun i => ?_
  change a % 2 ^ i = b % 2 ^ i
  induction i with
  | zero => rw [pow_zero, Int.emod_one, Int.emod_one]
  | succ i ih => rw [emod_two_pow_succ, emod_two_pow_succ, ih, h]

/-- An endless row of digits denotes an integer: it has these digits, and no other integer has them. -/
structure Denotes (digits : Nat → Bool) (n : Int) : Prop where
  digit_eq : ∀ i, digit n i = digits i
  unique : ∀ m, (∀ i, digit m i = digits i) → m = n

theorem denotes_of_digit_eq {digits : Nat → Bool} {n : Int} (h : ∀ i, digit n i = digits i) : Denotes digits n :=
  ⟨h, fun _ hm => eq_of_digit_eq fun i => (hm i).trans (h i).symm⟩

/-! ## The operators on digits -/

theorem digit_complement (n : Int) (i : Nat) : digit (complement n) i = !digit n i := by
  cases n with
  | ofNat n => rw [complement, digit_negSucc, digit_ofNat]
  | negSucc n => rw [complement, digit_negSucc, digit_ofNat, Bool.not_not]

theorem testBit_without (m n i : Nat) : (without m n).testBit i = (m.testBit i && !n.testBit i) := by
  rw [without, Nat.testBit_xor, Nat.testBit_and]
  cases m.testBit i with
  | false => simp
  | true => simp

theorem digit_and (l r : Int) (i : Nat) : digit (and l r) i = (digit l i && digit r i) := by
  cases l with
  | ofNat m =>
    rw [digit_ofNat m]
    cases r with
    | ofNat n => rw [and, digit_ofNat, digit_ofNat, Nat.testBit_and]
    | negSucc n => rw [and, digit_ofNat, digit_negSucc, testBit_without]
  | negSucc m =>
    rw [digit_negSucc m]
    cases r with
    | ofNat n => rw [and, digit_ofNat, digit_ofNat, testBit_without, Bool.and_comm]
    | negSucc n => rw [and, digit_negSucc, digit_negSucc, Nat.testBit_or, Bool.not_or]

theorem digit_or (l r : Int) (i : Nat) : digit (or l r) i = (digit l i || digit r i) := by
  cases l with
  | ofNat m =>
    rw [digit_ofNat m]
    cases r with
    | ofNat n => rw [or, digit_ofNat, digit_ofNat, Nat.testBit_or]
    | negSucc n =>
      rw [or, digit_negSucc, digit_negSucc, testBit_without, Bool.not_and, Bool.not_not, Bool.or_comm]
  | negSucc m =>
    rw [digit_negSucc m]
    cases r with
    | ofNat n => rw [or, digit_negSucc, digit_ofNat, testBit_without, Bool.not_and, Bool.not_not]
    | negSucc n => rw [or, digit_negSucc, digit_negSucc, Nat.testBit_and, Bool.not_and]

theorem digit_xor (l r : Int) (i : Nat) : digit (xor l r) i = (digit l i ^^ digit r i) := by
  cases l with
  | ofNat m =>
    rw [digit_ofNat m]
    cases r with
    | ofNat n => rw [xor, digit_ofNat, digit_ofNat, Nat.testBit_xor]
    | negSucc n => rw [xor, digit_negSucc, digit_negSucc, Nat.testBit_xor, Bool.xor_not]
  | negSucc m =>
    rw [digit_negSucc m]
    cases r with
    | ofNat n => rw [xor, digit_negSucc, digit_ofNat, Nat.testBit_xor, Bool.not_xor]
    | negSucc n => rw [xor, digit_ofNat, digit_negSucc, Nat.testBit_xor, Bool.not_xor_not]

/-! ### Laws -/

theorem complement_eq (n : Int) : complement n = -n - 1 := by
  cases n with
  | ofNat n =>
    rw [complement, Int.negSucc_eq, Int.ofNat_eq_natCast]
    omega
  | negSucc n =>
    rw [complement, Int.negSucc_eq, Int.ofNat_eq_natCast]
    omega

theorem complement_and (l r : Int) : complement (and l r) = or (complement l) (complement r) := by
  refine eq_of_digit_eq fun i => ?_
  rw [digit_complement, digit_and, digit_or, digit_complement, digit_complement, Bool.not_and]

/-- At each place at most one of the two has a digit, so that nothing is carried. -/
theorem xor_add_and (l r : Int) : xor l r + and l r = or l r := by
  have hdigit (x y : Bool) : (x || y).toInt = (x ^^ y).toInt + (x && y).toInt := by
    cases x <;> cases y <;> rfl
  refine eq_of_modEq_two_pow fun i => ?_
  -- The remainders add up without a carry, so that the sum of the lower digits needs no reduction.
  have hlow : xor l r % 2 ^ i + and l r % 2 ^ i = or l r % 2 ^ i := by
    induction i with
    | zero => rw [pow_zero, Int.emod_one, Int.emod_one, Int.emod_one, add_zero]
    | succ i ih =>
      rw [emod_two_pow_succ, emod_two_pow_succ, emod_two_pow_succ, digit_xor, digit_and, digit_or, hdigit, ← ih]
      ring
  change (xor l r + and l r) % 2 ^ i = or l r % 2 ^ i
  rw [Int.add_emod, hlow, Int.emod_emod]

/-! ### Shifts -/

theorem shiftRight_eq_floor (n : Int) (count : Nat) : shiftRight n count = ⌊(n / 2 ^ count : ℚ)⌋ := by
  rw [floor_div_two_pow, shiftRight]
  split
  · rename_i hlog
    have hsize : n.natAbs < 2 ^ count := Nat.lt_log2_self.trans_le (Nat.pow_le_pow_right two_pos hlog)
    have hbound : (n.natAbs : Int) < 2 ^ count := by exact_mod_cast hsize
    -- Past the length of a number its quotient is less than one in size, and its sign decides.
    split
    · rw [Int.ediv_eq_neg_one_of_neg_of_le (by omega) (by omega)]
    · rw [Int.ediv_eq_zero_of_lt (by omega) (by omega)]
  · rw [Int.shiftRight_eq_div_pow, Nat.cast_pow, Nat.cast_two]

theorem shiftLeft_eq_mul (n : Int) (count : Nat) : shiftLeft n count = n * 2 ^ count :=
  Int.shiftLeft_eq n count

theorem shiftRight_shiftLeft (n : Int) (count : Nat) : shiftRight (shiftLeft n count) count = n := by
  rw [shiftRight_eq_floor, floor_div_two_pow, shiftLeft_eq_mul, Int.mul_ediv_cancel _ (pow_ne_zero count two_ne_zero)]

end Bits

/-! ## The operators on values -/

namespace Operator

theorem applyBinary_shiftLeft [Host] {l : Int} {n : Nat} (h : ¬ Operator.shiftLeft.TooLarge l n) :
    Operator.shiftLeft.applyBinary (.int l) (.int n) = .ok (.int (Bits.shiftLeft l n)) := by
  refine applyBinary_some rfl rfl ?_
  have hcount : ¬ (n : Int) < 0 := by omega
  change Operator.shiftLeft.onInts l n = _
  rw [onInts, if_neg hcount, intShiftLeft_ok h, Int.toNat_natCast]

theorem applyBinary_shiftRight [Host] (l : Int) (n : Nat) :
    Operator.shiftRight.applyBinary (.int l) (.int n) = .ok (.int (Bits.shiftRight l n)) := by
  refine applyBinary_some rfl rfl ?_
  have hcount : ¬ (n : Int) < 0 := by omega
  change Operator.shiftRight.onInts l n = _
  rw [onInts, if_neg hcount, Int.toNat_natCast]

/-- What the bit operators do with two integers, and the shifts with the first of them. -/
structure TwosComplement [Host] (l r : Int) : Prop where
  bitAnd : ∃ m, Operator.bitAnd.applyBinary (.int l) (.int r) = .ok (.int m) ∧
    Bits.Denotes (fun i => Bits.digit l i && Bits.digit r i) m
  bitOr : ∃ m, Operator.bitOr.applyBinary (.int l) (.int r) = .ok (.int m) ∧
    Bits.Denotes (fun i => Bits.digit l i || Bits.digit r i) m
  bitXor : ∃ m, Operator.bitXor.applyBinary (.int l) (.int r) = .ok (.int m) ∧
    Bits.Denotes (fun i => Bits.digit l i ^^ Bits.digit r i) m
  invert : ∃ m, Operator.invert.applyUnary (.int l) = .ok (.int m) ∧ Bits.Denotes (fun i => !Bits.digit l i) m
  /-- A shift to the left is a multiplication, unless it is refused. -/
  shiftLeft : ∀ n : Nat, ¬ Operator.shiftLeft.TooLarge l n →
    Operator.shiftLeft.applyBinary (.int l) (.int n) = .ok (.int (l * 2 ^ n))
  /-- Only results with more bits than there may be are refused. -/
  refused : ∀ n : Nat, Operator.shiftLeft.TooLarge l n →
    Faulty (Operator.shiftLeft.applyBinary (.int l) (.int n)) ∧ Host.bitLimit ≤ (l * 2 ^ n).natAbs.log2
  /-- A shift to the right is a floor, however far it goes. -/
  shiftRight : ∀ n : Nat, Operator.shiftRight.applyBinary (.int l) (.int n) = .ok (.int ⌊(l / 2 ^ n : ℚ)⌋)
  /-- The complement of a conjunction is the disjunction of the complements. -/
  invert_bitAnd : ∃ m,
    (do
      let both ← Operator.bitAnd.applyBinary (.int l) (.int r)
      Operator.invert.applyUnary both) = .ok (.int m) ∧
    (do
      let left ← Operator.invert.applyUnary (.int l)
      let right ← Operator.invert.applyUnary (.int r)
      Operator.bitOr.applyBinary left right) = .ok (.int m)
  /-- What exactly one operand has is what any has, less what both have. -/
  bitXor_eq_sub : ∃ m, Operator.bitXor.applyBinary (.int l) (.int r) = .ok (.int m) ∧
    (do
      let any ← Operator.bitOr.applyBinary (.int l) (.int r)
      let both ← Operator.bitAnd.applyBinary (.int l) (.int r)
      Operator.sub.applyBinary any both) = .ok (.int m)
  invert_eq_sub : Operator.invert.applyUnary (.int l) = .ok (.int (-l - 1)) ∧
    (do
      let negative ← Operator.minus.applyUnary (.int l)
      Operator.sub.applyBinary negative (.int 1)) = .ok (.int (-l - 1))
  /-- What was shifted to the left comes back. -/
  shiftRight_shiftLeft : ∀ n : Nat, ¬ Operator.shiftLeft.TooLarge l n →
    (do
      let shifted ← Operator.shiftLeft.applyBinary (.int l) (.int n)
      Operator.shiftRight.applyBinary shifted (.int n)) = .ok (.int l)

theorem twosComplement [Host] (l r : Int) : TwosComplement l r where
  bitAnd := ⟨Bits.and l r, rfl, Bits.denotes_of_digit_eq (Bits.digit_and l r)⟩
  bitOr := ⟨Bits.or l r, rfl, Bits.denotes_of_digit_eq (Bits.digit_or l r)⟩
  bitXor := ⟨Bits.xor l r, rfl, Bits.denotes_of_digit_eq (Bits.digit_xor l r)⟩
  invert := ⟨Bits.complement l, rfl, Bits.denotes_of_digit_eq (Bits.digit_complement l)⟩
  shiftLeft n h := by rw [applyBinary_shiftLeft h, Bits.shiftLeft_eq_mul]
  refused n h := by
    refine ⟨faulty_applyBinary rfl rfl (faulty_onInts (.inr (.inr (.inr h)))), ?_⟩
    obtain ⟨hop, -⟩ | ⟨-, hbits⟩ := h.bits
    · cases hop
    · rwa [Bits.shiftLeft_eq_mul, Int.toNat_natCast] at hbits
  shiftRight n := by rw [applyBinary_shiftRight, Bits.shiftRight_eq_floor]
  invert_bitAnd := by
    refine ⟨Bits.complement (Bits.and l r), rfl, ?_⟩
    rw [Bits.complement_and]
    rfl
  bitXor_eq_sub := by
    refine ⟨Bits.xor l r, rfl, ?_⟩
    rw [eq_sub_of_add_eq (Bits.xor_add_and l r)]
    rfl
  invert_eq_sub := by
    refine ⟨?_, rfl⟩
    rw [← Bits.complement_eq]
    rfl
  shiftRight_shiftLeft n h := by
    rw [applyBinary_shiftLeft h]
    change Operator.shiftRight.applyBinary (.int (Bits.shiftLeft l n)) (.int n) = _
    rw [applyBinary_shiftRight, Bits.shiftRight_shiftLeft]

section

attribute [local instance] Host.standard

/-- A negative number shifted by seventy places, and by too many. -/
theorem twosComplement_sample :
    ¬ Operator.shiftLeft.TooLarge (-6) (70 : Nat) ∧ Operator.shiftLeft.TooLarge (-6) (Host.bitLimit : Nat) ∧
      Operator.shiftLeft.applyBinary (.int (-6)) (.int (70 : Nat)) = .ok (.int (-6 * 2 ^ 70)) ∧
      Faulty (Operator.shiftLeft.applyBinary (.int (-6)) (.int (Host.bitLimit : Nat))) := by
  have hsmall : ¬ Operator.shiftLeft.TooLarge (-6) (70 : Nat) := by
    rintro (⟨hop, -⟩ | ⟨-, -, hlarge⟩)
    · cases hop
    · exact absurd hlarge (by decide)
  have hlarge : Operator.shiftLeft.TooLarge (-6) (Host.bitLimit : Nat) := .inr ⟨rfl, by decide, le_rfl⟩
  exact ⟨hsmall, hlarge, (twosComplement (-6) 11).shiftLeft 70 hsmall, ((twosComplement (-6) 11).refused _ hlarge).1⟩

/-- A negative operand has endlessly many digits that are one. -/
example : Operator.bitAnd.applyBinary (.int (-6)) (.int 11) = .ok (.int 10) := by
  rfl

end

end Operator

end Treewalk
