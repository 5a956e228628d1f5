/-
The whole quotient and the remainder of integers. The quotient is formed as a float and rounded, the divisor possibly
before that, and still its floor is the exact one for dividends of at most 53 bits: rounding moves the quotient by less
than the distance to the next whole number, and a divisor that is rounded itself is greater than the dividend before and
after. The remainder is exact for all integers.
-/
import Mathlib.Data.Rat.Floor
import Treewalk.Proofs.Arithmetic
import Treewalk.Proofs.Equality

namespace Treewalk

/-! ## Whole numbers between two numbers -/

/-- No whole number separates two numbers, or is only one of them. -/
structure Unseparated (x y : ℚ) : Prop where
  lt : ∀ k : Int, x < k ↔ y < k
  le : ∀ k : Int, x ≤ k ↔ y ≤ k

namespace Unseparated

variable {x y z : ℚ}

theorem refl (x : ℚ) : Unseparated x x := ⟨fun _ => Iff.rfl, fun _ => Iff.rfl⟩

theorem trans (h : Unseparated x y) (h' : Unseparated y z) : Unseparated x z :=
  ⟨fun k => (h.lt k).trans (h'.lt k), fun k => (h.le k).trans (h'.le k)⟩

theorem neg (h : Unseparated x y) : Unseparated (-x) (-y) := by
  refine ⟨fun k => ?_, fun k => ?_⟩
  · rw [neg_lt, neg_lt (a := y), ← Int.cast_neg, ← not_le, ← not_le, h.le]
  · rw [neg_le, neg_le (a := y), ← Int.cast_neg, ← not_lt, ← not_lt, h.lt]

theorem floor_eq (h : Unseparated x y) : ⌊x⌋ = ⌊y⌋ := by
  refine Int.floor_eq_iff.2 ⟨?_, ?_⟩
  · rw [← not_lt, h.lt, not_lt]
    exact Int.floor_le y
  · have hnext : y < ((⌊y⌋ + 1 : Int) : ℚ) := by
      rw [Int.cast_add, Int.cast_one]
      exact Int.lt_floor_add_one y
    rw [← h.lt, Int.cast_add, Int.cast_one] at hnext
    exact hnext

theorem of_sides (h : ∀ k : Int, (y < k → x < k) ∧ (y = k → x = k) ∧ (k < y → k < x)) : Unseparated x y := by
  refine ⟨fun k => ?_, fun k => ?_⟩
  all_goals
    obtain ⟨hlt, heq, hgt⟩ := h k
    rcases lt_trichotomy y k with hy | hy | hy
  · exact iff_of_true (hlt hy) hy
  · exact iff_of_false (heq hy).not_lt hy.not_lt
  · exact iff_of_false (hgt hy).not_gt hy.not_gt
  · exact iff_of_true (hlt hy).le hy.le
  · exact iff_of_true (heq hy).le hy.le
  · exact iff_of_false (hgt hy).not_ge hy.not_ge

/-- Only natural numbers can separate numbers that are not negative. -/
theorem of_nonneg (hx : 0 ≤ x) (hy : 0 ≤ y)
    (h : ∀ k : Nat, (y < k → x < k) ∧ (y = k → x = k) ∧ (k < y → k < x)) : Unseparated x y := by
  refine of_sides fun k => ?_
  rcases le_or_gt 0 k with hk | hk
  · lift k to Nat using hk
    exact_mod_cast h k
  · have hk' : (k : ℚ) < 0 := by exact_mod_cast hk
    exact ⟨fun h => absurd (h.trans hk') hy.not_gt, fun h => absurd (h ▸ hk') hy.not_gt, fun _ => hk'.trans_le hx⟩

/-- A ratio of natural numbers keeps its place under a change that is less than the distance to the next whole number, if
it does not change a whole number itself. -/
theorem of_near {a b : Nat} (hb : 0 < b) (hx : 0 ≤ x) (hnear : |x - a / b| < 1 / b)
    (hexact : ∀ k : Nat, (a / b : ℚ) = k → x = k) : Unseparated x (a / b) := by
  have hb' : (0 : ℚ) < b := by exact_mod_cast hb
  obtain ⟨hbelow, habove⟩ := abs_lt.1 hnear
  refine of_nonneg hx (by positivity) fun k => ⟨fun h => ?_, hexact k, fun h => ?_⟩
  · rw [div_lt_iff₀ hb'] at h
    have hstep : (a + 1 : ℚ) ≤ k * b := by exact_mod_cast h
    calc x < a / b + 1 / b := by linarith
      _ = (a + 1) / b := by rw [add_div]
      _ ≤ k := by rwa [div_le_iff₀ hb']
  · rw [lt_div_iff₀ hb'] at h
    have hstep : (k * b + 1 : ℚ) ≤ a := by exact_mod_cast h
    calc (k : ℚ) ≤ (a - 1) / b := by
          rw [le_div_iff₀ hb']
          linarith
      _ = a / b - 1 / b := by rw [sub_div]
      _ < x := by linarith

/-- All ratios of a natural number to greater ones are at the same place. -/
theorem of_lt {a b c : Nat} (hb : a < b) (hc : a < c) : Unseparated (a / b) (a / c) := by
  have hone {d : Nat} (hd : a < d) : (a / d : ℚ) < 1 := by
    have hpos : (0 : ℚ) < d := by exact_mod_cast Nat.zero_lt_of_lt hd
    rw [div_lt_one hpos]
    exact_mod_cast hd
  refine of_nonneg (by positivity) (by positivity) fun k => ?_
  rcases Nat.eq_zero_or_pos k with rfl | hk
  · rcases Nat.eq_zero_or_pos a with rfl | ha
    · rw [Nat.cast_zero, zero_div, zero_div]
      exact ⟨id, id, id⟩
    · have ha' : (0 : ℚ) < a := by exact_mod_cast ha
      have hpos {d : Nat} (hd : a < d) : (0 : ℚ) < a / d :=
        div_pos ha' (by exact_mod_cast Nat.zero_lt_of_lt hd)
      rw [Nat.cast_zero]
      exact ⟨fun h => absurd h (hpos hc).not_gt, fun h => absurd h (hpos hc).ne', fun _ => hpos hb⟩
  · have hk' : (1 : ℚ) ≤ k := by exact_mod_cast hk
    exact ⟨fun _ => (hone hb).trans_le hk', fun h => absurd (h ▸ hone hc) hk'.not_gt,
      fun h => absurd (h.trans (hone hc)) hk'.not_gt⟩

end Unseparated

/-! ## Rounded quotients -/

namespace Double

theorem two_mul_leadingBit : ((2 * leadingBit : Nat) : ℚ) = 2 ^ (53 : Int) := by
  norm_num [leadingBit]

section

variable {num den a b : Nat} {size : Int}

/-- A quotient of integers, the dividend of at most 53 bits, is rounded by less than the distance to the next whole
number. -/
theorem two_zpow_exponentOf_lt (hnum : 0 < num) (hden : 0 < den) (hratio : (num / den : ℚ) = a / b)
    (ha : a < 2 * leadingBit) (hb : 0 < b) (hsize : (b : ℚ) ≤ 2 ^ size) (hrange : size ≤ 1074) :
    (2 : ℚ) ^ (exponentOf num den - 1) < 1 / b := by
  have hb' : (0 : ℚ) < b := by exact_mod_cast hb
  rw [lt_div_iff₀ hb', exponentOf]
  rcases le_total (floorLog2 num den - 52) leastExponent with hexp | hexp
  · -- Where exponents end, a unit is smaller than any part of a divisor.
    have hneg : leastExponent - 1 + size < 0 := by
      unfold leastExponent
      omega
    rw [max_eq_right hexp]
    calc (2 : ℚ) ^ (leastExponent - 1) * b ≤ 2 ^ (leastExponent - 1) * 2 ^ size := by gcongr
      _ = 2 ^ (leastExponent - 1 + size) := by rw [two_zpow_add]
      _ < 2 ^ (0 : Int) := zpow_lt_zpow_right₀ one_lt_two hneg
      _ = 1 := zpow_zero 2
  · -- Elsewhere a unit is smaller than one part of the divisor because the dividend has no more bits than a significand.
    have hlog : (2 : ℚ) ^ floorLog2 num den * b ≤ a := by
      rw [← le_div_iff₀ hb', ← hratio]
      exact (floorLog2_spec hnum hden).1
    have ha' : (a : ℚ) < 2 ^ (53 : Int) := by
      rw [← two_mul_leadingBit]
      exact_mod_cast ha
    rw [max_eq_left hexp]
    calc (2 : ℚ) ^ (floorLog2 num den - 52 - 1) * b = 2 ^ floorLog2 num den * b * 2 ^ (-53 : Int) := by
          rw [mul_right_comm, ← two_zpow_add]
          congr 2
          omega
      _ ≤ a * 2 ^ (-53 : Int) := by gcongr
      _ < 2 ^ (53 : Int) * 2 ^ (-53 : Int) := by gcongr
      _ = 1 := by rw [← two_zpow_add]; rfl

/-- A quotient by a natural number is not greater than the dividend, and so in the finite range. -/
theorem isFinite_of_ratio (negative : Bool) (hden : 0 < den) (hratio : (num / den : ℚ) = a / b)
    (ha : a < 2 * leadingBit) (hb : 0 < b) : (ofRatio negative num den).isFinite = true := by
  refine isFinite_ofRatio negative hden ?_
  calc (num / den : ℚ) = a / b := hratio
    _ ≤ a := div_le_self (by positivity) (by exact_mod_cast hb)
    _ ≤ fullSignificand := by exact_mod_cast Nat.le_sub_one_of_lt ha
    _ ≤ fullSignificand * 2 ^ greatestExponent :=
      le_mul_of_one_le_right (by positivity) (one_le_zpow₀ one_le_two (by decide))

/-- Such a quotient is rounded to a number at the same place among the whole numbers. -/
theorem ofRatio_unseparated (negative : Bool) (hden : 0 < den) (hratio : (num / den : ℚ) = a / b)
    (ha : a < 2 * leadingBit) (hb : 0 < b) (hsize : (b : ℚ) ≤ 2 ^ size) (hrange : size ≤ 1074) :
    ∃ m e, ∃ hshape : Canonical m e, ofRatio negative num den = .finite negative m e hshape ∧
      Unseparated (m * 2 ^ e) (a / b) := by
  obtain ⟨m, e, -, hrounded, hnear, hof⟩ := ofRatio_near negative num hden
  have hb' : (0 : ℚ) < b := by exact_mod_cast hb
  have hshape : Canonical m e := by
    by_contra hnot
    have hof' := isFinite_of_ratio negative hden hratio ha hb
    rw [hof, dif_neg hnot] at hof'
    cases hof'
  rw [hratio] at hrounded hnear
  rw [dif_pos hshape] at hof
  have hexact (k : Nat) (hk : (a / b : ℚ) = k) : (m * 2 ^ e : ℚ) = k := by
    have hle : k ≤ a := by
      rw [div_eq_iff hb'.ne'] at hk
      have hprod : a = k * b := by exact_mod_cast hk
      rw [hprod]
      exact Nat.le_mul_of_pos_right k hb
    exact hrounded.eq_natCast (hle.trans ha.le) hk
  refine ⟨m, e, hshape, hof, .of_near hb (by positivity) ?_ hexact⟩
  rcases Nat.eq_zero_or_pos num with rfl | hnum
  · rw [Nat.cast_zero, zero_div] at hratio
    have hzero : (a / b : ℚ) = (0 : Nat) := hratio.symm.trans Nat.cast_zero.symm
    rw [hexact 0 hzero, hzero, sub_self, abs_zero]
    positivity
  · exact hnear.trans_lt (two_zpow_exponentOf_lt hnum hden hratio ha hb hsize hrange)

end

/-! ### Operands -/

/-- Numbers of more than 53 bits have no binary places. -/
theorem Shaped.exponent_nonneg {m : Nat} {e : Int} (h : Shaped m e)
    (hge : ((2 * leadingBit : Nat) : ℚ) ≤ m * 2 ^ e) : 0 ≤ e := by
  by_contra hneg
  have hunit : (2 : ℚ) ^ e ≤ 1 := zpow_le_one_of_nonpos₀ one_le_two (by omega)
  have hle : (m * 2 ^ e : ℚ) ≤ m := mul_le_of_le_one_right (Nat.cast_nonneg m) hunit
  have hlt : (m : ℚ) < (2 * leadingBit : Nat) := by exact_mod_cast h.lt
  exact absurd (hge.trans hle) hlt.not_ge

/-- An integer as a float: its size is a natural number, the same for at most 53 bits, and beyond that it has more. -/
theorem ofInt_size {n : Int} (h : (ofInt n).isFinite = true) :
    ∃ m e, ∃ hshape : Canonical m e, ∃ size : Nat, ofInt n = .finite (decide (n < 0)) m e hshape ∧ (m * 2 ^ e : ℚ) = size ∧
      (size : ℚ) ≤ 2 ^ (53 + greatestExponent) ∧ (n.natAbs ≤ 2 * leadingBit → size = n.natAbs) ∧
      (2 * leadingBit ≤ n.natAbs → 2 * leadingBit ≤ size) := by
  obtain ⟨m, e, hshape, hof, hrounded⟩ := ofInt_rounded h
  have hbound : (m * 2 ^ e : ℚ) ≤ 2 ^ (53 + greatestExponent) := by
    rw [two_zpow_add, ← two_mul_leadingBit]
    gcongr
    · exact hshape.lt.le
    · exact one_le_two
    · exact hshape.greatest
  rcases le_or_gt n.natAbs (2 * leadingBit) with hsmall | hlarge
  · have hexact := hrounded.eq_natCast hsmall rfl
    exact ⟨m, e, hshape, n.natAbs, hof, hexact, hexact ▸ hbound, fun _ => rfl, id⟩
  · have hge : ((2 * leadingBit : Nat) : ℚ) ≤ m * 2 ^ e :=
      hrounded.natCast_le le_rfl (by exact_mod_cast hlarge.le)
    have hexp := hshape.exponent_nonneg hge
    have hwhole : (m * 2 ^ e : ℚ) = (m * 2 ^ e.toNat : Nat) := by
      rw [← two_zpow_toNat hexp, zpow_natCast]
      push_cast
      rfl
    refine ⟨m, e, hshape, m * 2 ^ e.toNat, hof, hwhole, hwhole ▸ hbound, fun hle => absurd hle hlarge.not_ge, fun _ => ?_⟩
    rw [hwhole] at hge
    exact_mod_cast hge

/-- The quotient of two integers as floats, the dividend of at most 53 bits, is at the same place among the whole numbers
as their quotient. -/
theorem div_unseparated {l r : Int} (hl : l.natAbs < 2 * leadingBit) (hleft : (ofInt l).isFinite = true)
    (hright : (ofInt r).isFinite = true) (hne : r ≠ 0) :
    ∃ m e, ∃ hshape : Canonical m e, (ofInt l).div (ofInt r) = .finite (decide (l < 0) != decide (r < 0)) m e hshape ∧
      Unseparated (m * 2 ^ e) (l.natAbs / r.natAbs) := by
  obtain ⟨m, e, hshape, a, hofLeft, hm, -, hexact, -⟩ := ofInt_size hleft
  obtain ⟨n, f, hshape', b, hofRight, hn, hsize, hsmall, hlarge⟩ := ofInt_size hright
  obtain rfl : a = l.natAbs := hexact hl.le
  have hsizePos : 0 < r.natAbs := Int.natAbs_pos.2 hne
  have hb : 0 < b := by
    rcases le_or_gt r.natAbs (2 * leadingBit) with hle | hgt
    · rwa [hsmall hle]
    · exact (Nat.zero_lt_of_lt hl).trans_le (hlarge hgt.le)
  have hpos : 0 < n := by
    have hprod : (0 : ℚ) < n * 2 ^ f := by
      rw [hn]
      exact_mod_cast hb
    exact_mod_cast (mul_pos_iff_of_pos_right (two_zpow_pos f)).1 hprod
  obtain ⟨num, den, hden, hdiv, hratio⟩ :=
    div_eq_ofRatio (decide (l < 0)) (decide (r < 0)) hshape hshape' hpos
  rw [hm, hn] at hratio
  obtain ⟨m', e', hquot, hof, hplace⟩ :=
    ofRatio_unseparated (decide (l < 0) != decide (r < 0)) hden hratio hl hb hsize (by decide)
  refine ⟨m', e', hquot, ?_, hplace.trans ?_⟩
  · rw [hofLeft, hofRight, hdiv, hof]
  · rcases le_or_gt r.natAbs (2 * leadingBit) with hle | hgt
    · rw [hsmall hle]
      exact .refl _
    · exact .of_lt (hl.trans_le (hlarge hgt.le)) (hl.trans hgt)

/-! ### Signs and floors -/

/-- A quotient of integers by the sizes of the operands. -/
theorem div_eq_signed (l r : Int) : (l / r : ℚ) =
    if decide (l < 0) != decide (r < 0) then -(l.natAbs / r.natAbs : ℚ) else l.natAbs / r.natAbs := by
  have hneg {n : Int} (h : n < 0) : (n : ℚ) = -n.natAbs := by
    rw [Nat.cast_natAbs, abs_of_neg h, Int.cast_neg, neg_neg]
  have hpos {n : Int} (h : ¬ n < 0) : (n : ℚ) = n.natAbs := by
    rw [Nat.cast_natAbs, abs_of_nonneg (not_lt.1 h)]
  by_cases hl : l < 0 <;> by_cases hr : r < 0
  · rw [decide_eq_true hl, decide_eq_true hr, hneg hl, hneg hr, neg_div_neg_eq]
    rfl
  · rw [decide_eq_true hl, decide_eq_false hr, hneg hl, hpos hr, neg_div]
    rfl
  · rw [decide_eq_false hl, decide_eq_true hr, hpos hl, hneg hr, div_neg]
    rfl
  · rw [decide_eq_false hl, decide_eq_false hr, hpos hl, hpos hr]
    rfl

theorem rational_eq_signed (negative : Bool) (m : Nat) (e : Int) :
    rational negative m e = if negative then -(m * 2 ^ e : ℚ) else m * 2 ^ e := by
  cases negative with
  | false => rfl
  | true => exact neg_mul ..

theorem floor?_finite (negative : Bool) {m : Nat} {e : Int} (h : Canonical m e) :
    floor? (.finite negative m e h) = some ⌊rational negative m e⌋ := by
  have hsigned : ((if negative then -(m : Int) else m : Int) : ℚ) = if negative then -(m : ℚ) else m := by
    cases negative with
    | false => rfl
    | true => exact Int.cast_neg _
  rw [floor?, rational, ← hsigned, Option.some_inj]
  generalize (if negative then -(m : Int) else m) = signed
  split
  · rename_i he
    have hwhole : (signed * 2 ^ e : ℚ) = (signed * 2 ^ e.toNat : Int) := by
      rw [← two_zpow_toNat he, zpow_natCast]
      push_cast
      rfl
    rw [hwhole, Int.floor_intCast, Int.shiftLeft_eq]
  · rename_i he
    have hratio : (signed * 2 ^ e : ℚ) = signed / (2 ^ (-e).toNat : Nat) := by
      rw [Nat.cast_pow, Nat.cast_two, ← zpow_natCast, Int.toNat_of_nonneg (by omega), zpow_neg, div_inv_eq_mul]
    rw [hratio, Rat.floor_intCast_div_natCast, Nat.one_shiftLeft, Int.fdiv_eq_ediv_of_nonneg _ (Int.natCast_nonneg _)]

/-- The floor of the rounded quotient is that of the exact one. -/
theorem floor?_div {l r : Int} (hl : l.natAbs < 2 * leadingBit) (hleft : (ofInt l).isFinite = true)
    (hright : (ofInt r).isFinite = true) (hne : r ≠ 0) :
    ((ofInt l).div (ofInt r)).floor? = some ⌊(l / r : ℚ)⌋ := by
  obtain ⟨m, e, hshape, hdiv, hplace⟩ := div_unseparated hl hleft hright hne
  rw [hdiv, floor?_finite, rational_eq_signed, div_eq_signed, Option.some_inj]
  cases decide (l < 0) != decide (r < 0) with
  | false => exact hplace.floor_eq
  | true => exact hplace.neg.floor_eq

end Double

/-! ## Quotient and remainder -/

namespace Operator

/-- The remainder by a divisor that is not zero: between zero and the divisor, and what is left is a multiple of it. -/
structure Remainder (l r m : Int) : Prop where
  dvd : r ∣ l - m
  range : (0 ≤ m ∧ m < r) ∨ (r < m ∧ m ≤ 0)

theorem remainder_fmod (l : Int) {r : Int} (hne : r ≠ 0) : Remainder l r (l.fmod r) := by
  refine ⟨Int.dvd_self_sub_fmod .., ?_⟩
  rcases lt_or_gt_of_ne hne with hneg | hpos
  · -- The case of a positive divisor, turned around.
    have hturn : l.fmod r = -((-l).fmod (-r)) := by rw [Int.neg_fmod_neg, neg_neg]
    have hpos : 0 < -r := by omega
    have hnonneg := Int.fmod_nonneg_of_pos (-l) hpos
    have hlt := Int.fmod_lt_of_pos (-l) hpos
    refine .inr ?_
    omega
  · exact .inl ⟨Int.fmod_nonneg_of_pos l hpos, Int.fmod_lt_of_pos l hpos⟩

/-- The multiple of the divisor that the remainder leaves is that of the exact floor. -/
theorem Remainder.floor_mul_add {l r m : Int} (h : Remainder l r m) : ⌊(l / r : ℚ)⌋ * r + m = l := by
  obtain ⟨k, hk⟩ := h.dvd
  have hl : (l : ℚ) = k * r + m := by
    have hsplit : l = k * r + m := by rw [mul_comm, ← hk, sub_add_cancel]
    exact_mod_cast hsplit
  have hfloor : ⌊(l / r : ℚ)⌋ = k := by
    rw [Int.floor_eq_iff, hl]
    rcases h.range with ⟨hzero, hm⟩ | ⟨hm, hzero⟩
    · have hr : (0 : ℚ) < r := by exact_mod_cast hzero.trans_lt hm
      rw [le_div_iff₀ hr, div_lt_iff₀ hr, add_one_mul]
      exact ⟨le_add_of_nonneg_right (by exact_mod_cast hzero), add_lt_add_right (by exact_mod_cast hm) _⟩
    · have hr : (r : ℚ) < 0 := by exact_mod_cast hm.trans_le hzero
      rw [le_div_iff_of_neg hr, div_lt_iff_of_neg hr, add_one_mul]
      exact ⟨add_le_of_nonpos_right (by exact_mod_cast hzero), add_lt_add_right (by exact_mod_cast hm) _⟩
  rw [hfloor, mul_comm, ← hk, sub_add_cancel]

theorem applyBinary_mod [Host] (l : Int) {r : Int} (hne : r ≠ 0) :
    Operator.mod.applyBinary (.int l) (.int r) = .ok (.int (l.fmod r)) := by
  refine applyBinary_some rfl rfl ?_
  exact if_neg hne

theorem applyBinary_floorDiv [Host] {l r : Int} (hl : l.natAbs < 2 ^ 53) (hr : Fits r) (hne : r ≠ 0) :
    Operator.floorDiv.applyBinary (.int l) (.int r) = .ok (.int ⌊(l / r : ℚ)⌋) := by
  have hfits : Fits l := fits_of_lt_pow (by decide) hl
  have hfloor := Double.floor?_div hl ((Double.isFinite_ofInt_iff l).2 hfits) ((Double.isFinite_ofInt_iff r).2 hr) hne
  refine applyBinary_some rfl rfl ?_
  change (do return some (Value.int (← Operator.floorDiv.floorOf (← Operator.floorDiv.intQuotient l r)))) = _
  rw [intQuotient_ok hfits hr hne]
  change (do return some (Value.int (← Operator.floorDiv.floorOf ((Double.ofInt l).div (.ofInt r))))) = _
  rw [floorOf, hfloor]
  rfl

/-- What the whole quotient and the remainder of two integers are. -/
structure FloorDivision [Host] (l r : Int) : Prop where
  /-- The remainder exists for all integers. -/
  remainder : ∃ m, Operator.mod.applyBinary (.int l) (.int r) = .ok (.int m) ∧ Remainder l r m
  /-- The quotient is exact for dividends of less than 54 bits and divisors that can become floats. -/
  quotient : l.natAbs < 2 ^ 53 → Fits r →
    Operator.floorDiv.applyBinary (.int l) (.int r) = .ok (.int ⌊(l / r : ℚ)⌋)
  /-- Then the dividend is the quotient times the divisor, and the remainder. -/
  whole : l.natAbs < 2 ^ 53 → Fits r →
    (do
      let quotient ← Operator.floorDiv.applyBinary (.int l) (.int r)
      let multiple ← Operator.mult.applyBinary quotient (.int r)
      let rest ← Operator.mod.applyBinary (.int l) (.int r)
      Operator.add.applyBinary multiple rest) = .ok (.int l)

theorem floorDivision [Host] (l : Int) {r : Int} (hne : r ≠ 0) : FloorDivision l r where
  remainder := ⟨_, applyBinary_mod l hne, remainder_fmod l hne⟩
  quotient hl hr := applyBinary_floorDiv hl hr hne
  whole hl hr := by
    rw [applyBinary_floorDiv hl hr hne, applyBinary_mod l hne]
    change Except.ok (Value.int (⌊(l / r : ℚ)⌋ * r + l.fmod r)) = _
    rw [(remainder_fmod l hne).floor_mul_add]

section

attribute [local instance] Host.standard

/-- The divisor is rounded to a smaller number, and the quotient is not. -/
theorem floorDivision_sample :
    (9007199254740993 : Int) ≠ 0 ∧ (-9007199254740991 : Int).natAbs < 2 ^ 53 ∧ Fits 9007199254740993 ∧
      Operator.floorDiv.applyBinary (.int (-9007199254740991)) (.int 9007199254740993) = .ok (.int (-1)) := by
  have hl : (-9007199254740991 : Int).natAbs < 2 ^ 53 := by decide
  have hr : Fits 9007199254740993 := fits_of_lt_pow (k := 54) (by decide) (by decide)
  have hfloor : ⌊((-9007199254740991 : Int) / (9007199254740993 : Int) : ℚ)⌋ = -1 := by
    norm_num [Int.floor_eq_iff]
  refine ⟨by decide, hl, hr, ?_⟩
  rw [← hfloor]
  exact (floorDivision (-9007199254740991) (by decide)).quotient hl hr

/-- One more bit in the dividend is too many. -/
example : Operator.floorDiv.applyBinary (.int 9007199254740992) (.int 9007199254740993) = .ok (.int 1) := by
  rfl

end

end Operator

end Treewalk
