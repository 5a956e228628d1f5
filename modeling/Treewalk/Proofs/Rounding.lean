/-
Rounding, seen from the rational numbers that are rounded. A positive number is written with the exponent that gives
its significand 53 bits, or with the least exponent if it is too small for that, and is changed by at most half a unit
there. So the result of rounding has the shape of a binary64 number, a number up to the largest finite one does not become
infinite, and a number that is at least one stays at least one. Integers that can be converted are therefore divided
without leaving the finite range; they are those on this side of the midpoint between the largest finite number and the
power of two behind it.
-/
import Mathlib.Algebra.Order.Field.Power
import Mathlib.Algebra.Order.Ring.Abs
import Mathlib.Tactic.Linarith
import Mathlib.Tactic.Positivity
import Mathlib.Tactic.Ring
import Treewalk.Number.Double

namespace Treewalk.Double

/-! ## Powers of two -/

theorem two_zpow_pos (k : Int) : (0 : ℚ) < 2 ^ k := by positivity

theorem two_zpow_le {a b : Int} : (2 : ℚ) ^ a ≤ 2 ^ b ↔ a ≤ b := zpow_le_zpow_iff_right₀ (by norm_num)

theorem two_zpow_add (a b : Int) : (2 : ℚ) ^ (a + b) = 2 ^ a * 2 ^ b := zpow_add₀ (by norm_num) a b

theorem shiftLeft_rat (n k : Nat) : ((n <<< k : Nat) : ℚ) = n * 2 ^ (k : Int) := by
  rw [Nat.shiftLeft_eq, zpow_natCast]
  push_cast
  rfl

theorem two_zpow_toNat {e : Int} (h : 0 ≤ e) : (2 : ℚ) ^ (e.toNat : Int) = 2 ^ e := by
  rw [Int.toNat_of_nonneg h]

theorem atLeastPow_iff {num den : Nat} (hden : 0 < den) (k : Int) :
    atLeastPow num den k = true ↔ (2 : ℚ) ^ k ≤ num / den := by
  have hden' : (0 : ℚ) < den := by exact_mod_cast hden
  rw [le_div_iff₀ hden', atLeastPow]
  split
  · rename_i hk
    rw [decide_eq_true_iff, ← Nat.cast_le (α := ℚ), shiftLeft_rat, two_zpow_toNat hk, mul_comm]
  · rename_i hk
    have hk' : 0 ≤ -k := by omega
    rw [decide_eq_true_iff, ← Nat.cast_le (α := ℚ), shiftLeft_rat, two_zpow_toNat hk', zpow_neg,
      ← div_eq_mul_inv, le_div_iff₀ (two_zpow_pos k), mul_comm]

theorem log2_spec {n : Nat} (hn : 0 < n) : (2 : ℚ) ^ (n.log2 : Int) ≤ n ∧ (n : ℚ) < 2 ^ ((n.log2 : Int) + 1) := by
  constructor
  · rw [zpow_natCast]
    exact_mod_cast Nat.log2_self_le hn.ne'
  · have hlt : n < 2 ^ (n.log2 + 1) := Nat.lt_log2_self
    exact_mod_cast hlt

/-- The power of two below a positive ratio, and the next one above it. -/
theorem floorLog2_spec {num den : Nat} (hnum : 0 < num) (hden : 0 < den) :
    (2 : ℚ) ^ floorLog2 num den ≤ num / den ∧ (num / den : ℚ) < 2 ^ (floorLog2 num den + 1) := by
  have hden' : (0 : ℚ) < den := by exact_mod_cast hden
  obtain ⟨hnumLe, hnumLt⟩ := log2_spec hnum
  obtain ⟨hdenLe, hdenLt⟩ := log2_spec hden
  let a : Int := num.log2
  let b : Int := den.log2
  have habove : (num / den : ℚ) < 2 ^ (a - b + 1) := by
    rw [div_lt_iff₀ hden']
    calc (num : ℚ) < 2 ^ (a + 1) := hnumLt
      _ = 2 ^ (a - b + 1) * 2 ^ b := by rw [← two_zpow_add]; congr 1; omega
      _ ≤ 2 ^ (a - b + 1) * den := by gcongr
  have hbelow : (2 : ℚ) ^ (a - b - 1) ≤ num / den := by
    rw [le_div_iff₀ hden']
    calc (2 : ℚ) ^ (a - b - 1) * den ≤ 2 ^ (a - b - 1) * 2 ^ (b + 1) := by gcongr
      _ = 2 ^ a := by rw [← two_zpow_add]; congr 1; omega
      _ ≤ num := hnumLe
  have hlog : floorLog2 num den = if atLeastPow num den (a - b) then a - b else a - b - 1 := rfl
  rw [hlog]
  split
  · rename_i hat
    exact ⟨(atLeastPow_iff hden _).1 hat, habove⟩
  · rename_i hat
    refine ⟨hbelow, ?_⟩
    rw [atLeastPow_iff hden] at hat
    rw [Int.sub_add_cancel]
    exact lt_of_not_ge hat

/-! ## Significands -/

theorem halfEven_le {num den n : Nat} (hden : 0 < den) (h : num ≤ n * den) : halfEven num den ≤ n := by
  unfold halfEven
  have hquot : num / den ≤ n := Nat.div_le_of_le_mul (by rwa [Nat.mul_comm])
  rcases Nat.lt_or_eq_of_le hquot with hlt | heq
  · dsimp only
    split <;> omega
  · -- Then there is no rest, and nothing to be rounded up.
    have hrest : num % den = 0 := by
      have hsplit := Nat.div_add_mod num den
      rw [heq, Nat.mul_comm] at hsplit
      omega
    dsimp only
    rw [hrest, if_neg (by omega)]
    exact hquot

theorem le_halfEven {num den n : Nat} (hden : 0 < den) (h : n * den ≤ num) : n ≤ halfEven num den := by
  unfold halfEven
  have hquot : n ≤ num / den := (Nat.le_div_iff_mul_le hden).2 h
  dsimp only
  split <;> omega

/-- A ratio is rounded by at most one half. -/
theorem halfEven_near (num : Nat) {den : Nat} (hden : 0 < den) : |(halfEven num den : ℚ) - num / den| ≤ 1 / 2 := by
  have hden' : (0 : ℚ) < den := by exact_mod_cast hden
  have hsplit : den * (num / den) + num % den = num := Nat.div_add_mod num den
  have hrest : num % den < den := Nat.mod_lt num hden
  have hnear : 2 * num ≤ (2 * halfEven num den + 1) * den ∧ 2 * halfEven num den * den ≤ 2 * num + den := by
    unfold halfEven
    dsimp only
    generalize num / den = q at hsplit ⊢
    generalize num % den = r at hsplit hrest ⊢
    split
    · have hhalf : den ≤ 2 * r := by omega
      constructor <;> linarith
    · have hhalf : 2 * r ≤ den := by omega
      constructor <;> linarith
  obtain ⟨hbelow, habove⟩ := hnear
  have hbelow' : (2 * num : ℚ) ≤ (2 * halfEven num den + 1) * den := by exact_mod_cast hbelow
  have habove' : (2 * halfEven num den * den : ℚ) ≤ 2 * num + den := by exact_mod_cast habove
  rw [← mul_le_mul_iff_of_pos_right hden', ← abs_of_pos hden', ← abs_mul, abs_of_pos hden', sub_mul,
    div_mul_cancel₀ _ hden'.ne', abs_le]
  constructor <;> linarith

/-- The significand of a ratio at some exponent, before a carry. -/
def significandOf (num den : Nat) (e : Int) : Nat :=
  if 0 ≤ e then halfEven num (den <<< e.toNat) else halfEven (num <<< (-e).toNat) den

theorem significandOf_eq (num : Nat) {den : Nat} (hden : 0 < den) (e : Int) :
    ∃ p q : Nat, 0 < q ∧ significandOf num den e = halfEven p q ∧ (p / q : ℚ) * 2 ^ e = num / den := by
  unfold significandOf
  split
  · rename_i he
    refine ⟨num, den <<< e.toNat, Nat.shiftLeft_pos_iff.2 hden, rfl, ?_⟩
    rw [shiftLeft_rat, two_zpow_toNat he, div_mul_eq_mul_div, mul_div_mul_right _ _ (two_zpow_pos e).ne']
  · rename_i he
    have he' : 0 ≤ -e := by omega
    refine ⟨num <<< (-e).toNat, den, hden, rfl, ?_⟩
    rw [shiftLeft_rat, two_zpow_toNat he', div_mul_eq_mul_div, mul_assoc, ← two_zpow_add, neg_add_cancel, zpow_zero,
      mul_one]

theorem significandOf_le {num den n : Nat} {e : Int} (hden : 0 < den) (h : (num / den : ℚ) ≤ n * 2 ^ e) :
    significandOf num den e ≤ n := by
  obtain ⟨p, q, hq, hsig, hratio⟩ := significandOf_eq num hden e
  rw [← hratio, mul_le_mul_iff_of_pos_right (two_zpow_pos e), div_le_iff₀ (by exact_mod_cast hq)] at h
  rw [hsig]
  exact halfEven_le hq (by exact_mod_cast h)

theorem le_significandOf {num den n : Nat} {e : Int} (hden : 0 < den) (h : n * 2 ^ e ≤ (num / den : ℚ)) :
    n ≤ significandOf num den e := by
  obtain ⟨p, q, hq, hsig, hratio⟩ := significandOf_eq num hden e
  rw [← hratio, mul_le_mul_iff_of_pos_right (two_zpow_pos e), le_div_iff₀ (by exact_mod_cast hq)] at h
  rw [hsig]
  exact le_halfEven hq (by exact_mod_cast h)

/-- At some exponent a ratio is rounded by at most one half of a unit. -/
theorem significandOf_near (num : Nat) {den : Nat} (hden : 0 < den) (e : Int) :
    |(significandOf num den e : ℚ) * 2 ^ e - num / den| ≤ 2 ^ (e - 1) := by
  obtain ⟨p, q, hq, hsig, hratio⟩ := significandOf_eq num hden e
  have hhalf : (2 : ℚ) ^ (e - 1) = 1 / 2 * 2 ^ e := by
    rw [zpow_sub_one₀ two_ne_zero, one_div, mul_comm]
  rw [← hratio, ← sub_mul, abs_mul, abs_of_pos (two_zpow_pos e), hhalf, hsig]
  exact mul_le_mul_of_nonneg_right (halfEven_near p hq) (two_zpow_pos e).le

/-! ## Rounded numbers -/

/-- The exponent at which a ratio is rounded. -/
def exponentOf (num den : Nat) : Int := max (floorLog2 num den - 52) leastExponent

theorem ofRatio_eq (negative : Bool) {num : Nat} (hnum : 0 < num) (den : Nat) :
    ofRatio negative num den =
      ofSignificand negative (significandOf num den (exponentOf num den)) (exponentOf num den) := by
  rw [ofRatio, if_neg hnum.ne']
  rfl

theorem leadingBit_rat : (leadingBit : ℚ) = 2 ^ (52 : Int) := by
  norm_num [leadingBit]

/-- A full significand at some exponent. -/
theorem leadingBit_mul (e : Int) : (leadingBit : ℚ) * 2 ^ e = 2 ^ (e + 52) := by
  rw [leadingBit_rat, ← two_zpow_add, add_comm]

theorem significandOf_le_carry {num den : Nat} (hnum : 0 < num) (hden : 0 < den) :
    significandOf num den (exponentOf num den) ≤ 2 * leadingBit := by
  refine significandOf_le hden ?_
  have hexp : floorLog2 num den - 52 ≤ exponentOf num den := le_max_left ..
  calc (num / den : ℚ) ≤ 2 ^ (floorLog2 num den + 1) := (floorLog2_spec hnum hden).2.le
    _ ≤ 2 ^ (exponentOf num den + 52 + 1) := two_zpow_le.2 (by omega)
    _ = ((2 * leadingBit : Nat) : ℚ) * 2 ^ exponentOf num den := by
      rw [two_zpow_add, ← leadingBit_mul]
      push_cast
      ring

/-- Above the least exponent a number is not less than a full significand. -/
theorem leadingBit_mul_le {num den : Nat} (hnum : 0 < num) (hden : 0 < den)
    (h : leastExponent < exponentOf num den) : (leadingBit : ℚ) * 2 ^ exponentOf num den ≤ num / den := by
  have hexp : exponentOf num den = floorLog2 num den - 52 := by
    unfold exponentOf at h ⊢
    omega
  rw [leadingBit_mul, hexp, Int.sub_add_cancel]
  exact (floorLog2_spec hnum hden).1

/-- A rounded number is on the same side of every number that has a significand of its own as the number before. -/
structure Rounded (q : ℚ) (m : Nat) (e : Int) : Prop where
  le : ∀ {n : Nat} {f : Int}, n ≤ 2 * leadingBit → leastExponent ≤ f → q ≤ n * 2 ^ f → (m : ℚ) * 2 ^ e ≤ n * 2 ^ f
  ge : ∀ {n : Nat} {f : Int}, n ≤ 2 * leadingBit → leastExponent ≤ f → n * 2 ^ f ≤ q → (n : ℚ) * 2 ^ f ≤ m * 2 ^ e

section

variable {q : ℚ} {m k : Nat} {e : Int}

theorem Rounded.le_natCast (h : Rounded q m e) (hk : k ≤ 2 * leadingBit) (hq : q ≤ k) : (m * 2 ^ e : ℚ) ≤ k := by
  have hzero : (k : ℚ) * 2 ^ (0 : Int) = k := by rw [zpow_zero, mul_one]
  have hle := h.le hk (by decide) (hq.trans_eq hzero.symm)
  rwa [hzero] at hle

theorem Rounded.natCast_le (h : Rounded q m e) (hk : k ≤ 2 * leadingBit) (hq : k ≤ q) : (k : ℚ) ≤ m * 2 ^ e := by
  have hzero : (k : ℚ) * 2 ^ (0 : Int) = k := by rw [zpow_zero, mul_one]
  have hge := h.ge hk (by decide) (hzero.trans_le hq)
  rwa [hzero] at hge

/-- A natural number of at most 53 bits is not rounded. -/
theorem Rounded.eq_natCast (h : Rounded q m e) (hk : k ≤ 2 * leadingBit) (hq : q = k) : (m * 2 ^ e : ℚ) = k :=
  le_antisymm (h.le_natCast hk hq.le) (h.natCast_le hk hq.ge)

end

/-- A significand at an exponent below that of a ratio is at most a full significand there. -/
theorem mul_le_leadingBit_mul {n : Nat} {e f : Int} (hn : n ≤ 2 * leadingBit) (hf : f < e) :
    (n : ℚ) * 2 ^ f ≤ leadingBit * 2 ^ e := by
  calc (n : ℚ) * 2 ^ f ≤ (2 * leadingBit : Nat) * 2 ^ f := by gcongr
    _ = leadingBit * 2 ^ (f + 1) := by
      rw [two_zpow_add]
      push_cast
      ring
    _ ≤ leadingBit * 2 ^ e := by
      gcongr
      · norm_num
      · omega

/-- A significand at a higher exponent is one at a lower exponent, too. -/
theorem mul_two_zpow_shift (n : Nat) {e f : Int} (hf : e ≤ f) :
    ((n * 2 ^ (f - e).toNat : Nat) : ℚ) * 2 ^ e = n * 2 ^ f := by
  have hshift : ((2 : ℚ) ^ (f - e).toNat) * 2 ^ e = 2 ^ f := by
    rw [← zpow_natCast, Int.toNat_of_nonneg (by omega), ← two_zpow_add, Int.sub_add_cancel]
  push_cast
  rw [mul_assoc, hshift]

theorem significandOf_rounded {num den : Nat} (hnum : 0 < num) (hden : 0 < den) :
    Rounded (num / den) (significandOf num den (exponentOf num den)) (exponentOf num den) := by
  constructor
  · intro n f hn hf hle
    rcases le_or_gt (exponentOf num den) f with hfe | hfe
    · rw [← mul_two_zpow_shift n hfe] at hle ⊢
      gcongr
      exact significandOf_le hden hle
    · -- The bound is then at most the least number with this exponent, and not less than the ratio.
      have hfull := leadingBit_mul_le hnum hden (lt_of_le_of_lt hf hfe)
      have hbound := hle.trans (mul_le_leadingBit_mul hn hfe)
      calc (significandOf num den (exponentOf num den) : ℚ) * 2 ^ exponentOf num den
          ≤ leadingBit * 2 ^ exponentOf num den := by
            gcongr
            exact significandOf_le hden hbound
        _ ≤ num / den := hfull
        _ ≤ n * 2 ^ f := hle
  · intro n f hn hf hle
    rcases le_or_gt (exponentOf num den) f with hfe | hfe
    · rw [← mul_two_zpow_shift n hfe] at hle ⊢
      gcongr
      exact le_significandOf hden hle
    · have hfull := leadingBit_mul_le hnum hden (lt_of_le_of_lt hf hfe)
      refine (mul_le_leadingBit_mul hn hfe).trans ?_
      gcongr
      exact le_significandOf hden hfull

/-- A carry changes the significand and the exponent, and not the number. -/
theorem ofSignificand_shaped (negative : Bool) {m : Nat} {e : Int} (hm : m ≤ 2 * leadingBit) (he : leastExponent ≤ e)
    (hfull : leadingBit ≤ m ∨ e = leastExponent) : ∃ m' e', Shaped m' e' ∧ (m' : ℚ) * 2 ^ e' = m * 2 ^ e ∧
      ofSignificand negative m e = if h : Canonical m' e' then .finite negative m' e' h else .infinite negative := by
  by_cases hcarry : m = 2 * leadingBit
  · refine ⟨leadingBit, e + 1, ⟨by decide, by omega, .inl le_rfl⟩, ?_, ?_⟩
    · rw [hcarry, two_zpow_add]
      push_cast
      ring
    · rw [ofSignificand, if_pos hcarry]
  · refine ⟨m, e, ⟨by omega, he, hfull⟩, rfl, ?_⟩
    rw [ofSignificand, if_neg hcarry]

/-- Rounding gives a rounded number of the shape, at most one half of a unit away, or an infinity if its exponent is too
great. -/
theorem ofRatio_near (negative : Bool) (num : Nat) {den : Nat} (hden : 0 < den) :
    ∃ m e, Shaped m e ∧ Rounded (num / den) m e ∧ |(m * 2 ^ e : ℚ) - num / den| ≤ 2 ^ (exponentOf num den - 1) ∧
      ofRatio negative num den = if h : Canonical m e then .finite negative m e h else .infinite negative := by
  rcases Nat.eq_zero_or_pos num with rfl | hnum
  · refine ⟨0, leastExponent, ⟨by decide, le_rfl, .inr rfl⟩, ⟨fun _ _ _ => ?_, fun _ _ h => ?_⟩, ?_, by rfl⟩
    · rw [Nat.cast_zero, zero_mul]
      positivity
    · rw [Nat.cast_zero, zero_div] at h
      rwa [Nat.cast_zero, zero_mul]
    · rw [Nat.cast_zero, zero_mul, zero_div, sub_zero, abs_zero]
      exact (two_zpow_pos _).le
  · have hleast : leastExponent ≤ exponentOf num den := le_max_right ..
    have hfull : leadingBit ≤ significandOf num den (exponentOf num den) ∨ exponentOf num den = leastExponent := by
      rcases lt_or_eq_of_le hleast with hlt | heq
      · exact .inl (le_significandOf hden (leadingBit_mul_le hnum hden hlt))
      · exact .inr heq.symm
    obtain ⟨m, e, hshaped, hsame, hof⟩ :=
      ofSignificand_shaped negative (significandOf_le_carry hnum hden) hleast hfull
    have hrounded := significandOf_rounded hnum hden
    refine ⟨m, e, hshaped, ⟨fun hn hf hle => ?_, fun hn hf hle => ?_⟩, ?_, ?_⟩
    · rw [hsame]
      exact hrounded.le hn hf hle
    · rw [hsame]
      exact hrounded.ge hn hf hle
    · rw [hsame]
      exact significandOf_near num hden _
    · rw [ofRatio_eq negative hnum, hof]

theorem ofRatio_rounded (negative : Bool) (num : Nat) {den : Nat} (hden : 0 < den) :
    ∃ m e, Shaped m e ∧ Rounded (num / den) m e ∧
      ofRatio negative num den = if h : Canonical m e then .finite negative m e h else .infinite negative := by
  obtain ⟨m, e, hshaped, hrounded, -, hof⟩ := ofRatio_near negative num hden
  exact ⟨m, e, hshaped, hrounded, hof⟩

/-! ## The finite range -/

/-- The largest significand. -/
def fullSignificand : Nat := 2 * leadingBit - 1

/-- Numbers beyond the greatest exponent are larger than the largest finite one. -/
theorem lt_of_greatestExponent_lt {m : Nat} {e : Int} (h : Shaped m e) (he : greatestExponent < e) :
    (fullSignificand : ℚ) * 2 ^ greatestExponent < m * 2 ^ e := by
  have hm : leadingBit ≤ m := h.full.resolve_right fun hleast => by
    rw [hleast] at he
    exact absurd he (by decide)
  calc (fullSignificand : ℚ) * 2 ^ greatestExponent < (2 * leadingBit : Nat) * 2 ^ greatestExponent := by
        gcongr
        decide
    _ = leadingBit * 2 ^ (greatestExponent + 1) := by
      rw [two_zpow_add]
      push_cast
      ring
    _ ≤ m * 2 ^ e := by
      gcongr
      · norm_num
      · omega

theorem Shaped.le_greatest {m : Nat} {e : Int} (h : Shaped m e) (he : e ≤ greatestExponent) :
    (m : ℚ) * 2 ^ e ≤ fullSignificand * 2 ^ greatestExponent := by
  have hm : m ≤ fullSignificand := Nat.le_sub_one_of_lt h.lt
  gcongr
  norm_num

/-- A ratio up to the largest finite number is rounded to a finite one. -/
theorem isFinite_ofRatio (negative : Bool) {num den : Nat} (hden : 0 < den)
    (h : (num / den : ℚ) ≤ fullSignificand * 2 ^ greatestExponent) : (ofRatio negative num den).isFinite = true := by
  obtain ⟨m, e, hshaped, hrounded, hof⟩ := ofRatio_rounded negative num hden
  have hle := hrounded.le (by decide) (by decide) h
  have he : ¬ greatestExponent < e := fun hlt => absurd hle (not_le_of_gt (lt_of_greatestExponent_lt hshaped hlt))
  rw [hof, dif_pos ⟨hshaped, not_lt.1 he⟩]
  rfl

/-! ## Integers and quotients -/

/-- An integer by rounding alone, infinite out of the finite range. -/
def ofInt (n : Int) : Double := ofRatio (decide (n < 0)) n.natAbs 1

theorem ofInt?_eq (n : Int) : ofInt? n = if (ofInt n).isFinite then some (ofInt n) else none := by
  obtain ⟨m, e, -, -, hof⟩ := ofRatio_rounded (decide (n < 0)) n.natAbs Nat.one_pos
  unfold ofInt? ofInt
  rw [hof]
  by_cases h : Canonical m e
  · rw [dif_pos h]
    rfl
  · rw [dif_neg h]
    rfl

theorem ofInt_rounded {n : Int} (h : (ofInt n).isFinite = true) : ∃ m e, ∃ hshape : Canonical m e,
    ofInt n = .finite (decide (n < 0)) m e hshape ∧ Rounded n.natAbs m e := by
  obtain ⟨m, e, -, hrounded, hof⟩ := ofRatio_rounded (decide (n < 0)) n.natAbs Nat.one_pos
  rw [Nat.cast_one, div_one] at hrounded
  by_cases hshape : Canonical m e
  · refine ⟨m, e, hshape, ?_, hrounded⟩
    rw [ofInt, hof, dif_pos hshape]
  · rw [ofInt, hof, dif_neg hshape] at h
    cases h

/-- An integer in the finite range is not rounded below one, unless it is zero. -/
theorem ofInt_of_isFinite {n : Int} (h : (ofInt n).isFinite = true) : ∃ m e, ∃ hshape : Canonical m e,
    ofInt n = .finite (decide (n < 0)) m e hshape ∧ (n ≠ 0 → (1 : ℚ) ≤ m * 2 ^ e) := by
  obtain ⟨m, e, hshape, hof, hrounded⟩ := ofInt_rounded h
  refine ⟨m, e, hshape, hof, fun hn => ?_⟩
  have hone : 1 ≤ n.natAbs := Int.natAbs_pos.2 hn
  have hge : ((1 : Nat) : ℚ) ≤ m * 2 ^ e := hrounded.natCast_le (by decide) (by exact_mod_cast hone)
  rwa [Nat.cast_one] at hge

/-- Finite numbers are divided as a ratio of integers, which is rounded. -/
theorem div_eq_ofRatio (a b : Bool) {m n : Nat} {e f : Int} (hm : Canonical m e) (hn' : Canonical n f) (hn : 0 < n) :
    ∃ num den, 0 < den ∧ div (.finite a m e hm) (.finite b n f hn') = ofRatio (a != b) num den ∧
      (num / den : ℚ) = m * 2 ^ e / (n * 2 ^ f) := by
  rw [div, if_neg hn.ne']
  split
  · rename_i hfe
    refine ⟨_, _, hn, rfl, ?_⟩
    rw [shiftLeft_rat, Int.toNat_of_nonneg (by omega), div_eq_div_iff (by positivity) (by positivity), mul_assoc,
      mul_comm (n : ℚ), ← mul_assoc ((2 : ℚ) ^ (e - f)), ← two_zpow_add, Int.sub_add_cancel, mul_assoc]
  · rename_i hfe
    refine ⟨_, _, Nat.shiftLeft_pos_iff.2 hn, rfl, ?_⟩
    rw [shiftLeft_rat, Int.toNat_of_nonneg (by omega), div_eq_div_iff (by positivity) (by positivity), mul_assoc,
      mul_left_comm ((2 : ℚ) ^ e), ← two_zpow_add, Int.add_comm, Int.sub_add_cancel]

/-- A finite number divided by a finite one that is at least one, in absolute value. -/
theorem isFinite_div (a b : Bool) {m n : Nat} {e f : Int} (hm : Canonical m e) (hn' : Canonical n f)
    (hn : (1 : ℚ) ≤ n * 2 ^ f) : (div (.finite a m e hm) (.finite b n f hn')).isFinite = true := by
  have hpos : 0 < n := by
    rcases Nat.eq_zero_or_pos n with rfl | hpos
    · rw [Nat.cast_zero, zero_mul] at hn
      exact absurd hn (by norm_num)
    · exact hpos
  have hquot : (m : ℚ) * 2 ^ e / (n * 2 ^ f) ≤ fullSignificand * 2 ^ greatestExponent :=
    (div_le_self (by positivity) hn).trans (hm.le_greatest hm.greatest)
  obtain ⟨num, den, hden, hdiv, hratio⟩ := div_eq_ofRatio a b hm hn' hpos
  rw [hdiv]
  exact isFinite_ofRatio _ hden (le_of_eq_of_le hratio hquot)

/-- The quotient of two integers in the finite range is finite. -/
theorem isFinite_div_ofInt {l r : Int} (hl : (ofInt l).isFinite = true) (hr : (ofInt r).isFinite = true)
    (hzero : (ofInt r).isZero = false) : ((ofInt l).div (ofInt r)).isFinite = true := by
  obtain ⟨m, e, hm, hleft, -⟩ := ofInt_of_isFinite hl
  obtain ⟨n, f, hn, hright, hone⟩ := ofInt_of_isFinite hr
  have hne : r ≠ 0 := by
    rintro rfl
    exact absurd hzero (by decide)
  rw [hleft, hright]
  exact isFinite_div _ _ hm hn (hone hne)

/-! ## Integers out of the range -/

/-- The midpoint between the largest finite number and the power of two behind it. -/
def overflowBound : Nat := 2 ^ 1024 - 2 ^ 970

/-- A ratio below the midpoint behind an odd number is not rounded beyond that number, and the midpoint is. -/
theorem halfEven_le_iff {num den n : Nat} (hden : 0 < den) (hodd : n % 2 = 1) :
    halfEven num den ≤ n ↔ 2 * num < (2 * n + 1) * den := by
  have hsplit : den * (num / den) + num % den = num := Nat.div_add_mod num den
  have hrest : num % den < den := Nat.mod_lt num hden
  unfold halfEven
  dsimp only
  generalize num / den = q at hsplit ⊢
  generalize num % den = r at hsplit hrest ⊢
  rcases lt_trichotomy q n with hlt | rfl | hgt
  · have hbound : den * (q + 1) ≤ den * n := Nat.mul_le_mul_left den hlt
    have hbelow : 2 * num < (2 * n + 1) * den := by
      calc 2 * num < 2 * (den * (q + 1)) := by rw [Nat.mul_succ]; omega
        _ ≤ 2 * (den * n) := by omega
        _ ≤ (2 * n + 1) * den := by rw [Nat.add_mul, Nat.mul_assoc, Nat.mul_comm n]; omega
    refine iff_of_true ?_ hbelow
    split <;> omega
  · have hnum : 2 * num = 2 * q * den + 2 * r := by
      rw [← hsplit, Nat.mul_add, Nat.mul_comm den q, Nat.mul_assoc]
    rw [hnum, Nat.add_mul, Nat.one_mul]
    split <;> omega
  · have hbound : den * (n + 1) ≤ den * q := Nat.mul_le_mul_left den hgt
    have habove : (2 * n + 1) * den ≤ 2 * num := by
      calc (2 * n + 1) * den ≤ 2 * (den * (n + 1)) := by
            rw [Nat.mul_succ, Nat.add_mul, Nat.mul_assoc, Nat.mul_comm n]; omega
        _ ≤ 2 * num := by omega
    refine iff_of_false ?_ (not_lt.2 habove)
    split <;> omega

theorem overflowBound_eq : overflowBound = (2 * fullSignificand + 1) * 2 ^ 970 := by
  have hpow : 2 ^ 1024 = 2 ^ 54 * 2 ^ 970 := by rw [← Nat.pow_add]
  have hfull : 2 * fullSignificand + 1 = 2 ^ 54 - 1 := by decide
  rw [overflowBound, hpow, hfull, Nat.sub_one_mul]

/-- Before the carry, a full significand at the greatest exponent stays below the range's end exactly if it needs no
carry. -/
theorem isFinite_ofSignificand_iff (negative : Bool) {m : Nat} (hfull : leadingBit ≤ m) (hm : m ≤ 2 * leadingBit) :
    (ofSignificand negative m greatestExponent).isFinite = true ↔ m ≤ fullSignificand := by
  have hlast : fullSignificand + 1 = 2 * leadingBit := by decide
  unfold ofSignificand
  by_cases hcarry : m = 2 * leadingBit
  · rw [if_pos hcarry]
    dsimp only
    rw [dif_neg fun h => absurd h.greatest (by decide)]
    exact iff_of_false nofun (by omega)
  · rw [if_neg hcarry]
    dsimp only
    rw [dif_pos ⟨⟨by omega, by decide, .inl hfull⟩, le_rfl⟩]
    exact iff_of_true rfl (by omega)

/-- Between the last two powers of two of the range, rounding is at the greatest exponent. -/
theorem exponentOf_last {num : Nat} (hlow : (2 : ℚ) ^ (1023 : Int) ≤ num) (hhigh : (num : ℚ) < 2 ^ (1024 : Int)) :
    exponentOf num 1 = greatestExponent := by
  have hpos : 0 < num := by
    have hpow := lt_of_lt_of_le (two_zpow_pos 1023) hlow
    exact_mod_cast hpow
  obtain ⟨hle, hlt⟩ := floorLog2_spec hpos Nat.one_pos
  rw [Nat.cast_one, div_one] at hle hlt
  have hupper : floorLog2 num 1 < 1024 := (zpow_lt_zpow_iff_right₀ (by norm_num)).1 (lt_of_le_of_lt hle hhigh)
  have hlower : 1023 < floorLog2 num 1 + 1 := (zpow_lt_zpow_iff_right₀ (by norm_num)).1 (lt_of_le_of_lt hlow hlt)
  have hlog : floorLog2 num 1 = 1023 := by omega
  rw [exponentOf, hlog]
  rfl

theorem overflowBound_between : 2 ^ 1023 ≤ overflowBound ∧ overflowBound < 2 ^ 1024 := by
  have hdouble : 2 ^ 1024 = 2 * 2 ^ 1023 := by rw [← Nat.pow_succ']
  have hle : 2 ^ 970 ≤ 2 ^ 1023 := pow_le_pow_right₀ one_le_two (by decide)
  have hpos : (0 : Nat) < 2 ^ 970 := pow_pos two_pos 970
  rw [overflowBound, hdouble]
  generalize 2 ^ 1023 = a at hle ⊢
  generalize 2 ^ 970 = b at hle hpos ⊢
  omega

theorem significandOf_whole (num : Nat) {e : Int} (he : 0 ≤ e) : significandOf num 1 e = halfEven num (2 ^ e.toNat) := by
  rw [significandOf, if_pos he, Nat.one_shiftLeft]

/-- An integer can become a float exactly on this side of the midpoint. -/
theorem isFinite_ofInt_iff (n : Int) : (ofInt n).isFinite = true ↔ n.natAbs < overflowBound := by
  obtain ⟨hlow, hhigh⟩ := overflowBound_between
  have hlast : greatestExponent + 52 = 1023 := rfl
  have hnext : (1 + 1023 : Int) = 1024 := rfl
  unfold ofInt
  generalize n.natAbs = num
  rcases lt_or_ge num (2 ^ 1023) with hsmall | hsmall
  · -- Far below the bound there is nothing to be decided by rounding.
    refine iff_of_true (isFinite_ofRatio _ Nat.one_pos ?_) (by omega)
    have hnum : (num : ℚ) ≤ 2 ^ (1023 : Int) := by exact_mod_cast hsmall.le
    calc (num / (1 : Nat) : ℚ) ≤ 2 ^ (1023 : Int) := by rwa [Nat.cast_one, div_one]
      _ = leadingBit * 2 ^ greatestExponent := by rw [leadingBit_mul, hlast]
      _ ≤ fullSignificand * 2 ^ greatestExponent := by
        gcongr
        decide
  · have hnum : (2 : ℚ) ^ (1023 : Int) ≤ num := by exact_mod_cast hsmall
    rcases lt_or_ge num (2 ^ 1024) with hlarge | hlarge
    · have hnum' : (num : ℚ) < 2 ^ (1024 : Int) := by exact_mod_cast hlarge
      have hpos : 0 < num := (pow_pos two_pos _).trans_le hsmall
      have hexp := exponentOf_last hnum hnum'
      have hcarry := significandOf_le_carry hpos Nat.one_pos
      have hfull := le_significandOf Nat.one_pos (leadingBit_mul_le hpos Nat.one_pos (by rw [hexp]; decide))
      rw [hexp] at hcarry hfull
      rw [ofRatio_eq _ hpos, hexp, isFinite_ofSignificand_iff _ hfull hcarry]
      have hexponent : greatestExponent.toNat = 971 := rfl
      have hdouble : (2 * fullSignificand + 1) * 2 ^ 971 = 2 * overflowBound := by
        have hpow : 2 ^ 971 = 2 ^ 1 * 2 ^ 970 := by rw [← Nat.pow_add]
        rw [overflowBound_eq, hpow, Nat.pow_one, Nat.mul_left_comm]
      rw [significandOf_whole num (by decide), hexponent, halfEven_le_iff (pow_pos two_pos 971) (by decide), hdouble]
      omega
    · refine iff_of_false (fun hfinite => ?_) (by omega)
      obtain ⟨m, e, hshaped, hrounded, hof⟩ := ofRatio_rounded (decide (n < 0)) num Nat.one_pos
      have he : ¬ greatestExponent < e := by
        intro hlt
        rw [hof, dif_neg fun h => absurd h.greatest (not_le_of_gt hlt)] at hfinite
        cases hfinite
      have hge : ((2 * leadingBit : Nat) : ℚ) * 2 ^ greatestExponent ≤ m * 2 ^ e := by
        refine hrounded.ge le_rfl (by decide) ?_
        have hnum' : (2 : ℚ) ^ (1024 : Int) ≤ num := by exact_mod_cast hlarge
        calc ((2 * leadingBit : Nat) : ℚ) * 2 ^ greatestExponent = 2 ^ (1024 : Int) := by
              rw [Nat.cast_mul, Nat.cast_two, mul_assoc, leadingBit_mul, hlast, ← zpow_one_add₀ two_ne_zero, hnext]
          _ ≤ num / (1 : Nat) := by rwa [Nat.cast_one, div_one]
      have hle := hshaped.le_greatest (not_lt.1 he)
      have hlt : (fullSignificand : ℚ) * 2 ^ greatestExponent < (2 * leadingBit : Nat) * 2 ^ greatestExponent := by
        gcongr
        decide
      exact absurd (hge.trans hle) (not_le_of_gt hlt)

end Treewalk.Double
