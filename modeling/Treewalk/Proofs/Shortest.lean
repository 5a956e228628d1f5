/-
Shortest decimals. The decimal chosen for a number lies in the interval of the decimals that round to it, since seventeen
digits are enough to meet that interval. The intervals of different numbers have no decimal in common, so the decimal
determines the number.
-/
import Mathlib.Tactic.Linarith
import Treewalk.Number.Decimal
import Treewalk.Proofs.Rounding

namespace Treewalk

/-- The rational number that a decimal stands for. -/
def Decimal.value (d : Decimal) : ℚ := d.digits * 10 ^ d.exponent

/-- Zeros at the end of the digits are worth nothing. -/
theorem Decimal.value_stripZeros : ∀ (fuel : Nat) (d : Decimal), (stripZeros fuel d).value = d.value
  | 0, _ => rfl
  | fuel + 1, d => by
    rw [stripZeros]
    split
    · rename_i hzero
      have hdigits : ((d.digits / 10 : Nat) : ℚ) * 10 = d.digits := by
        have hexact : d.digits / 10 * 10 = d.digits := by omega
        exact_mod_cast hexact
      rw [value_stripZeros fuel, value, value, ← hdigits, zpow_add_one₀ (by norm_num)]
      ring
    · rfl

namespace Double

/-! ## Common scales -/

theorem ten_zpow_pos (k : Int) : (0 : ℚ) < 10 ^ k := by positivity

/-- A power whose exponent is cut off at zero, against the power with the exponent of the other sign. -/
theorem zpow_scale {b : ℚ} (hb : b ≠ 0) (k : Int) : b ^ k.toNat = b ^ k * b ^ (-k).toNat := by
  rw [← zpow_natCast, ← zpow_natCast, ← zpow_add₀ hb]
  congr 1
  omega

theorem cast_pow_ten (k : Nat) : ((Nat.pow 10 k : Nat) : ℚ) = 10 ^ k := by
  exact_mod_cast rfl

theorem cast_shiftLeft (n k : Nat) : ((n <<< k : Nat) : ℚ) = n * 2 ^ k := by
  rw [shiftLeft_rat, zpow_natCast]

/-- The weights of the units are the units in a common scale. -/
theorem weights_rat (e k : Int) : ∃ scale : ℚ, 0 < scale ∧ ((weights e k).1 : ℚ) = 2 ^ (e - 2) * scale ∧
    ((weights e k).2 : ℚ) = 10 ^ k * scale := by
  refine ⟨10 ^ (-k).toNat * 2 ^ (-(e - 2)).toNat, by positivity, ?_, ?_⟩
  · rw [weights, cast_shiftLeft, cast_pow_ten, zpow_scale two_ne_zero (e - 2)]
    ring
  · rw [weights, cast_shiftLeft, cast_pow_ten, zpow_scale (by norm_num) k]
    ring

/-! ## Intervals -/

/-- The rational numbers that round to `m · 2 ^ e`. -/
def Covers (m : Nat) (e : Int) (q : ℚ) : Prop :=
  if (interval m e).closed then (interval m e).low * 2 ^ (e - 2) ≤ q ∧ q ≤ (interval m e).high * 2 ^ (e - 2)
  else (interval m e).low * 2 ^ (e - 2) < q ∧ q < (interval m e).high * 2 ^ (e - 2)

theorem Covers.bounds {m : Nat} {e : Int} {q : ℚ} (h : Covers m e q) :
    (interval m e).low * 2 ^ (e - 2) ≤ q ∧ q ≤ (interval m e).high * 2 ^ (e - 2) := by
  unfold Covers at h
  split at h
  · exact h
  · exact ⟨h.1.le, h.2.le⟩

/-- The check of an interval is about the decimal on the grid. -/
theorem contains_iff (m : Nat) (e k : Int) (c : Nat) :
    (interval m e).contains (weights e k) c = true ↔ Covers m e (c * 10 ^ k) := by
  obtain ⟨scale, hpos, hunit, hgrid⟩ := weights_rat e k
  have hle (a b : Nat) : a * (weights e k).1 ≤ b * (weights e k).2 ↔ (a : ℚ) * 2 ^ (e - 2) ≤ b * 10 ^ k := by
    rw [← Nat.cast_le (α := ℚ), Nat.cast_mul, Nat.cast_mul, hunit, hgrid, ← mul_assoc, ← mul_assoc,
      mul_le_mul_iff_of_pos_right hpos]
  have hge (a b : Nat) : b * (weights e k).2 ≤ a * (weights e k).1 ↔ (b : ℚ) * 10 ^ k ≤ a * 2 ^ (e - 2) := by
    rw [← Nat.cast_le (α := ℚ), Nat.cast_mul, Nat.cast_mul, hunit, hgrid, ← mul_assoc, ← mul_assoc,
      mul_le_mul_iff_of_pos_right hpos]
  unfold Interval.contains Covers
  dsimp only
  split
  · rw [Bool.and_eq_true, decide_eq_true_iff, decide_eq_true_iff, hle, hge]
  · rw [Bool.and_eq_true, decide_eq_true_iff, decide_eq_true_iff, ← not_le, ← not_le, hge, hle, not_le, not_le]

/-- What is found on a grid rounds to the number. -/
theorem covers_of_onGrid {m : Nat} {e k : Int} {c : Nat} (h : onGrid m e k = some c) : Covers m e (c * 10 ^ k) := by
  rw [← contains_iff]
  unfold onGrid at h
  dsimp only at h
  split at h
  · rename_i hbelow _
    cases h
    exact hbelow
  · rename_i _ habove
    cases h
    exact habove
  · rename_i hbelow habove
    split at h
    · cases h
      exact hbelow
    · cases h
      exact habove
  · cases h

/-- The interval has the number itself in its middle. -/
theorem interval_middle {m : Nat} (hm : 0 < m) (e : Int) :
    (interval m e).low < (interval m e).middle ∧ (interval m e).middle < (interval m e).high := by
  unfold interval
  dsimp only
  split <;> omega

/-- A decimal out of the interval is beyond one of its ends, or at it. -/
theorem beyond_of_not_contains {i : Interval} {w : Nat × Nat} {c : Nat} (h : i.contains w c = false) :
    c * w.2 ≤ i.low * w.1 ∨ i.high * w.1 ≤ c * w.2 := by
  unfold Interval.contains at h
  dsimp only at h
  split at h
  · rw [Bool.and_eq_false_iff, decide_eq_false_iff_not, decide_eq_false_iff_not] at h
    omega
  · rw [Bool.and_eq_false_iff, decide_eq_false_iff_not, decide_eq_false_iff_not] at h
    omega

/-- A grid that is finer than the interval is wide has a decimal in it: one of the two around the middle. -/
theorem onGrid_isSome {m : Nat} (hm : 0 < m) (e k : Int)
    (h : (interval m e).low * (weights e k).1 + (weights e k).2 < (interval m e).high * (weights e k).1) :
    (onGrid m e k).isSome = true := by
  obtain ⟨hlow, hhigh⟩ := interval_middle hm e
  unfold onGrid
  dsimp only
  generalize hi : interval m e = i at *
  generalize hw : weights e k = w at *
  obtain ⟨scale, hscale, hunit, hgrid⟩ := weights_rat e k
  rw [hw] at hunit hgrid
  have hunitPos : 0 < w.1 := by
    have hcast : (0 : ℚ) < w.1 := hunit ▸ mul_pos (two_zpow_pos _) hscale
    exact_mod_cast hcast
  have hgridPos : 0 < w.2 := by
    have hcast : (0 : ℚ) < w.2 := hgrid ▸ mul_pos (ten_zpow_pos _) hscale
    exact_mod_cast hcast
  have hlow' : i.low * w.1 < i.middle * w.1 := Nat.mul_lt_mul_of_pos_right hlow hunitPos
  have hhigh' : i.middle * w.1 < i.high * w.1 := Nat.mul_lt_mul_of_pos_right hhigh hunitPos
  have hdiv : i.middle * w.1 / w.2 * w.2 ≤ i.middle * w.1 := Nat.div_mul_le_self _ _
  have hdiv' : i.middle * w.1 < (i.middle * w.1 / w.2 + 1) * w.2 := by
    rw [Nat.mul_comm (_ + 1)]
    exact Nat.lt_mul_div_succ _ hgridPos
  generalize i.middle * w.1 / w.2 = below at *
  have hnext : (below + 1) * w.2 = below * w.2 + w.2 := Nat.succ_mul below w.2
  cases hbelow : i.contains w below with
  | true =>
    cases habove : i.contains w (below + 1) with
    | true =>
      dsimp only
      split <;> rfl
    | false => rfl
  | false =>
    cases habove : i.contains w (below + 1) with
    | true => rfl
    | false =>
      have hleft := beyond_of_not_contains hbelow
      have hright := beyond_of_not_contains habove
      omega

/-! ## Leading digits -/

theorem atLeastTenPow_iff (m : Nat) (e p : Int) : atLeastTenPow m e p = true ↔ (10 : ℚ) ^ p ≤ m * 2 ^ e := by
  have hscale : (0 : ℚ) < 10 ^ (-p).toNat * 2 ^ (-e).toNat := by positivity
  have hleft : ((Nat.pow 10 p.toNat <<< (-e).toNat : Nat) : ℚ) = 10 ^ p * (10 ^ (-p).toNat * 2 ^ (-e).toNat) := by
    rw [cast_shiftLeft, cast_pow_ten, zpow_scale (by norm_num) p, mul_assoc]
  have hright : (((m * Nat.pow 10 (-p).toNat) <<< e.toNat : Nat) : ℚ) =
      m * 2 ^ e * (10 ^ (-p).toNat * 2 ^ (-e).toNat) := by
    rw [cast_shiftLeft, Nat.cast_mul, cast_pow_ten, zpow_scale two_ne_zero e]
    ring
  rw [atLeastTenPow, decide_eq_true_iff, ← Nat.cast_le (α := ℚ), hleft, hright, mul_le_mul_iff_of_pos_right hscale]

/-- A power of ten is below a power of two if that is so at the ratio of two exponents. -/
theorem ten_zpow_le_of_ratio {k b p q : Int} (hq : 0 < q) (hexp : q * k ≤ p * b)
    (hbase : ((10 : ℚ) ^ p) ^ b ≤ (2 ^ q) ^ b) : (10 : ℚ) ^ k ≤ 2 ^ b := by
  have hpow : ((10 : ℚ) ^ k) ^ q ≤ (2 ^ b) ^ q := by
    calc ((10 : ℚ) ^ k) ^ q = 10 ^ (q * k) := by rw [← zpow_mul, mul_comm]
      _ ≤ 10 ^ (p * b) := zpow_le_zpow_right₀ (by norm_num) hexp
      _ = (10 ^ p) ^ b := zpow_mul ..
      _ ≤ (2 ^ q) ^ b := hbase
      _ = (2 ^ b) ^ q := by rw [← zpow_mul, ← zpow_mul, mul_comm]
  exact (zpow_le_zpow_iff_left₀ (ten_zpow_pos k).le (two_zpow_pos b).le hq).1 hpow

/-- The ratio that the estimate works with is near enough to the logarithm of two: it lies between `59 / 196` and
`146 / 485`, as that does. -/
theorem ten_zpow_le_two_zpow {k b : Int} (h : 100000 * (k + 1) ≤ 30103 * b) (hlow : -10000 ≤ b) (hhigh : b ≤ 10000) :
    (10 : ℚ) ^ k ≤ 2 ^ b := by
  rcases le_total 0 b with hb | hb
  · refine ten_zpow_le_of_ratio (p := 59) (q := 196) (by decide) (by omega) ?_
    exact zpow_le_zpow_left₀ hb (by positivity) (by norm_num)
  · refine ten_zpow_le_of_ratio (p := 146) (q := 485) (by decide) (by omega) ?_
    obtain ⟨c, rfl⟩ : ∃ c : Nat, b = -c := ⟨b.natAbs, by omega⟩
    rw [zpow_neg, zpow_neg]
    refine inv_anti₀ (by positivity) ?_
    rw [zpow_natCast, zpow_natCast]
    refine pow_le_pow_left₀ (by positivity) ?_ c
    calc (2 : ℚ) ^ 485 = (2 ^ 97) ^ 5 := pow_mul 2 97 5
      _ ≤ 10 ^ 146 := by norm_num

/-- The exponent of the leading digit is not overestimated. -/
theorem ten_zpow_leadingExponent_le {m : Nat} {e : Int} (hm : 0 < m) (hlow : -5000 ≤ e) (hhigh : e ≤ 5000)
    (hbits : m.log2 ≤ 5000) : (10 : ℚ) ^ leadingExponent m e ≤ m * 2 ^ e := by
  have hup (p : Int) (hp : (10 : ℚ) ^ p ≤ m * 2 ^ e) :
      (10 : ℚ) ^ (if atLeastTenPow m e (p + 1) then p + 1 else p) ≤ m * 2 ^ e := by
    split
    · rename_i hnext
      exact (atLeastTenPow_iff m e (p + 1)).1 hnext
    · exact hp
  unfold leadingExponent
  refine hup _ (hup _ (hup _ ?_))
  have hpow : (2 : ℚ) ^ ((m.log2 : Int) + e) ≤ m * 2 ^ e := by
    rw [two_zpow_add]
    have hlog := (log2_spec hm).1
    gcongr
  refine le_trans (ten_zpow_le_two_zpow ?_ (by omega) (by omega)) hpow
  have hfloor := Int.mul_fdiv_self_le (x := ((m.log2 : Int) + e) * 30103) (k := 100000) (by decide)
  omega

/-! ## Seventeen digits -/

theorem Shaped.log2_le {m : Nat} {e : Int} (h : Shaped m e) : m.log2 ≤ 5000 := by
  have hlt : m < 2 ^ 53 := h.lt
  by_cases hm : m = 0
  · rw [hm]
    decide
  · have hlog := (Nat.log2_lt hm).2 hlt
    omega

theorem interval_wide {m : Nat} (hm : 0 < m) (hlt : m < 2 * leadingBit) (e : Int) :
    (interval m e).low * 10 ^ 16 + 4 * m < (interval m e).high * 10 ^ 16 := by
  unfold interval
  dsimp only
  have hbit : leadingBit = 4503599627370496 := rfl
  split <;> omega

/-- On the grid of seventeen digits there is a decimal that rounds to the number. -/
theorem onGrid_seventeen {m : Nat} {e leading : Int} (hm : 0 < m) (hlt : m < 2 * leadingBit)
    (hleading : (10 : ℚ) ^ leading ≤ m * 2 ^ e) : (onGrid m e (leading - 16)).isSome = true := by
  refine onGrid_isSome hm e _ ?_
  obtain ⟨scale, hscale, hunit, hgrid⟩ := weights_rat e (leading - 16)
  have hwide : ((interval m e).low : ℚ) * 10 ^ 16 + 4 * m < (interval m e).high * 10 ^ 16 := by
    exact_mod_cast interval_wide hm hlt e
  have hgridLe : (10 : ℚ) ^ (leading - 16) * 10 ^ 16 ≤ 4 * m * 2 ^ (e - 2) := by
    calc (10 : ℚ) ^ (leading - 16) * 10 ^ 16 = 10 ^ leading := by
          rw [← zpow_natCast, ← zpow_add₀ (by norm_num)]
          congr 1
          omega
      _ ≤ m * 2 ^ e := hleading
      _ = 4 * m * 2 ^ (e - 2) := by
          rw [show e = (e - 2) + 2 by omega, two_zpow_add, Int.add_sub_cancel]
          ring
  have hunitPos : (0 : ℚ) < 2 ^ (e - 2) * scale := mul_pos (two_zpow_pos _) hscale
  have hgridScaled := mul_le_mul_of_nonneg_right hgridLe hscale.le
  have hwideScaled := mul_lt_mul_of_pos_right hwide hunitPos
  rw [← Nat.cast_lt (α := ℚ), Nat.cast_add, Nat.cast_mul, Nat.cast_mul, hunit, hgrid]
  linarith

/-! ## Intervals apart -/

theorem Covers.pos {m : Nat} {e : Int} {q : ℚ} (hm : 0 < m) (h : Covers m e q) : 0 < q := by
  have hlow : 0 < (interval m e).low := by
    unfold interval
    dsimp only
    split <;> omega
  have hcast : (0 : ℚ) < (interval m e).low := by exact_mod_cast hlow
  exact (mul_pos hcast (two_zpow_pos _)).trans_le h.bounds.1

/-- An end of an interval belongs to it if the significand is even. -/
theorem Covers.even_of_end {m : Nat} {e : Int} {q : ℚ} (h : Covers m e q)
    (hq : q = (interval m e).low * 2 ^ (e - 2) ∨ q = (interval m e).high * 2 ^ (e - 2)) : m % 2 = 0 := by
  unfold Covers at h
  split at h
  · rename_i hclosed
    exact of_decide_eq_true hclosed
  · rcases hq with hq | hq
    · exact absurd hq h.1.ne'
    · exact absurd hq h.2.ne

/-- The interval of a number ends before that of a number with a greater significand begins. -/
theorem not_covers_of_significand_lt {m n : Nat} {e : Int} {q : ℚ} (hlt : m < n) (h : Covers m e q) :
    ¬ Covers n e q := by
  intro h'
  have hends : (interval m e).high ≤ (interval n e).low := by
    unfold interval
    dsimp only
    split <;> omega
  have hle : ((interval m e).high : ℚ) * 2 ^ (e - 2) ≤ (interval n e).low * 2 ^ (e - 2) := by
    gcongr
  have heq : (interval m e).high * 2 ^ (e - 2) = (interval n e).low * (2 : ℚ) ^ (e - 2) :=
    le_antisymm hle (h'.bounds.1.trans h.bounds.2)
  have hmeven := h.even_of_end (.inr (le_antisymm h.bounds.2 (hle.trans h'.bounds.1)))
  have hneven := h'.even_of_end (.inl (le_antisymm (h.bounds.2.trans hle) h'.bounds.1))
  -- The ends can only meet between neighbours, of which one is odd.
  have hmeet : (interval m e).high = (interval n e).low := by
    exact_mod_cast mul_right_cancel₀ (two_zpow_pos (e - 2)).ne' heq
  unfold interval at hmeet
  dsimp only at hmeet
  split at hmeet <;> omega

/-- The interval of a number ends before that of a number with a greater exponent begins. -/
theorem not_covers_of_exponent_lt {m n : Nat} {e f : Int} {q : ℚ} (hm : Shaped m e) (hn : Shaped n f) (hlt : e < f)
    (h : Covers m e q) : ¬ Covers n f q := by
  intro h'
  have hfull : leadingBit ≤ n := by
    rcases hn.full with hfull | hleast
    · exact hfull
    · have hleastE := hm.least
      omega
  have hleast : leastExponent < f := lt_of_le_of_lt hm.least hlt
  have hends : (interval m e).high ≤ 2 * (interval n f).low := by
    have hltM := hm.lt
    unfold interval
    dsimp only
    split <;> omega
  have hunit : (2 : ℚ) * 2 ^ (e - 2) ≤ 2 ^ (f - 2) := by
    calc (2 : ℚ) * 2 ^ (e - 2) = 2 ^ (e - 2 + 1) := by
          rw [two_zpow_add, zpow_one]
          ring
      _ ≤ 2 ^ (f - 2) := two_zpow_le.2 (by omega)
  have hle : ((interval m e).high : ℚ) * 2 ^ (e - 2) ≤ (interval n f).low * 2 ^ (f - 2) := by
    calc ((interval m e).high : ℚ) * 2 ^ (e - 2) ≤ (2 * (interval n f).low : Nat) * 2 ^ (e - 2) := by gcongr
      _ = (interval n f).low * (2 * 2 ^ (e - 2)) := by
          push_cast
          ring
      _ ≤ (interval n f).low * 2 ^ (f - 2) := by gcongr
  have heven := h.even_of_end (.inr (le_antisymm h.bounds.2 (hle.trans h'.bounds.1)))
  -- Only the largest significand comes near enough, and it is odd.
  have hroom : (interval m e).high < 2 * (interval n f).low := by
    have hltM := hm.lt
    have hbit : leadingBit = 4503599627370496 := rfl
    unfold interval
    dsimp only
    split <;> omega
  have hlt' : ((interval m e).high : ℚ) * 2 ^ (e - 2) < (interval n f).low * 2 ^ (f - 2) := by
    calc ((interval m e).high : ℚ) * 2 ^ (e - 2) < (2 * (interval n f).low : Nat) * 2 ^ (e - 2) := by gcongr
      _ = (interval n f).low * (2 * 2 ^ (e - 2)) := by
          push_cast
          ring
      _ ≤ (interval n f).low * 2 ^ (f - 2) := by gcongr
  exact absurd (h'.bounds.1.trans h.bounds.2) (not_le.2 hlt')

/-- No rational number rounds to two numbers. -/
theorem eq_of_covers {m n : Nat} {e f : Int} {q : ℚ} (hm : Shaped m e) (hn : Shaped n f) (h : Covers m e q)
    (h' : Covers n f q) : m = n ∧ e = f := by
  rcases lt_trichotomy e f with hlt | rfl | hlt
  · exact absurd h' (not_covers_of_exponent_lt hm hn hlt h)
  · rcases lt_trichotomy m n with hlt | rfl | hlt
    · exact absurd h' (not_covers_of_significand_lt hlt h)
    · exact ⟨rfl, rfl⟩
    · exact absurd h (not_covers_of_significand_lt hlt h')
  · exact absurd h (not_covers_of_exponent_lt hn hm hlt h')

/-! ## The shortest decimal -/

/-- The search goes through the grids up to that of seventeen digits, so that it stops at one of them. -/
theorem covers_shortestFrom {m : Nat} {e leading : Int} (hm : 0 < m) (hlt : m < 2 * leadingBit)
    (hleading : (10 : ℚ) ^ leading ≤ m * 2 ^ e) :
    ∀ (fuel count : Nat), 0 < fuel → fuel + count = 18 → Covers m e (shortestFrom m e leading fuel count).value
  | fuel + 1, count, _, hcount => by
    rw [shortestFrom]
    cases hgrid : onGrid m e (leading - count + 1) with
    | some digits =>
      dsimp only
      rw [Decimal.value_stripZeros]
      exact covers_of_onGrid hgrid
    | none =>
      dsimp only
      rcases Nat.eq_zero_or_pos fuel with rfl | hfuel
      · have hsome := onGrid_seventeen hm hlt hleading
        have hlast : leading - (count : Int) + 1 = leading - 16 := by omega
        rw [← hlast, hgrid] at hsome
        cases hsome
      · exact covers_shortestFrom hm hlt hleading fuel (count + 1) hfuel (by omega)

/-- The shortest decimal rounds to the number. -/
theorem covers_shortest {m : Nat} {e : Int} (hm : 0 < m) (h : Canonical m e) : Covers m e (shortest m e).value := by
  have hleast : -5000 ≤ e := le_trans (by decide) h.least
  have hgreatest : e ≤ 5000 := le_trans h.greatest (by decide)
  exact covers_shortestFrom hm h.lt (ten_zpow_leadingExponent_le hm hleast hgreatest h.log2_le) 17 1 (by decide) rfl

/-- The shortest decimal determines the number. -/
theorem eq_of_shortest_value {m n : Nat} {e f : Int} (hm : 0 < m) (hn : 0 < n) (h : Canonical m e)
    (h' : Canonical n f) (heq : (shortest m e).value = (shortest n f).value) : m = n ∧ e = f :=
  eq_of_covers h.toShaped h'.toShaped (covers_shortest hm h) (heq ▸ covers_shortest hn h')

end Double

end Treewalk
