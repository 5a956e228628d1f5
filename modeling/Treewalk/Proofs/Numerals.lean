/-
Texts of numbers. A decimal is written in one of four layouts, and from each of them its value is read back, so that
the text of a number that has no sign determines the number. The characters of these texts have no use in outlines.
-/
import Mathlib.Data.List.TakeWhile
import Treewalk.Proofs.Quoting
import Treewalk.Proofs.Shortest
import Treewalk.Syntax.Literal

namespace Treewalk

open Token

/-! ## Reading decimals -/

theorem Token.numberOf_append_zeros (base : Nat) (cs : List Char) (count : Nat) :
    numberOf base (cs ++ List.replicate count '0') = numberOf base cs * base ^ count := by
  induction count with
  | zero => rw [List.replicate_zero, List.append_nil, pow_zero, Nat.mul_one]
  | succ count ih =>
    have hzero : (digitValue? '0').getD 0 = 0 := by decide
    rw [List.replicate_succ', ← List.append_assoc, numberOf_append_digit, ih, hzero, Nat.add_zero, pow_succ,
      Nat.mul_assoc]

namespace Decimal

/-- The number written by a sign and digits. -/
def signedNumber : List Char → Int
  | '-' :: digits => -(numberOf 10 digits : Int)
  | '+' :: digits => numberOf 10 digits
  | _ => 0

/-- The number that a text writes: digits, which may have a point among them, and an exponent, which may be left out. -/
def read (cs : List Char) : ℚ :=
  let mantissa := cs.takeWhile (· != 'e')
  let fraction := (mantissa.dropWhile (· != '.')).drop 1
  let exponent := signedNumber ((cs.dropWhile (· != 'e')).drop 1)
  numberOf 10 (mantissa.takeWhile (· != '.') ++ fraction) * 10 ^ (exponent - fraction.length)

section

variable {cs whole fraction : List Char}

theorem takeWhile_stop {p : Char → Bool} {c : Char} (h : ∀ d ∈ cs, p d = true) (hc : p c = false) (rest : List Char) :
    (cs ++ c :: rest).takeWhile p = cs := by
  rw [List.takeWhile_append_of_pos h, List.takeWhile_cons_of_neg (by rw [hc]; decide), List.append_nil]

theorem dropWhile_stop {p : Char → Bool} {c : Char} (h : ∀ d ∈ cs, p d = true) (hc : p c = false) (rest : List Char) :
    (cs ++ c :: rest).dropWhile p = c :: rest := by
  rw [List.dropWhile_append_of_pos h, List.dropWhile_cons_of_neg (by rw [hc]; decide)]

theorem isDigit_ne {c d : Char} (h : c.isDigit = true) (hd : d.isDigit = false) : (c != d) = true := by
  rw [bne_iff_ne]
  rintro rfl
  rw [h] at hd
  cases hd

/-- Digits alone write an integer. -/
theorem read_digits (h : ∀ c ∈ cs, c.isDigit = true) : read cs = numberOf 10 cs := by
  have he : ∀ c ∈ cs, (c != 'e') = true := fun c hc => isDigit_ne (h c hc) rfl
  have hpoint : ∀ c ∈ cs, (c != '.') = true := fun c hc => isDigit_ne (h c hc) rfl
  have hmantissa : cs.takeWhile (· != 'e') = cs := List.takeWhile_eq_self_iff.2 he
  have hwhole : cs.takeWhile (· != '.') = cs := List.takeWhile_eq_self_iff.2 hpoint
  have hfraction : cs.dropWhile (· != '.') = [] := List.dropWhile_eq_nil_iff.2 hpoint
  have hexponent : cs.dropWhile (· != 'e') = [] := List.dropWhile_eq_nil_iff.2 he
  unfold read
  dsimp only
  rw [hmantissa, hwhole, hfraction, hexponent, List.drop_nil, List.append_nil]
  simp [signedNumber]

/-- Digits with a point count for as much less as there are digits behind the point. -/
theorem read_fraction (hw : ∀ c ∈ whole, c.isDigit = true) (hf : ∀ c ∈ fraction, c.isDigit = true) :
    read (whole ++ '.' :: fraction) = numberOf 10 (whole ++ fraction) * 10 ^ (-(fraction.length : Int)) := by
  have he : ∀ c ∈ whole ++ '.' :: fraction, (c != 'e') = true := by
    refine List.forall_mem_append.2 ⟨fun c hc => isDigit_ne (hw c hc) rfl, ?_⟩
    exact List.forall_mem_cons.2 ⟨rfl, fun c hc => isDigit_ne (hf c hc) rfl⟩
  have hpoint : ∀ c ∈ whole, (c != '.') = true := fun c hc => isDigit_ne (hw c hc) rfl
  unfold read
  dsimp only
  rw [List.takeWhile_eq_self_iff.2 he, List.dropWhile_eq_nil_iff.2 he, takeWhile_stop hpoint rfl,
    dropWhile_stop hpoint rfl]
  simp [signedNumber]

/-- An exponent behind a mantissa. -/
theorem read_exponent {mantissa : List Char} (h : ∀ c ∈ mantissa, (c != 'e') = true) (exponent : List Char) :
    read (mantissa ++ 'e' :: exponent) = read mantissa * 10 ^ signedNumber exponent := by
  have hmantissa := List.takeWhile_eq_self_iff.2 h
  have hnone := List.dropWhile_eq_nil_iff.2 h
  unfold read
  dsimp only
  rw [takeWhile_stop h rfl, dropWhile_stop h rfl, hmantissa, hnone, List.drop_nil, List.drop_succ_cons, List.drop_zero,
    mul_assoc, ← zpow_add₀ (by norm_num)]
  have hnil : signedNumber [] = 0 := rfl
  rw [hnil, zero_sub, neg_add_eq_sub]

end

end Decimal

/-! ## Writing and reading -/

namespace Double

open Decimal

theorem isDigit_toDigits {n : Nat} : ∀ c ∈ Nat.toDigits 10 n, c.isDigit = true := fun _ hc =>
  Nat.isDigit_of_mem_toDigits (by decide) (by decide) hc

theorem isDigit_zeros {count : Nat} : ∀ c ∈ List.replicate count '0', c.isDigit = true := fun c hc => by
  rw [List.eq_of_mem_replicate hc]
  rfl

/-- The digits of an exponent. -/
def exponentDigits (n : Int) : List Char :=
  List.replicate (2 - (Nat.toDigits 10 n.natAbs).length) '0' ++ Nat.toDigits 10 n.natAbs

theorem toList_exponentText (n : Int) :
    (exponentText n).toList = 'e' :: (if n < 0 then '-' else '+') :: exponentDigits n := by
  have hdigits : (toString n.natAbs).toList = Nat.toDigits 10 n.natAbs := by
    rw [Nat.toString_eq_ofList_toDigits, String.toList_ofList]
  have hpos : 0 < (Nat.toDigits 10 n.natAbs).length := Nat.length_toDigits_pos
  have hlength : (toString n.natAbs).length = (Nat.toDigits 10 n.natAbs).length := by
    rw [← String.length_toList, hdigits]
  have hpadded : (if (toString n.natAbs).length < 2 then "0" ++ toString n.natAbs else toString n.natAbs).toList =
      exponentDigits n := by
    rw [exponentDigits, hlength]
    split
    · rename_i hshort
      have hone : 2 - (Nat.toDigits 10 n.natAbs).length = 1 := by omega
      rw [hone, String.toList_append, hdigits]
      rfl
    · have hnone : 2 - (Nat.toDigits 10 n.natAbs).length = 0 := by omega
      rw [hnone, hdigits]
      rfl
  rw [exponentText, String.toList_append, hpadded]
  split <;> rfl

theorem signedNumber_exponent (n : Int) :
    signedNumber ((if n < 0 then '-' else '+') :: exponentDigits n) = n := by
  have hnumber : numberOf 10 (exponentDigits n) = n.natAbs := by
    rw [exponentDigits, numberOf_zeros, numberOf_toDigits (by decide) (by decide)]
  split
  · rw [signedNumber, hnumber]
    omega
  · rw [signedNumber, hnumber]
    omega

section

variable {d : Decimal} {digits : List Char}

/-- The layout of whole numbers: the digits and zeros for the exponent. -/
theorem read_whole (hdigits : ∀ c ∈ digits, c.isDigit = true) (hnumber : numberOf 10 digits = d.digits)
    (hexp : 0 ≤ d.exponent) (point : Bool) :
    read (digits ++ List.replicate d.exponent.toNat '0' ++ if point then ['.', '0'] else []) = d.value := by
  have hwhole : ∀ c ∈ digits ++ List.replicate d.exponent.toNat '0', c.isDigit = true :=
    List.forall_mem_append.2 ⟨hdigits, isDigit_zeros⟩
  have hvalue : ((numberOf 10 (digits ++ List.replicate d.exponent.toNat '0') : Nat) : ℚ) = d.value := by
    rw [numberOf_append_zeros, hnumber, Decimal.value, Nat.cast_mul, Nat.cast_pow, ← zpow_natCast,
      Int.toNat_of_nonneg hexp, Nat.cast_ofNat]
  cases point with
  | false => rw [if_neg (by decide), List.append_nil, read_digits hwhole, hvalue]
  | true =>
    have hzero : (digitValue? '0').getD 0 = 0 := by decide
    rw [if_pos rfl, read_fraction hwhole (by simp), numberOf_append_digit, hzero, Nat.add_zero, Nat.cast_mul, hvalue]
    norm_num [mul_assoc]

/-- The layouts with a point among the digits or before them. -/
theorem read_pointed {whole fraction : List Char} (hwhole : ∀ c ∈ whole, c.isDigit = true)
    (hfraction : ∀ c ∈ fraction, c.isDigit = true) (hnumber : numberOf 10 (whole ++ fraction) = d.digits)
    (hlength : (fraction.length : Int) = -d.exponent) : read (whole ++ '.' :: fraction) = d.value := by
  rw [read_fraction hwhole hfraction, hnumber, hlength, neg_neg, Decimal.value]

/-- One digit, and a point and the other digits if there are any. -/
def mantissa (digits : List Char) : List Char :=
  digits.take 1 ++ if (digits.drop 1).isEmpty then [] else '.' :: digits.drop 1

theorem mantissa_ne (hdigits : ∀ c ∈ digits, c.isDigit = true) : ∀ c ∈ mantissa digits, (c != 'e') = true := by
  refine List.forall_mem_append.2 ⟨fun c hc => isDigit_ne (hdigits c (List.mem_of_mem_take hc)) rfl, ?_⟩
  split
  · exact List.forall_mem_nil _
  · exact List.forall_mem_cons.2 ⟨rfl, fun c hc => isDigit_ne (hdigits c (List.mem_of_mem_drop hc)) rfl⟩

theorem read_mantissa (hdigits : ∀ c ∈ digits, c.isDigit = true) (hpos : 0 < digits.length) :
    read (mantissa digits) = numberOf 10 digits * 10 ^ (-(digits.length - 1 : Int)) := by
  have hhead : ∀ c ∈ digits.take 1, c.isDigit = true := fun c hc => hdigits c (List.mem_of_mem_take hc)
  have hrest : ∀ c ∈ digits.drop 1, c.isDigit = true := fun c hc => hdigits c (List.mem_of_mem_drop hc)
  have hlength : ((digits.drop 1).length : Int) = digits.length - 1 := by
    rw [List.length_drop]
    omega
  rw [mantissa, ← hlength]
  split
  · rename_i hempty
    have hnone : digits.drop 1 = [] := List.isEmpty_iff.1 hempty
    have hall : digits.take 1 = digits := by rw [← List.append_nil (digits.take 1), ← hnone, List.take_append_drop]
    rw [hnone, List.append_nil, read_digits hhead, hall, List.length_nil, Nat.cast_zero, neg_zero, zpow_zero, mul_one]
  · rw [read_fraction hhead hrest, List.take_append_drop]

/-- The layout with an exponent. -/
theorem read_scientific (hdigits : ∀ c ∈ digits, c.isDigit = true) (hnumber : numberOf 10 digits = d.digits)
    (hpos : 0 < digits.length) :
    read (mantissa digits ++ (exponentText (d.exponent + digits.length - 1)).toList) = d.value := by
  rw [toList_exponentText, read_exponent (mantissa_ne hdigits), read_mantissa hdigits hpos, signedNumber_exponent,
    hnumber, mul_assoc, ← zpow_add₀ (by norm_num), Decimal.value]
  congr 2
  ring

end

/-- The characters of a decimal, in one of the layouts. -/
theorem toList_decimalText (point : Bool) (d : Decimal) : (decimalText point d).toList =
    let digits := Nat.toDigits 10 d.digits
    let leading := d.exponent + digits.length - 1
    if positional leading then
      if 0 ≤ d.exponent then
        digits ++ List.replicate d.exponent.toNat '0' ++ if point then ['.', '0'] else []
      else if 0 ≤ leading then digits.take (leading.toNat + 1) ++ '.' :: digits.drop (leading.toNat + 1)
      else '0' :: '.' :: (List.replicate (-leading - 1).toNat '0' ++ digits)
    else mantissa digits ++ (exponentText leading).toList := by
  have hend : (if point then ".0" else "").toList = if point then ['.', '0'] else [] := by cases point <;> rfl
  have hpoint : ".".toList = ['.'] := rfl
  have hzero : "0.".toList = ['0', '.'] := rfl
  have hrest (rest : List Char) :
      (if rest.isEmpty then "" else "." ++ String.ofList rest).toList = if rest.isEmpty then [] else '.' :: rest := by
    split
    · rfl
    · rw [String.toList_append, hpoint, String.toList_ofList, List.singleton_append]
  unfold decimalText mantissa
  dsimp only
  generalize Nat.toDigits 10 d.digits = digits
  generalize d.exponent + (digits.length : Int) - 1 = leading
  split
  · split
    · rw [String.toList_append, String.toList_ofList, hend]
    · split
      · rw [List.splitAt_eq]
        dsimp only
        rw [String.toList_append, String.toList_append, hpoint, String.toList_ofList, String.toList_ofList,
          List.append_assoc, List.singleton_append]
      · rw [String.toList_append, hzero, String.toList_ofList, List.cons_append, List.singleton_append]
  · rw [String.toList_append, String.toList_append, String.toList_ofList, hrest]

/-- Every layout of a decimal reads back as its value. -/
theorem read_decimalText (point : Bool) (d : Decimal) : read (decimalText point d).toList = d.value := by
  have hdigits := isDigit_toDigits (n := d.digits)
  have hnumber : numberOf 10 (Nat.toDigits 10 d.digits) = d.digits := numberOf_toDigits (by decide) (by decide) _
  have hpos : 0 < (Nat.toDigits 10 d.digits).length := Nat.length_toDigits_pos
  rw [toList_decimalText]
  dsimp only
  generalize Nat.toDigits 10 d.digits = digits at *
  split
  · split
    · rename_i hexp
      exact read_whole hdigits hnumber hexp point
    · split
      · refine read_pointed (fun c hc => hdigits c (List.mem_of_mem_take hc))
          (fun c hc => hdigits c (List.mem_of_mem_drop hc)) ?_ ?_
        · rw [List.take_append_drop, hnumber]
        · rw [List.length_drop]
          omega
      · have hzero : ∀ c ∈ List.replicate 1 '0', c.isDigit = true := isDigit_zeros
        refine read_pointed hzero (List.forall_mem_append.2 ⟨isDigit_zeros, hdigits⟩) ?_ ?_
        · rw [numberOf_zeros, numberOf_zeros, hnumber]
        · rw [List.length_append, List.length_replicate]
          omega
  · exact read_scientific hdigits hnumber hpos

/-! ## Characters -/

/-- The characters of decimals. -/
def IsNumeral (c : Char) : Prop := c.isDigit = true ∨ c ∈ ['.', 'e', '+', '-']

theorem isNumeral_exponentText (n : Int) : ∀ c ∈ (exponentText n).toList, IsNumeral c := by
  rw [toList_exponentText]
  refine List.forall_mem_cons.2 ⟨.inr (by simp), List.forall_mem_cons.2 ⟨?_, fun c hc => .inl ?_⟩⟩
  · split
    · exact .inr (by simp)
    · exact .inr (by simp)
  · exact List.forall_mem_append.2 ⟨isDigit_zeros, isDigit_toDigits⟩ c hc

theorem isNumeral_decimalText (point : Bool) (d : Decimal) : ∀ c ∈ (decimalText point d).toList, IsNumeral c := by
  have hdigits : ∀ c ∈ Nat.toDigits 10 d.digits, IsNumeral c := fun c hc => .inl (isDigit_toDigits c hc)
  have hzeros (count : Nat) : ∀ c ∈ List.replicate count '0', IsNumeral c := fun c hc => .inl (isDigit_zeros c hc)
  have hpoint : IsNumeral '.' := .inr (by simp)
  rw [toList_decimalText]
  dsimp only
  generalize Nat.toDigits 10 d.digits = digits at *
  have htake (n : Nat) : ∀ c ∈ digits.take n, IsNumeral c := fun c hc => hdigits c (List.mem_of_mem_take hc)
  have hdrop (n : Nat) : ∀ c ∈ digits.drop n, IsNumeral c := fun c hc => hdigits c (List.mem_of_mem_drop hc)
  split
  · split
    · refine List.forall_mem_append.2 ⟨List.forall_mem_append.2 ⟨hdigits, hzeros _⟩, ?_⟩
      split
      · exact List.forall_mem_cons.2 ⟨hpoint, List.forall_mem_singleton.2 (.inl rfl)⟩
      · exact List.forall_mem_nil _
    · split
      · exact List.forall_mem_append.2 ⟨htake _, List.forall_mem_cons.2 ⟨hpoint, hdrop _⟩⟩
      · refine List.forall_mem_cons.2 ⟨.inl rfl, List.forall_mem_cons.2 ⟨hpoint, ?_⟩⟩
        exact List.forall_mem_append.2 ⟨hzeros _, hdigits⟩
  · refine List.forall_mem_append.2 ⟨List.forall_mem_append.2 ⟨htake 1, ?_⟩, isNumeral_exponentText _⟩
    split
    · exact List.forall_mem_nil _
    · exact List.forall_mem_cons.2 ⟨hpoint, hdrop 1⟩

/-- With a point asked for, a decimal has a point or an exponent. -/
theorem pointed_decimalText (d : Decimal) : '.' ∈ (decimalText true d).toList ∨ 'e' ∈ (decimalText true d).toList := by
  rw [toList_decimalText]
  dsimp only
  split
  · split
    · exact .inl (by simp)
    · split
      · exact .inl (by simp)
      · exact .inl (by simp)
  · rw [toList_exponentText]
    exact .inr (by simp)

/-! ## Numbers without a sign -/

/-- A number that a literal can stand for: neither negative nor a not-a-number. -/
structure Unsigned (x : Double) : Prop where
  isNumber : x.isNaN = false
  notNegative : x.isNegative = false

/-- The numbers without a sign: infinity, zero, and those that have a shortest decimal. -/
inductive UnsignedForm : Double → Prop
  | infinite : UnsignedForm (.infinite false)
  | zero : UnsignedForm (zero false)
  | positive {m : Nat} {e : Int} (hm : 0 < m) (h : Canonical m e) : UnsignedForm (.finite false m e h)

theorem Unsigned.form {x : Double} (h : x.Unsigned) : UnsignedForm x := by
  obtain ⟨hnumber, hsign⟩ := h
  cases x with
  | nan => cases hnumber
  | infinite negative =>
    cases (hsign : negative = false)
    exact .infinite
  | finite negative m e hshape =>
    cases (hsign : negative = false)
    rcases Nat.eq_zero_or_pos m with rfl | hm
    · obtain rfl : e = leastExponent := hshape.full.resolve_left (by decide)
      exact .zero
    · exact .positive hm hshape

/-- The text of a number without a sign, with a point asked for or not. -/
theorem Unsigned.signText_eq {x : Double} (h : x.Unsigned) : x.signText = "" := by
  rw [signText, h.notNegative]
  rfl

theorem magnitudeText_pos {m : Nat} {e : Int} (hm : 0 < m) (h : Canonical m e) (point : Bool) :
    (finite false m e h).magnitudeText point = decimalText point (shortest m e) := by
  cases m with
  | zero => exact absurd hm (Nat.lt_irrefl 0)
  | succ m => rfl

theorem toList_zeroText (point : Bool) :
    ((zero false).magnitudeText point).toList = ['0'] ++ if point then ['.', '0'] else [] := by
  cases point <;> rfl

theorem read_zeroText (point : Bool) : read ((zero false).magnitudeText point).toList = 0 := by
  have h : read (['0'] ++ List.replicate 0 '0' ++ if point then ['.', '0'] else []) = Decimal.value ⟨0, 0⟩ :=
    read_whole (d := ⟨0, 0⟩) (List.forall_mem_singleton.2 rfl) rfl le_rfl point
  rw [toList_zeroText]
  refine Eq.trans h ?_
  rw [Decimal.value, Nat.cast_zero, zero_mul]

theorem isNumeral_zeroText (point : Bool) :
    ∀ c ∈ ((zero false).magnitudeText point).toList, IsNumeral c := by
  have hdigit : IsNumeral '0' := .inl rfl
  have hpoint : IsNumeral '.' := .inr (by simp)
  rw [toList_zeroText]
  refine List.forall_mem_cons.2 ⟨hdigit, ?_⟩
  split
  · exact List.forall_mem_cons.2 ⟨hpoint, List.forall_mem_singleton.2 hdigit⟩
  · exact List.forall_mem_nil _

/-- Finite numbers are written by numerals alone. -/
theorem isNumeral_magnitudeText {x : Double} (h : UnsignedForm x) (hfinite : x.isFinite = true) (point : Bool) :
    ∀ c ∈ (x.magnitudeText point).toList, IsNumeral c := by
  cases h with
  | infinite => cases hfinite
  | zero => exact isNumeral_zeroText point
  | positive hm =>
    rw [magnitudeText_pos hm]
    exact isNumeral_decimalText point _

theorem ne_inf {s : String} (h : ∀ c ∈ s.toList, IsNumeral c) : s ≠ "inf" := by
  rintro rfl
  have hi : IsNumeral 'i' := h 'i' (by decide)
  rcases hi with hdigit | hmem
  · cases hdigit
  · simp at hmem

/-- What the text of a finite number reads back as. -/
theorem read_magnitudeText {x : Double} (h : UnsignedForm x) (hfinite : x.isFinite = true) (point : Bool) :
    (x = zero false ∧ read (x.magnitudeText point).toList = 0) ∨
      ∃ m e, ∃ hshape : Canonical m e, 0 < m ∧ x = .finite false m e hshape ∧
        read (x.magnitudeText point).toList = (shortest m e).value := by
  cases h with
  | infinite => cases hfinite
  | zero => exact .inl ⟨rfl, read_zeroText point⟩
  | positive hm h =>
    refine .inr ⟨_, _, h, hm, rfl, ?_⟩
    rw [magnitudeText_pos hm, read_decimalText]

/-- The text of a number without a sign determines it. -/
theorem eq_of_magnitudeText {x y : Double} (hx : UnsignedForm x) (hy : UnsignedForm y) {point : Bool}
    (h : x.magnitudeText point = y.magnitudeText point) : x = y := by
  have hinfinite {z : Double} (hz : UnsignedForm z) (hnot : z.isFinite = false) : z = .infinite false := by
    cases hz with
    | infinite => rfl
    | zero | positive => cases hnot
  cases hxf : x.isFinite with
  | false =>
    obtain rfl := hinfinite hx hxf
    cases hyf : y.isFinite with
    | false => exact (hinfinite hy hyf).symm
    | true => exact absurd h.symm (ne_inf (isNumeral_magnitudeText hy hyf point))
  | true =>
    cases hyf : y.isFinite with
    | false =>
      obtain rfl := hinfinite hy hyf
      exact absurd h (ne_inf (isNumeral_magnitudeText hx hxf point))
    | true =>
      have hpos {m : Nat} {e : Int} (hm : 0 < m) (hs : Canonical m e) : (shortest m e).value ≠ 0 :=
        ((covers_shortest hm hs).pos hm).ne'
      rcases read_magnitudeText hx hxf point with ⟨rfl, hrx⟩ | ⟨m, e, hs, hm, rfl, hrx⟩
      · rcases read_magnitudeText hy hyf point with ⟨rfl, -⟩ | ⟨n, f, hs', hn, rfl, hry⟩
        · rfl
        · rw [← h, hrx] at hry
          exact absurd hry.symm (hpos hn hs')
      · rcases read_magnitudeText hy hyf point with ⟨rfl, hry⟩ | ⟨n, f, hs', hn, rfl, hry⟩
        · rw [h, hry] at hrx
          exact absurd hrx.symm (hpos hm hs)
        · rw [h, hry] at hrx
          obtain ⟨rfl, rfl⟩ := eq_of_shortest_value hm hn hs hs' hrx.symm
          rfl

end Double

end Treewalk
