/-
Quoted texts can be read back. Each code point is written so that the reader of escapes gives it again and knows where
its text ends, and no text of a code point starts with the quote. So a quoted text, with whatever stands behind it, determines
its content and what stands behind it.
-/
import Mathlib.Algebra.Group.Nat.Defs
import Treewalk.Grammar.Escape

namespace Treewalk

/-! ## Digits -/

namespace Token

theorem numberOf_append_digit (base : Nat) (cs : List Char) (c : Char) :
    numberOf base (cs ++ [c]) = numberOf base cs * base + (digitValue? c).getD 0 := by
  rw [numberOf, numberOf, List.foldl_append]
  rfl

theorem digitValue?_digitChar : ∀ n < 16, digitValue? n.digitChar = some n := by decide

theorem numberOf_toDigits {base : Nat} (hbase : 1 < base) (hle : base ≤ 16) (n : Nat) :
    numberOf base (Nat.toDigits base n) = n := by
  induction n using Nat.strongRecOn with
  | _ n ih =>
    rw [Nat.toDigits_eq_if hbase]
    split
    · rename_i hlt
      rw [numberOf, List.foldl_cons, digitValue?_digitChar n (by omega)]
      simp
    · rename_i hge
      have hdigit : n % base < base := Nat.mod_lt n (by omega)
      rw [numberOf_append_digit, ih (n / base) (Nat.div_lt_self (by omega) hbase), digitValue?_digitChar _ (by omega)]
      exact Nat.div_add_mod' n base

theorem numberOf_zeros (base count : Nat) (cs : List Char) :
    numberOf base (List.replicate count '0' ++ cs) = numberOf base cs := by
  induction count with
  | zero => rfl
  | succ count ih =>
    have hzero : 0 * base + (digitValue? '0').getD 0 = 0 := by
      rw [Nat.zero_mul, Nat.zero_add]
      decide
    rw [List.replicate_succ, List.cons_append, numberOf, List.foldl_cons, hzero]
    exact ih

theorem isDigitOf_toDigits {base : Nat} (hbase : 1 < base) (hle : base ≤ 16) (n : Nat) :
    ∀ c ∈ Nat.toDigits base n, isDigitOf base c = true := by
  have hdigit (k : Nat) (hk : k < base) : isDigitOf base k.digitChar = true := by
    rw [isDigitOf, digitValue?_digitChar k (by omega)]
    exact decide_eq_true hk
  induction n using Nat.strongRecOn with
  | _ n ih =>
    rw [Nat.toDigits_eq_if hbase]
    split
    · rename_i hlt
      exact List.forall_mem_singleton.2 (hdigit n hlt)
    · refine List.forall_mem_append.2 ⟨ih (n / base) (Nat.div_lt_self (by omega) hbase), ?_⟩
      exact List.forall_mem_singleton.2 (hdigit _ (Nat.mod_lt n (by omega)))

end Token

namespace Text

open Token Grammar

theorem toList_hexText (count n : Nat) : (hexText count n).toList =
    List.replicate (count - (Nat.toDigits 16 n).length) '0' ++ Nat.toDigits 16 n := by
  rw [hexText, String.toList_ofList]

/-- A code written with enough digits is read back. -/
theorem hexCode?_hexText {count n : Nat} (hcount : 0 < count) (h : n < 16 ^ count) (rest : List Char) :
    hexCode? count ((hexText count n).toList ++ rest) = some (n, rest) := by
  have hlength : (Nat.toDigits 16 n).length ≤ count := (Nat.length_toDigits_le_iff (by decide) hcount).2 h
  have htotal : (hexText count n).toList.length = count := by
    rw [toList_hexText, List.length_append, List.length_replicate]
    omega
  have hdigits : (hexText count n).toList.all (isDigitOf 16) = true := by
    rw [List.all_eq_true, toList_hexText]
    refine List.forall_mem_append.2 ⟨fun c hc => ?_, isDigitOf_toDigits (by decide) (Nat.le_refl _) n⟩
    rw [List.eq_of_mem_replicate hc]
    decide
  have hnumber : numberOf 16 (hexText count n).toList = n := by
    rw [toList_hexText, numberOf_zeros, numberOf_toDigits (by decide) (Nat.le_refl _)]
  unfold hexCode?
  rw [List.take_left' htotal, List.drop_left' htotal]
  dsimp only
  rw [hdigits, hnumber, htotal]
  simp

/-! ## Code points -/

/-- What the text of one code point stands for, and the rest. -/
def readPoint [Host] (isBytes : Bool) : List Char → Option (List CodePoint × List Char)
  | '\\' :: rest => escape? isBytes rest
  | c :: rest => some ([↑c], rest)
  | [] => none

theorem readPoint_plain [Host] (isBytes : Bool) {c : Char} (h : c ≠ '\\') (rest : List Char) :
    readPoint isBytes (c :: rest) = some ([↑c], rest) := by
  unfold readPoint
  split
  · rename_i heq
    cases heq
    exact absurd rfl h
  · rename_i heq
    cases heq
    rfl
  · rename_i heq
    cases heq

/-- A code behind its mark is read back: one below `0x100` as two digits, and in a string the longer ones too. -/
theorem readPoint_short [Host] (isBytes : Bool) {p : CodePoint} (h : p.val < 0x100) (rest : List Char) :
    readPoint isBytes ((escapeCode p.val).toList ++ rest) = some ([p], rest) := by
  have hcode : hexCode? 2 ((hexText 2 p.val).toList ++ rest) = some (p.val, rest) :=
    hexCode?_hexText (by decide) h rest
  have htext : (escapeCode p.val).toList ++ rest = '\\' :: 'x' :: ((hexText 2 p.val).toList ++ rest) := by
    rw [escapeCode, if_pos h, String.toList_append]
    rfl
  have hescape : escape? isBytes ('x' :: ((hexText 2 p.val).toList ++ rest)) =
      (hexCode? 2 ((hexText 2 p.val).toList ++ rest)).bind fun found =>
        (CodePoint.ofNat? found.1).bind fun p => some ([p], found.2) := rfl
  rw [htext, readPoint, hescape, hcode, Option.bind_some, CodePoint.ofNat?_val, Option.bind_some]

theorem readPoint_wide [Host] {mark : Char} {count : Nat} (hmark : (mark = 'u' ∧ count = 4) ∨ (mark = 'U' ∧ count = 8))
    {p : CodePoint} (h : p.val < 16 ^ count) (rest : List Char) :
    readPoint false ('\\' :: mark :: ((hexText count p.val).toList ++ rest)) = some ([p], rest) := by
  have hescape : escape? false (mark :: ((hexText count p.val).toList ++ rest)) =
      (hexCode? count ((hexText count p.val).toList ++ rest)).bind fun found =>
        (CodePoint.ofNat? found.1).bind fun p => some ([p], found.2) := by
    obtain ⟨rfl, rfl⟩ | ⟨rfl, rfl⟩ := hmark
    · rfl
    · rfl
  have hcode : hexCode? count ((hexText count p.val).toList ++ rest) = some (p.val, rest) := by
    refine hexCode?_hexText ?_ h rest
    obtain ⟨-, rfl⟩ | ⟨-, rfl⟩ := hmark
    · decide
    · decide
  rw [readPoint, hescape, hcode, Option.bind_some, CodePoint.ofNat?_val, Option.bind_some]

/-- An escaped code point is read back, be it a character or a surrogate. -/
theorem readPoint_code [Host] (p : CodePoint) (rest : List Char) :
    readPoint false ((escapeCode p.val).toList ++ rest) = some ([p], rest) := by
  by_cases hshort : p.val < 0x100
  · exact readPoint_short false hshort rest
  · by_cases hmiddle : p.val < 0x10000
    · have htext : (escapeCode p.val).toList ++ rest = '\\' :: 'u' :: ((hexText 4 p.val).toList ++ rest) := by
        rw [escapeCode, if_neg hshort, if_pos hmiddle, String.toList_append]
        rfl
      rw [htext, readPoint_wide (.inl ⟨rfl, rfl⟩) hmiddle]
    · have hlt : p.val < 16 ^ 8 := Nat.lt_trans p.lt (by decide)
      have htext : (escapeCode p.val).toList ++ rest = '\\' :: 'U' :: ((hexText 8 p.val).toList ++ rest) := by
        rw [escapeCode, if_neg hshort, if_neg hmiddle, String.toList_append]
        rfl
      rw [htext, readPoint_wide (.inr ⟨rfl, rfl⟩) hlt]

/-- The quotes that texts are put in. -/
def IsQuote (quote : Char) : Prop := quote = '\'' ∨ quote = '"'

theorem isQuote_quoteFor (ps : List CodePoint) : IsQuote (quoteFor ps) := by
  unfold quoteFor IsQuote
  split
  · exact .inr rfl
  · exact .inl rfl

/-- A character without an escape is neither a backslash nor the quote. -/
theorem ne_of_commonEscape {quote c : Char} (h : commonEscape? quote c = none) : c ≠ '\\' ∧ c ≠ quote := by
  unfold commonEscape? at h
  split at h
  · cases h
  · rename_i hself
    rw [Bool.or_eq_true, beq_iff_eq, beq_iff_eq] at hself
    exact not_or.1 hself

theorem toNat_ofByte (b : UInt8) : (Char.ofNat b.toNat).toNat = b.toNat := by
  have hlt := b.toNat_lt
  have hvalid : b.toNat.isValidChar := .inl (by omega)
  rw [Char.ofNat, dif_pos hvalid]
  rfl

theorem toList_toString (c : Char) : c.toString.toList = [c] := String.toList_singleton c

theorem escapeCode_head (n : Nat) : ∃ rest, (escapeCode n).toList = '\\' :: rest := by
  unfold escapeCode
  split
  · exact ⟨_, String.toList_append⟩
  · split
    · exact ⟨_, String.toList_append⟩
    · exact ⟨_, String.toList_append⟩

/-- The text of a code point does not start with the quote. -/
def NotQuote (quote : Char) (text : String) : Prop := ∃ c rest, text.toList = c :: rest ∧ c ≠ quote

theorem notQuote_plain {quote c : Char} (h : c ≠ quote) : NotQuote quote c.toString := ⟨c, [], toList_toString c, h⟩

section

variable {quote : Char} (hquote : IsQuote quote)

include hquote

theorem readPoint_commonEscape [Host] (isBytes : Bool) {c : Char} {text : String} (h : commonEscape? quote c = some text)
    (rest : List Char) : readPoint isBytes (text.toList ++ rest) = some ([↑c], rest) := by
  unfold commonEscape? at h
  split at h
  · rename_i hself
    cases h
    obtain rfl | rfl | rfl : c = '\\' ∨ c = '\'' ∨ c = '"' := by
      rw [Bool.or_eq_true, beq_iff_eq, beq_iff_eq] at hself
      obtain rfl | rfl := hself
      · exact .inl rfl
      · exact .inr hquote
    all_goals
      rw [String.toList_ofList]
      rfl
  · split at h
    · rename_i heq
      cases h
      cases eq_of_beq heq
      rfl
    · split at h
      · rename_i heq
        cases h
        cases eq_of_beq heq
        rfl
      · split at h
        · rename_i heq
          cases h
          cases eq_of_beq heq
          rfl
        · cases h

theorem readPoint_encodeChar [Host] (c : Char) (rest : List Char) :
    readPoint false ((encodeChar quote c).toList ++ rest) = some ([↑c], rest) := by
  unfold encodeChar
  cases hcommon : commonEscape? quote c with
  | some text => exact readPoint_commonEscape hquote false hcommon rest
  | none =>
    dsimp only
    split
    · rw [toList_toString]
      exact readPoint_plain false (ne_of_commonEscape hcommon).1 rest
    · exact readPoint_code c rest

theorem readPoint_encodePoint [Host] (p : CodePoint) (rest : List Char) :
    readPoint false ((encodePoint quote p).toList ++ rest) = some ([p], rest) := by
  unfold encodePoint
  cases hchar : p.toChar? with
  | some c =>
    rw [CodePoint.eq_ofChar hchar]
    exact readPoint_encodeChar hquote c rest
  | none => exact readPoint_code p rest

theorem readPoint_encodeByte [Host] (b : UInt8) (rest : List Char) :
    readPoint true ((encodeByte quote b).toList ++ rest) = some ([.ofByte b], rest) := by
  have hbyte : CodePoint.ofByte b = .ofChar (Char.ofNat b.toNat) := CodePoint.ext (toNat_ofByte b).symm
  unfold encodeByte
  dsimp only
  cases hcommon : commonEscape? quote (Char.ofNat b.toNat) with
  | some text =>
    rw [hbyte]
    exact readPoint_commonEscape hquote true hcommon rest
  | none =>
    dsimp only
    split
    · rw [toList_toString, hbyte]
      exact readPoint_plain true (ne_of_commonEscape hcommon).1 rest
    · exact readPoint_short (p := .ofByte b) true b.toNat_lt rest

/-! ### Where a text ends -/

theorem notQuote_escape {text : String} (h : ∃ rest, text.toList = '\\' :: rest) : NotQuote quote text := by
  obtain ⟨rest, hrest⟩ := h
  refine ⟨'\\', rest, hrest, ?_⟩
  obtain rfl | rfl := hquote
  · decide
  · decide

theorem notQuote_commonEscape {c : Char} {text : String} (h : commonEscape? quote c = some text) :
    NotQuote quote text := by
  unfold commonEscape? at h
  split at h
  · cases h
    exact notQuote_escape hquote ⟨[c], String.toList_ofList⟩
  · split at h
    · cases h
      exact notQuote_escape hquote ⟨['n'], rfl⟩
    · split at h
      · cases h
        exact notQuote_escape hquote ⟨['r'], rfl⟩
      · split at h
        · cases h
          exact notQuote_escape hquote ⟨['t'], rfl⟩
        · cases h

theorem notQuote_encodeChar (c : Char) : NotQuote quote (encodeChar quote c) := by
  unfold encodeChar
  cases hcommon : commonEscape? quote c with
  | some text => exact notQuote_commonEscape hquote hcommon
  | none =>
    dsimp only
    split
    · exact notQuote_plain (ne_of_commonEscape hcommon).2
    · exact notQuote_escape hquote (escapeCode_head c.toNat)

theorem notQuote_encodePoint (p : CodePoint) : NotQuote quote (encodePoint quote p) := by
  unfold encodePoint
  split
  · exact notQuote_encodeChar hquote _
  · exact notQuote_escape hquote (escapeCode_head p.val)

theorem notQuote_encodeByte (b : UInt8) : NotQuote quote (encodeByte quote b) := by
  unfold encodeByte
  dsimp only
  cases hcommon : commonEscape? quote (Char.ofNat b.toNat) with
  | some text => exact notQuote_commonEscape hquote hcommon
  | none =>
    dsimp only
    split
    · exact notQuote_plain (ne_of_commonEscape hcommon).2
    · exact notQuote_escape hquote (escapeCode_head b.toNat)

end

/-! ## Quoted texts -/

/-- Items whose texts are read back one by one, none of which starts with the quote, are known from their joined texts
up to the quote behind them. -/
theorem joined_cancel {α : Type} {encode : α → String} {quote : Char}
    (hcancel : ∀ (a b : α) (x y : List Char), (encode a).toList ++ x = (encode b).toList ++ y → a = b ∧ x = y)
    (hhead : ∀ a, NotQuote quote (encode a)) {r r' : List Char} : ∀ {items items' : List α},
      (String.join (items.map encode)).toList ++ quote :: r = (String.join (items'.map encode)).toList ++ quote :: r' →
        items = items' ∧ r = r'
  | [], [], h => by
    cases h
    exact ⟨rfl, rfl⟩
  | [], a :: items', h => by
    obtain ⟨c, rest, htext, hne⟩ := hhead a
    rw [List.map_cons, String.toList_join, String.toList_join, List.flatMap_cons, htext] at h
    injection h with hc
    exact absurd hc.symm hne
  | a :: items, [], h => by
    obtain ⟨c, rest, htext, hne⟩ := hhead a
    rw [List.map_cons, String.toList_join, String.toList_join, List.flatMap_cons, htext] at h
    injection h with hc
    exact absurd hc hne
  | a :: items, b :: items', h => by
    rw [List.map_cons, List.map_cons, String.toList_join, String.toList_join, List.flatMap_cons, List.flatMap_cons,
      List.append_assoc, List.append_assoc] at h
    obtain ⟨rfl, hrest⟩ := hcancel _ _ _ _ h
    rw [← String.toList_join, ← String.toList_join] at hrest
    obtain ⟨rfl, rfl⟩ := joined_cancel hcancel hhead hrest
    exact ⟨rfl, rfl⟩

section

-- Any host reads back what is quoted, so one of them is enough here.
attribute [local instance] Host.standard

theorem encodePoint_cancel {quote : Char} (hquote : IsQuote quote) (p p' : CodePoint) (x y : List Char)
    (h : (encodePoint quote p).toList ++ x = (encodePoint quote p').toList ++ y) : p = p' ∧ x = y := by
  have hread := readPoint_encodePoint hquote p x
  rw [h, readPoint_encodePoint hquote p' y] at hread
  cases hread
  exact ⟨rfl, rfl⟩

theorem encodeByte_cancel {quote : Char} (hquote : IsQuote quote) (b b' : UInt8) (x y : List Char)
    (h : (encodeByte quote b).toList ++ x = (encodeByte quote b').toList ++ y) : b = b' ∧ x = y := by
  have hread := readPoint_encodeByte hquote b x
  rw [h, readPoint_encodeByte hquote b' y] at hread
  obtain ⟨hpoint, hrest⟩ := Prod.mk.inj (Option.some.inj hread)
  have hcode : b'.toNat = b.toNat := congrArg CodePoint.val (List.cons.inj hpoint).1
  exact ⟨(UInt8.toNat_inj.1 hcode).symm, hrest.symm⟩

end

theorem toList_quoted (t : Text) : (quoted t).toList =
    quoteFor t.points :: ((String.join (t.points.map (encodePoint (quoteFor t.points)))).toList ++ [quoteFor t.points]) := by
  rw [quoted, String.toList_append, String.toList_append, toList_toString, encoded]
  rfl

theorem toList_quotedBytes (bytes : List UInt8) :
    let quote := quoteFor (bytes.map .ofByte)
    (quotedBytes bytes).toList = 'b' :: quote :: ((String.join (bytes.map (encodeByte quote))).toList ++ [quote]) := by
  intro quote
  rw [quotedBytes, String.toList_append, String.toList_append, String.toList_append, toList_toString]
  rfl

/-- A text is known from the way it is quoted, whatever stands behind it. -/
theorem quoted_cancel {t t' : Text} {r r' : List Char} (h : (quoted t).toList ++ r = (quoted t').toList ++ r') :
    t = t' ∧ r = r' := by
  have hquote := isQuote_quoteFor t.points
  rw [toList_quoted, toList_quoted, List.cons_append, List.cons_append] at h
  obtain ⟨hsame, hrest⟩ := List.cons.inj h
  rw [← hsame, List.append_assoc, List.append_assoc] at hrest
  obtain ⟨ht, hr⟩ := joined_cancel (encodePoint_cancel hquote) (notQuote_encodePoint hquote) hrest
  exact ⟨congrArg Text.mk ht, hr⟩

theorem quotedBytes_cancel {bytes bytes' : List UInt8} {r r' : List Char}
    (h : (quotedBytes bytes).toList ++ r = (quotedBytes bytes').toList ++ r') : bytes = bytes' ∧ r = r' := by
  have hquote := isQuote_quoteFor (bytes.map .ofByte)
  rw [toList_quotedBytes, toList_quotedBytes, List.cons_append, List.cons_append, List.cons_append, List.cons_append] at h
  obtain ⟨-, h⟩ := List.cons.inj h
  obtain ⟨hsame, hrest⟩ := List.cons.inj h
  rw [← hsame, List.append_assoc, List.append_assoc] at hrest
  exact joined_cancel (encodeByte_cancel hquote) (notQuote_encodeByte hquote) hrest

end Text

end Treewalk
