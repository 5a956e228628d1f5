/-
Outlines are known from their texts. The words of an outline end at a mark, and which mark that is tells a node, a list
and a quoted literal from each other and from the other literals; a quoted literal has its own end. So the text of an
outline, with whatever may stand behind it, determines the outline.
-/
import Mathlib.Data.List.Forall2
import Treewalk.Proofs.Numerals
import Treewalk.Syntax.Outline

namespace Treewalk

/-! ## Words -/

/-- The characters that end a word. -/
def marks : List Char := ['(', ')', '[', ']', ',', '=', '\'', '"']

/-- A text without marks. -/
def IsWord (cs : List Char) : Prop := ∀ c ∈ cs, c ∉ marks

-- The characters are those of the list; going through all characters would never end.
instance (cs : List Char) : Decidable (IsWord cs) := List.decidableBAll (· ∉ marks) cs

/-- What can stand behind a word: nothing, or something with a mark in front. -/
def StopsWord (cs : List Char) : Prop := ∀ c ∈ cs.head?, c ∈ marks

/-- What can stand behind an outline: nothing, the next item, or the end of a list or a node. -/
def StopsOutline (cs : List Char) : Prop := ∀ c ∈ cs.head?, c ∈ [',', ')', ']']

theorem StopsWord.cons {c : Char} (h : c ∈ marks) (cs : List Char) : StopsWord (c :: cs) := by
  rintro _ ⟨⟩
  exact h

theorem StopsOutline.stopsWord {cs : List Char} (h : StopsOutline cs) : StopsWord cs := by
  intro c hc
  have hmem := h c hc
  simp only [List.mem_cons, List.not_mem_nil, or_false] at hmem
  rcases hmem with rfl | rfl | rfl <;> decide

/-- A word is known from the text it starts. -/
theorem word_cancel : ∀ {w w' r r' : List Char}, IsWord w → IsWord w' → StopsWord r → StopsWord r' →
    w ++ r = w' ++ r' → w = w' ∧ r = r'
  | [], [], _, _, _, _, _, _, h => ⟨rfl, h⟩
  | [], c :: w', r, r', _, hw', hr, _, h => by
    obtain rfl : r = c :: (w' ++ r') := h
    exact absurd (hr c rfl) (hw' c (List.mem_cons_self ..))
  | c :: w, [], r, r', hw, _, _, hr', h => by
    obtain rfl : c :: (w ++ r) = r' := h
    exact absurd (hr' c rfl) (hw c (List.mem_cons_self ..))
  | c :: w, c' :: w', r, r', hw, hw', hr, hr', h => by
    obtain ⟨rfl, hrest⟩ := List.cons.inj h
    have hw : IsWord w := fun d hd => hw d (List.mem_cons_of_mem _ hd)
    have hw' : IsWord w' := fun d hd => hw' d (List.mem_cons_of_mem _ hd)
    obtain ⟨rfl, rfl⟩ := word_cancel hw hw' hr hr' hrest
    exact ⟨rfl, rfl⟩

/-! ## Literals -/

namespace Literal

/-- The literals of program texts. -/
inductive Plain : Literal → Prop
  | none : Plain .none
  | bool (value : Bool) : Plain (.bool value)
  | int (value : Int) : Plain (.int value)
  | float {x : Double} (h : x.Unsigned) : Plain (.float x)
  | imaginary {x : Double} (h : x.Unsigned) : Plain (.imaginary (.zero false) x)
  | string (text : Text) : Plain (.string text)
  | bytes (content : List UInt8) : Plain (.bytes content)
  | ellipsis : Plain .ellipsis

/-- The forms of literals that their texts show. -/
inductive Form where
  | none | bool (value : Bool) | int | float | imaginary | string | bytes | ellipsis
deriving DecidableEq

/-- The form of a literal of a program text. -/
def form : Literal → Form
  | .none => .none
  | .bool value => .bool value
  | .int _ => .int
  | .float _ => .float
  | .imaginary _ _ => .imaginary
  | .string _ => .string
  | .bytes _ => .bytes
  | _ => .ellipsis

/-- The form that a text shows: by its first character, or else by the characters that it has. -/
def formShown (cs : List Char) : Form :=
  match cs.head? with
  | some 'N' => .none
  | some 'T' => .bool true
  | some 'F' => .bool false
  | some 'E' => .ellipsis
  | some '\'' | some '"' => .string
  | some 'b' => .bytes
  | _ =>
    if 'j' ∈ cs then .imaginary
    else if cs.all fun c => c.isDigit || c == '-' then .int
    else .float

/-- The characters of numbers. -/
def IsNumberChar (c : Char) : Prop := c.isDigit = true ∨ c ∈ ['.', 'e', '+', '-', 'i', 'n', 'f', 'j']

theorem IsNumberChar.ne {c d : Char} (h : IsNumberChar c) (hdigit : d.isDigit = false)
    (hd : d ∉ ['.', 'e', '+', '-', 'i', 'n', 'f', 'j']) : c ≠ d := by
  rintro rfl
  rcases h with h | h
  · rw [h] at hdigit
    cases hdigit
  · exact hd h

theorem isWord_of_number {cs : List Char} (h : ∀ c ∈ cs, IsNumberChar c) : IsWord cs := by
  intro c hc hmark
  have hall : ∀ d ∈ marks, d.isDigit = false ∧ d ∉ ['.', 'e', '+', '-', 'i', 'n', 'f', 'j'] := by
    simp only [marks, List.forall_mem_cons]
    exact ⟨by decide, by decide, by decide, by decide, by decide, by decide, by decide, by decide, nofun⟩
  exact (h c hc).ne (hall c hmark).1 (hall c hmark).2 rfl

/-- Numbers do not start like other literals. -/
theorem formShown_number {cs : List Char} (h : ∀ c ∈ cs, IsNumberChar c) : formShown cs =
    if 'j' ∈ cs then .imaginary else if cs.all fun c => c.isDigit || c == '-' then .int else .float := by
  have hne (d : Char) (hdigit : d.isDigit = false) (hd : d ∉ ['.', 'e', '+', '-', 'i', 'n', 'f', 'j']) :
      cs.head? ≠ some d := fun hhead => (h d (List.mem_of_head? hhead)).ne hdigit hd rfl
  unfold formShown
  split
  case h_1 heq => exact absurd heq (hne _ rfl (by decide))
  case h_2 heq => exact absurd heq (hne _ rfl (by decide))
  case h_3 heq => exact absurd heq (hne _ rfl (by decide))
  case h_4 heq => exact absurd heq (hne _ rfl (by decide))
  case h_5 heq => exact absurd heq (hne _ rfl (by decide))
  case h_6 heq => exact absurd heq (hne _ rfl (by decide))
  case h_7 heq => exact absurd heq (hne _ rfl (by decide))
  case h_8 => rfl

theorem isNumberChar_magnitude {x : Double} (h : x.Unsigned) (point : Bool) :
    ∀ c ∈ (x.magnitudeText point).toList, IsNumberChar c ∧ c ≠ 'j' := by
  cases hfinite : x.isFinite with
  | true =>
    intro c hc
    rcases Double.isNumeral_magnitudeText h.form hfinite point c hc with hdigit | hmem
    · refine ⟨.inl hdigit, ?_⟩
      rintro rfl
      cases hdigit
    · simp only [List.mem_cons, List.not_mem_nil, or_false] at hmem
      rcases hmem with rfl | rfl | rfl | rfl <;> exact ⟨.inr (by decide), by decide⟩
  | false =>
    cases h.form with
    | infinite =>
      intro c hc
      have hchar : c = 'i' ∨ c = 'n' ∨ c = 'f' := by simpa [Double.magnitudeText] using hc
      rcases hchar with rfl | rfl | rfl <;> exact ⟨.inr (by decide), by decide⟩
    | zero | positive => cases hfinite

theorem text_eq {x : Double} (h : x.Unsigned) : x.text = x.magnitudeText true := by
  rw [Double.text, h.signText_eq, String.empty_append]

theorem complex_eq {x : Double} (h : x.Unsigned) :
    (Text.complex (.zero false) x).toList = (x.magnitudeText false).toList ++ ['j'] := by
  have hzero : ((Double.zero false).isZero && !(Double.zero false).isNegative) = true := rfl
  rw [Text.complex, if_pos hzero, Double.bareText, h.signText_eq, String.empty_append, String.toList_append]
  rfl

theorem signed_int (n : Int) : ∀ c ∈ (toString n).toList, c.isDigit = true ∨ c = '-' := by
  have hrepr (k : Nat) : ∀ c ∈ k.repr.toList, c.isDigit = true := by
    rw [Nat.repr_eq_ofList_toDigits, String.toList_ofList]
    exact Double.isDigit_toDigits
  rw [Int.toString_eq_repr, Int.repr_eq_if]
  split
  · exact fun c hc => .inl (hrepr _ c hc)
  · rw [String.toList_append]
    refine List.forall_mem_append.2 ⟨fun c hc => ?_, fun c hc => .inl (hrepr _ c hc)⟩
    exact .inr (by simpa using hc)

/-- The texts of literals that are no strings. -/
theorem isNumberChar_int (n : Int) : ∀ c ∈ (toString n).toList, IsNumberChar c := by
  intro c hc
  rcases signed_int n c hc with hdigit | rfl
  · exact .inl hdigit
  · exact .inr (by decide)

theorem isNumberChar_complex {x : Double} (h : x.Unsigned) :
    ∀ c ∈ (Text.complex (.zero false) x).toList, IsNumberChar c := by
  rw [complex_eq h]
  refine List.forall_mem_append.2 ⟨fun c hc => (isNumberChar_magnitude h false c hc).1, ?_⟩
  exact List.forall_mem_singleton.2 (.inr (by decide))

/-- A float is not written like an integer. -/
theorem not_signed_magnitude {x : Double} (h : x.Unsigned) :
    ((x.magnitudeText true).toList.all fun c => c.isDigit || c == '-') = false := by
  have hof {c : Char} (hc : c ∈ (x.magnitudeText true).toList) (hdigit : c.isDigit = false) (hsign : c ≠ '-') :
      ((x.magnitudeText true).toList.all fun c => c.isDigit || c == '-') = false := by
    rw [List.all_eq_false]
    refine ⟨c, hc, ?_⟩
    rw [hdigit, Bool.false_or, beq_iff_eq]
    exact hsign
  cases h.form with
  | infinite => exact hof (c := 'i') (by decide) rfl (by decide)
  | zero => exact hof (c := '.') (by decide) rfl (by decide)
  | positive hm =>
    rw [Double.magnitudeText_pos hm] at hof
    rw [Double.magnitudeText_pos hm]
    rcases Double.pointed_decimalText (Double.shortest _ _) with hpoint | hexp
    · exact hof hpoint rfl (by decide)
    · exact hof hexp rfl (by decide)

theorem text_of_int {n : Int} {t : String} (h : (Literal.int n).shown? = some t) : t = toString n := by
  rw [shown?, Integer.text?] at h
  split at h
  · exact (Option.some.inj h).symm
  · cases h

theorem eq_of_int_text {n n' : Int} (h : toString n = toString n') : n = n' := by
  have hnumber (n : Nat) : Token.numberOf 10 (Nat.toDigits 10 n) = n :=
    Token.numberOf_toDigits (by decide) (by decide) n
  have hrepr {a b : Nat} (hab : a.repr = b.repr) : a = b := by
    rw [Nat.repr_eq_ofList_toDigits, Nat.repr_eq_ofList_toDigits, String.ofList_inj] at hab
    rw [← hnumber a, hab, hnumber]
  have hsign (a b : Nat) : a.repr ≠ "-" ++ b.repr := by
    intro hab
    have hminus : '-' ∈ a.repr.toList := by
      rw [hab, String.toList_append]
      exact List.mem_append_left _ (by decide)
    rw [Nat.repr_eq_ofList_toDigits, String.toList_ofList] at hminus
    cases Double.isDigit_toDigits _ hminus
  rw [Int.toString_eq_repr, Int.toString_eq_repr, Int.repr_eq_if, Int.repr_eq_if] at h
  split at h
  · split at h
    · have hnat := hrepr h
      omega
    · exact absurd h (hsign _ _)
  · split at h
    · exact absurd h.symm (hsign _ _)
    · rw [String.append_right_inj] at h
      have hnat := hrepr h
      omega

/-- The form of a literal is known from its text. -/
theorem formShown_of_shown {l : Literal} (hl : l.Plain) {t : String} (ht : l.shown? = some t) :
    formShown t.toList = l.form := by
  cases hl with
  | none =>
    obtain rfl := Option.some.inj ht
    rfl
  | bool value => cases value <;> cases ht <;> rfl
  | int n =>
    obtain rfl := text_of_int ht
    have hj : 'j' ∉ (toString n).toList := fun hj => by
      rcases signed_int n _ hj with h | h
      · cases h
      · exact absurd h (by decide)
    have hall : ((toString n).toList.all fun c => c.isDigit || c == '-') = true := by
      refine List.all_eq_true.2 fun c hc => ?_
      rw [Bool.or_eq_true, beq_iff_eq]
      exact signed_int n c hc
    rw [formShown_number (isNumberChar_int n), if_neg hj, if_pos hall]
    rfl
  | float h =>
    obtain rfl := Option.some.inj ht
    rw [text_eq h]
    have hj : 'j' ∉ (Double.magnitudeText true _).toList := fun hj => (isNumberChar_magnitude h true _ hj).2 rfl
    rw [formShown_number fun c hc => (isNumberChar_magnitude h true c hc).1, if_neg hj, if_neg]
    · rfl
    · rw [not_signed_magnitude h]
      decide
  | imaginary h =>
    obtain rfl := Option.some.inj ht
    rw [formShown_number (isNumberChar_complex h), complex_eq h, if_pos (by simp)]
    rfl
  | string text =>
    obtain rfl := Option.some.inj ht
    rw [Text.toList_quoted]
    rcases Text.isQuote_quoteFor text.points with hquote | hquote <;> rw [hquote] <;> rfl
  | bytes content =>
    obtain rfl := Option.some.inj ht
    rw [Text.toList_quotedBytes]
    rfl
  | ellipsis =>
    obtain rfl := Option.some.inj ht
    rfl

/-- Strings and byte strings, whose texts have ends of their own. -/
def isQuoted : Literal → Bool
  | .string _ | .bytes _ => true
  | _ => false

/-- The other literals are written as words. -/
theorem isWord_of_shown {l : Literal} (hl : l.Plain) (hquoted : l.isQuoted = false) {t : String}
    (ht : l.shown? = some t) : IsWord t.toList := by
  cases hl with
  | none =>
    obtain rfl := Option.some.inj ht
    decide
  | bool value => cases value <;> cases ht <;> decide
  | int n =>
    obtain rfl := text_of_int ht
    exact isWord_of_number (isNumberChar_int n)
  | float h =>
    obtain rfl := Option.some.inj ht
    rw [text_eq h]
    exact isWord_of_number fun c hc => (isNumberChar_magnitude h true c hc).1
  | imaginary h =>
    obtain rfl := Option.some.inj ht
    exact isWord_of_number (isNumberChar_complex h)
  | string _ | bytes _ => cases hquoted
  | ellipsis =>
    obtain rfl := Option.some.inj ht
    decide

theorem shown_ne_nil {l : Literal} (hl : l.Plain) (hquoted : l.isQuoted = false) {t : String} (ht : l.shown? = some t) :
    t.toList ≠ [] := by
  cases hl with
  | none =>
    obtain rfl := Option.some.inj ht
    decide
  | bool value => cases value <;> cases ht <;> decide
  | int n =>
    obtain rfl := text_of_int ht
    have hrepr (k : Nat) : k.repr.toList ≠ [] := by
      rw [Nat.repr_eq_ofList_toDigits, String.toList_ofList]
      exact List.ne_nil_of_length_pos Nat.length_toDigits_pos
    rw [Int.toString_eq_repr, Int.repr_eq_if]
    split
    · exact hrepr _
    · rw [String.toList_append]
      exact List.append_ne_nil_of_right_ne_nil _ (hrepr _)
  | float h =>
    obtain rfl := Option.some.inj ht
    intro hnil
    have hall := not_signed_magnitude h
    rw [← text_eq h, hnil] at hall
    cases hall
  | imaginary h =>
    obtain rfl := Option.some.inj ht
    rw [complex_eq h]
    exact List.append_ne_nil_of_right_ne_nil _ (by decide)
  | string _ | bytes _ => cases hquoted
  | ellipsis =>
    obtain rfl := Option.some.inj ht
    decide

/-- A literal is known from its text. -/
theorem eq_of_shown {l l' : Literal} (hl : l.Plain) (hl' : l'.Plain) {t : String} (ht : l.shown? = some t)
    (ht' : l'.shown? = some t) : l = l' := by
  have hform : l.form = l'.form := (formShown_of_shown hl ht).symm.trans (formShown_of_shown hl' ht')
  cases hl with
  | none => cases hl' <;> first | rfl | cases hform
  | bool value => cases hl' <;> cases hform; rfl
  | int n =>
    cases hl' <;> try cases hform
    rw [eq_of_int_text ((text_of_int ht).symm.trans (text_of_int ht'))]
  | float h =>
    cases hl' <;> try cases hform
    rename_i h'
    have hx := Option.some.inj (ht.trans ht'.symm)
    rw [text_eq h, text_eq h'] at hx
    rw [Double.eq_of_magnitudeText h.form h'.form hx]
  | imaginary h =>
    cases hl' <;> try cases hform
    rename_i h'
    have hx := congrArg String.toList (Option.some.inj (ht.trans ht'.symm))
    rw [complex_eq h, complex_eq h', List.append_cancel_right_eq, String.toList_inj] at hx
    rw [Double.eq_of_magnitudeText h.form h'.form hx]
  | string text =>
    cases hl' <;> try cases hform
    have hs := congrArg (fun t : String => t.toList ++ []) (Option.some.inj (ht.trans ht'.symm))
    rw [(Text.quoted_cancel hs).1]
  | bytes content =>
    cases hl' <;> try cases hform
    have hs := congrArg (fun t : String => t.toList ++ []) (Option.some.inj (ht.trans ht'.symm))
    rw [(Text.quotedBytes_cancel hs).1]
  | ellipsis => cases hl' <;> first | rfl | cases hform

/-- A literal is known from its text, with whatever may stand behind it. -/
theorem shown_cancel {l l' : Literal} (hl : l.Plain) (hl' : l'.Plain) (hquoted : l.isQuoted = l'.isQuoted)
    {t t' : String} (ht : l.shown? = some t) (ht' : l'.shown? = some t') {r r' : List Char} (hr : StopsOutline r)
    (hr' : StopsOutline r') (h : t.toList ++ r = t'.toList ++ r') : l = l' ∧ r = r' := by
  cases hscalar : l.isQuoted with
  | false =>
    have hword := isWord_of_shown hl hscalar ht
    have hword' := isWord_of_shown hl' (hquoted.symm.trans hscalar) ht'
    obtain ⟨htext, hrest⟩ := word_cancel hword hword' hr.stopsWord hr'.stopsWord h
    rw [String.toList_inj] at htext
    exact ⟨eq_of_shown hl hl' ht (htext ▸ ht'), hrest⟩
  | true =>
    rw [hscalar] at hquoted
    have hmixed (t : Text) (bs : List UInt8) (x y : List Char) :
        (Text.quoted t).toList ++ x ≠ (Text.quotedBytes bs).toList ++ y := by
      intro heq
      rw [Text.toList_quoted, Text.toList_quotedBytes, List.cons_append, List.cons_append] at heq
      have hhead := (List.cons.inj heq).1
      rcases Text.isQuote_quoteFor t.points with hquote | hquote
      · exact absurd (hquote.symm.trans hhead) (by decide)
      · exact absurd (hquote.symm.trans hhead) (by decide)
    cases hl with
    | none | bool | int | float | imaginary | ellipsis => cases hscalar
    | string s =>
      obtain rfl := Option.some.inj ht
      cases hl' with
      | none | bool | int | float | imaginary | ellipsis => cases hquoted
      | string s' =>
        obtain rfl := Option.some.inj ht'
        obtain ⟨rfl, rfl⟩ := Text.quoted_cancel h
        exact ⟨rfl, rfl⟩
      | bytes bs =>
        obtain rfl := Option.some.inj ht'
        exact absurd h (hmixed _ _ _ _)
    | bytes bs =>
      obtain rfl := Option.some.inj ht
      cases hl' with
      | none | bool | int | float | imaginary | ellipsis => cases hquoted
      | string s' =>
        obtain rfl := Option.some.inj ht'
        exact absurd h.symm (hmixed _ _ _ _)
      | bytes bs' =>
        obtain rfl := Option.some.inj ht'
        obtain ⟨rfl, rfl⟩ := Text.quotedBytes_cancel h
        exact ⟨rfl, rfl⟩

end Literal

/-! ## Outlines -/

namespace Outline

/-- An outline whose labels and field names are words and whose literals are those of program texts. -/
inductive Proper : Outline → Prop
  | node {label : String} {fields : List Field} (hlabel : IsWord label.toList)
    (hnames : ∀ name o, .mk name o ∈ fields → IsWord name.toList) (h : ∀ name o, .mk name o ∈ fields → Proper o) :
    Proper (.node label fields)
  | list {items : List Outline} (h : ∀ o ∈ items, Proper o) : Proper (.list items)
  | literal {l : Literal} (h : l.Plain) : Proper (.literal l)

/-- What the text of an outline shows before anything that is inside it. -/
inductive Opener where
  | node | list | quoted | plain
deriving DecidableEq

def opener : Outline → Opener
  | .node .. => .node
  | .list _ => .list
  | .literal l => if l.isQuoted then .quoted else .plain

/-- What is shown by the mark behind the first word, if there is one. -/
def openerAt : Option Char → Opener
  | some '(' => .node
  | some '[' => .list
  | some '\'' | some '"' => .quoted
  | _ => .plain

/-- The text starts with a word, and the mark behind it, if there is one, shows the opener. -/
def Opens (opener : Opener) (cs : List Char) : Prop :=
  ∃ w s, IsWord w ∧ StopsWord s ∧ cs = w ++ s ∧ openerAt s.head? = opener

theorem Opens.mark {w : List Char} {c : Char} (hw : IsWord w) (hc : c ∈ marks) (s : List Char) :
    Opens (openerAt (some c)) (w ++ c :: s) := ⟨w, c :: s, hw, .cons hc s, rfl, rfl⟩

theorem Opens.unique {a b : Opener} {cs : List Char} (h : Opens a cs) (h' : Opens b cs) : a = b := by
  obtain ⟨w, s, hw, hs, rfl, rfl⟩ := h
  obtain ⟨w', s', hw', hs', hsplit, rfl⟩ := h'
  obtain ⟨-, rfl⟩ := word_cancel hw hw' hs hs' hsplit
  rfl

theorem openerAt_stopsOutline {cs : List Char} (h : StopsOutline cs) : openerAt cs.head? = .plain := by
  cases hhead : cs.head? with
  | none => rfl
  | some c =>
    have hmem := h c hhead
    simp only [List.mem_cons, List.not_mem_nil, or_false] at hmem
    rcases hmem with rfl | rfl | rfl <;> rfl

theorem openerAt_quote {quote : Char} (h : Text.IsQuote quote) : quote ∈ marks ∧ openerAt (some quote) = .quoted := by
  rcases h with rfl | rfl
  · exact ⟨by decide, rfl⟩
  · exact ⟨by decide, rfl⟩

theorem text_node {label : String} {fields : List Field} {t : String} (h : text? (.node label fields) = some t) :
    ∃ texts, fieldTexts? fields = some texts ∧
      t.toList = label.toList ++ '(' :: ((String.intercalate ", " texts).toList ++ [')']) := by
  rw [text?] at h
  obtain ⟨texts, htexts, h⟩ := Option.bind_eq_some_iff.1 h
  cases h
  refine ⟨texts, htexts, ?_⟩
  rw [String.toList_append, String.toList_append, String.toList_append]
  simp

theorem text_list {items : List Outline} {t : String} (h : text? (.list items) = some t) :
    ∃ texts, texts? items = some texts ∧ t.toList = '[' :: ((String.intercalate ", " texts).toList ++ [']']) := by
  rw [text?] at h
  obtain ⟨texts, htexts, h⟩ := Option.bind_eq_some_iff.1 h
  cases h
  refine ⟨texts, htexts, ?_⟩
  rw [String.toList_append, String.toList_append]
  simp

theorem opens_literal {l : Literal} (hl : l.Plain) {t : String} (ht : l.shown? = some t) {r : List Char}
    (hr : StopsOutline r) : Opens (opener (.literal l)) (t.toList ++ r) := by
  cases hquoted : l.isQuoted with
  | false =>
    rw [opener, hquoted]
    exact ⟨_, r, Literal.isWord_of_shown hl hquoted ht, hr.stopsWord, rfl, openerAt_stopsOutline hr⟩
  | true =>
    rw [opener, hquoted, if_pos rfl]
    cases hl with
    | none | bool | int | float | imaginary | ellipsis => cases hquoted
    | string s =>
      obtain rfl := Option.some.inj ht
      obtain ⟨hmark, hopener⟩ := openerAt_quote (Text.isQuote_quoteFor s.points)
      rw [Text.toList_quoted, List.cons_append, ← hopener]
      exact .mark (w := []) (by decide) hmark _
    | bytes bs =>
      obtain rfl := Option.some.inj ht
      obtain ⟨hmark, hopener⟩ := openerAt_quote (Text.isQuote_quoteFor (bs.map .ofByte))
      rw [Text.toList_quotedBytes, List.cons_append, List.cons_append, ← hopener]
      exact .mark (w := ['b']) (by decide) hmark _

/-- The text of an outline shows what the outline is. -/
theorem opens_text {o : Outline} (ho : o.Proper) {t : String} (ht : o.text? = some t) {r : List Char}
    (hr : StopsOutline r) : Opens o.opener (t.toList ++ r) := by
  cases ho with
  | node hlabel _ _ =>
    obtain ⟨texts, -, htext⟩ := text_node ht
    rw [htext, List.append_assoc, List.cons_append]
    exact .mark hlabel (c := '(') (by decide) _
  | list _ =>
    obtain ⟨texts, -, htext⟩ := text_list ht
    rw [htext, List.cons_append]
    exact .mark (w := []) (by decide) (c := '[') (by decide) _
  | literal hl =>
    rw [text?] at ht
    exact opens_literal hl ht hr

/-! ### Items -/

/-- Texts with a separator in front of each. -/
def tailTexts (texts : List String) : List Char := texts.flatMap fun t => ',' :: ' ' :: t.toList

theorem tailTexts_cons (t : String) (texts : List String) :
    tailTexts (t :: texts) = ',' :: ' ' :: (t.toList ++ tailTexts texts) := rfl

theorem toList_intercalate_cons (t : String) (texts : List String) :
    (String.intercalate ", " (t :: texts)).toList = t.toList ++ tailTexts texts := by
  induction texts generalizing t with
  | nil => simp [tailTexts]
  | cons t' texts ih =>
    rw [String.intercalate_cons_cons, String.toList_append, String.toList_append, ih]
    simp [tailTexts]

theorem stopsOutline_tail (texts : List String) {close : Char} (hclose : close ∈ [')', ']']) (r : List Char) :
    StopsOutline (tailTexts texts ++ close :: r) := by
  cases texts with
  | nil =>
    rintro c ⟨⟩
    exact List.mem_cons_of_mem _ hclose
  | cons t texts =>
    rintro c ⟨⟩
    decide

section

variable {α : Type} (text? : α → Option String)

/-- Items with their texts. -/
def Texts : List α → List String → Prop := List.Forall₂ fun a t => text? a = some t

/-- The items are known from their texts, whatever may stand behind them. -/
def Cancels (a a' : α) : Prop := ∀ ⦃t t' : String⦄, text? a = some t → text? a' = some t' →
  ∀ ⦃r r' : List Char⦄, StopsOutline r → StopsOutline r' → t.toList ++ r = t'.toList ++ r' → a = a' ∧ r = r'

/-- The text does not start like something that can stand behind it. -/
def Starts (a : α) : Prop := ∀ ⦃t : String⦄, text? a = some t → ∀ ⦃r : List Char⦄, StopsOutline r →
  ∀ ⦃c : Char⦄, c ∈ [')', ']'] → ∀ s, t.toList ++ r ≠ c :: s

variable {text?} {items items' : List α} {texts texts' : List String} {close : Char} {r r' : List Char}

/-- Items with separators in front of each are known from their texts up to the closing bracket. -/
theorem tail_cancel (hclose : close ∈ [')', ']']) (htexts : Texts text? items texts) (htexts' : Texts text? items' texts')
    (hcancel : ∀ a ∈ items, ∀ a' ∈ items', Cancels text? a a')
    (h : tailTexts texts ++ close :: r = tailTexts texts' ++ close :: r') : items = items' ∧ r = r' := by
  have hcomma : close ≠ ',' := by
    rintro rfl
    exact absurd hclose (by decide)
  induction htexts generalizing items' texts' with
  | nil =>
    cases htexts' with
    | nil => exact ⟨rfl, (List.cons.inj h).2⟩
    | cons _ _ => exact absurd (List.cons.inj h).1 hcomma
  | cons ha hrest ih =>
    cases htexts' with
    | nil => exact absurd (List.cons.inj h).1.symm hcomma
    | cons ha' hrest' =>
      rw [tailTexts_cons, tailTexts_cons] at h
      have htail := (List.cons.inj (List.cons.inj h).2).2
      rw [List.append_eq, List.append_eq, List.append_assoc, List.append_assoc] at htail
      obtain ⟨rfl, hremain⟩ := hcancel _ (List.mem_cons_self ..) _ (List.mem_cons_self ..) ha ha'
        (stopsOutline_tail _ hclose r) (stopsOutline_tail _ hclose r') htail
      obtain ⟨rfl, rfl⟩ := ih hrest'
        (fun a hmem a' hmem' => hcancel a (List.mem_cons_of_mem _ hmem) a' (List.mem_cons_of_mem _ hmem')) hremain
      exact ⟨rfl, rfl⟩

/-- Items with separators between them are known from their texts up to the closing bracket. -/
theorem items_cancel (hclose : close ∈ [')', ']']) (htexts : Texts text? items texts)
    (htexts' : Texts text? items' texts') (hcancel : ∀ a ∈ items, ∀ a' ∈ items', Cancels text? a a')
    (hstarts : ∀ a ∈ items, Starts text? a) (hstarts' : ∀ a ∈ items', Starts text? a)
    (h : (String.intercalate ", " texts).toList ++ close :: r = (String.intercalate ", " texts').toList ++ close :: r') :
    items = items' ∧ r = r' := by
  cases htexts with
  | nil =>
    cases htexts' with
    | nil => exact ⟨rfl, (List.cons.inj h).2⟩
    | cons ha' hrest' =>
      rw [toList_intercalate_cons, List.append_assoc] at h
      exact absurd h.symm
        (hstarts' _ (List.mem_cons_self ..) ha' (stopsOutline_tail _ hclose r') hclose _)
  | cons ha hrest =>
    cases htexts' with
    | nil =>
      rw [toList_intercalate_cons, List.append_assoc] at h
      exact absurd h (hstarts _ (List.mem_cons_self ..) ha (stopsOutline_tail _ hclose r) hclose _)
    | cons ha' hrest' =>
      rw [toList_intercalate_cons, toList_intercalate_cons, List.append_assoc, List.append_assoc] at h
      obtain ⟨rfl, hremain⟩ := hcancel _ (List.mem_cons_self ..) _ (List.mem_cons_self ..) ha ha'
        (stopsOutline_tail _ hclose r) (stopsOutline_tail _ hclose r') h
      obtain ⟨rfl, rfl⟩ := tail_cancel hclose hrest hrest'
        (fun a hmem a' hmem' => hcancel a (List.mem_cons_of_mem _ hmem) a' (List.mem_cons_of_mem _ hmem')) hremain
      exact ⟨rfl, rfl⟩

end

theorem texts_of_texts? : ∀ {items : List Outline} {texts : List String}, texts? items = some texts →
    Texts text? items texts
  | [], _, h => by
    cases h
    exact .nil
  | o :: rest, _, h => by
    rw [texts?] at h
    obtain ⟨t, ht, h⟩ := Option.bind_eq_some_iff.1 h
    obtain ⟨ts, hts, h⟩ := Option.bind_eq_some_iff.1 h
    cases h
    exact .cons ht (texts_of_texts? hts)

theorem texts_of_fieldTexts? : ∀ {fields : List Field} {texts : List String}, fieldTexts? fields = some texts →
    Texts fieldText? fields texts
  | [], _, h => by
    cases h
    exact .nil
  | f :: rest, _, h => by
    rw [fieldTexts?] at h
    obtain ⟨t, ht, h⟩ := Option.bind_eq_some_iff.1 h
    obtain ⟨ts, hts, h⟩ := Option.bind_eq_some_iff.1 h
    cases h
    exact .cons ht (texts_of_fieldTexts? hts)

/-! ### Whole outlines -/

/-- The text of an outline does not start with what can stand behind one. -/
theorem starts_text {o : Outline} (ho : o.Proper) : Starts text? o := by
  intro t ht r hr c hc s heq
  have hmark : c ∈ marks ∧ openerAt (some c) = .plain := by
    simp only [List.mem_cons, List.not_mem_nil, or_false] at hc
    rcases hc with rfl | rfl <;> decide
  have hopens : Opens (openerAt (some c)) (c :: s) := .mark (w := []) (by decide) hmark.1 s
  have hplain : o.opener = .plain := ((opens_text ho ht hr).unique (heq ▸ hopens)).trans hmark.2
  cases ho with
  | node | list => cases hplain
  | literal hl =>
    rename_i l
    have hquoted : l.isQuoted = false := by
      rw [opener] at hplain
      split at hplain
      · cases hplain
      · rwa [Bool.not_eq_true] at *
    rw [text?] at ht
    have hword := Literal.isWord_of_shown hl hquoted ht
    obtain ⟨hnil, -⟩ := word_cancel hword (show IsWord [] by decide) hr.stopsWord (.cons hmark.1 s) heq
    exact Literal.shown_ne_nil hl hquoted ht hnil

theorem field_text {name : String} {o : Outline} {t : String} (h : fieldText? (.mk name o) = some t) :
    ∃ t', o.text? = some t' ∧ t.toList = name.toList ++ '=' :: t'.toList := by
  rw [fieldText?] at h
  obtain ⟨t', ht', h⟩ := Option.bind_eq_some_iff.1 h
  cases h
  refine ⟨t', ht', ?_⟩
  rw [String.toList_append, String.toList_append]
  simp

theorem starts_field {name : String} {o : Outline} (hname : IsWord name.toList) : Starts fieldText? (.mk name o) := by
  intro t ht r hr c hc s heq
  obtain ⟨t', -, htext⟩ := field_text ht
  rw [htext, List.append_assoc, List.cons_append] at heq
  have hmark : c ∈ marks ∧ c ≠ '=' := by
    simp only [List.mem_cons, List.not_mem_nil, or_false] at hc
    rcases hc with rfl | rfl <;> decide
  obtain ⟨-, hstop⟩ := word_cancel hname (show IsWord [] by decide) (.cons (by decide) _) (.cons hmark.1 s) heq
  exact hmark.2 (List.cons.inj hstop).1.symm

theorem cancels_field {name name' : String} {o o' : Outline} (hname : IsWord name.toList) (hname' : IsWord name'.toList)
    (h : Cancels text? o o') : Cancels fieldText? (.mk name o) (.mk name' o') := by
  intro t t' ht ht' r r' hr hr' heq
  obtain ⟨u, hu, htext⟩ := field_text ht
  obtain ⟨u', hu', htext'⟩ := field_text ht'
  rw [htext, htext', List.append_assoc, List.append_assoc, List.cons_append, List.cons_append] at heq
  obtain ⟨hsame, hrest⟩ := word_cancel hname hname' (.cons (by decide) _) (.cons (by decide) _) heq
  obtain ⟨rfl, rfl⟩ := h hu hu' hr hr' (List.cons.inj hrest).2
  rw [String.toList_inj.1 hsame]
  exact ⟨rfl, rfl⟩

theorem opener_eq {o o' : Outline} (ho : o.Proper) (ho' : o'.Proper) {t t' : String} (ht : o.text? = some t)
    (ht' : o'.text? = some t') {r r' : List Char} (hr : StopsOutline r) (hr' : StopsOutline r')
    (h : t.toList ++ r = t'.toList ++ r') : o.opener = o'.opener :=
  (opens_text ho ht hr).unique (h ▸ opens_text ho' ht' hr')

theorem opener_quoted_iff {l : Literal} : opener (.literal l) = .quoted ↔ l.isQuoted = true := by
  rw [opener]
  cases l.isQuoted <;> decide

theorem opener_literal_ne (l : Literal) : opener (.literal l) ≠ .node ∧ opener (.literal l) ≠ .list := by
  rw [opener]
  cases l.isQuoted <;> decide

/-- The text of an outline determines the outline and what stands behind it. -/
theorem text_cancel : ∀ {o o' : Outline}, o.Proper → o'.Proper → Cancels text? o o'
  | .node label fields, .node label' fields', .node hlabel hnames hfields, .node hlabel' hnames' hfields' => by
    intro t t' ht ht' r r' hr hr' heq
    obtain ⟨texts, htexts, htext⟩ := text_node ht
    obtain ⟨texts', htexts', htext'⟩ := text_node ht'
    rw [htext, htext', List.append_assoc, List.append_assoc, List.cons_append, List.cons_append] at heq
    obtain ⟨hsame, hrest⟩ := word_cancel hlabel hlabel' (.cons (by decide) _) (.cons (by decide) _) heq
    have hitems := (List.cons.inj hrest).2
    rw [List.append_assoc, List.append_assoc] at hitems
    have hcancel : ∀ f ∈ fields, ∀ f' ∈ fields', Cancels fieldText? f f' := by
      rintro ⟨name, o⟩ hf ⟨name', o'⟩ hf'
      exact cancels_field (hnames name o hf) (hnames' name' o' hf')
        (text_cancel (hfields name o hf) (hfields' name' o' hf'))
    have hstarts : ∀ f ∈ fields, Starts fieldText? f := fun ⟨name, o⟩ hf => starts_field (hnames name o hf)
    have hstarts' : ∀ f ∈ fields', Starts fieldText? f := fun ⟨name, o⟩ hf => starts_field (hnames' name o hf)
    obtain ⟨rfl, rfl⟩ := items_cancel (by decide) (texts_of_fieldTexts? htexts) (texts_of_fieldTexts? htexts') hcancel
      hstarts hstarts' hitems
    rw [String.toList_inj.1 hsame]
    exact ⟨rfl, rfl⟩
  | .list items, .list items', .list hitems, .list hitems' => by
    intro t t' ht ht' r r' hr hr' heq
    obtain ⟨texts, htexts, htext⟩ := text_list ht
    obtain ⟨texts', htexts', htext'⟩ := text_list ht'
    rw [htext, htext', List.cons_append, List.cons_append] at heq
    have hrest := (List.cons.inj heq).2
    rw [List.append_assoc, List.append_assoc] at hrest
    obtain ⟨rfl, rfl⟩ := items_cancel (by decide) (texts_of_texts? htexts) (texts_of_texts? htexts')
      (fun o ho o' ho' => text_cancel (hitems o ho) (hitems' o' ho')) (fun o ho => starts_text (hitems o ho))
      (fun o ho => starts_text (hitems' o ho)) hrest
    exact ⟨rfl, rfl⟩
  | .literal l, .literal l', .literal hl, .literal hl' => by
    intro t t' ht ht' r r' hr hr' heq
    have hquoted : l.isQuoted = l'.isQuoted := by
      have hopener := opener_eq (.literal hl) (.literal hl') ht ht' hr hr' heq
      rw [Bool.eq_iff_iff, ← opener_quoted_iff, ← opener_quoted_iff, hopener]
    rw [text?] at ht ht'
    obtain ⟨rfl, rfl⟩ := Literal.shown_cancel hl hl' hquoted ht ht' hr hr' heq
    exact ⟨rfl, rfl⟩
  | .node .., .list _, ho, ho' | .list _, .node .., ho, ho' => fun _ _ ht ht' _ _ hr hr' heq =>
    nomatch opener_eq ho ho' ht ht' hr hr' heq
  | .node .., .literal l, ho, ho' => fun _ _ ht ht' _ _ hr hr' heq =>
    absurd (opener_eq ho ho' ht ht' hr hr' heq).symm (opener_literal_ne l).1
  | .list _, .literal l, ho, ho' => fun _ _ ht ht' _ _ hr hr' heq =>
    absurd (opener_eq ho ho' ht ht' hr hr' heq).symm (opener_literal_ne l).2
  | .literal l, .node .., ho, ho' => fun _ _ ht ht' _ _ hr hr' heq =>
    absurd (opener_eq ho ho' ht ht' hr hr' heq) (opener_literal_ne l).1
  | .literal l, .list _, ho, ho' => fun _ _ ht ht' _ _ hr hr' heq =>
    absurd (opener_eq ho ho' ht ht' hr hr' heq) (opener_literal_ne l).2

theorem eq_of_text {o o' : Outline} (ho : o.Proper) (ho' : o'.Proper) {t : String} (ht : o.text? = some t)
    (ht' : o'.text? = some t) : o = o' :=
  have hstops : StopsOutline [] := nofun
  (text_cancel ho ho' ht ht' hstops hstops rfl).1

/-- Outlines one behind the other are known from the list of their texts. -/
theorem eq_of_texts {items items' : List Outline} (h : ∀ o ∈ items, o.Proper) (h' : ∀ o ∈ items', o.Proper)
    {texts : List String} (ht : Texts text? items texts) (ht' : Texts text? items' texts) : items = items' := by
  induction ht generalizing items' with
  | nil =>
    cases ht'
    rfl
  | cons hfirst hrest ih =>
    cases ht' with
    | cons hfirst' hrest' =>
      obtain ⟨ho, hproper⟩ := List.forall_mem_cons.1 h
      obtain ⟨ho', hproper'⟩ := List.forall_mem_cons.1 h'
      rw [eq_of_text ho ho' hfirst hfirst', ih hproper hproper' hrest']

end Outline

end Treewalk
