/-
What a scan finds. Every number among the tokens of a program text is one that its literal can stand for: an integer, or a
float or an imaginary number without a sign.
-/
import Treewalk.Token.Lexer
import Treewalk.Proofs.Unambiguous

namespace Treewalk

/-! ## Searches -/

/-- All that a search finds has a property. -/
def Finds {α : Type} (V : α → Prop) (x : Option α) : Prop := ∀ a, x = some a → V a

namespace Finds

variable {α β : Type} {U : α → Prop} {V : β → Prop}

theorem some {a : α} (h : U a) : Finds U (some a) := by
  rintro _ ⟨⟩
  exact h

theorem none : Finds U none := nofun

theorem bind {x : Option α} {f : α → Option β} (hx : Finds U x) (hf : ∀ a, U a → Finds V (f a)) :
    Finds V (x >>= f) := by
  cases x with
  | none => exact nofun
  | some a => exact hf a (hx a rfl)

theorem after {x : Option α} {f : α → Option β} (hf : ∀ a, Finds V (f a)) : Finds V (x >>= f) :=
  bind (U := fun _ => True) (fun _ _ => trivial) fun a _ => hf a

theorem map {x : Option α} {f : α → β} (hx : Finds U x) (hf : ∀ a, U a → V (f a)) : Finds V (x.map f) := by
  rw [Option.map_eq_bind]
  exact bind hx fun a ha => some (hf a ha)

theorem toList {x : Option α} (h : Finds U x) : ∀ a ∈ x.toList, U a := fun a ha => h a (Option.mem_toList.1 ha)

theorem ite {c : Prop} [Decidable c] {x y : Option α} (hx : Finds U x) (hy : Finds U y) :
    Finds U (if c then x else y) := by
  split
  · exact hx
  · exact hy

theorem mapM {f : α → Option β} {xs : List α} (h : ∀ x ∈ xs, Finds V (f x)) :
    Finds (fun ys => ∀ y ∈ ys, V y) (xs.mapM f) := by
  induction xs with
  | nil => exact some (by simp)
  | cons x rest ih =>
    rw [List.mapM_cons]
    obtain ⟨hx, hrest⟩ := List.forall_mem_cons.1 h
    exact bind hx fun y hy => bind (ih hrest) fun ys hys => some (List.forall_mem_cons.2 ⟨hy, hys⟩)

end Finds

/-! ## Numbers -/

theorem Decimal.ratio_pos (d : Decimal) : 0 < d.ratio.2 := by
  unfold Decimal.ratio
  split
  · exact Nat.one_pos
  · exact Nat.pow_pos (by decide)

namespace Double

theorem unsigned_infinite : (infinite false).Unsigned := ⟨rfl, rfl⟩

theorem unsigned_zero : (zero false).Unsigned := ⟨rfl, rfl⟩

theorem unsigned_ofRatio (num : Nat) {den : Nat} (hden : 0 < den) : (ofRatio false num den).Unsigned := by
  obtain ⟨m, e, -, -, hof⟩ := ofRatio_rounded false num hden
  rw [hof]
  split
  · exact ⟨rfl, rfl⟩
  · exact unsigned_infinite

/-- A decimal without a sign stands for a number without one. -/
theorem unsigned_ofDecimal (d : Decimal) : (ofDecimal false d).Unsigned := by
  unfold ofDecimal
  dsimp only
  split
  · exact unsigned_zero
  · split
    · exact unsigned_infinite
    · split
      · exact unsigned_zero
      · exact unsigned_ofRatio _ d.ratio_pos

end Double

namespace Token

theorem plain_radixNumber (base : Nat) (cs : List Char) : Finds (fun found => found.1.Plain) (radixNumber base cs) :=
  .after fun ⟨_, _⟩ => .ite .none (.some (.int _))

theorem plain_decimalInteger (digits : List Char) : Finds Literal.Plain (decimalInteger digits) :=
  .ite (.some (.int 0)) (.ite .none (.some (.int _)))

theorem plain_decimalNumber (whole cs : List Char) :
    Finds (fun found => found.1.Plain) (decimalNumber whole cs) := by
  unfold decimalNumber
  extract_lets behind
  have hbehind : ∀ found, Finds (fun found => found.1.Plain) (behind found) := by
    rintro ⟨fraction, rest⟩
    refine .after fun ⟨exponent, rest⟩ => ?_
    dsimp only
    have hvalue := Double.unsigned_ofDecimal
      ⟨numberOf 10 (whole ++ fraction.getD []), exponent.getD 0 - (fraction.getD []).length⟩
    split
    · exact .ite (.some (.imaginary hvalue)) .none
    · exact .ite (.some (.imaginary hvalue)) .none
    · refine .ite .none (.ite ?_ (.some (.float hvalue)))
      exact .bind (plain_decimalInteger whole) fun _ hinteger => .some hinteger
  split
  · exact .after hbehind
  · exact .after hbehind

theorem plain_scanNumber (cs : List Char) : Finds (fun found => found.1.Plain) (scanNumber cs) := by
  unfold scanNumber
  split
  · exact plain_radixNumber 16 _
  · exact plain_radixNumber 16 _
  · exact plain_radixNumber 8 _
  · exact plain_radixNumber 8 _
  · exact plain_radixNumber 2 _
  · exact plain_radixNumber 2 _
  · exact plain_decimalNumber [] _
  · exact .after fun ⟨whole, rest⟩ => plain_decimalNumber whole rest

end Token

/-! ## Tokens -/

/-- The number in the token, if there is one, is one that a literal can stand for. -/
def Lexeme.Plain (t : Lexeme) : Prop :=
  match t.token with
  | .number value => value.Plain
  | _ => True

/-- All numbers among the tokens are ones that literals can stand for. -/
def PlainTokens (tokens : List Lexeme) : Prop := ∀ t ∈ tokens, t.Plain

namespace PlainTokens

theorem nil : PlainTokens [] := List.forall_mem_nil _

theorem cons {t : Lexeme} {tokens : List Lexeme} (ht : t.Plain) (h : PlainTokens tokens) : PlainTokens (t :: tokens) :=
  List.forall_mem_cons.2 ⟨ht, h⟩

theorem first {t : Lexeme} {tokens : List Lexeme} (h : PlainTokens (t :: tokens)) : t.Plain :=
  (List.forall_mem_cons.1 h).1

theorem rest {t : Lexeme} {tokens : List Lexeme} (h : PlainTokens (t :: tokens)) : PlainTokens tokens :=
  (List.forall_mem_cons.1 h).2

theorem drop {tokens : List Lexeme} (h : PlainTokens tokens) (count : Nat) : PlainTokens (tokens.drop count) :=
  fun t ht => h t (List.mem_of_mem_drop ht)

theorem tail {tokens : List Lexeme} (h : PlainTokens tokens) : PlainTokens tokens.tail :=
  fun t ht => h t (List.mem_of_mem_tail ht)

end PlainTokens

namespace Token.Lexer

/-- The numbers found so far are ones that literals can stand for. -/
abbrev Plain (l : Lexer) : Prop := PlainTokens l.found

section

variable {l : Lexer}

theorem Plain.emit (h : l.Plain) (token : Token) (htoken : (Lexeme.mk token l.line).Plain) (rest : List Char) :
    (l.emit token rest).Plain := .cons htoken h

theorem plain_closeBlocks (i : Indentation) (line : Nat) : ∀ (indents : List Indentation) {found : List Lexeme},
    PlainTokens found → Finds (fun closed => PlainTokens closed.2) (closeBlocks i line indents found)
  | [], _, _ => .none
  | top :: below, found, h => by
    unfold closeBlocks
    exact .ite (plain_closeBlocks i line below (.cons trivial h)) (.ite (.some h) .none)

theorem Plain.indentTo (h : l.Plain) (i : Indentation) : Finds Plain (l.indentTo i) := by
  unfold Lexer.indentTo
  split
  · exact .none
  · refine .ite (.ite (.some h) .none) (.ite (.ite .none (.some (.cons trivial h))) ?_)
    exact .bind (plain_closeBlocks i l.line _ h) fun ⟨_, _⟩ hclosed => .some hclosed

theorem Plain.startLine (h : l.Plain) : Finds Plain l.startLine := by
  refine .after fun ⟨m, rest⟩ => ?_
  dsimp only
  split
  · exact .some h
  · exact .some h
  · exact .ite (Plain.indentTo (l := { l with rest := rest, line := m.line, atLineStart := false }) h m.indentation) (.some h)

theorem Plain.scanQuoted (h : l.Plain) (mark : String) (quote : Char) (rest : List Char) :
    Finds Plain (l.scanQuoted mark quote rest) :=
  .after fun ⟨_, rest, _⟩ => .some (h.emit (.quoted _) trivial rest)

theorem Plain.scanWord (h : l.Plain) : Finds Plain l.scanWord := by
  have hword (word : String) (rest : List Char) : (l.emit (.ofWord word) rest).Plain := by
    refine h.emit _ ?_ rest
    unfold ofWord
    split <;> trivial
  unfold Lexer.scanWord
  dsimp only
  split
  · exact .ite (h.scanQuoted _ _ _) (.ite (.some (hword _ _)) .none)
  · exact .ite (.some (hword _ _)) .none

theorem Plain.bracket (h : l.Plain) (c : Char) : Finds Plain (l.bracket c) := by
  refine .ite (.ite .none (.some h)) (.ite ?_ (.some h))
  split
  · exact .ite (.some h) .none
  · exact .none

theorem Plain.scanOperator (h : l.Plain) : Finds Plain l.scanOperator := by
  refine .after fun op => .ite ?_ ?_
  · exact .bind (h.bracket _) fun _ hl => .some (hl.emit (.op op) trivial _)
  · exact .some (h.emit (.op op) trivial _)

/-- A step adds at most one number, which is one that its literal can stand for. -/
theorem Plain.step (h : l.Plain) : Finds Plain l.step := by
  refine .ite h.startLine ?_
  split
  · exact .some h
  · rename_i rest _
    dsimp only
    split
    · exact .some (h.emit .newline trivial rest)
    · exact .some h
  · exact .some h
  · exact .none
  · exact .some h
  · refine .ite (.some h) (.ite ?_ (.ite (h.scanQuoted _ _ _) (.ite h.scanWord h.scanOperator)))
    exact .map (plain_scanNumber _) fun ⟨value, rest⟩ hvalue => h.emit (.number value) hvalue rest

end

theorem Plain.run : ∀ (fuel : Nat) {l : Lexer}, l.Plain → Finds Plain (run fuel l)
  | 0, _, _ => .none
  | fuel + 1, _, h => .ite (.some h) (.bind h.step fun _ hl => Plain.run fuel hl)

theorem Plain.finish {l : Lexer} (h : l.Plain) : Finds PlainTokens l.finish := by
  refine .ite .none (.some (List.forall_mem_append.2 ⟨fun t ht => h t (List.mem_reverse.1 ht), fun t ht => ?_⟩))
  rw [List.eq_of_mem_replicate ht]
  trivial

end Token.Lexer

/-- Numbers among the tokens of a text are ones that literals can stand for. -/
theorem Token.plain_scan (source : List Char) : Finds PlainTokens (scan source) :=
  .bind (Lexer.Plain.run _ .nil) fun _ hl => hl.finish

end Treewalk
