/-
Where a value has a text. Texts are made from the leaves of nested tuples: there is one exactly if every leaf has one, the
leftmost leaf without one is what is reported, and around the texts of the leaves stand parentheses and commas. Which
attribute maps the classes and objects name is not seen.
-/
import Mathlib.Data.Int.Basic
import Treewalk.Proofs.Standard

namespace Treewalk

/-- The text of a number exists up to 4300 digits, whatever the sign. -/
theorem Integer.hasText_iff {n : Int} : hasText n = true ↔ (Nat.toDigits 10 n.natAbs).length ≤ 4300 := by
  have hlength {k : Nat} (hk : 0 < k) : n.natAbs < Nat.pow 10 k ↔ (Nat.toDigits 10 n.natAbs).length ≤ k :=
    (Nat.length_toDigits_le_iff (by decide) hk).symm
  rw [hasText, decide_eq_true_iff, hlength (by decide), digitLimit]

/-- Elements in parentheses; a comma behind a single one tells it from a value in parentheses. -/
def Text.joined (items : List Text) : Text :=
  "(" ++ intercalate ", " items ++ (if items.length = 1 then "," else "") ++ ")"

theorem Text.joined_eq (items : List Text) : "(" ++ bareTuple items ++ ")" = joined items := by
  unfold bareTuple joined
  split
  · rw [List.length_singleton, if_pos rfl, append_assoc, append_assoc, append_assoc]
    rfl
  · rename_i hsingle
    have hlength : items.length ≠ 1 := fun h => by
      obtain ⟨item, rfl⟩ := List.length_eq_one_iff.1 h
      exact hsingle item rfl
    rw [if_neg hlength, show ofString "" = empty from rfl, append_empty]
    rfl

/-- What went wrong, if anything did. -/
def Failure.of? {α : Type} : Except Failure α → Option Failure
  | .ok _ => none
  | .error f => some f

section

variable {α : Type} {x : Except Failure α}

theorem Failure.of?_eq_none_iff : of? x = none ↔ ∃ a, x = .ok a := by
  cases x with
  | ok a => exact iff_of_true rfl ⟨a, rfl⟩
  | error f => exact iff_of_false nofun nofun

theorem Failure.of?_eq_some_iff {f : Failure} : of? x = some f ↔ x = .error f := by
  cases x with
  | ok a => exact iff_of_false nofun nofun
  | error f' => rw [of?, Option.some_inj, Except.error.injEq]

end

namespace Value

/-! ## Leaves -/

mutual

/-- The values that stand in nested tuples and are no tuples themselves, from left to right. -/
def leaves : Value → List Value
  | .tuple items => allLeaves items
  | v => [v]

def allLeaves : List Value → List Value
  | [] => []
  | v :: rest => leaves v ++ allLeaves rest

end

/-- What a leaf needs to have a text. -/
structure HasText (v : Value) : Prop where
  known : ∃ k, v.kind = .ok k
  classed : ∀ type attrs, v = .object type attrs → ∃ name own, type = .cls name own
  short : ∀ n, v = .int n → (Nat.toDigits 10 n.natAbs).length ≤ 4300

/-- What is reported of a leaf without a text. -/
inductive NoText : Value → Failure → Prop
  | foreign (type : String) : NoText (.foreign type) (.error (.foreignValue type))
  | unclassed {type : Value} (attrs : Address) (h : ∀ name own, type ≠ .cls name own) :
    NoText (.object type attrs) (.error .objectWithoutClass)
  | long {n : Int} (h : 4300 < (Nat.toDigits 10 n.natAbs).length) : NoText (.int n) (.unwritable .digitLimit)

/-- What is wrong with a leaf. A tuple is none: what is wrong with it is what is wrong with its leaves. -/
def fault? : Value → Option Failure
  | .tuple _ => Option.none
  | v => Failure.of? v.text

theorem fault?_int (n : Int) :
    fault? (.int n) = if Integer.hasText n then Option.none else some (.unwritable .digitLimit) := by
  rw [fault?, text, Integer.text?]
  case x_1 => nofun
  cases Integer.hasText n <;> rfl

theorem fault?_object {type : Value} (attrs : Address) (h : ∀ name own, type ≠ .cls name own) :
    fault? (.object type attrs) = some (.error .objectWithoutClass) := by
  cases type with
  | cls name own => exact absurd rfl (h name own)
  | none | bool _ | int _ | float _ | imaginary _ _ | string _ | tuple _ | function _ _ _ | object _ _ | foreign _ => rfl

theorem fault?_eq_some_iff {v : Value} {f : Failure} : v.fault? = some f ↔ NoText v f := by
  constructor
  · intro h
    cases v with
    | foreign type =>
      cases h
      exact .foreign type
    | object type attrs =>
      by_cases hclass : ∃ name own, type = .cls name own
      · obtain ⟨name, own, rfl⟩ := hclass
        cases h
      · have htype : ∀ name own, type ≠ .cls name own := fun name own htype => hclass ⟨name, own, htype⟩
        rw [fault?_object attrs htype] at h
        cases h
        exact .unclassed attrs htype
    | int n =>
      rw [fault?_int] at h
      split at h
      · cases h
      · rename_i hlong
        cases h
        exact .long (Nat.not_le.1 fun hshort => hlong (Integer.hasText_iff.2 hshort))
    | bool b => cases b <;> cases h
    | none | float _ | imaginary _ _ | string _ | tuple _ | function _ _ _ | cls _ _ => cases h
  · rintro (_ | ⟨attrs, hclass⟩ | hlong)
    · rfl
    · exact fault?_object attrs hclass
    · rw [← Nat.not_le, ← Integer.hasText_iff] at hlong
      rw [fault?_int, if_neg hlong]

/-- A leaf that nothing is wrong with. -/
theorem hasText_iff {v : Value} : v.HasText ↔ ∀ f, ¬ NoText v f := by
  constructor
  · rintro ⟨known, classed, short⟩ f (_ | ⟨attrs, hclass⟩ | hlong)
    · exact nomatch known
    · obtain ⟨name, own, htype⟩ := classed _ _ rfl
      exact hclass name own htype
    · exact Nat.not_le.2 hlong (short _ rfl)
  · refine fun h => ⟨?_, fun type attrs hv => ?_, fun n hv => ?_⟩
    · cases v with
      | foreign type => exact absurd (.foreign type) (h _)
      | none | bool _ | int _ | float _ | imaginary _ _ | string _ | tuple _ | function _ _ _ | cls _ _ | object _ _ =>
        exact ⟨_, rfl⟩
    · subst hv
      by_contra hclass
      exact h _ (.unclassed attrs fun name own htype => hclass ⟨name, own, htype⟩)
    · subst hv
      exact Nat.not_lt.1 fun hlong => h _ (.long hlong)

theorem fault?_eq_none_iff {v : Value} : v.fault? = Option.none ↔ v.HasText := by
  rw [hasText_iff, Option.eq_none_iff_forall_ne_some]
  exact forall_congr' fun f => not_congr fault?_eq_some_iff

mutual

/-- The leftmost leaf with a fault decides. -/
theorem of?_text : ∀ v : Value, Failure.of? v.text = v.leaves.findSome? fault?
  | .tuple items => by
    rw [leaves, ← of?_texts items, text]
    cases texts items <;> rfl
  | .none | .bool _ | .int _ | .float _ | .imaginary .. | .string _ | .function .. | .cls .. | .object .. | .foreign _ => by
    rw [leaves, List.findSome?_singleton, fault?]
    all_goals nofun

theorem of?_texts : ∀ items : List Value, Failure.of? (texts items) = (allLeaves items).findSome? fault?
  | [] => rfl
  | v :: rest => by
    rw [allLeaves, List.findSome?_append, ← of?_text v, ← of?_texts rest, texts]
    cases v.text with
    | error f => rfl
    | ok t => cases texts rest <;> rfl

end

/-- There is a text exactly if there is one of each leaf. -/
theorem text_ok_iff {v : Value} : (∃ t, v.text = .ok t) ↔ ∀ w ∈ v.leaves, w.HasText := by
  rw [← Failure.of?_eq_none_iff, of?_text, List.findSome?_eq_none_iff]
  exact forall₂_congr fun w _ => fault?_eq_none_iff

/-- What is reported is what is wrong with the first leaf that has no text. -/
theorem text_error_iff {v : Value} {f : Failure} : v.text = .error f ↔
    ∃ before w after, v.leaves = before ++ w :: after ∧ (∀ u ∈ before, u.HasText) ∧ NoText w f := by
  rw [← Failure.of?_eq_some_iff, of?_text, List.findSome?_eq_some_iff]
  simp only [fault?_eq_some_iff, fault?_eq_none_iff, and_comm]

example : text (.tuple [.tuple [.none, .object (.int 5) 0], .foreign "set"]) = .error (.error .objectWithoutClass) := rfl

/-- What is reported of a number is its length, and of anything else that it breaks an invariant. -/
theorem kinds_of_noText {v : Value} {f : Failure} (h : NoText v f) :
    ((∃ n, v = .int n) ∧ f = .unwritable .digitLimit) ∨
      (((∃ type, v = .foreign type) ∨ ∃ type attrs, v = .object type attrs) ∧
        ∃ e, f = .error e ∧ e.kind = .internalInvariant) := by
  cases h with
  | foreign type => exact .inr ⟨.inl ⟨type, rfl⟩, _, rfl, rfl⟩
  | unclassed attrs _ => exact .inr ⟨.inr ⟨_, attrs, rfl⟩, _, rfl, rfl⟩
  | long _ => exact .inl ⟨⟨_, rfl⟩, rfl⟩

/-! ## Layout -/

/-- A value that is no tuple. -/
def IsLeaf : Value → Prop
  | .tuple _ => False
  | _ => True

mutual

/-- How the text of nested tuples is made from those of the leaves. -/
inductive Written : Value → Text → Prop
  | leaf {v : Value} {t : Text} (hleaf : v.IsLeaf) (h : v.text = .ok t) : Written v t
  | tuple {items : List Value} {parts : List Text} (h : AllWritten items parts) :
    Written (.tuple items) (Text.joined parts)

inductive AllWritten : List Value → List Text → Prop
  | nil : AllWritten [] []
  | cons {v : Value} {t : Text} {rest : List Value} {parts : List Text} (h : Written v t)
    (hrest : AllWritten rest parts) : AllWritten (v :: rest) (t :: parts)

end

theorem text_tuple {items : List Value} {parts : List Text} (h : texts items = .ok parts) :
    text (.tuple items) = .ok (Text.joined parts) := by
  rw [text, h, ← Text.joined_eq]
  rfl

theorem texts_cons {v : Value} {t : Text} {rest : List Value} {parts : List Text} (h : v.text = .ok t)
    (hrest : texts rest = .ok parts) : texts (v :: rest) = .ok (t :: parts) := by
  rw [texts, h, hrest]
  rfl

mutual

theorem Written.text_eq : ∀ {v : Value} {t : Text}, Written v t → v.text = .ok t
  | _, _, .leaf _ h => h
  | _, _, .tuple h => text_tuple h.texts_eq

theorem AllWritten.texts_eq : ∀ {items : List Value} {parts : List Text}, AllWritten items parts →
    texts items = .ok parts
  | _, _, .nil => rfl
  | _, _, .cons h hrest => texts_cons h.text_eq hrest.texts_eq

end

theorem exists_of_text_tuple {items : List Value} {t : Text} (h : text (.tuple items) = .ok t) :
    ∃ parts, texts items = .ok parts ∧ t = Text.joined parts := by
  rw [text] at h
  cases hparts : texts items with
  | error f =>
    rw [hparts] at h
    cases h
  | ok parts =>
    rw [hparts] at h
    cases h
    exact ⟨parts, rfl, Text.joined_eq parts⟩

theorem exists_of_texts_cons {v : Value} {rest : List Value} {parts : List Text}
    (h : texts (v :: rest) = .ok parts) :
    ∃ t parts', v.text = .ok t ∧ texts rest = .ok parts' ∧ parts = t :: parts' := by
  rw [texts] at h
  cases ht : v.text with
  | error f =>
    rw [ht] at h
    cases h
  | ok t =>
    cases hrest : texts rest with
    | error f =>
      rw [ht, hrest] at h
      cases h
    | ok parts' =>
      rw [ht, hrest] at h
      cases h
      exact ⟨t, parts', rfl, rfl, rfl⟩

mutual

theorem written_of_text : ∀ v : Value, ∀ {t : Text}, v.text = .ok t → Written v t
  | .tuple items => fun h => by
    obtain ⟨parts, hparts, rfl⟩ := exists_of_text_tuple h
    exact .tuple (allWritten_of_texts items hparts)
  | .none | .bool _ | .int _ | .float _ | .imaginary .. | .string _ | .function .. | .cls .. | .object .. | .foreign _ =>
    .leaf trivial

theorem allWritten_of_texts : ∀ items : List Value, ∀ {parts : List Text}, texts items = .ok parts →
    AllWritten items parts
  | [] => fun h => by
    cases h
    exact .nil
  | v :: rest => fun h => by
    obtain ⟨t, parts, ht, hparts, rfl⟩ := exists_of_texts_cons h
    exact .cons (written_of_text v ht) (allWritten_of_texts rest hparts)

end

theorem text_iff_written {v : Value} {t : Text} : v.text = .ok t ↔ Written v t := ⟨written_of_text v, Written.text_eq⟩

/-! ## Attribute maps -/

mutual

/-- The value with one address in place of all that it names, so that nothing of its attribute maps is left. -/
def unmapped : Value → Value
  | .tuple items => .tuple (allUnmapped items)
  | .cls name _ => .cls name 0
  | .object type _ => .object (unmapped type) 0
  | v => v

def allUnmapped : List Value → List Value
  | [] => []
  | v :: rest => unmapped v :: allUnmapped rest

end

mutual

theorem text_unmapped : ∀ v : Value, v.unmapped.text = v.text
  | .tuple items => by
    rw [unmapped, text, text, texts_allUnmapped items]
  | .object type attrs => by
    rw [unmapped]
    cases type <;> rfl
  | .none | .bool _ | .int _ | .float _ | .imaginary .. | .string _ | .function .. | .cls .. | .foreign _ => rfl

theorem texts_allUnmapped : ∀ items : List Value, texts (allUnmapped items) = texts items
  | [] => rfl
  | v :: rest => by
    rw [allUnmapped, texts, texts, text_unmapped v, texts_allUnmapped rest]

end

/-- Values that differ in nothing but their attribute maps have the same text, or fail alike. -/
theorem text_eq_of_unmapped {v w : Value} (h : v.unmapped = w.unmapped) : v.text = w.text := by
  rw [← text_unmapped v, h, text_unmapped]

/-! ## The text of a value -/

/-- Where a value has a text, what is reported where it has none, how the text is laid out, and what it does not show. -/
structure Textual (v : Value) : Prop where
  defined : (∃ t, v.text = .ok t) ↔ ∀ w ∈ v.leaves, w.HasText
  reported : ∀ f, v.text = .error f ↔
    ∃ before w after, v.leaves = before ++ w :: after ∧ (∀ u ∈ before, u.HasText) ∧ NoText w f
  kinds : ∀ w f, NoText w f → ((∃ n, w = .int n) ∧ f = .unwritable .digitLimit) ∨
    (((∃ type, w = .foreign type) ∨ ∃ type attrs, w = .object type attrs) ∧
      ∃ e, f = .error e ∧ e.kind = .internalInvariant)
  layout : ∀ t, v.text = .ok t ↔ Written v t
  mapless : ∀ w : Value, v.unmapped = w.unmapped → v.text = w.text

theorem textual (v : Value) : v.Textual where
  defined := text_ok_iff
  reported _ := text_error_iff
  kinds _ _ := kinds_of_noText
  layout _ := text_iff_written
  mapless _ := text_eq_of_unmapped

end Value

end Treewalk
