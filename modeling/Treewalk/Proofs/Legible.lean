/-
Which integers an outline shows. An outline has a text if and only if each of them has one, and everything inside a
statement is shown by its outline, so a statement that can be traced can be traced with all that is inside it.
-/
import Treewalk.Proofs.Account

namespace Treewalk

/-! ## Literals -/

/-- An integer that stands in a literal, by itself or inside tuples. -/
inductive Literal.Shows (n : Int) : Literal → Prop
  | int : Shows n (.int n)
  | item {items : List Literal} {l : Literal} : l ∈ items → Shows n l → Shows n (.tuple items)

theorem Integer.text?_isSome (n : Int) : (Integer.text? n).isSome = Integer.hasText n := by
  unfold Integer.text?
  cases Integer.hasText n <;> rfl

namespace Literal

/-- All integers in the literal are within the digit limit. -/
def Legible (l : Literal) : Prop := ∀ n, l.Shows n → Integer.hasText n = true

theorem allShown?_isSome {items : List Literal} :
    (allShown? items).isSome = true ↔ ∀ l ∈ items, l.shown?.isSome = true := by
  induction items with
  | nil => simp [allShown?]
  | cons l rest ih =>
    rw [List.forall_mem_cons, ← ih, allShown?]
    cases shown? l <;> cases allShown? rest <;> simp

mutual

theorem shown?_of_legible : ∀ {l : Literal}, l.Legible → l.shown?.isSome = true
  | .int n, h => by
    rw [shown?, Integer.text?_isSome]
    exact h n .int
  | .tuple items, h => by
    rw [shown?, Option.isSome_map]
    exact allShown?_of_legible fun l hl n hn => h n (.item hl hn)
  | .none, _ | .bool true, _ | .bool false, _ | .float _, _ | .imaginary .., _ | .string _, _ | .bytes _, _
  | .ellipsis, _ | .other _, _ => by
    simp only [shown?, Option.isSome_some]

theorem allShown?_of_legible : ∀ {items : List Literal}, (∀ l ∈ items, l.Legible) → (allShown? items).isSome = true
  | [], _ => rfl
  | l :: rest, h => by
    have hl := shown?_of_legible (h l (List.mem_cons_self ..))
    have hrest := allShown?_of_legible fun l' hl' => h l' (List.mem_cons_of_mem _ hl')
    rw [allShown?_isSome] at hrest ⊢
    exact List.forall_mem_cons.2 ⟨hl, hrest⟩

end

theorem shown?_isSome {l : Literal} : l.shown?.isSome = true ↔ l.Legible := by
  refine ⟨fun h n hn => ?_, shown?_of_legible⟩
  induction hn with
  | int => rwa [shown?, Integer.text?_isSome] at h
  | item hl _ ih =>
    rw [shown?, Option.isSome_map, allShown?_isSome] at h
    exact ih (h _ hl)

theorem exists_of_not_legible {l : Literal} (h : ¬ l.Legible) : ∃ n, l.Shows n ∧ Integer.hasText n = false := by
  obtain ⟨n, hn⟩ := Classical.not_forall.1 h
  obtain ⟨hshows, hlong⟩ := Classical.not_imp.1 hn
  exact ⟨n, hshows, Bool.eq_false_iff.2 hlong⟩

theorem plainSource?_of_legible {l : Literal} (h : l.Legible) : l.plainSource?.isSome = true := by
  unfold plainSource?
  split
  · rfl
  · rfl
  · exact shown?_of_legible h

theorem source?_of_legible {l : Literal} (h : l.Legible) : l.source?.isSome = true := by
  unfold source?
  split
  · rename_i items
    rw [Option.isSome_map]
    have hitems : ∀ l ∈ items, l.plainSource?.isSome = true := fun l hl =>
      plainSource?_of_legible fun n hn => h n (.item hl hn)
    clear h
    induction items with
    | nil => rfl
    | cons l rest ih =>
      obtain ⟨hl, hrest⟩ := List.forall_mem_cons.1 hitems
      obtain ⟨text, htext⟩ := Option.isSome_iff_exists.1 hl
      obtain ⟨texts, htexts⟩ := Option.isSome_iff_exists.1 (ih hrest)
      rw [List.mapM_cons, htext, htexts]
      rfl
  · rfl
  · exact plainSource?_of_legible h

end Literal

/-! ## Outlines -/

/-- An integer that stands anywhere in an outline. -/
inductive Outline.Shows (n : Int) : Outline → Prop
  | literal {l : Literal} : l.Shows n → Shows n (.literal l)
  | item {items : List Outline} {o : Outline} : o ∈ items → Shows n o → Shows n (.list items)
  | field {label : String} {fields : List Field} {o : Outline} (name : String) :
    .mk name o ∈ fields → Shows n o → Shows n (.node label fields)

namespace Outline

def Legible (o : Outline) : Prop := ∀ n, o.Shows n → Integer.hasText n = true

theorem texts?_isSome {items : List Outline} :
    (texts? items).isSome = true ↔ ∀ o ∈ items, o.text?.isSome = true := by
  induction items with
  | nil => simp [texts?]
  | cons o rest ih =>
    rw [List.forall_mem_cons, ← ih, texts?]
    cases text? o <;> cases texts? rest <;> simp

theorem fieldText?_isSome (name : String) (o : Outline) : (fieldText? (.mk name o)).isSome = o.text?.isSome := by
  rw [fieldText?]
  cases text? o <;> rfl

theorem fieldTexts?_isSome {fields : List Field} :
    (fieldTexts? fields).isSome = true ↔ ∀ f ∈ fields, (fieldText? f).isSome = true := by
  induction fields with
  | nil => simp [fieldTexts?]
  | cons f rest ih =>
    rw [List.forall_mem_cons, ← ih, fieldTexts?]
    cases fieldText? f <;> cases fieldTexts? rest <;> simp

theorem text?_node (label : String) (fields : List Field) :
    (text? (.node label fields)).isSome = (fieldTexts? fields).isSome := by
  rw [text?]
  cases fieldTexts? fields <;> rfl

theorem text?_list (items : List Outline) : (text? (.list items)).isSome = (texts? items).isSome := by
  rw [text?]
  cases texts? items <;> rfl

mutual

theorem text?_of_legible : ∀ {o : Outline}, o.Legible → o.text?.isSome = true
  | .node label fields, h => by
    rw [text?_node]
    exact fieldTexts?_of_legible fun name o ho n hn => h n (.field name ho hn)
  | .list items, h => by
    rw [text?_list]
    exact texts?_of_legible fun o ho n hn => h n (.item ho hn)
  | .literal l, h => by
    rw [text?]
    exact Literal.shown?_of_legible fun n hn => h n (.literal hn)

theorem texts?_of_legible : ∀ {items : List Outline}, (∀ o ∈ items, o.Legible) → (texts? items).isSome = true
  | [], _ => rfl
  | o :: rest, h => by
    have ho := text?_of_legible (h o (List.mem_cons_self ..))
    have hrest := texts?_of_legible fun o' ho' => h o' (List.mem_cons_of_mem _ ho')
    rw [texts?_isSome] at hrest ⊢
    exact List.forall_mem_cons.2 ⟨ho, hrest⟩

theorem fieldText?_of_legible : ∀ {f : Field}, (∀ name o, f = .mk name o → o.Legible) → (fieldText? f).isSome = true
  | .mk name o, h => by
    rw [fieldText?_isSome]
    exact text?_of_legible (h name o rfl)

theorem fieldTexts?_of_legible : ∀ {fields : List Field}, (∀ name o, .mk name o ∈ fields → o.Legible) →
    (fieldTexts? fields).isSome = true
  | [], _ => rfl
  | f :: rest, h => by
    have hf := fieldText?_of_legible (f := f) fun name o hfield => h name o (hfield ▸ List.mem_cons_self ..)
    have hrest := fieldTexts?_of_legible fun name o hfield => h name o (List.mem_cons_of_mem _ hfield)
    rw [fieldTexts?_isSome] at hrest ⊢
    exact List.forall_mem_cons.2 ⟨hf, hrest⟩

end

/-- An outline has a text exactly if all integers in it have one. -/
theorem text?_isSome {o : Outline} : o.text?.isSome = true ↔ o.Legible := by
  refine ⟨fun h n hn => ?_, text?_of_legible⟩
  induction hn with
  | literal hl =>
    rw [text?] at h
    exact Literal.shown?_isSome.1 h n hl
  | item ho _ ih =>
    rw [text?_list, texts?_isSome] at h
    exact ih (h _ ho)
  | field _ hfield _ ih =>
    rw [text?_node, fieldTexts?_isSome] at h
    have hf := h _ hfield
    rw [fieldText?_isSome] at hf
    exact ih hf

theorem exists_of_not_legible {o : Outline} (h : ¬ o.Legible) : ∃ n, o.Shows n ∧ Integer.hasText n = false := by
  obtain ⟨n, hn⟩ := Classical.not_forall.1 h
  obtain ⟨hshows, hlong⟩ := Classical.not_imp.1 hn
  exact ⟨n, hshows, Bool.eq_false_iff.2 hlong⟩

end Outline

/-! ## Statements -/

theorem outlineBlock_eq (body : List Stmt) : outlineBlock body = body.map Stmt.outline := by
  induction body with
  | nil => rfl
  | cons st rest ih => rw [outlineBlock, ih, List.map_cons]

theorem outlineHandlers_eq (handlers : List Handler) : outlineHandlers handlers = handlers.map Handler.outline := by
  induction handlers with
  | nil => rfl
  | cons h rest ih => rw [outlineHandlers, ih, List.map_cons]

theorem outlineCases_eq (cases : List Case) : outlineCases cases = cases.map Case.outline := by
  induction cases with
  | nil => rfl
  | cons c rest ih => rw [outlineCases, ih, List.map_cons]

section

variable {n : Int} {st : Stmt} {body : List Stmt}

theorem Outline.Shows.block (hmem : st ∈ body) (h : st.outline.Shows n) :
    (Outline.list (outlineBlock body)).Shows n := by
  rw [outlineBlock_eq]
  exact .item (List.mem_map_of_mem hmem) h

theorem Outline.Shows.handlers {handlers : List Handler} (hmem : st ∈ handlers.flatMap Handler.body)
    (h : st.outline.Shows n) : (Outline.list (outlineHandlers handlers)).Shows n := by
  obtain ⟨⟨type, name, body⟩, hhandler, hst⟩ := List.mem_flatMap.1 hmem
  rw [outlineHandlers_eq]
  refine .item (List.mem_map_of_mem hhandler) ?_
  exact .field "body" (List.mem_append_right _ (List.mem_singleton.2 rfl)) (.block hst h)

theorem Outline.Shows.cases {cases : List Case} (hmem : st ∈ cases.flatMap Case.body) (h : st.outline.Shows n) :
    (Outline.list (outlineCases cases)).Shows n := by
  obtain ⟨⟨pattern, guard, body⟩, hcase, hst⟩ := List.mem_flatMap.1 hmem
  rw [outlineCases_eq]
  refine .item (List.mem_map_of_mem hcase) ?_
  exact .field "body" (List.mem_append_right _ (List.mem_singleton.2 rfl)) (.block hst h)

end

namespace Stmt

/-- All integers in the outline of the statement are within the digit limit. -/
def Legible (st : Stmt) : Prop := st.outline.Legible

/-- What a statement inside another one shows, the other one shows. -/
theorem shows_inside {n : Int} {st' : Stmt} (h : st'.outline.Shows n) :
    ∀ {st : Stmt}, st' ∈ st.inside → st.outline.Shows n
  | .functionDef _ _ _ body _ _, hmem | .classDef _ _ _ body _, hmem | .withStmt _ _ body, hmem => by
    rw [outline]
    have hblock : (Outline.list (outlineBlock body)).Shows n := .block hmem h
    exact .field "body" (by simp) hblock
  | .ifStmt _ body orelse, hmem | .whileStmt _ body orelse, hmem | .forStmt _ _ _ body orelse, hmem => by
    rw [outline]
    rcases List.mem_append.1 hmem with hmem | hmem
    · exact .field "body" (by simp) (.block hmem h)
    · exact .field "orelse" (by simp) (.block hmem h)
  | .tryStmt _ body handlers orelse final, hmem => by
    rw [outline]
    simp only [inside, List.mem_append] at hmem
    rcases hmem with ((hmem | hmem) | hmem) | hmem
    · exact .field "body" (by simp) (.block hmem h)
    · exact .field "handlers" (by simp) (.handlers hmem h)
    · exact .field "orelse" (by simp) (.block hmem h)
    · exact .field "finalbody" (by simp) (.block hmem h)
  | .matchStmt _ cases, hmem => by
    rw [outline]
    exact .field "cases" (by simp) (.cases hmem h)

end Stmt

end Treewalk
