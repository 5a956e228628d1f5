/-
Equality of functions. Functions are compared by the texts of their outlines, statement by statement. For statements of
program texts this tells exactly the trees without their lines apart, so two functions are equal if and only if they have
one name, the same parameters and, lines aside, the same body.
-/
import Treewalk.Proofs.Equality
import Treewalk.Proofs.Parsed
import Treewalk.Proofs.Unplaced

namespace Treewalk

/-! ## Statements of program texts -/

namespace Stmt

/-- The statement stands in a program text, at any depth. -/
def Written [Host] (st : Stmt) : Prop :=
  ∃ source text, Grammar.parse? source = some text ∧ ∃ whole ∈ text, st.Within whole

theorem Written.genuine [Host] {st : Stmt} (h : st.Written) : st.Genuine := by
  obtain ⟨source, text, hparse, whole, hwhole, hwithin⟩ := h
  exact (Grammar.genuine_parse? hparse whole hwhole).within hwithin

theorem Legible.exists_text {st : Stmt} (h : st.Legible) : ∃ text, st.outline.text? = some text :=
  Option.isSome_iff_exists.1 (Outline.text?_of_legible h)

/-- The outlines of genuine statements are the same exactly if the statements are, lines aside. -/
theorem Genuine.outline_eq_iff {st st' : Stmt} (h : st.Genuine) (h' : st'.Genuine) :
    st.outline = st'.outline ↔ st.unplaced = st'.unplaced := by
  constructor
  · exact h.unplaced_eq h'
  · intro heq
    rw [← st.outline_unplaced, heq, st'.outline_unplaced]

/-- The text of an outline determines a genuine statement, lines aside. -/
theorem Genuine.text_eq_iff {st st' : Stmt} (h : st.Genuine) (h' : st'.Genuine) {text text' : String}
    (ht : st.outline.text? = some text) (ht' : st'.outline.text? = some text') :
    text = text' ↔ st.unplaced = st'.unplaced := by
  rw [← h.outline_eq_iff h']
  constructor
  · rintro rfl
    exact Outline.eq_of_text h.proper_outline h'.proper_outline ht ht'
  · intro heq
    rw [heq, ht'] at ht
    exact (Option.some.inj ht).symm

theorem outlineBlock_eq_iff {body body' : List Stmt} (h : ∀ st ∈ body, st.Genuine) (h' : ∀ st ∈ body', st.Genuine) :
    outlineBlock body = outlineBlock body' ↔ body.map unplaced = body'.map unplaced := by
  rw [outlineBlock_eq, outlineBlock_eq]
  have hiff : ∀ st ∈ body, ∀ st' ∈ body', st.outline = st'.outline ↔ st.unplaced = st'.unplaced :=
    fun st hst st' hst' => (h st hst).outline_eq_iff (h' st' hst')
  constructor
  · exact map_transfer fun st hst st' hst' => (hiff st hst st' hst').1
  · exact map_transfer fun st hst st' hst' => (hiff st hst st' hst').2

end Stmt

/-! ## Functions -/

namespace Value

theorem texts?_of_bodyTexts {body : List Stmt} {texts : List String} (h : bodyTexts body = .ok texts) :
    Outline.texts? (outlineBlock body) = some texts := by
  unfold bodyTexts at h
  cases htexts : Outline.texts? (outlineBlock body) with
  | none =>
    rw [htexts] at h
    cases h
  | some texts' =>
    rw [htexts] at h
    rw [Except.ok.inj h]

/-- The texts of genuine bodies are the same exactly if the bodies are, lines aside. -/
theorem bodyTexts_eq_iff {body body' : List Stmt} (h : ∀ st ∈ body, st.Genuine) (h' : ∀ st ∈ body', st.Genuine)
    {texts texts' : List String} (ht : bodyTexts body = .ok texts) (ht' : bodyTexts body' = .ok texts') :
    texts = texts' ↔ body.map Stmt.unplaced = body'.map Stmt.unplaced := by
  rw [← Stmt.outlineBlock_eq_iff h h']
  have hproper : ∀ {body : List Stmt}, (∀ st ∈ body, st.Genuine) → ∀ o ∈ outlineBlock body, o.Proper := by
    intro body h o ho
    rw [outlineBlock_eq] at ho
    obtain ⟨st, hst, rfl⟩ := List.mem_map.1 ho
    exact (h st hst).proper_outline
  constructor
  · rintro rfl
    have htexts := Outline.texts_of_texts? (texts?_of_bodyTexts ht)
    have htexts' := Outline.texts_of_texts? (texts?_of_bodyTexts ht')
    exact Outline.eq_of_texts (hproper h) (hproper h') htexts htexts'
  · intro heq
    rw [bodyTexts, heq] at ht
    exact Except.ok.inj (ht.symm.trans ht')

/-- The texts of two statements of program texts are the same exactly if the statements are, lines aside, and two functions
with bodies of such statements are equal exactly if their names, their parameters and, lines aside, their bodies are the
same. Comparing them never fails. -/
theorem equal_function_iff [Host] :
    (∀ st st' : Stmt, st.Written → st'.Written → st.Legible → st'.Legible →
      ∃ text text', st.outline.text? = some text ∧ st'.outline.text? = some text' ∧
        (text = text' ↔ st.unplaced = st'.unplaced)) ∧
    ∀ (name name' : String) (params params' : List String) (body body' : List Stmt),
      (∀ st ∈ body, st.Written ∧ st.Legible) → (∀ st ∈ body', st.Written ∧ st.Legible) →
      ∃ same, equal (.function name params body) (.function name' params' body') = .ok same ∧
        (same = true ↔ name = name' ∧ params = params' ∧ body.map Stmt.unplaced = body'.map Stmt.unplaced) := by
  constructor
  · intro st st' hst hst' hlegible hlegible'
    obtain ⟨text, htext⟩ := hlegible.exists_text
    obtain ⟨text', htext'⟩ := hlegible'.exists_text
    exact ⟨text, text', htext, htext', hst.genuine.text_eq_iff hst'.genuine htext htext'⟩
  · intro name name' params params' body body' h h'
    obtain ⟨texts, htexts⟩ := bodyTexts_ok fun st hst => (h st hst).2
    obtain ⟨texts', htexts'⟩ := bodyTexts_ok fun st hst => (h' st hst).2
    have hbody := bodyTexts_eq_iff (fun st hst => (h st hst).1.genuine) (fun st hst => (h' st hst).1.genuine) htexts htexts'
    rw [equal]
    split
    · rename_i hnames
      refine ⟨texts == texts', by rw [htexts, htexts']; rfl, ?_⟩
      rw [beq_iff_eq, hbody]
      exact ⟨fun heq => ⟨hnames.1, hnames.2, heq⟩, fun heq => heq.2.2⟩
    · rename_i hnames
      exact ⟨false, rfl, iff_of_false Bool.false_ne_true fun heq => hnames ⟨heq.1, heq.2.1⟩⟩

section

attribute [local instance] Host.standard

/-- The statements of a text; none if it is not a program. -/
def textBody (source : String) : List Stmt := (Grammar.parse? source).getD []

theorem textBody_written {source : String} : ∀ st ∈ textBody source, st.Written := by
  intro st hst
  unfold textBody at hst
  cases hparse : Grammar.parse? source with
  | none =>
    rw [hparse] at hst
    cases hst
  | some text =>
    rw [hparse] at hst
    exact ⟨source, text, hparse, st, hst, .self⟩

theorem textBody_legible {source : String}
    (h : (textBody source).all (fun st => st.outline.text?.isSome) = true) : ∀ st ∈ textBody source, st.Legible :=
  fun st hst => Outline.text?_isSome.1 (List.all_eq_true.1 h st hst)

/-- The same statement further down in another text, and one with two strings in the place of a string that looks like the
two of them. -/
theorem equal_function_iff_sample :
    let body := textBody "return 1, 'a, b'"
    let moved := textBody "\n\nreturn 1, 'a, b'"
    let split := textBody "return 1, 'a', 'b'"
    (∀ st ∈ body, st.Written ∧ st.Legible) ∧ (∀ st ∈ moved, st.Written ∧ st.Legible) ∧
      (∀ st ∈ split, st.Written ∧ st.Legible) ∧
      equal (.function "f" ["x"] body) (.function "f" ["x"] moved) = .ok true ∧
      body.map Stmt.unplaced = moved.map Stmt.unplaced ∧
      equal (.function "f" ["x"] body) (.function "f" ["x"] split) = .ok false ∧
      body.map Stmt.unplaced ≠ split.map Stmt.unplaced := by
  intro body moved split
  have hbody : ∀ st ∈ body, st.Written ∧ st.Legible := fun st hst =>
    ⟨textBody_written st hst, textBody_legible (by decide +kernel) st hst⟩
  have hmoved : ∀ st ∈ moved, st.Written ∧ st.Legible := fun st hst =>
    ⟨textBody_written st hst, textBody_legible (by decide +kernel) st hst⟩
  have hsplit : ∀ st ∈ split, st.Written ∧ st.Legible := fun st hst =>
    ⟨textBody_written st hst, textBody_legible (by decide +kernel) st hst⟩
  obtain ⟨-, hfunctions⟩ := equal_function_iff
  obtain ⟨same, hsame, hiff⟩ := hfunctions "f" "f" ["x"] ["x"] body moved hbody hmoved
  obtain ⟨same', hsame', hiff'⟩ := hfunctions "f" "f" ["x"] ["x"] body split hbody hsplit
  have htrue : same = true := by
    have hvalue : (equal (.function "f" ["x"] body) (.function "f" ["x"] moved)).toOption = some true := by
      decide +kernel
    rw [hsame] at hvalue
    exact Option.some.inj hvalue
  have hfalse : same' = false := by
    have hvalue : (equal (.function "f" ["x"] body) (.function "f" ["x"] split)).toOption = some false := by
      decide +kernel
    rw [hsame'] at hvalue
    exact Option.some.inj hvalue
  refine ⟨hbody, hmoved, hsplit, htrue ▸ hsame, (hiff.1 htrue).2.2, hfalse ▸ hsame', fun heq => ?_⟩
  have hcontra := hiff'.2 ⟨rfl, rfl, heq⟩
  rw [hfalse] at hcontra
  cases hcontra

/-- Two surrogates are two literals. -/
example : (equal (.function "f" [] (textBody "return '\\ud800'"))
    (.function "f" [] (textBody "return '\\udfff'"))).toOption = some false := by
  decide +kernel

end

end Value

end Treewalk
