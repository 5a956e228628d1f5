/-
Which texts are missing, and why. What is asked for while a program runs is the text of a value, the outline of a
statement or of the body of a function, a literal or a target. Such a text is missing for an integer past the digit
limit that it would show, or, if it is a target, for a backslash in a value of a formatted string inside it or for an
operator in the wrong form. A text that is to be printed exists and is missing all the same if the output refuses it.
-/
import Treewalk.Proofs.Spelling

namespace Treewalk

/-! ## Texts of values -/

/-- An integer that a value is, or holds inside tuples. -/
inductive Value.Shows (n : Int) : Value → Prop
  | int : Shows n (.int n)
  | item {items : List Value} {v : Value} : v ∈ items → Shows n v → Shows n (.tuple items)

/-- A statement of a function that a value is, or holds inside tuples or as the class of an object. -/
inductive Value.Carries (st : Stmt) : Value → Prop
  | function {name : String} {params : List String} {body : List Stmt} : st ∈ body →
    Carries st (.function name params body)
  | item {items : List Value} {v : Value} : v ∈ items → Carries st v → Carries st (.tuple items)
  | type {type : Value} {attrs : Address} : Carries st type → Carries st (.object type attrs)

/-- A failure that, if a text is missing, is for the length of an integer of which this holds. -/
def Failure.ForLong (P : Int → Prop) (f : Failure) : Prop :=
  ∀ cause, f.cause? = some cause → cause = .digitLimit ∧ ∃ n, P n ∧ Integer.hasText n = false

/-- Fails for a missing text only where an integer of which this holds is too long. -/
abbrev LongOnly (P : Int → Prop) {α : Type} (x : Except Failure α) : Prop :=
  Yields (Failure.ForLong P) (fun _ => True) x

namespace LongOnly

variable {α β : Type} {P Q : Int → Prop}

theorem ok {a : α} : LongOnly P (.ok a) := Yields.ok trivial

theorem error {e : EvalError} : LongOnly P (.error (.error e) : Except Failure α) := Yields.error nofun

theorem bind {x : Except Failure α} {f : α → Except Failure β} (hx : LongOnly P x) (hf : ∀ a, LongOnly P (f a)) :
    LongOnly P (x >>= f) :=
  Yields.bind hx fun a _ => hf a

theorem mono {x : Except Failure α} (h : LongOnly P x) (hPQ : ∀ n, P n → Q n) : LongOnly Q x := by
  refine Yields.mono h (fun f hf cause hcause => ?_) fun _ h => h
  obtain ⟨hlimit, n, hn, hlong⟩ := hf cause hcause
  exact ⟨hlimit, n, hPQ n hn, hlong⟩

theorem orLimit {x : Option α} (h : x = none → ∃ n, P n ∧ Integer.hasText n = false) :
    LongOnly P (Failure.orLimit x) := by
  cases x with
  | some a => exact ok
  | none =>
    refine Yields.error fun cause hcause => ?_
    cases hcause
    exact ⟨rfl, h rfl⟩

theorem ite {c : Prop} [Decidable c] {x y : Except Failure α} (hx : LongOnly P x) (hy : LongOnly P y) :
    LongOnly P (if c then x else y) :=
  Yields.ite hx hy

theorem mapError {x : Except EvalError α} : LongOnly P (x.mapError Failure.error) := by
  cases x with
  | ok a => exact ok
  | error e => exact error

theorem fault {x : Except Failure α} (h : LongOnly P x) {cause : Unwritable} (hcause : faultOf? x = some cause) :
    cause = .digitLimit ∧ ∃ n, P n ∧ Integer.hasText n = false := by
  cases h with
  | ok _ => cases hcause
  | error hf => exact hf cause hcause

end LongOnly

namespace Value

mutual

theorem longOnly_text : ∀ v : Value, LongOnly v.Shows v.text
  | .int n => by
    simp only [text]
    refine .orLimit fun hnone => ⟨n, .int, ?_⟩
    have hsome := Integer.text?_isSome n
    rw [Option.map_eq_none_iff.1 hnone] at hsome
    exact hsome.symm
  | .tuple items => by
    simp only [text]
    exact .bind ((longOnly_texts items).mono fun n ⟨v, hv, hn⟩ => .item hv hn) fun _ => .ok
  | .object (.cls name attrs) own => by
    simp only [text]
    exact .ok
  | .object .none _ | .object (.bool _) _ | .object (.int _) _ | .object (.float _) _ | .object (.imaginary ..) _
  | .object (.string _) _ | .object (.tuple _) _ | .object (.function ..) _ | .object (.object ..) _
  | .object (.foreign _) _ | .foreign _ => by
    simp only [text]
    exact .error
  | .none | .bool true | .bool false | .float _ | .imaginary .. | .string _ | .function .. | .cls .. => by
    simp only [text]
    exact .ok

theorem longOnly_texts : ∀ items : List Value, LongOnly (fun n => ∃ v ∈ items, v.Shows n) (texts items)
  | [] => by
    simp only [texts]
    exact .ok
  | v :: rest => by
    simp only [texts]
    refine .bind ((longOnly_text v).mono fun n hn => ⟨v, by simp, hn⟩) fun _ => ?_
    refine .bind ((longOnly_texts rest).mono ?_) fun _ => .ok
    rintro n ⟨w, hw, hn⟩
    exact ⟨w, List.mem_cons_of_mem _ hw, hn⟩

end

/-! ## Comparisons -/

/-- An integer in the outline of a statement that the value carries. -/
def Outlines (n : Int) (v : Value) : Prop := ∃ st, v.Carries st ∧ st.outline.Shows n

theorem longOnly_bodyTexts (name : String) (params : List String) (body : List Stmt) :
    LongOnly (fun n => (Value.function name params body).Outlines n) (bodyTexts body) := by
  refine .orLimit fun hnone => ?_
  have hnot : ¬ (Outline.list (outlineBlock body)).Legible := by
    intro h
    have hsome := Outline.text?_list (outlineBlock body) ▸ Outline.text?_of_legible h
    rw [hnone] at hsome
    cases hsome
  obtain ⟨n, hn, hlong⟩ := Outline.exists_of_not_legible hnot
  cases hn with
  | item ho hshows =>
    rw [outlineBlock_eq] at ho
    obtain ⟨st, hst, rfl⟩ := List.mem_map.1 ho
    exact ⟨n, ⟨st, .function hst, hshows⟩, hlong⟩

/-- Apart from two tuples or two objects, only two functions are compared by a text. -/
theorem longOnly_equal_flat {l r : Value} (ht : ∀ as bs, l = .tuple as → r ≠ .tuple bs)
    (ho : ∀ type own type' own', l = .object type own → r ≠ .object type' own') :
    LongOnly (fun n => l.Outlines n ∨ r.Outlines n) (l.equal r) := by
  unfold equal
  split
  · exact .ok
  · exact .ok
  · exact .ok
  · exact .ok
  · exact .ok
  · exact .ok
  · exact absurd rfl (ht _ _ rfl)
  · split
    · refine .bind ((longOnly_bodyTexts _ _ _).mono fun _ => .inl) fun _ => ?_
      exact .bind ((longOnly_bodyTexts _ _ _).mono fun _ => .inr) fun _ => .ok
    · exact .ok
  · exact .ok
  · exact absurd rfl (ho _ _ _ _ rfl)
  · exact .error
  · exact .error
  · exact .ok

-- The recursion is on the left value, into two tuples and into the classes of two objects.
mutual

theorem longOnly_equal : ∀ l r : Value, LongOnly (fun n => l.Outlines n ∨ r.Outlines n) (l.equal r)
  | .tuple as, r => by
    cases r with
    | tuple bs =>
      simp only [equal]
      split
      · refine (longOnly_allEqual as bs).mono ?_
        rintro n (⟨v, hv, st, hst, hn⟩ | ⟨v, hv, st, hst, hn⟩)
        · exact .inl ⟨st, .item hv hst, hn⟩
        · exact .inr ⟨st, .item hv hst, hn⟩
      · exact .ok
    | none | bool _ | int _ | float _ | imaginary _ _ | string _ | function _ _ _ | cls _ _ | object _ _ | foreign _ =>
      exact longOnly_equal_flat nofun nofun
  | .object type own, r => by
    cases r with
    | object type' own' =>
      simp only [equal]
      refine .bind ((longOnly_equal type type').mono ?_) fun same => ?_
      · rintro n (⟨st, hst, hn⟩ | ⟨st, hst, hn⟩)
        · exact .inl ⟨st, .type hst, hn⟩
        · exact .inr ⟨st, .type hst, hn⟩
      · exact .ite .ok .ok
    | none | bool _ | int _ | float _ | imaginary _ _ | string _ | tuple _ | function _ _ _ | cls _ _ | foreign _ =>
      exact longOnly_equal_flat nofun nofun
  | .none, _ | .bool _, _ | .int _, _ | .float _, _ | .imaginary .., _ | .string _, _ | .function .., _ | .cls .., _
  | .foreign _, _ => longOnly_equal_flat nofun nofun

theorem longOnly_allEqual : ∀ ls rs : List Value,
    LongOnly (fun n => (∃ v ∈ ls, v.Outlines n) ∨ ∃ v ∈ rs, v.Outlines n) (allEqual ls rs)
  | l :: ls, r :: rs => by
    simp only [allEqual]
    refine .bind ((longOnly_equal l r).mono fun n => ?_) fun same => ?_
    · exact Or.imp (fun h => ⟨l, List.mem_cons_self .., h⟩) fun h => ⟨r, List.mem_cons_self .., h⟩
    · refine .ite ((longOnly_allEqual ls rs).mono fun n => ?_) .ok
      exact Or.imp (fun ⟨v, hv, h⟩ => ⟨v, List.mem_cons_of_mem _ hv, h⟩) fun ⟨v, hv, h⟩ =>
        ⟨v, List.mem_cons_of_mem _ hv, h⟩
  | [], _ => by
    simp only [allEqual]
    exact .ok
  | _ :: _, [] => by
    simp only [allEqual]
    exact .ok

end

end Value

theorem Operator.longOnly_applyCompare (op : Operator) (l r : Value) :
    LongOnly (fun n => l.Outlines n ∨ r.Outlines n) (op.applyCompare l r) := by
  refine .bind .mapError fun leftKind => .bind .mapError fun rightKind => .ite ?_ ?_
  · refine .bind .mapError fun order => ?_
    cases order with
    | none => exact .ok
    | some order => exact .ok
  · unfold compareOther
    split
    · exact l.longOnly_equal r
    · exact Yields.map (l.longOnly_equal r) fun _ _ => trivial
    · exact .error

/-! ## Renderings -/

/-- An integer that a text would show. -/
def Rendering.Shows (n : Int) : Rendering → Prop
  | .printed v | .uncallable v => v.Shows n
  | .compared _ left right => left.Outlines n ∨ right.Outlines n
  | .constant l => l.Shows n
  | .target e => ∃ l kind, (Expr.constant l kind).Part e ∧ l.Shows n
  | .deletion targets => ∃ e ∈ targets, ∃ l kind, (Expr.constant l kind).Part e ∧ l.Shows n
  | .outline st => st.outline.Shows n

/-- The targets that are to be written. -/
def Rendering.targets : Rendering → List Expr
  | .target e => [e]
  | .deletion targets => targets
  | _ => []

theorem TextOf.fault {es : List Expr} {α : Type} {x : Except Unwritable α} (h : TextOf es x) {cause : Unwritable}
    (hcause : missing? x = some cause) : ∃ e ∈ es, e.Hindered cause := by
  cases h with
  | ok _ => cases hcause
  | error he =>
    cases hcause
    exact he

/-- Of the parts of an expression, only literals have integers that are too long. -/
theorem Expr.Hindered.digitLimit {e : Expr} (h : e.Hindered .digitLimit) :
    ∃ n, (∃ l kind, (Expr.constant l kind).Part e ∧ l.Shows n) ∧ Integer.hasText n = false := by
  obtain ⟨part, hpart, hhinders⟩ := h
  cases part with
  | constant l kind =>
    obtain ⟨n, hn, hlong⟩ := hhinders
    exact ⟨n, ⟨l, kind, hpart, hn⟩, hlong⟩
  | _ => exact absurd hhinders id

/-- A backslash is in the way only inside the values of formatted strings. -/
theorem Expr.Hindered.backslash {e : Expr} (h : e.Hindered .backslash) :
    ∃ value conversion spec text, (Expr.formatted value conversion spec).Part e ∧
      value.source true (.within .or) = .ok text ∧ CodePoint.ofChar '\\' ∈ text.points := by
  obtain ⟨part, hpart, hhinders⟩ := h
  cases part with
  | formatted value conversion spec =>
    obtain ⟨text, htext, hbackslash⟩ := hhinders
    exact ⟨value, conversion, spec, text, hpart, htext, hbackslash⟩
  | _ => exact absurd hhinders id

theorem missing?_orLimit {α : Type} {x : Option α} {cause : Unwritable} (h : missing? (Unwritable.orLimit x) = some cause) :
    cause = .digitLimit ∧ x = none := by
  cases x with
  | none =>
    cases h
    exact ⟨rfl, rfl⟩
  | some _ => cases h

/-- For the output a text is missing that does not exist or that is refused. -/
theorem Value.fault_printed [Host] {v : Value} {cause : Unwritable} (h : faultOf? v.printed = some cause) :
    faultOf? v.text = some cause ∨
      ∃ t complaint, v.text = .ok t ∧ Host.complaint? t = some complaint ∧ cause = .refused complaint := by
  unfold Value.printed at h
  cases htext : v.text with
  | error f =>
    rw [htext] at h
    exact .inl h
  | ok t =>
    rw [htext] at h
    cases hcomplaint : Host.complaint? t with
    | none =>
      simp only [bind, Except.bind, hcomplaint] at h
      cases h
    | some complaint =>
      simp only [bind, Except.bind, hcomplaint] at h
      cases h
      exact .inr ⟨t, complaint, rfl, hcomplaint, rfl⟩

namespace Rendering

variable [Host]

/-- The text is to be printed, and this is what the output says of it. -/
def Refused (complaint : String) (r : Rendering) : Prop :=
  ∃ v t, r = .printed v ∧ v.text = .ok t ∧ Host.complaint? t = some complaint

/-- A text is missing for an integer that is too long, for what stands in the way of a target, or for the output. -/
theorem fault_cases {r : Rendering} {cause : Unwritable} (h : r.fault? = some cause) :
    cause = .digitLimit ∧ (∃ n, r.Shows n ∧ Integer.hasText n = false) ∨ (∃ e ∈ r.targets, e.Hindered cause) ∨
      ∃ complaint, cause = .refused complaint ∧ r.Refused complaint := by
  cases r with
  | printed v =>
    rcases v.fault_printed h with hfault | ⟨t, complaint, htext, hcomplaint, rfl⟩
    · exact .inl (v.longOnly_text.fault hfault)
    · exact .inr (.inr ⟨complaint, rfl, v, t, rfl, htext, hcomplaint⟩)
  | uncallable v => exact .inl (v.longOnly_text.fault h)
  | compared op l r => exact .inl ((op.longOnly_applyCompare l r).fault h)
  | constant l =>
    obtain ⟨hlimit, hnone⟩ := missing?_orLimit h
    refine .inl ⟨hlimit, l.exists_of_not_legible fun hlegible => ?_⟩
    have hsome := Literal.source?_of_legible hlegible
    rw [hnone] at hsome
    cases hsome
  | target e => exact .inr (.inl ((e.textOf_source false _).fault h))
  | deletion targets =>
    have htext : TextOf targets (deletionText targets) := .bind (.all (textOf_sources false _ targets)) fun _ => .ok
    exact .inr (.inl (htext.fault h))
  | outline st =>
    obtain ⟨hlimit, hnone⟩ := missing?_orLimit h
    refine .inl ⟨hlimit, st.outline.exists_of_not_legible fun hlegible => ?_⟩
    have hsome := Outline.text?_isSome.2 hlegible
    rw [hnone] at hsome
    cases hsome

omit [Host] in
theorem shows_target {r : Rendering} {n : Int} {e : Expr} (he : e ∈ r.targets)
    (h : ∃ l kind, (Expr.constant l kind).Part e ∧ l.Shows n) : r.Shows n := by
  cases r with
  | target e' => exact List.mem_singleton.1 he ▸ h
  | deletion targets => exact ⟨e, he, h⟩
  | printed _ | uncallable _ | compared _ _ _ | constant _ | outline _ => cases he

/-- The digit limit is reached by an integer that the text would show. -/
theorem shows_of_digitLimit {r : Rendering} (h : r.fault? = some .digitLimit) :
    ∃ n, r.Shows n ∧ Integer.hasText n = false := by
  rcases r.fault_cases h with ⟨-, hlong⟩ | ⟨e, he, hhindered⟩ | ⟨complaint, hcause, -⟩
  · exact hlong
  · obtain ⟨n, hn, hlong⟩ := hhindered.digitLimit
    exact ⟨n, shows_target he hn, hlong⟩
  · cases hcause

/-- Anything but the digit limit and a refusal is up to a target. -/
theorem hindered_of_fault {r : Rendering} {cause : Unwritable} (h : r.fault? = some cause)
    (hlimit : cause ≠ .digitLimit) (hrefused : ∀ complaint, cause ≠ .refused complaint) : ∃ e ∈ r.targets, e.Hindered cause := by
  rcases r.fault_cases h with ⟨hcause, -⟩ | hhindered | ⟨complaint, hcause, -⟩
  · exact absurd hcause hlimit
  · exact hhindered
  · exact absurd hcause (hrefused complaint)

/-- A refusal is that of the output. -/
theorem refused_of_fault {r : Rendering} {complaint : String} (h : r.fault? = some (.refused complaint)) :
    r.Refused complaint := by
  rcases r.fault_cases h with ⟨hcause, -⟩ | ⟨e, -, part, -, hhinders⟩ | ⟨complaint', hcause, hrefused⟩
  · cases hcause
  · cases part <;> exact absurd hhinders id
  · cases hcause
    exact hrefused

end Rendering

end Treewalk
