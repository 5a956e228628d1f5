/-
What keeps an expression from being written. Of all the expressions inside it, one stands in the way: a literal with an
integer past the digit limit, a value inside a formatted string, or an operator in a form of another kind.
-/
import Treewalk.Proofs.Legible

namespace Treewalk

/-! ## Parts of expressions -/

@[simp] def Keyword.value : Keyword → Expr
  | .mk _ value => value

@[simp] def Clause.parts : Clause → List Expr
  | .mk target source conditions _ => target :: source :: conditions

@[simp] def Param.parts : Param → List Expr
  | .mk _ hint => hint.toList

@[simp] def Params.parts : Params → List Expr
  | .mk positionalOnly positional rest keywordOnly keywordDefaults keywordRest defaults =>
    positionalOnly.flatMap Param.parts ++ positional.flatMap Param.parts ++ rest.toList.flatMap Param.parts ++
      keywordOnly.flatMap Param.parts ++ keywordDefaults.flatMap Option.toList ++
      keywordRest.toList.flatMap Param.parts ++ defaults

namespace Expr

/-- The expressions that an expression is made of. -/
@[simp] def parts : Expr → List Expr
  | .constant .. | .name .. => []
  | .attribute value _ _ | .starred value _ | .unary _ value | .await value | .yieldFrom value => [value]
  | .subscript value index _ => [value, index]
  | .slice lower upper step => lower.toList ++ upper.toList ++ step.toList
  | .tuple items _ | .list items _ | .set items | .boolean _ items | .joined items => items
  | .dict keys values => keys.flatMap Option.toList ++ values
  | .binary left _ right | .named left right => [left, right]
  | .compare left _ operands => left :: operands
  | .conditional test body orelse => [test, body, orelse]
  | .call callee args keywords => callee :: args ++ keywords.map Keyword.value
  | .lambda params body => params.parts ++ [body]
  | .listComp item clauses | .setComp item clauses | .generator item clauses => item :: clauses.flatMap Clause.parts
  | .dictComp key value clauses => key :: value :: clauses.flatMap Clause.parts
  | .yield value => value.toList
  | .formatted value _ spec => value :: spec.toList

/-- An expression that stands anywhere inside another one, or is it. -/
inductive Part (e : Expr) : Expr → Prop
  | self : Part e e
  | inside {p whole : Expr} : p ∈ whole.parts → Part e p → Part e whole

/-- What an expression, apart from its parts, does to be without a text. -/
def Hinders : Unwritable → Expr → Prop
  | .digitLimit, .constant l _ => ∃ n, l.Shows n ∧ Integer.hasText n = false
  | .backslash, .formatted value _ _ =>
    ∃ text, value.source true (.within .or) = .ok text ∧ CodePoint.ofChar '\\' ∈ text.points
  | .operator, .unary op _ => op.group? ≠ some .unary
  | .operator, .binary _ op _ => op.group? ≠ some .binary
  | .operator, .boolean op _ => op.group? ≠ some .boolean
  | .operator, .compare _ ops _ => ∃ op ∈ ops, op.group? ≠ some .comparing
  | _, _ => False

/-- Some part of the expression stands in the way of its text. -/
def Hindered (cause : Unwritable) (e : Expr) : Prop := ∃ part : Expr, part.Part e ∧ part.Hinders cause

variable {cause : Unwritable} {e p : Expr}

theorem Hindered.inside (h : p.Hindered cause) (hp : p ∈ e.parts) : e.Hindered cause := by
  obtain ⟨part, hpart, hhinders⟩ := h
  exact ⟨part, .inside hp hpart, hhinders⟩

theorem Hindered.self (h : e.Hinders cause) : e.Hindered cause := ⟨e, .self, h⟩

theorem hindered_iff : e.Hindered cause ↔ e.Hinders cause ∨ ∃ p ∈ e.parts, p.Hindered cause := by
  constructor
  · rintro ⟨part, hpart, h⟩
    cases hpart with
    | self => exact .inl h
    | inside hp hpart => exact .inr ⟨_, hp, part, hpart, h⟩
  · rintro (h | ⟨p, hp, h⟩)
    · exact .self h
    · exact h.inside hp

/-- All operators in the expression stand in forms of their own kind. -/
def Spelled (e : Expr) : Prop := ¬ e.Hindered .operator

theorem Spelled.of (hown : ¬ e.Hinders .operator) (hparts : ∀ p ∈ e.parts, p.Spelled) : e.Spelled := by
  rintro h
  rcases hindered_iff.1 h with h | ⟨p, hp, h⟩
  · exact hown h
  · exact hparts p hp h

theorem Spelled.inside (h : e.Spelled) (hp : p ∈ e.parts) : p.Spelled := fun hhindered => h (hhindered.inside hp)

end Expr

/-! ## Texts -/

/-- A text that exists unless one of the expressions has a part that stands in its way. -/
def TextOf (es : List Expr) {α : Type} (x : Except Unwritable α) : Prop :=
  Yields (fun cause => ∃ e ∈ es, e.Hindered cause) (fun _ => True) x

namespace TextOf

variable {es es' : List Expr} {e : Expr} {α β : Type}

theorem ok {a : α} : TextOf es (.ok a) := Yields.ok trivial

theorem bindText {x : Except Unwritable α} {f : α → Except Unwritable β} (hx : TextOf es x)
    (hf : ∀ a, x = .ok a → TextOf es (f a)) : TextOf es (x >>= f) := by
  cases x with
  | ok a => exact hf a rfl
  | error cause =>
    cases hx with
    | error hcause => exact Yields.error hcause

theorem bind {x : Except Unwritable α} {f : α → Except Unwritable β} (hx : TextOf es x) (hf : ∀ a, TextOf es (f a)) :
    TextOf es (x >>= f) :=
  bindText hx fun a _ => hf a

theorem mono {x : Except Unwritable α} (h : TextOf es x) (hes : ∀ e ∈ es, e ∈ es') : TextOf es' x :=
  Yields.mono h (fun _ ⟨e, he, hc⟩ => ⟨e, hes e he, hc⟩) fun _ h => h

/-- What stands in the way of the parts stands in the way of the whole. -/
theorem whole {x : Except Unwritable α} (h : TextOf es x) (hes : ∀ p ∈ es, p ∈ e.parts) : TextOf [e] x := by
  refine Yields.mono h ?_ fun _ h => h
  rintro cause ⟨p, hp, hc⟩
  exact ⟨e, List.mem_singleton.2 rfl, hc.inside (hes p hp)⟩

theorem part {x : Except Unwritable α} {p : Expr} (h : TextOf [p] x) (hp : p ∈ e.parts) : TextOf [e] x :=
  h.whole fun _ hq => List.mem_singleton.1 hq ▸ hp

theorem error {cause : Unwritable} (h : e.Hinders cause) : TextOf [e] (.error cause : Except Unwritable α) :=
  Yields.error ⟨e, List.mem_singleton.2 rfl, .self h⟩

theorem all {ws : List Written} (h : ∀ w ∈ ws, TextOf es w) : TextOf es (ws.mapM id) := by
  induction ws with
  | nil => exact ok
  | cons w rest ih =>
    rw [List.mapM_cons]
    obtain ⟨hw, hrest⟩ := List.forall_mem_cons.1 h
    exact bind hw fun _ => bind (ih hrest) fun _ => ok

theorem zipWith {xs : List α} {ys : List β} {f : α → β → Written} (h : ∀ x ∈ xs, ∀ y ∈ ys, TextOf es (f x y)) :
    ∀ w ∈ List.zipWith f xs ys, TextOf es w := by
  intro w hw
  rw [← List.map_uncurry_zip_eq_zipWith] at hw
  obtain ⟨⟨x, y⟩, hxy, rfl⟩ := List.mem_map.1 hw
  obtain ⟨hx, hy⟩ := List.of_mem_zip hxy
  exact h x hx y hy

theorem orLimit {x : Option α} (h : x = none → e.Hinders .digitLimit) : TextOf [e] (Unwritable.orLimit x) := by
  cases x with
  | none => exact error (h rfl)
  | some a => exact ok

theorem operator {op : Operator} {group : Operator.Group} (h : op.group? ≠ some group → e.Hinders .operator) :
    TextOf [e] (op.written group) := by
  unfold Operator.written
  split
  · exact ok
  · rename_i hne
    exact error (h hne)

theorem literal (loose : Bool) (l : Literal) (kind : Option String) :
    TextOf [.constant l kind] (Text.literal loose l) := by
  unfold Text.literal
  split
  · exact ok
  · refine orLimit fun hnone => l.exists_of_not_legible fun hlegible => ?_
    have hsome := Literal.source?_of_legible hlegible
    rw [Option.map_eq_none_iff.1 hnone] at hsome
    cases hsome

theorem valueText {t : Text} (h : CodePoint.ofChar '\\' ∈ t.points → e.Hinders .backslash) :
    TextOf [e] (Text.valueText t) := by
  unfold Text.valueText
  split
  · rename_i hs
    exact error (h (List.contains_iff_mem.1 hs))
  · exact ok

theorem entry {key : Option Written} {value : Written} (hkey : ∀ w, key = some w → TextOf es w)
    (hvalue : TextOf es value) : TextOf es (Text.entry key value) := by
  cases key with
  | none => exact bind hvalue fun _ => ok
  | some w => exact bind (hkey w rfl) fun _ => bind hvalue fun _ => ok

/-- A chain of comparisons whose operators may stand in the way. -/
theorem link {op : Operator} {operand : Written} (hop : op.group? ≠ some .comparing → e.Hinders .operator)
    (h : TextOf [e] operand) : TextOf [e] (Text.link op operand) :=
  bind (operator hop) fun _ => bind h fun _ => ok

theorem withDefault {param default : Written} (hparam : TextOf es param) (hdefault : TextOf es default) :
    TextOf es (Text.withDefault param default) :=
  bind hparam fun _ => bind hdefault fun _ => ok

theorem paramList {positionalOnly positional defaults rest keywordOnly keywordDefaults keywordRest : List Written}
    (h : ∀ ws ∈ [positionalOnly, positional, defaults, rest, keywordOnly, keywordDefaults, keywordRest],
      ∀ w ∈ ws, TextOf es w) :
    TextOf es (Text.paramList positionalOnly positional defaults rest keywordOnly keywordDefaults keywordRest) := by
  simp only [List.forall_mem_cons] at h
  obtain ⟨hpositionalOnly, hpositional, hdefaults, hrest, hkeywordOnly, hkeywordDefaults, hkeywordRest, -⟩ := h
  have hparams : ∀ p ∈ positionalOnly ++ positional, TextOf es p := fun p hp =>
    (List.mem_append.1 hp).elim (hpositionalOnly p) (hpositional p)
  have hgiven : ∀ missing, ∀ d ∈ List.replicate missing (.ok "") ++ defaults, TextOf es d := by
    intro missing d hd
    rcases List.mem_append.1 hd with hd | hd
    · rw [List.eq_of_mem_replicate hd]
      exact ok
    · exact hdefaults d hd
  have hfilled := fun missing => zipWith fun p hp d hd => withDefault (hparams p hp) (hgiven missing d hd)
  have hnamed := zipWith fun p hp d hd => withDefault (hkeywordOnly p hp) (hkeywordDefaults d hd)
  refine bind (all fun w hw => ?_) fun _ => ok
  simp only [List.mem_append] at hw
  rcases hw with ((((hw | hw) | hw) | hw) | hw) | hw
  · exact hfilled _ w (List.mem_of_mem_take hw)
  · split at hw
    · cases hw
    · rw [List.mem_singleton.1 hw]
      exact ok
  · exact hfilled _ w (List.mem_of_mem_drop hw)
  · split at hw
    · rw [List.mem_singleton.1 hw]
      exact ok
    · exact hrest w hw
  · exact hnamed w hw
  · exact hkeywordRest w hw

end TextOf

/-! ## Texts of expressions -/

-- One statement for each of the functions that write expressions, by the recursion they share.
mutual

/-- An expression has a text in any place unless one of its parts stands in the way. -/
theorem Expr.textOf_source (loose : Bool) : ∀ (place : Place) (e : Expr), TextOf [e] (e.source loose place)
  | place, .constant value kind => by
    simp only [Expr.source]
    split
    · exact .ok
    · exact .bind (.literal loose value kind) fun _ => .ok
  | place, .name .. => by
    simp only [Expr.source]
    exact .ok
  | place, .attribute value attr ctx => by
    simp only [Expr.source]
    exact .bind ((value.textOf_source loose _).part (by simp)) fun _ => .ok
  | place, .subscript value index ctx => by
    simp only [Expr.source]
    refine .bind ((value.textOf_source loose _).part (by simp)) fun _ => ?_
    exact .bind ((index.textOf_source loose _).part (by simp)) fun _ => .ok
  | place, .slice lower upper step => by
    simp only [Expr.source]
    refine .bind ((textOf_sourceIfAny loose _ _ lower).whole (by simp +contextual)) fun _ => ?_
    refine .bind ((textOf_sourceIfAny loose _ _ upper).whole (by simp +contextual)) fun _ => ?_
    exact .bind ((textOf_sourceIfAny loose _ _ step).whole (by simp +contextual)) fun _ => .ok
  | place, .starred value ctx => by
    simp only [Expr.source]
    exact .bind ((value.textOf_source loose _).part (by simp)) fun _ => .ok
  | place, .tuple items ctx => by
    simp only [Expr.source]
    exact .bind ((TextOf.all (textOf_sources loose _ items)).whole (by simp)) fun _ => .ok
  | place, .list items ctx => by
    simp only [Expr.source]
    exact .bind ((TextOf.all (textOf_sources loose _ items)).whole (by simp)) fun _ => .ok
  | place, .set items => by
    simp only [Expr.source]
    exact .bind ((TextOf.all (textOf_sources loose _ items)).whole (by simp)) fun _ => .ok
  | place, .dict keys values => by
    simp only [Expr.source]
    refine .bind (.all (.zipWith fun key hkey value hvalue => .entry (fun w hw => ?_) ?_)) fun _ => .ok
    · exact (textOf_slotSources loose keys key hkey w hw).whole (by simp +contextual)
    · exact (textOf_valueSources loose _ values value hvalue).whole (by simp +contextual)
  | place, .unary op operand => by
    simp only [Expr.source]
    refine .bind (.operator id) fun _ => ?_
    exact .bind ((operand.textOf_source loose _).part (by simp)) fun _ => .ok
  | place, .binary left op right => by
    simp only [Expr.source]
    refine .bind (.operator id) fun _ => ?_
    refine .bind ((left.textOf_source loose _).part (by simp)) fun _ => ?_
    exact .bind ((right.textOf_source loose _).part (by simp)) fun _ => .ok
  | place, .boolean op operands => by
    simp only [Expr.source]
    refine .bind (.operator id) fun _ => ?_
    exact .bind ((TextOf.all (textOf_risingSources loose _ operands)).whole (by simp)) fun _ => .ok
  | place, .compare left ops operands => by
    simp only [Expr.source]
    refine .bind ((left.textOf_source loose _).part (by simp)) fun _ => ?_
    refine .bind (.all (.zipWith fun op hop operand hoperand => .link (fun hne => ⟨op, hop, hne⟩) ?_)) fun _ => .ok
    exact (textOf_sources loose _ operands operand hoperand).whole (by simp +contextual)
  | place, .conditional test body orelse => by
    simp only [Expr.source]
    refine .bind ((body.textOf_source loose _).part (by simp)) fun _ => ?_
    refine .bind ((test.textOf_source loose _).part (by simp)) fun _ => ?_
    exact .bind ((orelse.textOf_source loose _).part (by simp)) fun _ => .ok
  | place, .call callee args keywords => by
    simp only [Expr.source]
    refine .bind ((callee.textOf_source loose _).part (by simp)) fun _ => .bind (.all fun w hw => ?_) fun _ => .ok
    rcases List.mem_append.1 hw with hw | hw
    · exact (textOf_sources loose _ args w hw).whole (by simp +contextual)
    · exact (textOf_keywordSources loose keywords w hw).whole (by simp +contextual)
  | place, .lambda params body => by
    simp only [Expr.source]
    refine .bind ((params.textOf_source loose).whole (by simp +contextual)) fun _ => ?_
    exact .bind ((body.textOf_source loose _).part (by simp)) fun _ => .ok
  | place, .named target value => by
    simp only [Expr.source]
    refine .bind ((target.textOf_source loose _).part (by simp)) fun _ => ?_
    exact .bind ((value.textOf_source loose _).part (by simp)) fun _ => .ok
  | place, .listComp item clauses => by
    simp only [Expr.source]
    refine .bind ((item.textOf_source loose _).part (by simp)) fun _ => ?_
    exact .bind ((textOf_clauseSources loose clauses).whole (by simp +contextual)) fun _ => .ok
  | place, .setComp item clauses => by
    simp only [Expr.source]
    refine .bind ((item.textOf_source loose _).part (by simp)) fun _ => ?_
    exact .bind ((textOf_clauseSources loose clauses).whole (by simp +contextual)) fun _ => .ok
  | place, .dictComp key value clauses => by
    simp only [Expr.source]
    refine .bind ((key.textOf_source loose _).part (by simp)) fun _ => ?_
    refine .bind ((value.textOf_source loose _).part (by simp)) fun _ => ?_
    exact .bind ((textOf_clauseSources loose clauses).whole (by simp +contextual)) fun _ => .ok
  | place, .generator item clauses => by
    simp only [Expr.source]
    refine .bind ((item.textOf_source loose _).part (by simp)) fun _ => ?_
    exact .bind ((textOf_clauseSources loose clauses).whole (by simp +contextual)) fun _ => .ok
  | place, .await value => by
    simp only [Expr.source]
    exact .bind ((value.textOf_source loose _).part (by simp)) fun _ => .ok
  | place, .yield value => by
    simp only [Expr.source]
    exact .bind ((textOf_sourceIfAny loose _ _ value).whole (by simp)) fun _ => .ok
  | place, .yieldFrom value => by
    simp only [Expr.source]
    exact .bind ((value.textOf_source loose _).part (by simp)) fun _ => .ok
  | place, .joined parts => by
    simp only [Expr.source]
    exact .bind ((textOf_partSources loose parts).whole (by simp)) fun _ => .ok
  | place, .formatted value conversion spec => by
    simp only [Expr.source]
    refine .bindText ((value.textOf_source true _).part (by simp)) fun text htext => ?_
    refine .bind (.valueText fun hs => ⟨text, htext, hs⟩) fun _ => ?_
    exact .bind ((textOf_specSource loose spec).whole (by simp +contextual)) fun _ => .ok

theorem textOf_sources (loose : Bool) (precedence : Precedence) :
    ∀ es : List Expr, ∀ w ∈ sources loose precedence es, TextOf es w
  | [] => by simp [sources]
  | e :: rest => by
    simp only [sources, List.forall_mem_cons]
    refine ⟨(e.textOf_source loose _).mono (by simp), fun w hw => ?_⟩
    exact (textOf_sources loose precedence rest w hw).mono (by simp +contextual)

theorem textOf_partSources (loose : Bool) : ∀ es : List Expr, TextOf es (partSources loose es)
  | [] => by
    simp only [partSources]
    exact .ok
  | e :: rest => by
    simp only [partSources]
    refine .bind ((e.textOf_source loose _).mono (by simp)) fun _ => ?_
    exact .bind ((textOf_partSources loose rest).mono (by simp +contextual)) fun _ => .ok

theorem textOf_risingSources (loose : Bool) :
    ∀ (precedence : Precedence) (es : List Expr), ∀ w ∈ risingSources loose precedence es, TextOf es w
  | _, [] => by simp [risingSources]
  | precedence, e :: rest => by
    simp only [risingSources, List.forall_mem_cons]
    refine ⟨(e.textOf_source loose _).mono (by simp), fun w hw => ?_⟩
    exact (textOf_risingSources loose precedence.next rest w hw).mono (by simp +contextual)

theorem textOf_valueSources (loose : Bool) :
    ∀ (keyed : List Bool) (es : List Expr), ∀ w ∈ valueSources loose keyed es, TextOf es w
  | _, [] => by simp [valueSources]
  | keyed, e :: rest => by
    simp only [valueSources, List.forall_mem_cons]
    refine ⟨(e.textOf_source loose _).mono (by simp), fun w hw => ?_⟩
    exact (textOf_valueSources loose keyed.tail rest w hw).mono (by simp +contextual)

theorem textOf_sourceIfAny (loose : Bool) (precedence : Precedence) (lead : String) :
    ∀ e : Option Expr, TextOf e.toList (sourceIfAny loose precedence lead e)
  | none => by
    simp only [sourceIfAny]
    exact .ok
  | some e => by
    simp only [sourceIfAny]
    exact .bind (e.textOf_source loose _) fun _ => .ok

theorem textOf_specSource (loose : Bool) : ∀ e : Option Expr, TextOf e.toList (specSource loose e)
  | none => by
    simp only [specSource]
    exact .ok
  | some e => by
    simp only [specSource]
    exact .bind (e.textOf_source loose _) fun _ => .ok

theorem textOf_slotSource (loose : Bool) :
    ∀ (e : Option Expr) (w : Written), slotSource loose e = some w → TextOf e.toList w
  | none, w, hw => by simp [slotSource] at hw
  | some e, w, hw => by
    simp only [slotSource, Option.some.injEq] at hw
    rw [← hw]
    exact e.textOf_source loose _

theorem textOf_slotSources (loose : Bool) : ∀ slots : List (Option Expr), ∀ o ∈ slotSources loose slots,
    ∀ w, o = some w → TextOf (slots.flatMap Option.toList) w
  | [] => by simp [slotSources]
  | slot :: rest => by
    simp only [slotSources, List.forall_mem_cons]
    refine ⟨fun w hw => ?_, fun o ho w hw => ?_⟩
    · exact (textOf_slotSource loose slot w hw).mono (by simp +contextual)
    · exact (textOf_slotSources loose rest o ho w hw).mono (by simp +contextual)

theorem Keyword.textOf_source (loose : Bool) : ∀ k : Keyword, TextOf [k.value] (k.source loose)
  | .mk none value => by
    simp only [Keyword.source]
    exact .bind (value.textOf_source loose _) fun _ => .ok
  | .mk (some name) value => by
    simp only [Keyword.source]
    exact .bind (value.textOf_source loose _) fun _ => .ok

theorem textOf_keywordSources (loose : Bool) :
    ∀ ks : List Keyword, ∀ w ∈ keywordSources loose ks, TextOf (ks.map Keyword.value) w
  | [] => by simp [keywordSources]
  | k :: rest => by
    simp only [keywordSources, List.forall_mem_cons]
    refine ⟨(k.textOf_source loose).mono (by simp), fun w hw => ?_⟩
    exact (textOf_keywordSources loose rest w hw).mono (by simp +contextual)

theorem Clause.textOf_source (loose : Bool) : ∀ c : Clause, TextOf c.parts (c.source loose)
  | .mk target source conditions isAsync => by
    simp only [Clause.source]
    refine .bind ((target.textOf_source loose _).mono (by simp)) fun _ => ?_
    refine .bind ((source.textOf_source loose _).mono (by simp)) fun _ => ?_
    exact .bind ((TextOf.all (textOf_sources loose _ conditions)).mono (by simp +contextual)) fun _ => .ok

theorem textOf_clauseSources (loose : Bool) :
    ∀ cs : List Clause, TextOf (cs.flatMap Clause.parts) (clauseSources loose cs)
  | [] => by
    simp only [clauseSources]
    exact .ok
  | c :: rest => by
    simp only [clauseSources]
    refine .bind ((c.textOf_source loose).mono (by simp +contextual)) fun _ => ?_
    exact .bind ((textOf_clauseSources loose rest).mono (by simp +contextual)) fun _ => .ok

theorem Param.textOf_source (loose : Bool) : ∀ p : Param, TextOf p.parts (p.source loose)
  | .mk name hint => by
    simp only [Param.source]
    exact .bind (textOf_sourceIfAny loose _ _ hint) fun _ => .ok

theorem textOf_paramSources (loose : Bool) :
    ∀ ps : List Param, ∀ w ∈ paramSources loose ps, TextOf (ps.flatMap Param.parts) w
  | [] => by simp [paramSources]
  | p :: rest => by
    simp only [paramSources, List.forall_mem_cons]
    refine ⟨(p.textOf_source loose).mono (by simp +contextual), fun w hw => ?_⟩
    exact (textOf_paramSources loose rest w hw).mono (by simp +contextual)

theorem textOf_restSource (loose : Bool) (mark : String) :
    ∀ p : Option Param, ∀ w ∈ restSource loose mark p, TextOf (p.toList.flatMap Param.parts) w
  | none => by simp [restSource]
  | some p => by
    simp only [restSource, List.forall_mem_singleton]
    exact .bind ((p.textOf_source loose).mono (by simp)) fun _ => .ok

theorem textOf_defaultSources (loose : Bool) : ∀ es : List Expr, ∀ w ∈ defaultSources loose es, TextOf es w
  | [] => by simp [defaultSources]
  | e :: rest => by
    simp only [defaultSources, List.forall_mem_cons]
    refine ⟨.bind ((e.textOf_source loose _).mono (by simp)) fun _ => .ok, fun w hw => ?_⟩
    exact (textOf_defaultSources loose rest w hw).mono (by simp +contextual)

theorem textOf_keywordDefaultSources (loose : Bool) : ∀ slots : List (Option Expr),
    ∀ w ∈ keywordDefaultSources loose slots, TextOf (slots.flatMap Option.toList) w
  | [] => by simp [keywordDefaultSources]
  | slot :: rest => by
    simp only [keywordDefaultSources, List.forall_mem_cons]
    refine ⟨(textOf_sourceIfAny loose _ _ slot).mono (by simp +contextual), fun w hw => ?_⟩
    exact (textOf_keywordDefaultSources loose rest w hw).mono (by simp +contextual)

theorem Params.textOf_source (loose : Bool) : ∀ ps : Params, TextOf ps.parts (ps.source loose)
  | .mk positionalOnly positional rest keywordOnly keywordDefaults keywordRest defaults => by
    simp only [Params.source]
    refine .paramList ?_
    simp only [List.forall_mem_cons]
    refine ⟨fun w hw => ?_, fun w hw => ?_, fun w hw => ?_, fun w hw => ?_, fun w hw => ?_, fun w hw => ?_,
      fun w hw => ?_, by simp⟩
    · exact (textOf_paramSources loose positionalOnly w hw).mono (by simp +contextual)
    · exact (textOf_paramSources loose positional w hw).mono (by simp +contextual)
    · exact (textOf_defaultSources loose defaults w hw).mono (by simp +contextual)
    · exact (textOf_restSource loose _ rest w hw).mono (by simp +contextual)
    · exact (textOf_paramSources loose keywordOnly w hw).mono (by simp +contextual)
    · exact (textOf_keywordDefaultSources loose keywordDefaults w hw).mono (by simp +contextual)
    · exact (textOf_restSource loose _ keywordRest w hw).mono (by simp +contextual)

end

end Treewalk
