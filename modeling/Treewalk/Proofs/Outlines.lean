/-
Outlines of genuine trees. The outline of a genuine expression is proper, and it determines the expression: each form has
a label of its own and each field can be found by its name, also where other fields are left out.
-/
import Treewalk.Proofs.Genuine

namespace Treewalk

/-! ## Proper outlines -/

namespace Outline

/-- A field whose name is a word and whose outline is proper. -/
inductive ProperField : Field → Prop
  | mk {name : String} {o : Outline} (hname : IsWord name.toList) (h : o.Proper) : ProperField (.mk name o)

@[simp] theorem properField_mk {name : String} {o : Outline} :
    ProperField (.mk name o) ↔ IsWord name.toList ∧ o.Proper :=
  ⟨fun | .mk hname h => ⟨hname, h⟩, fun ⟨hname, h⟩ => .mk hname h⟩

@[simp] theorem proper_node {label : String} {fields : List Field} :
    (node label fields).Proper ↔ IsWord label.toList ∧ ∀ f ∈ fields, ProperField f := by
  constructor
  · rintro ⟨hlabel, hnames, h⟩
    exact ⟨hlabel, fun ⟨name, o⟩ hf => .mk (hnames name o hf) (h name o hf)⟩
  · rintro ⟨hlabel, h⟩
    exact .node hlabel (fun name o hf => (properField_mk.1 (h _ hf)).1) fun name o hf => (properField_mk.1 (h _ hf)).2

@[simp] theorem proper_list {items : List Outline} : (list items).Proper ↔ ∀ o ∈ items, o.Proper :=
  ⟨fun | .list h => h, .list⟩

@[simp] theorem proper_literal {l : Literal} : (literal l).Proper ↔ l.Plain := ⟨fun | .literal h => h, .literal⟩

@[simp] theorem proper_text (s : String) : (text s).Proper := .literal (.string s)

@[simp] theorem proper_number (n : Int) : (number n).Proper := .literal (.int n)

@[simp] theorem proper_flag (b : Bool) : (flag b).Proper := .literal (.int _)

@[simp] theorem proper_leaf {label : String} : (leaf label).Proper ↔ IsWord label.toList :=
  proper_node.trans ⟨And.left, fun h => ⟨h, List.forall_mem_nil _⟩⟩

@[simp] theorem proper_optional {α : Type} {name : String} {f : α → Outline} {a : Option α} :
    (∀ field ∈ optional name (a.map f), ProperField field) ↔ ∀ x ∈ a, IsWord name.toList ∧ (f x).Proper := by
  cases a with
  | none => exact iff_of_true (List.forall_mem_nil _) nofun
  | some x => simp [optional]

end Outline

@[simp] theorem Context.proper_outline (c : Context) : c.outline.Proper := by
  cases c <;> exact Outline.proper_leaf.2 (by decide)

theorem Operator.proper_outline {op : Operator} (h : op.group? ≠ none) : op.outline.Proper := by
  refine Outline.proper_leaf.2 ?_
  cases op with
  | other label => exact absurd rfl h
  | _ => decide

/-! ## Lists of expressions -/

@[simp] theorem outlineAll_eq (es : List Expr) : outlineAll es = es.map Expr.outline := by
  induction es with
  | nil => rfl
  | cons e rest ih => rw [outlineAll, ih, List.map_cons]

@[simp] theorem outlineIfAny_eq (o : Option Expr) : outlineIfAny o = o.map Expr.outline := by
  cases o <;> rfl

/-- The outline of an item that may be missing. -/
def outlineSlot (slot : Option Expr) : Outline := (slot.map Expr.outline).getD .missing

@[simp] theorem outlineSlots_eq (slots : List (Option Expr)) : outlineSlots slots = slots.map outlineSlot := by
  induction slots with
  | nil => rfl
  | cons slot rest ih => rw [outlineSlots, ih, List.map_cons, outlineSlot, outlineIfAny_eq]

@[simp] theorem outlineKeywords_eq (keywords : List Keyword) :
    outlineKeywords keywords = keywords.map Keyword.outline := by
  induction keywords with
  | nil => rfl
  | cons k rest ih => rw [outlineKeywords, ih, List.map_cons]

@[simp] theorem outlineClauses_eq (clauses : List Clause) : outlineClauses clauses = clauses.map Clause.outline := by
  induction clauses with
  | nil => rfl
  | cons c rest ih => rw [outlineClauses, ih, List.map_cons]

@[simp] theorem outlineParams_eq (params : List Param) : outlineParams params = params.map Param.outline := by
  induction params with
  | nil => rfl
  | cons p rest ih => rw [outlineParams, ih, List.map_cons]

@[simp] theorem outlineRest_eq (p : Option Param) : outlineRest p = p.map Param.outline := by
  cases p <;> rfl

@[simp] theorem proper_outlineSlot {slot : Option Expr} :
    (outlineSlot slot).Proper ↔ ∀ e ∈ slot, e.outline.Proper := by
  cases slot with
  | none => exact iff_of_true (.literal .none) nofun
  | some e => exact ⟨fun h _ he => Option.some.inj he ▸ h, fun h => h e rfl⟩

@[simp] theorem Keyword.proper_outline {k : Keyword} : k.outline.Proper ↔ k.value.outline.Proper := by
  obtain ⟨name, value⟩ := k
  simp +decide [Keyword.outline, or_imp, forall_and]

@[simp] theorem Clause.proper_outline {c : Clause} : c.outline.Proper ↔ ∀ e ∈ c.parts, e.outline.Proper := by
  obtain ⟨target, source, conditions, isAsync⟩ := c
  simp +decide [Clause.outline]

@[simp] theorem Param.proper_outline {p : Param} : p.outline.Proper ↔ ∀ e ∈ p.parts, e.outline.Proper := by
  obtain ⟨name, hint⟩ := p
  simp +decide [Param.outline]

@[simp] theorem Params.proper_outline {ps : Params} : ps.outline.Proper ↔ ∀ e ∈ ps.parts, e.outline.Proper := by
  obtain ⟨positionalOnly, positional, rest, keywordOnly, keywordDefaults, keywordRest, defaults⟩ := ps
  simp +decide [Params.outline, or_imp, forall_and, -Param.parts]
  grind

/-- The outline of a genuine expression is proper. -/
theorem Expr.proper_outline {e : Expr} : e.Genuine → e.outline.Proper := by
  induction e using parts_induction with
  | h e ih =>
    intro h
    have hparts : ∀ p ∈ e.parts, p.outline.Proper := fun p hp => ih p hp (h.inside hp)
    have hown := h.own
    have hop {op : Operator} {group : Operator.Group} (hgroup : op.group? = some group) : op.outline.Proper :=
      Operator.proper_outline (hgroup ▸ Option.some_ne_none _)
    clear ih h
    -- Everything in the outline but literals and operators comes from the parts.
    cases e <;> simp +decide [outline, or_imp, forall_and, -Clause.parts, -Params.parts, -Keyword.value] at hparts ⊢
    case constant => exact hown
    case unary => exact ⟨hop hown, hparts⟩
    case binary => exact ⟨hparts.1, hop hown, hparts.2⟩
    case boolean => exact ⟨hop hown, hparts⟩
    case compare => exact ⟨hparts.1, fun op hmem => hop (hown op hmem), hparts.2⟩
    all_goals grind

/-! ## Outlines of different trees -/

namespace Outline

/-- The outline in the field of a name. -/
def field? (name : String) : List Field → Option Outline
  | [] => none
  | .mk name' o :: rest => if name' = name then some o else field? name rest

@[simp] theorem field?_nil (name : String) : field? name [] = none := rfl

@[simp] theorem field?_cons (name name' : String) (o : Outline) (rest : List Field) :
    field? name (.mk name' o :: rest) = if name' = name then some o else field? name rest := rfl

@[simp] theorem field?_optional (name name' : String) (o : Option Outline) :
    field? name (optional name' o) = if name' = name then o else none := by
  cases o with
  | none => exact (ite_self none).symm
  | some o => rfl

@[simp] theorem field?_append (name : String) (fields fields' : List Field) :
    field? name (fields ++ fields') = (field? name fields).or (field? name fields') := by
  induction fields with
  | nil => rfl
  | cons f rest ih =>
    obtain ⟨name', o⟩ := f
    rw [List.cons_append, field?_cons, field?_cons, ih]
    split <;> rfl

@[simp] theorem text_inj {s s' : String} : text s = text s' ↔ s = s' := by
  rw [text, text, literal.injEq, Literal.string.injEq, Text.ofString_inj]

@[simp] theorem number_inj {n n' : Int} : number n = number n' ↔ n = n' := by
  rw [number, number, literal.injEq, Literal.int.injEq]

@[simp] theorem flag_inj {b b' : Bool} : flag b = flag b' ↔ b = b' := by
  cases b <;> cases b' <;> simp [flag]

@[simp] theorem optional_inj {name : String} {o o' : Option Outline} : optional name o = optional name o' ↔ o = o' := by
  cases o <;> cases o' <;> simp [optional]

@[simp] theorem map_texts_inj {names names' : List String} : names.map text = names'.map text ↔ names = names' :=
  List.map_inj_right fun _ _ => text_inj.1

@[simp] theorem map_text_inj {o o' : Option String} : o.map text = o'.map text ↔ o = o' := by
  cases o <;> cases o' <;> simp

end Outline

@[simp] theorem Context.outline_inj {c c' : Context} : c.outline = c'.outline ↔ c = c' := by
  cases c <;> cases c' <;> simp [outline, Outline.leaf, label]

theorem Operator.eq_of_outline {op op' : Operator} (h : op.group? ≠ none) (h' : op'.group? ≠ none)
    (heq : op.outline = op'.outline) : op = op' := by
  have hlabel {op : Operator} (h : op.group? ≠ none) : ofLabel op.label = op := by
    cases op with
    | other label => exact absurd rfl h
    | _ => decide
  rw [outline, outline, Outline.leaf, Outline.leaf, Outline.node.injEq] at heq
  rw [← hlabel h, heq.1, hlabel h']

section

variable {α β : Type} {f : α → β}

/-- What the items have in common by one function, they have in common by another. -/
theorem map_transfer {γ : Type} {g : α → γ} : ∀ {xs ys : List α}, (∀ x ∈ xs, ∀ y ∈ ys, f x = f y → g x = g y) →
    xs.map f = ys.map f → xs.map g = ys.map g
  | [], [], _, _ => rfl
  | x :: xs, y :: ys, h, heq => by
    obtain ⟨hfirst, hrest⟩ := List.cons.inj heq
    rw [List.map_cons, List.map_cons, h x (List.mem_cons_self ..) y (List.mem_cons_self ..) hfirst,
      map_transfer (fun x hx y hy => h x (List.mem_cons_of_mem _ hx) y (List.mem_cons_of_mem _ hy)) hrest]

theorem map_cancel {xs ys : List α} (h : ∀ x ∈ xs, ∀ y ∈ ys, f x = f y → x = y) (heq : xs.map f = ys.map f) :
    xs = ys := by
  simpa using map_transfer (g := id) h heq

theorem option_map_cancel {x y : Option α} (h : ∀ a ∈ x, ∀ b ∈ y, f a = f b → a = b) (heq : x.map f = y.map f) :
    x = y := by
  cases x with
  | none =>
    cases y with
    | none => rfl
    | some b => cases heq
  | some a =>
    cases y with
    | none => cases heq
    | some b => rw [h a rfl b rfl (Option.some.inj heq)]

end

/-- The expressions are known from their outlines. -/
def Told (es es' : List Expr) : Prop := ∀ e ∈ es, ∀ e' ∈ es', e.outline = e'.outline → e = e'

namespace Told

variable {es es' : List Expr}

theorem mono {xs xs' : List Expr} (h : Told es es') (hxs : ∀ x ∈ xs, x ∈ es) (hxs' : ∀ x ∈ xs', x ∈ es') :
    Told xs xs' := fun x hx x' hx' => h x (hxs x hx) x' (hxs' x' hx')

theorem append {xs xs' ys ys' : List Expr} (h : Told (xs ++ ys) (xs' ++ ys')) : Told xs xs' ∧ Told ys ys' :=
  ⟨h.mono (fun _ hx => List.mem_append_left _ hx) fun _ hx => List.mem_append_left _ hx,
    h.mono (fun _ hy => List.mem_append_right _ hy) fun _ hy => List.mem_append_right _ hy⟩

theorem cons {x x' : Expr} {xs xs' : List Expr} (h : Told (x :: xs) (x' :: xs')) :
    (x.outline = x'.outline → x = x') ∧ Told xs xs' :=
  ⟨h x (List.mem_cons_self ..) x' (List.mem_cons_self ..),
    h.mono (fun _ hx => List.mem_cons_of_mem _ hx) fun _ hx => List.mem_cons_of_mem _ hx⟩

theorem option {o o' : Option Expr} (h : Told o.toList o'.toList) (heq : o.map Expr.outline = o'.map Expr.outline) :
    o = o' :=
  option_map_cancel (fun a ha b hb => h a (Option.mem_toList.2 ha) b (Option.mem_toList.2 hb)) heq

theorem slot {slot slot' : Option Expr} (h : Told slot.toList slot'.toList)
    (heq : outlineSlot slot = outlineSlot slot') : slot = slot' := by
  have hnode (e : Expr) : e.outline ≠ .missing := by cases e <;> simp [Expr.outline, Outline.missing]
  refine h.option ?_
  cases slot with
  | none =>
    cases slot' with
    | none => rfl
    | some e => exact absurd heq.symm (hnode e)
  | some e =>
    cases slot' with
    | none => exact absurd heq (hnode e)
    | some e' => exact congrArg some heq

theorem slots {slots slots' : List (Option Expr)} (h : Told (slots.flatMap Option.toList) (slots'.flatMap Option.toList))
    (heq : slots.map outlineSlot = slots'.map outlineSlot) : slots = slots' := by
  refine map_cancel (fun s hs s' hs' => slot (h.mono (fun e he => ?_) fun e he => ?_)) heq
  · exact List.mem_flatMap.2 ⟨s, hs, he⟩
  · exact List.mem_flatMap.2 ⟨s', hs', he⟩

theorem keyword {k k' : Keyword} (h : Told [k.value] [k'.value]) (heq : k.outline = k'.outline) : k = k' := by
  obtain ⟨name, value⟩ := k
  obtain ⟨name', value'⟩ := k'
  simp only [Keyword.outline, Outline.node.injEq, true_and] at heq
  have hname := congrArg (Outline.field? "arg") heq
  have hvalue := congrArg (Outline.field? "value") heq
  simp at hname hvalue
  obtain rfl : value = value' := h.cons.1 hvalue
  rw [hname]

theorem keywords {ks ks' : List Keyword} (h : Told (ks.map Keyword.value) (ks'.map Keyword.value))
    (heq : ks.map Keyword.outline = ks'.map Keyword.outline) : ks = ks' := by
  refine map_cancel (fun k hk k' hk' => keyword (h.mono ?_ ?_)) heq
  · exact List.forall_mem_singleton.2 (List.mem_map_of_mem hk)
  · exact List.forall_mem_singleton.2 (List.mem_map_of_mem hk')

theorem clause {c c' : Clause} (h : Told c.parts c'.parts) (heq : c.outline = c'.outline) : c = c' := by
  obtain ⟨target, source, conditions, isAsync⟩ := c
  obtain ⟨target', source', conditions', isAsync'⟩ := c'
  simp [Clause.outline] at heq
  obtain ⟨htarget, hsource, hconditions, rfl⟩ := heq
  rw [h.cons.1 htarget, h.cons.2.cons.1 hsource, map_cancel h.cons.2.cons.2 hconditions]

theorem clauses {cs cs' : List Clause} (h : Told (cs.flatMap Clause.parts) (cs'.flatMap Clause.parts))
    (heq : cs.map Clause.outline = cs'.map Clause.outline) : cs = cs' := by
  refine map_cancel (fun c hc c' hc' => clause (h.mono (fun e he => ?_) fun e he => ?_)) heq
  · exact List.mem_flatMap.2 ⟨c, hc, he⟩
  · exact List.mem_flatMap.2 ⟨c', hc', he⟩

theorem param {p p' : Param} (h : Told p.parts p'.parts) (heq : p.outline = p'.outline) : p = p' := by
  obtain ⟨name, hint⟩ := p
  obtain ⟨name', hint'⟩ := p'
  simp [Param.outline] at heq
  obtain ⟨rfl, hhint⟩ := heq
  rw [h.option hhint]

theorem paramList {ps ps' : List Param} (h : Told (ps.flatMap Param.parts) (ps'.flatMap Param.parts))
    (heq : ps.map Param.outline = ps'.map Param.outline) : ps = ps' := by
  refine map_cancel (fun p hp p' hp' => param (h.mono (fun e he => ?_) fun e he => ?_)) heq
  · exact List.mem_flatMap.2 ⟨p, hp, he⟩
  · exact List.mem_flatMap.2 ⟨p', hp', he⟩

theorem paramRest {p p' : Option Param} (h : Told (p.toList.flatMap Param.parts) (p'.toList.flatMap Param.parts))
    (heq : p.map Param.outline = p'.map Param.outline) : p = p' := by
  refine option_map_cancel (fun a ha b hb => param (h.mono (fun e he => ?_) fun e he => ?_)) heq
  · exact List.mem_flatMap.2 ⟨a, Option.mem_toList.2 ha, he⟩
  · exact List.mem_flatMap.2 ⟨b, Option.mem_toList.2 hb, he⟩

theorem params {ps ps' : Params} (h : Told ps.parts ps'.parts) (heq : ps.outline = ps'.outline) : ps = ps' := by
  obtain ⟨positionalOnly, positional, rest, keywordOnly, keywordDefaults, keywordRest, defaults⟩ := ps
  obtain ⟨positionalOnly', positional', rest', keywordOnly', keywordDefaults', keywordRest', defaults'⟩ := ps'
  simp only [Params.outline, Outline.node.injEq, true_and] at heq
  have hpositionalOnly := congrArg (Outline.field? "posonlyargs") heq
  have hpositional := congrArg (Outline.field? "args") heq
  have hrest := congrArg (Outline.field? "vararg") heq
  have hkeywordOnly := congrArg (Outline.field? "kwonlyargs") heq
  have hkeywordDefaults := congrArg (Outline.field? "kw_defaults") heq
  have hkeywordRest := congrArg (Outline.field? "kwarg") heq
  have hdefaults := congrArg (Outline.field? "defaults") heq
  simp at hpositionalOnly hpositional hrest hkeywordOnly hkeywordDefaults hkeywordRest hdefaults
  obtain ⟨h, htold₁⟩ := h.append
  obtain ⟨h, htold₂⟩ := h.append
  obtain ⟨h, htold₃⟩ := h.append
  obtain ⟨h, htold₄⟩ := h.append
  obtain ⟨h, htold₅⟩ := h.append
  obtain ⟨h, htold₆⟩ := h.append
  rw [h.paramList hpositionalOnly, htold₆.paramList hpositional, htold₅.paramRest hrest,
    htold₄.paramList hkeywordOnly, htold₃.slots hkeywordDefaults, htold₂.paramRest hkeywordRest,
    map_cancel htold₁ hdefaults]

end Told

namespace Expr

theorem outline_form (e : Expr) : ∃ fields, e.outline = .node e.form fields := by
  cases e <;> exact ⟨_, by rw [outline, form]⟩

theorem form_eq {e e' : Expr} (h : e.outline = e'.outline) : e.form = e'.form := by
  obtain ⟨fields, hfields⟩ := e.outline_form
  obtain ⟨fields', hfields'⟩ := e'.outline_form
  rw [hfields, hfields', Outline.node.injEq] at h
  exact h.1

/-- The outline of a genuine expression determines the expression. -/
theorem eq_of_outline {e : Expr} : ∀ {e' : Expr}, e.Genuine → e'.Genuine → e.outline = e'.outline → e = e' := by
  induction e using parts_induction with
  | h e ih =>
    intro e' h h' heq
    have htold : Told e.parts e'.parts := fun p hp p' hp' => ih p hp (h.inside hp) (h'.inside hp')
    have hown := h.own
    have hown' := h'.own
    have hform := form_eq heq
    have hop {op op' : Operator} {group : Operator.Group} (hgroup : op.group? = some group)
        (hgroup' : op'.group? = some group) : op.outline = op'.outline → op = op' :=
      Operator.eq_of_outline (hgroup ▸ Option.some_ne_none _) (hgroup' ▸ Option.some_ne_none _)
    clear ih h h'
    -- The forms have different labels, so that only pairs of one form are left.
    cases e <;> cases e' <;> simp [form] at hform <;> clear hform <;> simp [outline] at heq
    case constant =>
      obtain ⟨rfl, rfl⟩ := heq
      rfl
    case name =>
      obtain ⟨rfl, rfl⟩ := heq
      rfl
    case «attribute» =>
      obtain ⟨hvalue, rfl, rfl⟩ := heq
      rw [htold.cons.1 hvalue]
    case subscript =>
      obtain ⟨hvalue, hindex, rfl⟩ := heq
      rw [htold.cons.1 hvalue, htold.cons.2.cons.1 hindex]
    case slice =>
      have hlower := congrArg (Outline.field? "lower") heq
      have hupper := congrArg (Outline.field? "upper") heq
      have hstep := congrArg (Outline.field? "step") heq
      simp at hlower hupper hstep
      obtain ⟨htold, htold₁⟩ := htold.append
      rw [htold.append.1.option hlower, htold.append.2.option hupper, htold₁.option hstep]
    case starred =>
      obtain ⟨hvalue, rfl⟩ := heq
      rw [htold.cons.1 hvalue]
    case tuple =>
      obtain ⟨hitems, rfl⟩ := heq
      exact congrArg (tuple · _) (map_cancel htold hitems)
    case list =>
      obtain ⟨hitems, rfl⟩ := heq
      exact congrArg (list · _) (map_cancel htold hitems)
    case set => exact congrArg set (map_cancel htold heq)
    case joined => exact congrArg joined (map_cancel htold heq)
    case dict => rw [htold.append.1.slots heq.1, map_cancel htold.append.2 heq.2]
    case unary => rw [hop hown hown' heq.1, htold.cons.1 heq.2]
    case binary => rw [htold.cons.1 heq.1, hop hown hown' heq.2.1, htold.cons.2.cons.1 heq.2.2]
    case boolean =>
      rw [hop hown hown' heq.1]
      exact congrArg (boolean _) (map_cancel htold heq.2)
    case compare =>
      have hops := map_cancel (fun op hmem op' hmem' => hop (hown op hmem) (hown' op' hmem')) heq.2.1
      rw [htold.cons.1 heq.1, hops, map_cancel htold.cons.2 heq.2.2]
    case conditional =>
      rw [htold.cons.1 heq.1, htold.cons.2.cons.1 heq.2.1, htold.cons.2.cons.2.cons.1 heq.2.2]
    case call =>
      obtain ⟨htold, hkeywords⟩ := htold.append
      rw [htold.cons.1 heq.1, map_cancel htold.cons.2 heq.2.1, hkeywords.keywords heq.2.2]
    case lambda => rw [htold.append.1.params heq.1, htold.append.2.cons.1 heq.2]
    case named => rw [htold.cons.1 heq.1, htold.cons.2.cons.1 heq.2]
    case listComp | setComp | generator => rw [htold.cons.1 heq.1, htold.cons.2.clauses heq.2]
    case dictComp =>
      rw [htold.cons.1 heq.1, htold.cons.2.cons.1 heq.2.1, htold.cons.2.cons.2.clauses heq.2.2]
    case await | yieldFrom => rw [htold.cons.1 heq]
    case yield => rw [htold.option heq]
    case formatted =>
      obtain ⟨hvalue, rfl, hspec⟩ := heq
      rw [htold.cons.1 hvalue, htold.cons.2.option hspec]

theorem eq_of_outlines {es es' : List Expr} (h : ∀ e ∈ es, e.Genuine) (h' : ∀ e ∈ es', e.Genuine)
    (heq : es.map outline = es'.map outline) : es = es' :=
  map_cancel (fun e he e' he' => eq_of_outline (h e he) (h' e' he')) heq

theorem eq_of_outline? {o o' : Option Expr} (h : ∀ e ∈ o, e.Genuine) (h' : ∀ e ∈ o', e.Genuine)
    (heq : o.map outline = o'.map outline) : o = o' :=
  option_map_cancel (fun e he e' he' => eq_of_outline (h e he) (h' e' he')) heq

/-- Genuine expressions are known from their outlines. -/
theorem told {es es' : List Expr} (h : ∀ e ∈ es, e.Genuine) (h' : ∀ e ∈ es', e.Genuine) : Told es es' :=
  fun e he e' he' => eq_of_outline (h e he) (h' e' he')

end Expr

end Treewalk
