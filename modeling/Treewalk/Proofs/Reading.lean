/-
What a reading gives. A property of what parts of the grammar give carries over to what is put together from them, so
the trees of a program text keep every property that the grammar gives to its nodes. Here it is that they are genuine:
their literals come from the text, and operators stand in forms of their own kind.
-/
import Treewalk.Grammar.Statement
import Treewalk.Proofs.Genuine
import Treewalk.Proofs.Scanning

namespace Treewalk

/-! ## Readings -/

namespace Parse

/-- From tokens whose numbers are ones that literals can stand for, all that a reading gives has a property, and such
tokens are left. -/
def Gives {α : Type} (V : α → Prop) (p : Parse α) : Prop :=
  ∀ tokens, PlainTokens tokens → Finds (fun found => V found.1 ∧ PlainTokens found.2) (p tokens)

/-- A step whose result does not matter. -/
class Keeps {α : Type} (p : Parse α) : Prop where
  gives : Gives (fun _ => True) p

namespace Gives

variable {α β σ : Type} {U : α → Prop} {V : β → Prop} {W : σ → Prop}

theorem keeps {p : Parse α} (h : Gives U p) : Keeps p :=
  ⟨fun tokens htokens found hfound => ⟨trivial, (h tokens htokens found hfound).2⟩⟩

theorem mono {U' : α → Prop} {p : Parse α} (h : Gives U p) (hU : ∀ a, U a → U' a) : Gives U' p :=
  fun tokens htokens found hfound => ⟨hU found.1 (h tokens htokens found hfound).1, (h tokens htokens found hfound).2⟩

theorem pure {a : α} (h : U a) : Gives U (pure a : Parse α) := fun _ htokens => .some ⟨h, htokens⟩

theorem failure : Gives U (failure : Parse α) := fun _ _ => .none

theorem bind {p : Parse α} {f : α → Parse β} (hp : Gives U p) (hf : ∀ a, U a → Gives V (f a)) : Gives V (p >>= f) :=
  fun tokens htokens => Finds.bind (hp tokens htokens) fun found hfound => hf found.1 hfound.1 found.2 hfound.2

theorem after {p : Parse α} [h : Keeps p] {f : α → Parse β} (hf : ∀ a, Gives V (f a)) : Gives V (p >>= f) :=
  bind h.gives fun a _ => hf a

theorem map {p : Parse α} {f : α → β} (hp : Gives U p) (hf : ∀ a, U a → V (f a)) : Gives V (f <$> p) := by
  rw [map_eq_pure_bind]
  exact bind hp fun a ha => pure (hf a ha)

theorem ite {c : Prop} [Decidable c] {p q : Parse α} (hp : Gives U p) (hq : Gives U q) :
    Gives U (if c then p else q) := by
  split
  · exact hp
  · exact hq

theorem lift {x : Option α} (h : Finds U x) : Gives U (liftM x : Parse α) := fun _ htokens =>
  Finds.bind h fun _ ha => .some ⟨ha, htokens⟩

/-- A value that may be left out. -/
theorem optional {c : Prop} [Decidable c] {p : Parse α} {f : Option α → Parse β} (hp : Gives U p)
    (hf : ∀ o, Finds U o → Gives V (f o)) : Gives V (if c then some <$> p >>= f else Pure.pure none >>= f) :=
  ite (bind (map hp fun _ ha => .some ha) hf) (bind (pure .none) hf)

theorem orElse {p q : Parse α} (hp : Gives U p) (hq : Gives U q) : Gives U (p <|> q) := by
  intro tokens htokens found hfound
  have h : (p tokens <|> q tokens) = some found := hfound
  cases hpt : p tokens with
  | none =>
    rw [hpt] at h
    exact hq tokens htokens found h
  | some a =>
    rw [hpt] at h
    cases h
    exact hp tokens htokens found hpt

/-! ### Tokens -/

theorem get {f : List Lexeme → Parse β} (hf : ∀ tokens, PlainTokens tokens → Gives V (f tokens)) :
    Gives V (get >>= f) := fun tokens htokens => hf tokens htokens tokens htokens

theorem set {rest : List Lexeme} {f : PUnit → Parse β} (hrest : PlainTokens rest) (hf : Gives V (f ())) :
    Gives V (set rest >>= f) := fun _ _ => hf rest hrest

end Gives

/-! ### Steps -/

section

variable {α β : Type}

instance (a : α) : Keeps (pure a : Parse α) := ⟨.pure trivial⟩

instance : Keeps (failure : Parse α) := ⟨.failure⟩

instance (p : Parse α) (f : α → Parse β) [h : Keeps p] [hf : ∀ a, Keeps (f a)] : Keeps (p >>= f) :=
  ⟨.bind h.gives fun a _ => (hf a).gives⟩

instance (c : Prop) [Decidable c] (p q : Parse α) [hp : Keeps p] [hq : Keeps q] : Keeps (if c then p else q) :=
  ⟨.ite hp.gives hq.gives⟩

instance (p : Parse α) (f : α → β) [h : Keeps p] : Keeps (f <$> p) := ⟨.map h.gives fun _ _ => trivial⟩

instance : Keeps (get : Parse (List Lexeme)) := ⟨fun _ htokens => .some ⟨trivial, htokens⟩⟩

instance : Keeps skip := ⟨fun _ htokens => .some ⟨trivial, htokens.tail⟩⟩

instance (s : String) : Keeps (nextIsOp s) := by
  unfold nextIsOp
  infer_instance

instance (s : String) : Keeps (nextIsKeyword s) := by
  unfold nextIsKeyword
  infer_instance

instance (s : String) : Keeps (takeOp s) := by
  unfold takeOp
  infer_instance

instance (s : String) : Keeps (takeKeyword s) := by
  unfold takeKeyword
  infer_instance

instance (s : String) : Keeps (op s) := by
  unfold op
  infer_instance

instance (s : String) : Keeps (keyword s) := by
  unfold keyword
  infer_instance

instance : Keeps name := by
  refine ⟨.get fun tokens htokens => ?_⟩
  split
  · exact .set htokens.rest (.pure trivial)
  · exact .failure

instance : Keeps newline := by
  refine ⟨.get fun tokens htokens => ?_⟩
  split
  · exact fun _ _ => .some ⟨trivial, htokens.rest⟩
  · exact .failure

instance : Keeps indent := by
  refine ⟨.get fun tokens htokens => ?_⟩
  split
  · exact fun _ _ => .some ⟨trivial, htokens.rest⟩
  · exact .failure

instance : Keeps dedent := by
  refine ⟨.get fun tokens htokens => ?_⟩
  split
  · exact fun _ _ => .some ⟨trivial, htokens.rest⟩
  · exact .failure

end

/-! ### Repetition -/

namespace Gives

variable {α σ : Type} {U : α → Prop} {W : σ → Prop}

theorem iterate {step : σ → Parse (Option σ)} (h : ∀ s, W s → Gives (Finds W) (step s)) :
    ∀ (budget : List Lexeme) (s : σ), W s → Gives W (iterate step budget s)
  | [], s, hs => .bind (h s hs) fun found _ => by
    cases found with
    | none => exact .pure hs
    | some _ => exact .failure
  | _ :: budget, s, hs => .bind (h s hs) fun found hfound => by
    cases found with
    | none => exact .pure hs
    | some s' => exact iterate h budget s' (hfound s' rfl)

theorem repeatWhile {step : σ → Parse (Option σ)} (h : ∀ s, W s → Gives (Finds W) (step s)) {s : σ} (hs : W s) :
    Gives W (repeatWhile step s) :=
  .get fun tokens _ => iterate h tokens s hs

theorem many {more : Parse Bool} [Keeps more] {item : Parse α} (h : Gives U item) :
    Gives (fun items => ∀ a ∈ items, U a) (many more item) := by
  refine .bind (U := fun items => ∀ a ∈ items, U a) (.repeatWhile (fun items hitems => ?_) (by simp))
    fun items hitems => ?_
  · refine .after fun again => .ite (.bind h fun a ha => .pure (.some ?_)) (.pure .none)
    exact List.forall_mem_cons.2 ⟨ha, hitems⟩
  · exact .pure fun a ha => hitems a (List.mem_reverse.1 ha)

theorem commaList {starts : Parse Bool} [Keeps starts] {item : Parse α} (h : Gives U item) {first : α}
    (hfirst : U first) : Gives (fun found => ∀ a ∈ found.1, U a) (commaList starts item first) := by
  refine .bind (U := fun state => ∀ a ∈ state.1, U a) (.repeatWhile ?_ (List.forall_mem_singleton.2 hfirst)) ?_
  · rintro ⟨items, comma, more⟩ hitems
    refine .ite (.pure .none) (.after fun _ => .ite (.after fun _ => .ite ?_ (.pure (.some hitems))) (.pure .none))
    exact .bind h fun a ha => .pure (.some (List.forall_mem_cons.2 ⟨ha, hitems⟩))
  · rintro ⟨items, comma, more⟩ hitems
    exact .pure fun a ha => hitems a (List.mem_reverse.1 ha)

theorem commaSeparated {item : Parse α} (h : Gives U item) :
    Gives (fun items => ∀ a ∈ items, U a) (commaSeparated item) :=
  .bind h fun _ hfirst => .bind (.many h) fun _ hrest => .pure (List.forall_mem_cons.2 ⟨hfirst, hrest⟩)

end Gives

instance {α : Type} (more : Parse Bool) (item : Parse α) [Keeps more] [h : Keeps item] : Keeps (many more item) :=
  (Gives.many h.gives).keeps

instance {α : Type} (item : Parse α) [h : Keeps item] : Keeps (commaSeparated item) :=
  (Gives.commaSeparated h.gives).keeps

end Parse

/-! ## Targets -/

namespace Expr

theorem genuine_constant {l : Literal} (hl : l.Plain) (kind : Option String) : (constant l kind).Genuine :=
  .of hl (by simp)

mutual

theorem finds_asTarget? (ctx : Context) : ∀ {e : Expr}, e.Genuine → Finds Genuine (e.asTarget? ctx)
  | .name .., _ => by
    simp only [asTarget?]
    exact .some (.of trivial (by simp))
  | .attribute value _ _, h => by
    simp only [asTarget?]
    exact .some (.of trivial (by simpa using h.inside (p := value) (by simp)))
  | .subscript value index _, h => by
    simp only [asTarget?]
    refine .some (.of trivial ?_)
    simpa using And.intro (h.inside (p := value) (by simp)) (h.inside (p := index) (by simp))
  | .starred value _, h => by
    have hvalue : value.Genuine := h.inside (by simp)
    have htarget := finds_asTarget? ctx hvalue
    unfold asTarget?
    split
    case h_4 | h_8 => exact .none
    case h_5 heq =>
      cases heq
      exact .ite .none (.bind htarget fun e he => .some (.of trivial (by simpa using he)))
    all_goals
      rename_i heq
      cases heq
  | .tuple items _, h => by
    simp only [asTarget?]
    exact .bind (finds_asTargets? ctx fun e he => h.inside he) fun items hitems => .some (.of trivial hitems)
  | .list items _, h => by
    simp only [asTarget?]
    exact .bind (finds_asTargets? ctx fun e he => h.inside he) fun items hitems => .some (.of trivial hitems)
  | .constant .., _ | .slice .., _ | .set .., _ | .dict .., _ | .unary .., _ | .binary .., _ | .boolean .., _
  | .compare .., _ | .conditional .., _ | .call .., _ | .lambda .., _ | .named .., _ | .listComp .., _
  | .setComp .., _ | .dictComp .., _ | .generator .., _ | .await .., _ | .yield .., _ | .yieldFrom .., _
  | .joined .., _ | .formatted .., _ => by
    simp only [asTarget?]
    exact .none

theorem finds_asTargets? (ctx : Context) : ∀ {es : List Expr}, (∀ e ∈ es, e.Genuine) →
    Finds (fun targets => ∀ e ∈ targets, e.Genuine) (asTargets? ctx es)
  | [], _ => by
    simp only [asTargets?]
    exact .some (by simp)
  | e :: rest, h => by
    simp only [asTargets?]
    obtain ⟨he, hrest⟩ := List.forall_mem_cons.1 h
    refine .bind (finds_asTarget? ctx he) fun e he => .bind (finds_asTargets? ctx hrest) fun es hes => ?_
    exact .some (List.forall_mem_cons.2 ⟨he, hes⟩)

end

theorem finds_asSinglePlace? {e : Expr} (h : e.Genuine) : Finds Genuine e.asSinglePlace? := by
  unfold asSinglePlace?
  split
  · exact .some (.of trivial (by simp))
  · rename_i value _ _
    exact .some (.of trivial (by simpa using h.inside (p := value) (by simp)))
  · rename_i value index _
    refine .some (.of trivial ?_)
    simpa using And.intro (h.inside (p := value) (by simp)) (h.inside (p := index) (by simp))
  · exact .none

end Expr

/-! ## Expressions -/

namespace Grammar

open Parse

variable {self : Rec} {plain : Parse Expr}

/-- Reads only expressions that are genuine. -/
abbrev GivesGenuine (p : Parse Expr) : Prop := Gives Expr.Genuine p

section

variable (hself : ∀ precedence, GivesGenuine (self precedence))

include hself

instance : Keeps startsItem := by
  refine ⟨.get fun tokens _ => ?_⟩
  split <;> exact .pure trivial

theorem genuine_starItem (hplain : GivesGenuine plain) : GivesGenuine (starItem self plain) :=
  .after fun _ => .ite (.bind (hself _) fun _ he => .pure (.of trivial (by simpa using he))) hplain

theorem genuine_namedExpr : GivesGenuine (namedExpr self) := by
  refine .get fun tokens htokens => ?_
  split
  · refine .set htokens.rest.rest (.bind (hself _) fun e he => .pure (.of trivial ?_))
    exact List.forall_mem_cons.2 ⟨.of trivial (by simp), List.forall_mem_singleton.2 he⟩
  · exact hself _

theorem genuine_starList (hplain : GivesGenuine plain) : GivesGenuine (starList self plain) := by
  refine .bind (genuine_starItem hself hplain) fun first hfirst => ?_
  refine .bind (.commaList (genuine_starItem hself hplain) hfirst) fun ⟨items, comma⟩ hitems => .pure ?_
  cases comma with
  | true => exact .of trivial hitems
  | false => exact hfirst

theorem genuine_yieldOrList : GivesGenuine (yieldOrList self) := by
  refine .after fun _ => .ite (.after fun _ => .ite ?_ (.after fun _ => .ite ?_ ?_)) (hself _)
  · exact .bind (hself _) fun _ he => .pure (.of trivial (by simpa using he))
  · exact .bind (hself _) fun _ he => .pure (.of trivial (by simpa using he))
  · exact .pure (.of trivial (by simp))

theorem genuine_loopTarget : GivesGenuine (loopTarget self) :=
  .bind (genuine_starList hself (hself _)) fun _ he => .lift (Expr.finds_asTarget? .store he)

/-! ### Comprehensions and brackets -/

instance : Keeps nextIsClause := by
  unfold nextIsClause
  infer_instance

theorem genuine_clause : Gives (fun c => ∀ e ∈ c.parts, e.Genuine) (clause self) := by
  refine .after fun isAsync => .after fun _ => .bind (genuine_loopTarget hself) fun target htarget => .after fun _ => ?_
  refine .bind (hself _) fun source hsource => .bind (.many (hself _)) fun conditions hconditions => .pure ?_
  exact List.forall_mem_cons.2 ⟨htarget, List.forall_mem_cons.2 ⟨hsource, hconditions⟩⟩

theorem genuine_clauses : Gives (fun cs => ∀ e ∈ cs.flatMap Clause.parts, e.Genuine) (clauses self) := by
  refine .mono (.many (genuine_clause hself)) fun cs hcs e he => ?_
  obtain ⟨c, hc, he⟩ := List.mem_flatMap.1 he
  exact hcs c hc e he

theorem genuine_bracketItems {first : Expr} {comprehension : Expr → List Clause → Expr}
    {container : List Expr → Bool → Option Expr} (hfirst : first.Genuine)
    (hcomprehension : ∀ item cs, item.Genuine → (∀ e ∈ cs.flatMap Clause.parts, e.Genuine) →
      (comprehension item cs).Genuine)
    (hcontainer : ∀ items comma, (∀ e ∈ items, e.Genuine) → Finds Expr.Genuine (container items comma)) :
    GivesGenuine (bracketItems self first comprehension container) := by
  refine .after fun _ => .ite ?_ ?_
  · split
    · exact .failure
    · exact .bind (genuine_clauses hself) fun cs hcs => .pure (hcomprehension first cs hfirst hcs)
  · refine .bind (.commaList (genuine_starItem hself (genuine_namedExpr hself)) hfirst) fun ⟨items, comma⟩ hitems => ?_
    exact .lift (hcontainer items comma hitems)

theorem genuine_group : GivesGenuine (group self) := by
  have hclose : ∀ e : Expr, e.Genuine → GivesGenuine (do op ")"; return e) := fun e he => .after fun _ => .pure he
  refine .after fun _ => .ite (.pure (.of trivial (by simp))) (.after fun _ => .ite (.bind (hself _) hclose) ?_)
  refine .bind (genuine_starItem hself (genuine_namedExpr hself)) fun first hfirst => .bind ?_ hclose
  refine genuine_bracketItems hself hfirst (fun item cs hitem hcs => ?_) fun items comma hitems => ?_
  · exact .of trivial (List.forall_mem_cons.2 ⟨hitem, hcs⟩)
  · split
    · exact .none
    · exact .some (List.forall_mem_singleton.1 hitems)
    · exact .some (.of trivial hitems)

theorem genuine_listDisplay : GivesGenuine (listDisplay self) := by
  refine .after fun _ => .ite (.pure (.of trivial (by simp))) ?_
  refine .bind (genuine_starItem hself (genuine_namedExpr hself)) fun first hfirst => ?_
  refine .bind (genuine_bracketItems hself hfirst (fun item cs hitem hcs => ?_) fun items _ hitems => ?_) fun e he => ?_
  · exact .of trivial (List.forall_mem_cons.2 ⟨hitem, hcs⟩)
  · exact .some (.of trivial hitems)
  · exact .after fun _ => .pure he

/-- An entry of a dictionary whose key, if it has one, and value are genuine. -/
abbrev EntryGenuine (entry : Option Expr × Expr) : Prop := Finds Expr.Genuine entry.1 ∧ entry.2.Genuine

theorem genuine_dictEntry : Gives EntryGenuine (dictEntry self) := by
  refine .after fun _ => .ite (.bind (hself _) fun value hvalue => .pure ⟨.none, hvalue⟩) ?_
  refine .bind (hself _) fun key hkey => .after fun _ => .bind (hself _) fun value hvalue => ?_
  exact .pure ⟨.some hkey, hvalue⟩

theorem genuine_dictRest {first : Option Expr × Expr} (hfirst : EntryGenuine first) :
    GivesGenuine (dictRest self first) := by
  refine .bind (.commaList (genuine_dictEntry hself) hfirst) fun ⟨entries, _⟩ hentries => .pure (.of trivial fun e he => ?_)
  simp only [Expr.parts, List.mem_append, List.mem_flatMap, List.mem_map] at he
  rcases he with ⟨_, ⟨entry, hentry, rfl⟩, he⟩ | ⟨entry, hentry, rfl⟩
  · exact (hentries entry hentry).1.toList e he
  · exact (hentries entry hentry).2

theorem genuine_setRest {first : Expr} (hfirst : first.Genuine) : GivesGenuine (setRest self first) :=
  genuine_bracketItems hself hfirst (fun _ _ hitem hcs => .of trivial (List.forall_mem_cons.2 ⟨hitem, hcs⟩))
    fun _ _ hitems => .some (.of trivial hitems)

theorem genuine_bracesRest : GivesGenuine (bracesRest self) := by
  refine .after fun _ => .ite (.bind (genuine_namedExpr hself) fun first hfirst => genuine_setRest hself hfirst) ?_
  refine .bind (hself _) fun first hfirst => .after fun _ => .ite ?_ (genuine_setRest hself hfirst)
  refine .bind (hself _) fun value hvalue => .after fun _ => .ite ?_ (genuine_dictRest hself ⟨.some hfirst, hvalue⟩)
  refine .bind (genuine_clauses hself) fun cs hcs => .pure (.of trivial ?_)
  exact List.forall_mem_cons.2 ⟨hfirst, List.forall_mem_cons.2 ⟨hvalue, hcs⟩⟩

theorem genuine_braces : GivesGenuine (braces self) := by
  have hclose : ∀ e : Expr, e.Genuine → GivesGenuine (do op "\x7d"; return e) := fun e he => .after fun _ => .pure he
  refine .after fun _ => .ite (.pure (.of trivial (by simp))) (.after fun _ => .after fun _ => .ite ?_ (.ite ?_ ?_))
  · exact .bind (genuine_dictEntry hself) fun first hfirst => .bind (genuine_dictRest hself hfirst) hclose
  · exact .bind (genuine_starItem hself (hself _)) fun first hfirst => .bind (genuine_setRest hself hfirst) hclose
  · exact .bind (genuine_bracesRest hself) hclose

/-! ### Subscripts and calls -/

theorem genuine_bound : Gives (Finds Expr.Genuine) (bound self) := by
  refine .after fun _ => .ite (.pure .none) (.after fun _ => .ite ?_ (.pure .none))
  exact .bind (hself _) fun e he => .pure (.some he)

theorem genuine_sliceFrom {lower : Option Expr} (hlower : Finds Expr.Genuine lower) :
    GivesGenuine (sliceFrom self lower) := by
  refine .after fun _ => .bind (genuine_bound hself) fun upper hupper => .after fun _ => ?_
  have hslice : ∀ step, Finds Expr.Genuine step → GivesGenuine (pure (.slice lower upper step)) := by
    refine fun step hstep => .pure (.of trivial fun e he => ?_)
    simp only [Expr.parts, List.mem_append] at he
    rcases he with (he | he) | he
    · exact hlower.toList e he
    · exact hupper.toList e he
    · exact hstep.toList e he
  exact .ite (.bind (genuine_bound hself) hslice) (.bind (.pure .none) hslice)

theorem genuine_subscriptItem : GivesGenuine (subscriptItem self) := by
  refine .after fun _ => .ite (genuine_sliceFrom hself .none) (.after fun _ => .ite ?_ (.after fun _ => .ite ?_ ?_))
  · exact .bind (hself _) fun e he => .pure (.of trivial (by simpa using he))
  · exact genuine_namedExpr hself
  · exact .bind (hself _) fun e he => .after fun _ => .ite (genuine_sliceFrom hself (.some he)) (.pure he)

theorem genuine_subscriptIndex : GivesGenuine (subscriptIndex self) := by
  refine .bind (genuine_subscriptItem hself) fun first hfirst => ?_
  refine .bind (.commaList (genuine_subscriptItem hself) hfirst) fun ⟨items, comma⟩ hitems => .after fun _ => ?_
  split
  · exact .pure (.of trivial hitems)
  · exact .pure (List.forall_mem_singleton.1 hitems)
  · exact .pure (.of trivial hitems)

/-- All arguments read so far are genuine. -/
abbrev ArgsGenuine (s : ArgState) : Prop :=
  (∀ e ∈ s.args, e.Genuine) ∧ ∀ e ∈ s.keywords.map Keyword.value, e.Genuine

theorem genuine_positionalArgument {s : ArgState} (hs : ArgsGenuine s) :
    Gives ArgsGenuine (positionalArgument self s) := by
  refine .bind (genuine_namedExpr hself) fun item hitem => .after fun _ => .ite (.ite ?_ .failure) (.pure ⟨?_, hs.2⟩)
  · refine .bind (genuine_clauses hself) fun cs hcs => .pure ⟨List.forall_mem_singleton.2 (.of trivial ?_), hs.2⟩
    exact List.forall_mem_cons.2 ⟨hitem, hcs⟩
  · exact List.forall_mem_append.2 ⟨hs.1, List.forall_mem_singleton.2 hitem⟩

theorem genuine_argument {s : ArgState} (hs : ArgsGenuine s) : Gives ArgsGenuine (argument self s) := by
  have hkeywords : ∀ (name : Option String) (value : Expr), value.Genuine →
      ∀ e ∈ (s.keywords ++ [Keyword.mk name value]).map Keyword.value, e.Genuine := by
    intro name value hvalue
    rw [List.map_append]
    exact List.forall_mem_append.2 ⟨hs.2, List.forall_mem_singleton.2 hvalue⟩
  refine .after fun _ => .ite ?_ (.after fun _ => .ite (.ite .failure ?_) (.after fun _ => .ite ?_ (.ite .failure ?_)))
  · exact .bind (hself _) fun value hvalue => .pure ⟨hs.1, hkeywords none value hvalue⟩
  · refine .bind (hself _) fun value hvalue => .pure ⟨List.forall_mem_append.2 ⟨hs.1, ?_⟩, hs.2⟩
    exact List.forall_mem_singleton.2 (.of trivial (by simpa using hvalue))
  · refine .after fun n => .after fun _ => .bind (hself _) fun value hvalue => ?_
    exact .pure ⟨hs.1, hkeywords (some n) value hvalue⟩
  · exact genuine_positionalArgument hself hs

theorem genuine_arguments : Gives ArgsGenuine (arguments self) := by
  refine .bind (.repeatWhile (fun s hs => ?_) ⟨by simp, by simp⟩) fun s hs => .after fun _ => .pure hs
  refine .after fun _ => .ite (.pure .none) (.bind (genuine_argument hself hs) fun s hs => .after fun _ => ?_)
  exact .ite (.pure (.some hs)) (.ite .failure (.after fun _ => .pure (.some hs)))

theorem genuine_trailers {e : Expr} (he : e.Genuine) : GivesGenuine (trailers self e) := by
  refine .repeatWhile (fun e he => ?_) he
  refine .after fun _ => .ite ?_ (.after fun _ => .ite ?_ (.after fun _ => .ite ?_ (.pure .none)))
  · exact .after fun n => .pure (.some (.of trivial (by simpa using he)))
  · refine .bind (genuine_arguments hself) fun s hs => .pure (.some (.of trivial ?_))
    exact List.forall_mem_append.2 ⟨List.forall_mem_cons.2 ⟨he, hs.1⟩, hs.2⟩
  · refine .bind (genuine_subscriptIndex hself) fun index hindex => .pure (.some (.of trivial ?_))
    simpa using And.intro he hindex

/-! ### Formatted strings -/

theorem genuine_valueExpr (cs : List Char) : Finds Expr.Genuine (valueExpr self cs) := by
  refine .ite .none (.bind (Token.plain_scan _) fun tokens htokens => ?_)
  refine .bind (hself _ tokens htokens) fun found hfound => ?_
  split
  · exact .some hfound.1
  · exact .none

/-- The value in a piece of a formatted string is genuine. -/
def PieceGenuine : Piece → Prop
  | .text _ => True
  | .value e => e.Genuine

omit hself in
theorem genuine_textPart (kind : Option String) (t : Text) : ∀ e ∈ textPart kind t, e.Genuine := by
  unfold textPart
  split
  · simp
  · exact List.forall_mem_singleton.2 (Expr.genuine_constant (.string t) kind)

omit hself in
theorem genuine_joinPieces (kind last : Option String) : ∀ (pieces : List Piece) (text : Text),
    (∀ piece ∈ pieces, PieceGenuine piece) → ∀ e ∈ joinPieces kind last pieces text, e.Genuine
  | [], text, _ => genuine_textPart last text
  | .text t :: rest, text, h => by
    simp only [joinPieces]
    exact genuine_joinPieces kind last rest _ (List.forall_mem_cons.1 h).2
  | .value e :: rest, text, h => by
    simp only [joinPieces]
    obtain ⟨he, hrest⟩ := List.forall_mem_cons.1 h
    refine List.forall_mem_append.2 ⟨genuine_textPart kind text, List.forall_mem_cons.2 ⟨he, ?_⟩⟩
    exact genuine_joinPieces kind last rest _ hrest

-- The recursion is on the fuel, for the pieces behind a value as well as for those of its format.
theorem genuine_pieces [Host] (isRaw : Bool) (kind : Option String) :
    ∀ (fuel level : Nat) (cs : List Char) (done : List Piece), (∀ piece ∈ done, PieceGenuine piece) →
    Finds (fun found => ∀ piece ∈ found.1, PieceGenuine piece) (pieces self isRaw kind level fuel cs done)
  | 0, _, _, _, _ => .none
  | fuel + 1, level, cs, done, hdone => by
    unfold pieces
    refine .after fun ⟨text, ending, rest⟩ => .after fun unescaped => ?_
    have hdone' : ∀ piece ∈ .text unescaped :: done, PieceGenuine piece := List.forall_mem_cons.2 ⟨trivial, hdone⟩
    cases ending with
    | finished | closing => exact .some fun piece hpiece => hdone' piece (List.mem_reverse.1 hpiece)
    | doubled => exact genuine_pieces isRaw kind fuel level rest _ hdone'
    | value =>
      refine .ite .none (.after fun ⟨text, rest⟩ => .bind (genuine_valueExpr hself text) fun e he => ?_)
      have hvalue : ∀ (spec : Option Expr) (code : Int) (shown : Text), Finds Expr.Genuine spec →
          ∀ piece ∈ .value (.formatted e code spec) :: .text shown :: .text unescaped :: done, PieceGenuine piece := by
        intro spec code shown hspec
        have hformatted : (Expr.formatted e code spec).Genuine :=
          .of trivial (List.forall_mem_cons.2 ⟨he, hspec.toList⟩)
        exact List.forall_mem_cons.2 ⟨hformatted, List.forall_mem_cons.2 ⟨trivial, hdone'⟩⟩
      refine .after fun ⟨conversion, rest⟩ => ?_
      dsimp only
      split
      · refine .bind (genuine_pieces isRaw kind fuel (level + 1) _ [] (by simp)) fun ⟨parts, rest⟩ hparts => ?_
        have hjoined : (Expr.joined (joinPieces kind none parts .empty)).Genuine :=
          .of trivial (genuine_joinPieces kind none parts .empty hparts)
        simp only [pure_bind]
        split
        · exact genuine_pieces isRaw kind fuel level _ _ (hvalue _ _ _ (.some hjoined))
        · exact .none
      · simp only [pure_bind]
        split
        · exact genuine_pieces isRaw kind fuel level _ _ (hvalue _ _ _ .none)
        · exact .none

theorem genuine_quotedPieces [Host] (kind : Option String) (q : QuotedToken) :
    Finds (fun parts => ∀ piece ∈ parts, PieceGenuine piece) (quotedPieces self kind q) := by
  refine .ite (.bind (genuine_pieces hself q.isRaw kind _ 0 q.content [] (by simp)) fun ⟨parts, rest⟩ hparts => ?_) ?_
  · exact .ite (.some hparts) .none
  · exact .after fun text => .some (List.forall_mem_singleton.2 trivial)

theorem genuine_quotedLiteral [Host] (qs : List QuotedToken) : Finds Expr.Genuine (quotedLiteral self qs) := by
  refine .ite (.ite (.after fun _ => .some (Expr.genuine_constant (.bytes _) none)) .none) ?_
  refine .bind (.mapM fun q _ => genuine_quotedPieces hself _ q) fun parts hparts => .ite (.some (.of trivial ?_)) ?_
  · refine genuine_joinPieces _ _ _ _ fun piece hpiece => ?_
    obtain ⟨part, hpart, hpiece⟩ := List.mem_flatten.1 hpiece
    exact hparts part hpart piece hpiece
  · exact .some (Expr.genuine_constant (.string _) _)

instance : Keeps takeQuoted := by
  refine ⟨.get fun tokens htokens => ?_⟩
  exact .bind (U := fun _ => True) (fun _ h => .some ⟨trivial, h.drop _⟩) fun _ _ => .pure trivial

theorem genuine_atom [Host] : GivesGenuine (atom self) := by
  have hconstant : ∀ l : Literal, l.Plain → GivesGenuine (pure (.constant l none)) := fun _ hl =>
    .pure (Expr.genuine_constant hl none)
  refine .get fun tokens htokens => ?_
  split
  · exact .set htokens.rest (.pure (.of trivial (by simp)))
  · exact .set htokens.rest (hconstant _ htokens.first)
  · exact .after fun qs => .lift (genuine_quotedLiteral hself qs)
  · refine .set htokens.rest (.ite (hconstant _ .none) (.ite (hconstant _ (.bool true)) ?_))
    exact .ite (hconstant _ (.bool false)) .failure
  · refine .set htokens.rest (.ite (hconstant _ .ellipsis) (.ite (genuine_group hself) ?_))
    exact .ite (genuine_listDisplay hself) (.ite (genuine_braces hself) .failure)
  · exact .failure

/-! ### Parameters -/

theorem genuine_paramHint (starHint : Bool) : GivesGenuine (paramHint self starHint) :=
  .ite (genuine_starItem hself (hself _)) (hself _)

theorem genuine_param (hinted starHint : Bool) :
    Gives (fun p => ∀ e ∈ p.parts, e.Genuine) (param self hinted starHint) := by
  refine .after fun n => .ite (.after fun _ => .ite ?_ (.pure (by simp))) (.pure (by simp))
  exact .bind (genuine_paramHint hself starHint) fun hint hhint => .pure (by simpa using hhint)

/-- All parameters and defaults read so far are genuine. -/
structure ParamsGenuine (s : ParamState) : Prop where
  positionalOnly : ∀ e ∈ s.positionalOnly.flatMap Param.parts, e.Genuine
  positional : ∀ e ∈ s.positional.flatMap Param.parts, e.Genuine
  rest : ∀ e ∈ s.rest.toList.flatMap Param.parts, e.Genuine
  keywordOnly : ∀ e ∈ s.keywordOnly.flatMap Param.parts, e.Genuine
  keywordDefaults : ∀ e ∈ s.keywordDefaults.flatMap Option.toList, e.Genuine
  keywordRest : ∀ e ∈ s.keywordRest.toList.flatMap Param.parts, e.Genuine
  defaults : ∀ e ∈ s.defaults, e.Genuine

omit hself

theorem ParamsGenuine.start : ParamsGenuine {} :=
  ⟨by simp, by simp, by simp, by simp, by simp, by simp, by simp⟩

theorem ParamsGenuine.params {s : ParamState} (hs : ParamsGenuine s) : ∀ e ∈ s.params.parts, e.Genuine := by
  intro e he
  simp only [ParamState.params, Params.parts, List.mem_append] at he
  rcases he with (((((he | he) | he) | he) | he) | he) | he
  · exact hs.positionalOnly e he
  · exact hs.positional e he
  · exact hs.rest e he
  · exact hs.keywordOnly e he
  · exact hs.keywordDefaults e he
  · exact hs.keywordRest e he
  · exact hs.defaults e he

/-- One more item behind others. -/
theorem forall_mem_flatMap_concat {α : Type} {f : α → List Expr} {items : List α} {item : α}
    (hitems : ∀ e ∈ items.flatMap f, e.Genuine) (hitem : ∀ e ∈ f item, e.Genuine) :
    ∀ e ∈ (items ++ [item]).flatMap f, e.Genuine := by
  rw [List.flatMap_append, List.flatMap_singleton]
  exact List.forall_mem_append.2 ⟨hitems, hitem⟩

theorem ParamsGenuine.addPlain {s : ParamState} {p : Param} {default : Option Expr} (hs : ParamsGenuine s)
    (hp : ∀ e ∈ p.parts, e.Genuine) (hdefault : Finds Expr.Genuine default) :
    Finds ParamsGenuine (s.addPlain p default) := by
  have hpositional := forall_mem_flatMap_concat hs.positional hp
  refine .ite (.some ?_) ?_
  · exact { hs with
      keywordOnly := forall_mem_flatMap_concat hs.keywordOnly hp
      keywordDefaults := forall_mem_flatMap_concat hs.keywordDefaults hdefault.toList }
  · cases default with
    | none => exact .ite (.some { hs with positional := hpositional }) .none
    | some d =>
      have hdefaults := List.forall_mem_append.2 ⟨hs.defaults, List.forall_mem_singleton.2 (hdefault d rfl)⟩
      exact .some { hs with positional := hpositional, defaults := hdefaults }

theorem ParamsGenuine.addSlash {s : ParamState} (hs : ParamsGenuine s) : Finds ParamsGenuine s.addSlash :=
  .ite .none (.some { hs with positionalOnly := hs.positional, positional := by simp })

/-- A parameter that cannot be added at its place is no parameter. -/
theorem genuine_added : ∀ found : Option ParamState, Finds ParamsGenuine found →
    Gives ParamsGenuine (match found with | some s => return s | none => failure)
  | none, _ => .failure
  | some s, h => .pure (h s rfl)

include hself

theorem genuine_paramItem (hinted : Bool) {s : ParamState} (hs : ParamsGenuine s) :
    Gives ParamsGenuine (paramItem self hinted s) := by
  refine .ite .failure (.after fun _ => .ite (.ite .failure ?_) (.after fun _ => .ite (.ite .failure ?_) ?_))
  · refine .bind (genuine_param hself hinted false) fun p hp => .pure { hs with keywordRest := ?_ }
    simpa using hp
  · refine .after fun _ => .ite (.pure { hs with }) ?_
    refine .bind (genuine_param hself hinted true) fun p hp => .pure { hs with rest := ?_ }
    simpa using hp
  · refine .after fun _ => .ite (genuine_added _ hs.addSlash) ?_
    refine .bind (genuine_param hself hinted false) fun p hp => .after fun _ => ?_
    exact .optional (hself _) fun _ hdefault => genuine_added _ (hs.addPlain hp hdefault)

theorem genuine_paramList (hinted : Bool) (closing : String) :
    Gives (fun ps => ∀ e ∈ ps.parts, e.Genuine) (paramList self hinted closing) := by
  refine .bind (U := ParamsGenuine) (.repeatWhile (fun s hs => ?_) .start) fun s hs => .ite .failure (.pure hs.params)
  refine .after fun _ => .ite (.pure .none) (.bind (genuine_paramItem hself hinted hs) fun s hs => .after fun _ => ?_)
  exact .ite (.pure (.some hs)) (.after fun _ => .ite (.pure (.some hs)) .failure)

/-! ### Operators -/

omit hself

theorem group_lookup {ops : List (String × Operator)} {group : Operator.Group}
    (h : ∀ entry ∈ ops, entry.2.group? = some group) (s : String) : Finds (·.group? = some group) (ops.lookup s) := by
  intro op hop
  obtain ⟨before, behind, rfl, -⟩ := List.lookup_eq_some_iff.1 hop
  exact h (s, op) (by simp)

theorem genuine_leftGrouped {ops : List (String × Operator)} {operand : Parse Expr}
    (hops : ∀ entry ∈ ops, entry.2.group? = some .binary) (h : GivesGenuine operand) :
    GivesGenuine (leftGrouped ops operand) := by
  refine .bind h fun first hfirst => .repeatWhile (fun left hleft => .get fun tokens htokens => ?_) hfirst
  split
  · split
    · rename_i op hop
      have hgroup : op.group? = some .binary := group_lookup hops _ op hop
      refine .set htokens.rest (.bind h fun right hright => .pure (.some (.of hgroup ?_)))
      simpa using And.intro hleft hright
    · exact .pure .none
  · exact .pure .none

theorem genuine_booleanRun (word : String) {op : Operator} {operand : Parse Expr} (hop : op.group? = some .boolean)
    (h : GivesGenuine operand) : GivesGenuine (booleanRun word op operand) := by
  refine .bind h fun first hfirst => .bind (.many h) fun rest hrest => .pure ?_
  split
  · exact hfirst
  · exact .of hop (List.forall_mem_cons.2 ⟨hfirst, hrest⟩)

theorem comparing_comparisonAt {tokens : List Lexeme} (htokens : PlainTokens tokens) :
    Finds (fun found => found.1.group? = some .comparing ∧ PlainTokens found.2) (comparisonAt tokens) := by
  unfold comparisonAt
  split
  · exact .map (group_lookup (by decide) _) fun op hop => ⟨hop, htokens.rest⟩
  · exact .some ⟨rfl, htokens.rest⟩
  · exact .some ⟨rfl, htokens.rest.rest⟩
  · exact .some ⟨rfl, htokens.rest.rest⟩
  · exact .some ⟨rfl, htokens.rest⟩
  · exact .none

theorem genuine_comparison {operand : Parse Expr} (h : GivesGenuine operand) : GivesGenuine (comparison operand) := by
  let LinkGenuine (link : Operator × Expr) : Prop := link.1.group? = some .comparing ∧ link.2.Genuine
  refine .bind h fun first hfirst => ?_
  refine .bind (U := fun links => ∀ link ∈ links, LinkGenuine link) (.repeatWhile ?_ (by simp)) fun links hlinks => ?_
  · refine fun links hlinks => .get fun tokens htokens => ?_
    cases hfound : comparisonAt tokens with
    | none => exact .pure .none
    | some found =>
      obtain ⟨hgroup, hrest⟩ := comparing_comparisonAt htokens found hfound
      refine .set hrest (.bind h fun operand hoperand => .pure (.some ?_))
      exact List.forall_mem_cons.2 ⟨⟨hgroup, hoperand⟩, hlinks⟩
  · refine .pure ?_
    split
    · exact hfirst
    · refine .of ?_ ?_
      · intro op hop
        obtain ⟨link, hlink, rfl⟩ := List.mem_map.1 hop
        exact (hlinks link (List.mem_reverse.1 hlink)).1
      · refine List.forall_mem_cons.2 ⟨hfirst, fun e he => ?_⟩
        obtain ⟨link, hlink, rfl⟩ := List.mem_map.1 he
        exact (hlinks link (List.mem_reverse.1 hlink)).2

include hself

theorem genuine_signed : GivesGenuine (signed self) := by
  have hunary : ∀ op : Operator, op.group? = some .unary →
      GivesGenuine (do return .unary op (← self .factor)) := fun op hop =>
    .bind (hself _) fun e he => .pure (.of hop (by simpa using he))
  exact .after fun _ => .ite (hunary _ rfl) (.after fun _ => .ite (hunary _ rfl)
    (.after fun _ => .ite (hunary _ rfl) (hself _)))

theorem genuine_power : GivesGenuine (power self) := by
  refine .bind (hself _) fun base hbase => .after fun _ => .ite ?_ (.pure hbase)
  refine .bind (hself _) fun exponent hexponent => .pure (.of rfl ?_)
  simpa using And.intro hbase hexponent

theorem genuine_conditional : GivesGenuine (conditional self) := by
  refine .after fun _ => .ite ?_ (.bind (hself _) fun body hbody => .after fun _ => .ite ?_ (.pure hbody))
  · refine .bind (genuine_paramList hself false ":") fun params hparams => .after fun _ => ?_
    refine .bind (hself _) fun body hbody => .pure (.of trivial ?_)
    exact List.forall_mem_append.2 ⟨hparams, List.forall_mem_singleton.2 hbody⟩
  · refine .bind (hself _) fun test htest => .after fun _ => .bind (hself _) fun orelse horelse => .pure (.of trivial ?_)
    simpa using And.intro htest (And.intro hbody horelse)

theorem genuine_rule [Host] (precedence : Precedence) : GivesGenuine (rule self precedence) := by
  cases precedence with
  | named => exact genuine_namedExpr hself
  | tuple => exact genuine_starList hself (hself _)
  | yield => exact genuine_yieldOrList hself
  | test => exact genuine_conditional hself
  | or => exact genuine_booleanRun _ rfl (hself _)
  | and => exact genuine_booleanRun _ rfl (hself _)
  | not =>
    refine .after fun _ => .ite ?_ (hself _)
    exact .bind (hself _) fun e he => .pure (.of rfl (by simpa using he))
  | compare => exact genuine_comparison (hself _)
  | bitOr | bitXor | bitAnd | shift | arith | term => exact genuine_leftGrouped (by decide) (hself _)
  | factor => exact genuine_signed hself
  | power => exact genuine_power hself
  | await =>
    refine .after fun _ => .ite ?_ (hself _)
    exact .bind (hself _) fun e he => .pure (.of trivial (by simpa using he))
  | atom => exact .bind (genuine_atom hself) fun e he => genuine_trailers hself he

end

/-- All expressions that are read are genuine. -/
theorem genuine_expression [Host] : ∀ (fuel : Nat) (precedence : Precedence), GivesGenuine (expression fuel precedence)
  | 0, _ => .failure
  | fuel + 1, precedence => genuine_rule (genuine_expression fuel) precedence

end Grammar

end Treewalk
