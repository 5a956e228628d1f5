/-
Genuine trees: the trees of program texts hold only literals that a text can write, and their operators stand in forms of
their own kind. The outline of a genuine tree is proper and determines the tree.
-/
import Treewalk.Proofs.Spelling
import Treewalk.Proofs.Unambiguous

namespace Treewalk

/-! ## Induction over parts -/

section

variable {α : Type} [SizeOf α] {f : α → List Expr} {p : Expr}

theorem sizeOf_lt_of_mem_flatMap (h : ∀ a, ∀ p ∈ f a, sizeOf p < sizeOf a) {items : List α} (hp : p ∈ items.flatMap f) :
    sizeOf p < sizeOf items := by
  obtain ⟨a, ha, hp⟩ := List.mem_flatMap.1 hp
  exact (h a p hp).trans (List.sizeOf_lt_of_mem ha)

theorem sizeOf_lt_of_mem_toList {o : Option Expr} (hp : p ∈ o.toList) : sizeOf p < sizeOf o := by
  cases o with
  | none => cases hp
  | some e =>
    obtain rfl := List.mem_singleton.1 hp
    simp

end

theorem Clause.sizeOf_parts (c : Clause) : ∀ p ∈ c.parts, sizeOf p < sizeOf c := by
  obtain ⟨target, source, conditions, isAsync⟩ := c
  intro p hp
  simp only [Clause.parts, List.mem_cons] at hp
  rw [Clause.mk.sizeOf_spec]
  rcases hp with rfl | rfl | hp
  · omega
  · omega
  · have hlt := List.sizeOf_lt_of_mem hp
    omega

theorem Param.sizeOf_parts (q : Param) : ∀ p ∈ q.parts, sizeOf p < sizeOf q := by
  obtain ⟨name, hint⟩ := q
  intro p hp
  have hlt := sizeOf_lt_of_mem_toList hp
  rw [Param.mk.sizeOf_spec]
  omega

theorem Param.sizeOf_parts_toList {q : Option Param} {p : Expr} (hp : p ∈ q.toList.flatMap Param.parts) :
    sizeOf p < sizeOf q := by
  cases q with
  | none => simp at hp
  | some q =>
    have hlt := q.sizeOf_parts p (by simpa using hp)
    simp only [Option.some.sizeOf_spec]
    omega

theorem Params.sizeOf_parts (ps : Params) : ∀ p ∈ ps.parts, sizeOf p < sizeOf ps := by
  obtain ⟨positionalOnly, positional, rest, keywordOnly, keywordDefaults, keywordRest, defaults⟩ := ps
  intro p hp
  simp only [Params.parts, List.mem_append] at hp
  rw [Params.mk.sizeOf_spec]
  rcases hp with (((((hp | hp) | hp) | hp) | hp) | hp) | hp
  · have hlt := sizeOf_lt_of_mem_flatMap Param.sizeOf_parts hp
    omega
  · have hlt := sizeOf_lt_of_mem_flatMap Param.sizeOf_parts hp
    omega
  · have hlt := Param.sizeOf_parts_toList hp
    omega
  · have hlt := sizeOf_lt_of_mem_flatMap Param.sizeOf_parts hp
    omega
  · have hlt := sizeOf_lt_of_mem_flatMap (fun _ _ => sizeOf_lt_of_mem_toList) hp
    omega
  · have hlt := Param.sizeOf_parts_toList hp
    omega
  · have hlt := List.sizeOf_lt_of_mem hp
    omega

theorem Keyword.sizeOf_value (k : Keyword) : sizeOf k.value < sizeOf k := by
  obtain ⟨name, value⟩ := k
  rw [Keyword.mk.sizeOf_spec, Keyword.value]
  omega

namespace Expr

theorem sizeOf_parts {p : Expr} : ∀ e : Expr, p ∈ e.parts → sizeOf p < sizeOf e
  | .constant .., hp | .name .., hp => nomatch hp
  | .attribute .., hp | .starred .., hp | .unary .., hp | .await .., hp | .yieldFrom .., hp => by
    obtain rfl := List.mem_singleton.1 hp
    simp only [attribute.sizeOf_spec, starred.sizeOf_spec, unary.sizeOf_spec, await.sizeOf_spec, yieldFrom.sizeOf_spec]
    omega
  | .subscript .., hp | .binary .., hp | .named .., hp | .conditional .., hp => by
    simp only [parts, List.mem_cons, List.not_mem_nil, or_false] at hp
    simp only [subscript.sizeOf_spec, binary.sizeOf_spec, named.sizeOf_spec, conditional.sizeOf_spec]
    rcases hp with rfl | hp
    · omega
    · rcases hp with rfl | rfl <;> omega
  | .tuple .., hp | .list .., hp | .set .., hp | .boolean .., hp | .joined .., hp => by
    simp only [parts] at hp
    have hlt := List.sizeOf_lt_of_mem hp
    simp only [tuple.sizeOf_spec, list.sizeOf_spec, set.sizeOf_spec, boolean.sizeOf_spec, joined.sizeOf_spec]
    omega
  | .compare .., hp => by
    rw [compare.sizeOf_spec]
    rcases List.mem_cons.1 hp with rfl | hp
    · omega
    · have hlt := List.sizeOf_lt_of_mem hp
      omega
  | .slice .., hp => by
    simp only [parts, List.mem_append] at hp
    rw [slice.sizeOf_spec]
    rcases hp with (hp | hp) | hp <;> have hlt := sizeOf_lt_of_mem_toList hp <;> omega
  | .yield _, hp => by
    have hlt := sizeOf_lt_of_mem_toList hp
    rw [yield.sizeOf_spec]
    omega
  | .formatted .., hp => by
    rw [formatted.sizeOf_spec]
    rcases List.mem_cons.1 hp with rfl | hp
    · omega
    · have hlt := sizeOf_lt_of_mem_toList hp
      omega
  | .dict .., hp => by
    rw [dict.sizeOf_spec]
    rcases List.mem_append.1 hp with hp | hp
    · have hlt := sizeOf_lt_of_mem_flatMap (fun _ _ => sizeOf_lt_of_mem_toList) hp
      omega
    · have hlt := List.sizeOf_lt_of_mem hp
      omega
  | .call .., hp => by
    rw [call.sizeOf_spec]
    rcases List.mem_append.1 hp with hp | hp
    · rcases List.mem_cons.1 hp with rfl | hp
      · omega
      · have hlt := List.sizeOf_lt_of_mem hp
        omega
    · obtain ⟨k, hk, rfl⟩ := List.mem_map.1 hp
      have hlt := k.sizeOf_value.trans (List.sizeOf_lt_of_mem hk)
      omega
  | .lambda params _, hp => by
    rw [lambda.sizeOf_spec]
    rcases List.mem_append.1 hp with hp | hp
    · have hlt := params.sizeOf_parts p hp
      omega
    · obtain rfl := List.mem_singleton.1 hp
      omega
  | .listComp .., hp | .setComp .., hp | .generator .., hp => by
    simp only [listComp.sizeOf_spec, setComp.sizeOf_spec, generator.sizeOf_spec]
    rcases List.mem_cons.1 hp with rfl | hp
    · omega
    · have hlt := sizeOf_lt_of_mem_flatMap Clause.sizeOf_parts hp
      omega
  | .dictComp .., hp => by
    rw [dictComp.sizeOf_spec]
    rcases List.mem_cons.1 hp with rfl | hp
    · omega
    · rcases List.mem_cons.1 hp with rfl | hp
      · omega
      · have hlt := sizeOf_lt_of_mem_flatMap Clause.sizeOf_parts hp
        omega

/-- What holds of an expression if it holds of its parts, holds of all. -/
theorem parts_induction {motive : Expr → Prop} (h : ∀ e : Expr, (∀ p ∈ e.parts, motive p) → motive e) (e : Expr) :
    motive e :=
  h e fun p _ => parts_induction h p
termination_by e
decreasing_by exact sizeOf_parts e ‹_›

/-! ## Genuine expressions -/

/-- Apart from its parts, the expression is one of a program text: it is no literal that a text cannot write, and its
operators are of the kind that its form is for. -/
def Own : Expr → Prop
  | .constant l _ => l.Plain
  | .unary op _ => op.group? = some .unary
  | .binary _ op _ => op.group? = some .binary
  | .boolean op _ => op.group? = some .boolean
  | .compare _ ops _ => ∀ op ∈ ops, op.group? = some .comparing
  | _ => True

/-- The expression is one of a program text, with all that is inside it. -/
def Genuine (e : Expr) : Prop := ∀ part : Expr, part.Part e → part.Own

namespace Genuine

variable {e p : Expr}

theorem of (hown : e.Own) (hparts : ∀ p ∈ e.parts, p.Genuine) : e.Genuine := by
  intro part hpart
  cases hpart with
  | self => exact hown
  | inside hp hpart => exact hparts _ hp part hpart

theorem own (h : e.Genuine) : e.Own := h e .self

theorem inside (h : e.Genuine) (hp : p ∈ e.parts) : p.Genuine := fun part hpart => h part (.inside hp hpart)

/-- Genuine expressions are spelled. -/
theorem spelled (h : e.Genuine) : e.Spelled := by
  rintro ⟨part, hpart, hhinders⟩
  have hown := h part hpart
  cases part with
  | unary | binary | boolean => exact hhinders hown
  | compare left ops operands =>
    obtain ⟨op, hop, hne⟩ := hhinders
    exact hne (hown op hop)
  | _ => cases hhinders

end Genuine

end Expr

/-! ## Genuine statements -/

def Handler.type : Handler → Option Expr
  | .mk type _ _ => type

def Case.pattern : Case → Pattern
  | .mk pattern _ _ => pattern

def Case.guard : Case → Option Expr
  | .mk _ guard _ => guard

/-- All expressions and literals of the pattern are those of a program text. -/
inductive Pattern.Genuine : Pattern → Prop
  | value {value : Expr} (h : value.Genuine) : Genuine (.value value)
  | singleton {value : Literal} (h : value.Plain) : Genuine (.singleton value)
  | sequence {items : List Pattern} (h : ∀ p ∈ items, Genuine p) : Genuine (.sequence items)
  | mapping {keys : List Expr} {items : List Pattern} (rest : Option String) (hkeys : ∀ e ∈ keys, e.Genuine)
    (hitems : ∀ p ∈ items, Genuine p) : Genuine (.mapping keys items rest)
  | classOf {type : Expr} {items named : List Pattern} (names : List String) (htype : type.Genuine)
    (hitems : ∀ p ∈ items, Genuine p) (hnamed : ∀ p ∈ named, Genuine p) : Genuine (.classOf type items names named)
  | star (name : Option String) : Genuine (.star name)
  | binding {item : Option Pattern} (name : Option String) (h : ∀ p ∈ item, Genuine p) : Genuine (.binding item name)
  | oneOf {items : List Pattern} (h : ∀ p ∈ items, Genuine p) : Genuine (.oneOf items)

/-- All expressions, patterns and operators of the statement and of those inside it are those of a program text. -/
inductive Stmt.Genuine : Stmt → Prop
  | expr {value : Expr} (h : value.Genuine) : Genuine (.expr value)
  | pass : Genuine .pass
  | assert {test : Expr} {message : Option Expr} (htest : test.Genuine) (hmessage : ∀ e ∈ message, e.Genuine) :
    Genuine (.assert test message)
  | assign {targets : List Expr} {value : Expr} (htargets : ∀ e ∈ targets, e.Genuine) (hvalue : value.Genuine) :
    Genuine (.assign targets value)
  | augAssign {target : Expr} {op : Operator} {value : Expr} (htarget : target.Genuine)
    (hop : op.group? = some .binary) (hvalue : value.Genuine) : Genuine (.augAssign target op value)
  | annAssign {target hint : Expr} {value : Option Expr} (simple : Bool) (htarget : target.Genuine)
    (hhint : hint.Genuine) (hvalue : ∀ e ∈ value, e.Genuine) : Genuine (.annAssign target hint value simple)
  | delete {targets : List Expr} (h : ∀ e ∈ targets, e.Genuine) : Genuine (.delete targets)
  | ifStmt {test : Expr} {body orelse : List Stmt} (htest : test.Genuine) (hbody : ∀ st ∈ body, Genuine st)
    (horelse : ∀ st ∈ orelse, Genuine st) : Genuine (.ifStmt test body orelse)
  | whileStmt {test : Expr} {body orelse : List Stmt} (htest : test.Genuine) (hbody : ∀ st ∈ body, Genuine st)
    (horelse : ∀ st ∈ orelse, Genuine st) : Genuine (.whileStmt test body orelse)
  | forStmt (isAsync : Bool) {target source : Expr} {body orelse : List Stmt} (htarget : target.Genuine)
    (hsource : source.Genuine) (hbody : ∀ st ∈ body, Genuine st) (horelse : ∀ st ∈ orelse, Genuine st) :
    Genuine (.forStmt isAsync target source body orelse)
  | breakStmt (line : Option Int) : Genuine (.breakStmt line)
  | continueStmt (line : Option Int) : Genuine (.continueStmt line)
  | returnStmt (line : Option Int) {value : Option Expr} (h : ∀ e ∈ value, e.Genuine) :
    Genuine (.returnStmt line value)
  | functionDef (isAsync : Bool) (name : String) {params : Params} {body : List Stmt} {decorators : List Expr}
    {returns : Option Expr} (hparams : ∀ e ∈ params.parts, e.Genuine) (hbody : ∀ st ∈ body, Genuine st)
    (hdecorators : ∀ e ∈ decorators, e.Genuine) (hreturns : ∀ e ∈ returns, e.Genuine) :
    Genuine (.functionDef isAsync name params body decorators returns)
  | classDef (name : String) {bases : List Expr} {keywords : List Keyword} {body : List Stmt} {decorators : List Expr}
    (hbases : ∀ e ∈ bases, e.Genuine) (hkeywords : ∀ e ∈ keywords.map Keyword.value, e.Genuine)
    (hbody : ∀ st ∈ body, Genuine st) (hdecorators : ∀ e ∈ decorators, e.Genuine) :
    Genuine (.classDef name bases keywords body decorators)
  | withStmt (isAsync : Bool) {items : List WithItem} {body : List Stmt}
    (hitems : ∀ i ∈ items, i.value.Genuine ∧ ∀ e ∈ i.target, e.Genuine) (hbody : ∀ st ∈ body, Genuine st) :
    Genuine (.withStmt isAsync items body)
  | raise {error cause : Option Expr} (herror : ∀ e ∈ error, e.Genuine) (hcause : ∀ e ∈ cause, e.Genuine) :
    Genuine (.raise error cause)
  | tryStmt (star : Bool) {body : List Stmt} {handlers : List Handler} {orelse final : List Stmt}
    (hbody : ∀ st ∈ body, Genuine st) (htypes : ∀ h ∈ handlers, ∀ e ∈ h.type, e.Genuine)
    (hhandlers : ∀ h ∈ handlers, ∀ st ∈ h.body, Genuine st) (horelse : ∀ st ∈ orelse, Genuine st)
    (hfinal : ∀ st ∈ final, Genuine st) : Genuine (.tryStmt star body handlers orelse final)
  | importNames (names : List Alias) : Genuine (.importNames names)
  | importFrom (source : Option String) (names : List Alias) (level : Nat) : Genuine (.importFrom source names level)
  | globalNames (names : List String) : Genuine (.globalNames names)
  | nonlocalNames (names : List String) : Genuine (.nonlocalNames names)
  | matchStmt {subject : Expr} {cases : List Case} (hsubject : subject.Genuine)
    (hpatterns : ∀ c ∈ cases, c.pattern.Genuine) (hguards : ∀ c ∈ cases, ∀ e ∈ c.guard, e.Genuine)
    (hbodies : ∀ c ∈ cases, ∀ st ∈ c.body, Genuine st) : Genuine (.matchStmt subject cases)

namespace Stmt.Genuine

variable {st st' : Stmt}

theorem inside (h : st.Genuine) (hmem : st' ∈ st.inside) : st'.Genuine := by
  cases h with
  | ifStmt _ hbody horelse | whileStmt _ hbody horelse | forStmt _ _ _ hbody horelse =>
    exact (List.mem_append.1 hmem).elim (hbody st') (horelse st')
  | functionDef _ _ _ hbody _ _ | classDef _ _ _ hbody _ | withStmt _ _ hbody => exact hbody st' hmem
  | tryStmt _ hbody _ hhandlers horelse hfinal =>
    simp only [Stmt.inside, List.mem_append, List.mem_flatMap] at hmem
    rcases hmem with ((hmem | ⟨h, hh, hmem⟩) | hmem) | hmem
    · exact hbody st' hmem
    · exact hhandlers h hh st' hmem
    · exact horelse st' hmem
    · exact hfinal st' hmem
  | matchStmt _ _ _ hbodies =>
    obtain ⟨c, hc, hmem⟩ := List.mem_flatMap.1 hmem
    exact hbodies c hc st' hmem
  | _ => cases hmem

theorem targets (h : st.Genuine) : ∀ e ∈ st.targets, e.Genuine := by
  cases h with
  | assign htargets _ | delete htargets => exact htargets
  | augAssign htarget _ _ => exact List.forall_mem_singleton.2 htarget
  | _ => exact List.forall_mem_nil _

end Stmt.Genuine

end Treewalk
