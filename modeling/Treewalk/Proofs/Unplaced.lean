/-
Statements without their places. The lines of the statements that leave a loop or a function are all that an outline of a
statement leaves out: two genuine statements have the same outline exactly if they are the same apart from these lines.
-/
import Treewalk.Proofs.Outlines

namespace Treewalk

/-! ## Statements without lines -/

mutual

/-- The statement with no line in it. -/
def Stmt.unplaced : Stmt → Stmt
  | .ifStmt test body orelse => .ifStmt test (unplacedBlock body) (unplacedBlock orelse)
  | .whileStmt test body orelse => .whileStmt test (unplacedBlock body) (unplacedBlock orelse)
  | .forStmt isAsync target source body orelse =>
    .forStmt isAsync target source (unplacedBlock body) (unplacedBlock orelse)
  | .breakStmt _ => .breakStmt none
  | .continueStmt _ => .continueStmt none
  | .returnStmt _ value => .returnStmt none value
  | .functionDef isAsync name params body decorators returns =>
    .functionDef isAsync name params (unplacedBlock body) decorators returns
  | .classDef name bases keywords body decorators => .classDef name bases keywords (unplacedBlock body) decorators
  | .withStmt isAsync items body => .withStmt isAsync items (unplacedBlock body)
  | .tryStmt star body handlers orelse final =>
    .tryStmt star (unplacedBlock body) (unplacedHandlers handlers) (unplacedBlock orelse) (unplacedBlock final)
  | .matchStmt subject cases => .matchStmt subject (unplacedCases cases)
  | st => st

def unplacedBlock : List Stmt → List Stmt
  | [] => []
  | st :: rest => st.unplaced :: unplacedBlock rest

def Handler.unplaced : Handler → Handler
  | .mk type name body => .mk type name (unplacedBlock body)

def unplacedHandlers : List Handler → List Handler
  | [] => []
  | h :: rest => h.unplaced :: unplacedHandlers rest

def Case.unplaced : Case → Case
  | .mk pattern guard body => .mk pattern guard (unplacedBlock body)

def unplacedCases : List Case → List Case
  | [] => []
  | c :: rest => c.unplaced :: unplacedCases rest

end

@[simp] theorem unplacedBlock_eq (body : List Stmt) : unplacedBlock body = body.map Stmt.unplaced := by
  induction body with
  | nil => rfl
  | cons st rest ih => rw [unplacedBlock, ih, List.map_cons]

@[simp] theorem unplacedHandlers_eq (handlers : List Handler) :
    unplacedHandlers handlers = handlers.map Handler.unplaced := by
  induction handlers with
  | nil => rfl
  | cons h rest ih => rw [unplacedHandlers, ih, List.map_cons]

@[simp] theorem unplacedCases_eq (cases : List Case) : unplacedCases cases = cases.map Case.unplaced := by
  induction cases with
  | nil => rfl
  | cons c rest ih => rw [unplacedCases, ih, List.map_cons]

/-! ## Lines in outlines -/

mutual

/-- The lines are not in the outline. -/
theorem Stmt.outline_unplaced : ∀ st : Stmt, st.unplaced.outline = st.outline
  | .ifStmt _ body orelse | .whileStmt _ body orelse | .forStmt _ _ _ body orelse => by
    rw [Stmt.unplaced, Stmt.outline, Stmt.outline, outlineBlock_unplaced body, outlineBlock_unplaced orelse]
  | .breakStmt _ | .continueStmt _ | .returnStmt _ _ => by rw [Stmt.unplaced, Stmt.outline, Stmt.outline]
  | .functionDef _ _ _ body _ _ | .classDef _ _ _ body _ | .withStmt _ _ body => by
    rw [Stmt.unplaced, Stmt.outline, Stmt.outline, outlineBlock_unplaced body]
  | .tryStmt _ body handlers orelse final => by
    rw [Stmt.unplaced, Stmt.outline, Stmt.outline, outlineBlock_unplaced body, outlineHandlers_unplaced handlers,
      outlineBlock_unplaced orelse, outlineBlock_unplaced final]
  | .matchStmt _ cases => by rw [Stmt.unplaced, Stmt.outline, Stmt.outline, outlineCases_unplaced cases]
  | .expr _ | .pass | .assert .. | .assign .. | .augAssign .. | .annAssign .. | .delete _ | .raise ..
  | .importNames _ | .importFrom .. | .globalNames _ | .nonlocalNames _ => by rw [Stmt.unplaced] <;> nofun

theorem outlineBlock_unplaced : ∀ body : List Stmt, outlineBlock (unplacedBlock body) = outlineBlock body
  | [] => by rw [unplacedBlock]
  | st :: rest => by
    rw [unplacedBlock, outlineBlock, outlineBlock, st.outline_unplaced, outlineBlock_unplaced rest]

theorem Handler.outline_unplaced : ∀ h : Handler, h.unplaced.outline = h.outline
  | .mk _ _ body => by rw [Handler.unplaced, Handler.outline, Handler.outline, outlineBlock_unplaced body]

theorem outlineHandlers_unplaced :
    ∀ handlers : List Handler, outlineHandlers (unplacedHandlers handlers) = outlineHandlers handlers
  | [] => by rw [unplacedHandlers]
  | h :: rest => by
    rw [unplacedHandlers, outlineHandlers, outlineHandlers, h.outline_unplaced, outlineHandlers_unplaced rest]

theorem Case.outline_unplaced : ∀ c : Case, c.unplaced.outline = c.outline
  | .mk _ _ body => by rw [Case.unplaced, Case.outline, Case.outline, outlineBlock_unplaced body]

theorem outlineCases_unplaced : ∀ cases : List Case, outlineCases (unplacedCases cases) = outlineCases cases
  | [] => by rw [unplacedCases]
  | c :: rest => by
    rw [unplacedCases, outlineCases, outlineCases, c.outline_unplaced, outlineCases_unplaced rest]

end

/-! ## Proper outlines -/

attribute [simp] outlineBlock_eq outlineHandlers_eq outlineCases_eq

@[simp] theorem outlinePatterns_eq (items : List Pattern) : outlinePatterns items = items.map Pattern.outline := by
  induction items with
  | nil => rfl
  | cons p rest ih => rw [outlinePatterns, ih, List.map_cons]

@[simp] theorem outlinePattern_eq (p : Option Pattern) : outlinePattern p = p.map Pattern.outline := by
  cases p <;> rfl

theorem Pattern.Genuine.proper_outline {p : Pattern} (h : p.Genuine) : p.outline.Proper := by
  induction h with
  | value h => simpa +decide [outline] using Expr.proper_outline h
  | singleton h => simpa +decide [outline] using h
  | sequence _ ih | oneOf _ ih => simpa +decide [outline] using ih
  | mapping rest hkeys _ ih =>
    simp +decide [outline, or_imp, forall_and]
    exact ⟨fun e he => Expr.proper_outline (hkeys e he), ih⟩
  | classOf names htype _ _ ih ih' =>
    simp +decide [outline]
    exact ⟨Expr.proper_outline htype, ih, ih'⟩
  | star name => simp +decide [outline]
  | binding name _ ih =>
    simp +decide [outline, or_imp, forall_and]
    exact ih

/-- Both labels of a form that may be marked are words. -/
@[simp] theorem isWord_ite_label {mark : Bool} {s t : String} :
    IsWord (if mark then s else t).toList ↔ if mark then IsWord s.toList else IsWord t.toList := by
  cases mark <;> rfl

@[simp] theorem Alias.proper_outline (a : Alias) : a.outline.Proper := by
  simp +decide [outline]

@[simp] theorem WithItem.proper_outline {i : WithItem} :
    i.outline.Proper ↔ i.value.outline.Proper ∧ ∀ e ∈ i.target, e.outline.Proper := by
  simp +decide [outline]

@[simp] theorem Handler.proper_outline {h : Handler} :
    h.outline.Proper ↔ (∀ e ∈ h.type, e.outline.Proper) ∧ ∀ st ∈ h.body, st.outline.Proper := by
  obtain ⟨type, name, body⟩ := h
  simp +decide [outline, Handler.type, Handler.body, or_imp, forall_and]

@[simp] theorem Case.proper_outline {c : Case} : c.outline.Proper ↔
    c.pattern.outline.Proper ∧ (∀ e ∈ c.guard, e.outline.Proper) ∧ ∀ st ∈ c.body, st.outline.Proper := by
  obtain ⟨pattern, guard, body⟩ := c
  simp +decide [outline, Case.pattern, Case.guard, Case.body, or_imp, forall_and]

/-- The outline of a genuine statement is proper. -/
theorem Stmt.Genuine.proper_outline {st : Stmt} (h : st.Genuine) : st.outline.Proper := by
  have hexpr : ∀ e : Expr, e.Genuine → e.outline.Proper := fun _ => Expr.proper_outline
  -- Everything in the outline but an operator and the patterns is an expression or a statement inside.
  induction h <;> simp +decide [outline, or_imp, forall_and, -Params.parts, -Keyword.value] at *
  case augAssign htarget hop hvalue =>
    exact ⟨hexpr _ htarget, Operator.proper_outline (hop ▸ Option.some_ne_none _), hexpr _ hvalue⟩
  case matchStmt hsubject hpatterns _ ih hguards =>
    refine ⟨hexpr _ hsubject, fun c hc => ?_, fun c hc e he => hexpr e (hguards c hc e he), ih⟩
    exact (hpatterns c hc).proper_outline
  all_goals grind

/-- The outline of a genuine pattern determines the pattern. -/
theorem Pattern.Genuine.eq_of_outline {p : Pattern} (h : p.Genuine) :
    ∀ {p' : Pattern}, p'.Genuine → p.outline = p'.outline → p = p' := by
  have hitems {items items' : List Pattern} (h' : ∀ p ∈ items', p.Genuine)
      (ih : ∀ p ∈ items, ∀ {p' : Pattern}, p'.Genuine → p.outline = p'.outline → p = p')
      (heq : items.map outline = items'.map outline) : items = items' :=
    map_cancel (fun p hp p' hp' => ih p hp (h' p' hp')) heq
  induction h with
  | value h =>
    intro p' h' heq
    cases h' <;> simp [outline] at heq
    case value h' => rw [Expr.eq_of_outline h h' heq]
  | singleton h =>
    intro p' h' heq
    cases h' <;> simp [outline] at heq
    case singleton => rw [heq]
  | sequence _ ih =>
    intro p' h' heq
    cases h' <;> simp [outline] at heq
    case sequence h' => rw [hitems h' ih heq]
  | mapping rest hkeys _ ih =>
    intro p' h' heq
    cases h' <;> simp [outline] at heq
    case mapping hkeys' h' =>
      obtain ⟨hkeysEq, hitemsEq, rfl⟩ := heq
      rw [Expr.eq_of_outlines hkeys hkeys' hkeysEq, hitems h' ih hitemsEq]
  | classOf names htype _ _ ih ih' =>
    intro p' h' heq
    cases h' <;> simp [outline] at heq
    case classOf htype' h' h'' =>
      obtain ⟨htypeEq, hitemsEq, rfl, hnamedEq⟩ := heq
      rw [Expr.eq_of_outline htype htype' htypeEq, hitems h' ih hitemsEq, hitems h'' ih' hnamedEq]
  | star name =>
    intro p' h' heq
    cases h' <;> simp [outline] at heq
    case star => rw [heq]
  | binding name _ ih =>
    intro p' h' heq
    cases h' <;> simp only [outline, Outline.node.injEq, String.reduceEq, false_and] at heq
    case binding h' =>
      have hitem := congrArg (Outline.field? "pattern") heq.2
      have hname := congrArg (Outline.field? "name") heq.2
      simp at hitem hname
      rw [hname, option_map_cancel (fun p hp p' hp' => ih p hp (h' p' hp')) hitem]
  | oneOf _ ih =>
    intro p' h' heq
    cases h' <;> simp [outline] at heq
    case oneOf h' => rw [hitems h' ih heq]

/-! ## Outlines of different statements -/

/-- A label that depends on a mark, against another one. -/
@[simp] theorem ite_label_eq {mark : Bool} {s t label : String} :
    (if mark then s else t) = label ↔ if mark then s = label else t = label := by
  cases mark <;> rfl

@[simp] theorem eq_ite_label {mark : Bool} {s t label : String} :
    label = (if mark then s else t) ↔ if mark then label = s else label = t := by
  cases mark <;> rfl

@[simp] theorem ite_mark_iff {mark mark' : Bool} : (if mark' then mark = true else mark = false) ↔ mark = mark' := by
  cases mark <;> cases mark' <;> decide

@[simp] theorem Alias.outline_inj {a a' : Alias} : a.outline = a'.outline ↔ a = a' := by
  obtain ⟨name, asName⟩ := a
  obtain ⟨name', asName'⟩ := a'
  simp [outline]

@[simp] theorem Alias.map_outline_inj {names names' : List Alias} :
    names.map Alias.outline = names'.map Alias.outline ↔ names = names' :=
  List.map_inj_right fun _ _ => outline_inj.1

theorem WithItem.eq_of_outline {i i' : WithItem} (h : i.value.Genuine ∧ ∀ e ∈ i.target, e.Genuine)
    (h' : i'.value.Genuine ∧ ∀ e ∈ i'.target, e.Genuine) (heq : i.outline = i'.outline) : i = i' := by
  obtain ⟨value, target⟩ := i
  obtain ⟨value', target'⟩ := i'
  simp [outline] at heq
  obtain rfl : value = value' := Expr.eq_of_outline h.1 h'.1 heq.1
  obtain rfl : target = target' := Expr.eq_of_outline? h.2 h'.2 heq.2
  rfl

namespace Stmt

/-- Blocks whose statements are known, apart from lines, from their outlines. -/
def Known (body body' : List Stmt) : Prop :=
  ∀ st ∈ body, ∀ st' ∈ body', st.outline = st'.outline → st.unplaced = st'.unplaced

theorem Known.block {body body' : List Stmt} (h : Known body body') (heq : body.map outline = body'.map outline) :
    body.map unplaced = body'.map unplaced := map_transfer h heq

theorem Known.handler {h h' : Handler} (htype : ∀ e ∈ h.type, e.Genuine) (htype' : ∀ e ∈ h'.type, e.Genuine)
    (hbody : Known h.body h'.body) (heq : h.outline = h'.outline) : h.unplaced = h'.unplaced := by
  obtain ⟨type, name, body⟩ := h
  obtain ⟨type', name', body'⟩ := h'
  simp only [Handler.outline, Outline.node.injEq, true_and] at heq
  have htypeEq := congrArg (Outline.field? "type") heq
  have hnameEq := congrArg (Outline.field? "name") heq
  have hbodyEq := congrArg (Outline.field? "body") heq
  simp at htypeEq hnameEq hbodyEq
  obtain rfl : type = type' := Expr.eq_of_outline? htype htype' htypeEq
  have hunplaced : body.map unplaced = body'.map unplaced := hbody.block hbodyEq
  rw [Handler.unplaced, Handler.unplaced, unplacedBlock_eq, unplacedBlock_eq, hnameEq, hunplaced]

theorem Known.case {c c' : Case} (hpattern : c.pattern.Genuine) (hpattern' : c'.pattern.Genuine)
    (hguard : ∀ e ∈ c.guard, e.Genuine) (hguard' : ∀ e ∈ c'.guard, e.Genuine) (hbody : Known c.body c'.body)
    (heq : c.outline = c'.outline) : c.unplaced = c'.unplaced := by
  obtain ⟨pattern, guard, body⟩ := c
  obtain ⟨pattern', guard', body'⟩ := c'
  simp only [Case.outline, Outline.node.injEq, true_and] at heq
  have hpatternEq := congrArg (Outline.field? "pattern") heq
  have hguardEq := congrArg (Outline.field? "guard") heq
  have hbodyEq := congrArg (Outline.field? "body") heq
  simp at hpatternEq hguardEq hbodyEq
  obtain rfl : pattern = pattern' := hpattern.eq_of_outline hpattern' hpatternEq
  obtain rfl : guard = guard' := Expr.eq_of_outline? hguard hguard' hguardEq
  have hunplaced : body.map unplaced = body'.map unplaced := hbody.block hbodyEq
  rw [Case.unplaced, Case.unplaced, unplacedBlock_eq, unplacedBlock_eq, hunplaced]

/-- The outline of a genuine statement determines the statement apart from its lines. -/
theorem Genuine.unplaced_eq {st : Stmt} (h : st.Genuine) :
    ∀ {st' : Stmt}, st'.Genuine → st.outline = st'.outline → st.unplaced = st'.unplaced := by
  have hknown {body body' : List Stmt} (h' : ∀ st ∈ body', st.Genuine)
      (ih : ∀ st ∈ body, ∀ {st' : Stmt}, st'.Genuine → st.outline = st'.outline → st.unplaced = st'.unplaced) :
      Known body body' := fun st hst st' hst' => ih st hst (h' st' hst')
  induction h with
  | expr hvalue =>
    intro st' h' heq
    cases h' <;> simp [outline, Outline.leaf] at heq
    case expr hvalue' => rw [Expr.eq_of_outline hvalue hvalue' heq]
  | pass =>
    intro st' h' heq
    cases h' <;> simp [outline, Outline.leaf] at heq
    case pass => rfl
  | assert htest hmessage =>
    intro st' h' heq
    cases h' <;> simp [outline, Outline.leaf] at heq
    case assert htest' hmessage' =>
      rw [Expr.eq_of_outline htest htest' heq.1, Expr.eq_of_outline? hmessage hmessage' heq.2]
  | assign htargets hvalue =>
    intro st' h' heq
    cases h' <;> simp [outline, Outline.leaf] at heq
    case assign htargets' hvalue' =>
      rw [Expr.eq_of_outlines htargets htargets' heq.1, Expr.eq_of_outline hvalue hvalue' heq.2]
  | augAssign htarget hop hvalue =>
    intro st' h' heq
    cases h' <;> simp [outline, Outline.leaf] at heq
    case augAssign htarget' hop' hvalue' =>
      have hopEq := Operator.eq_of_outline (hop ▸ Option.some_ne_none _) (hop' ▸ Option.some_ne_none _) heq.2.1
      rw [Expr.eq_of_outline htarget htarget' heq.1, hopEq, Expr.eq_of_outline hvalue hvalue' heq.2.2]
  | annAssign simple htarget hhint hvalue =>
    intro st' h' heq
    cases h' <;> simp [outline, Outline.leaf] at heq
    case annAssign htarget' hhint' hvalue' =>
      obtain ⟨htargetEq, hhintEq, hvalueEq, rfl⟩ := heq
      rw [Expr.eq_of_outline htarget htarget' htargetEq, Expr.eq_of_outline hhint hhint' hhintEq,
        Expr.eq_of_outline? hvalue hvalue' hvalueEq]
  | delete htargets =>
    intro st' h' heq
    cases h' <;> simp [outline, Outline.leaf] at heq
    case delete htargets' => rw [Expr.eq_of_outlines htargets htargets' heq]
  | ifStmt htest _ _ ihBody ihOrelse =>
    intro st' h' heq
    cases h' <;> simp [outline, Outline.leaf] at heq
    case ifStmt htest' hbody' horelse' =>
      simp only [unplaced, unplacedBlock_eq]
      rw [Expr.eq_of_outline htest htest' heq.1, (hknown hbody' ihBody).block heq.2.1,
        (hknown horelse' ihOrelse).block heq.2.2]
  | whileStmt htest _ _ ihBody ihOrelse =>
    intro st' h' heq
    cases h' <;> simp [outline, Outline.leaf] at heq
    case whileStmt htest' hbody' horelse' =>
      simp only [unplaced, unplacedBlock_eq]
      rw [Expr.eq_of_outline htest htest' heq.1, (hknown hbody' ihBody).block heq.2.1,
        (hknown horelse' ihOrelse).block heq.2.2]
  | forStmt isAsync htarget hsource _ _ ihBody ihOrelse =>
    intro st' h' heq
    cases h' <;> simp [outline, Outline.leaf] at heq
    case forStmt htarget' hsource' hbody' horelse' =>
      obtain ⟨rfl, htargetEq, hsourceEq, hbodyEq, horelseEq⟩ := heq
      simp only [unplaced, unplacedBlock_eq]
      rw [Expr.eq_of_outline htarget htarget' htargetEq, Expr.eq_of_outline hsource hsource' hsourceEq,
        (hknown hbody' ihBody).block hbodyEq, (hknown horelse' ihOrelse).block horelseEq]
  | breakStmt line =>
    intro st' h' heq
    cases h' <;> simp [outline, Outline.leaf] at heq
    case breakStmt => rfl
  | continueStmt line =>
    intro st' h' heq
    cases h' <;> simp [outline, Outline.leaf] at heq
    case continueStmt => rfl
  | returnStmt line hvalue =>
    intro st' h' heq
    cases h' <;> simp [outline, Outline.leaf] at heq
    case returnStmt hvalue' =>
      simp only [unplaced]
      rw [Expr.eq_of_outline? hvalue hvalue' heq]
  | functionDef isAsync name hparams _ hdecorators hreturns ihBody =>
    intro st' h' heq
    cases h' <;> simp [outline, Outline.leaf] at heq
    case functionDef hparams' hbody' hdecorators' hreturns' =>
      obtain ⟨rfl, rfl, hparamsEq, hbodyEq, hdecoratorsEq, hreturnsEq⟩ := heq
      simp only [unplaced, unplacedBlock_eq]
      rw [(Expr.told hparams hparams').params hparamsEq, (hknown hbody' ihBody).block hbodyEq,
        Expr.eq_of_outlines hdecorators hdecorators' hdecoratorsEq, Expr.eq_of_outline? hreturns hreturns' hreturnsEq]
  | classDef name hbases hkeywords _ hdecorators ihBody =>
    intro st' h' heq
    cases h' <;> simp [outline, Outline.leaf] at heq
    case classDef hbases' hkeywords' hbody' hdecorators' =>
      obtain ⟨rfl, hbasesEq, hkeywordsEq, hbodyEq, hdecoratorsEq⟩ := heq
      simp only [unplaced, unplacedBlock_eq]
      rw [Expr.eq_of_outlines hbases hbases' hbasesEq, (Expr.told hkeywords hkeywords').keywords hkeywordsEq,
        (hknown hbody' ihBody).block hbodyEq, Expr.eq_of_outlines hdecorators hdecorators' hdecoratorsEq]
  | withStmt isAsync hitems _ ihBody =>
    intro st' h' heq
    cases h' <;> simp [outline, Outline.leaf] at heq
    case withStmt hitems' hbody' =>
      obtain ⟨rfl, hitemsEq, hbodyEq⟩ := heq
      have hsame := map_cancel (fun i hi i' hi' => WithItem.eq_of_outline (hitems i hi) (hitems' i' hi')) hitemsEq
      simp only [unplaced, unplacedBlock_eq]
      rw [hsame, (hknown hbody' ihBody).block hbodyEq]
  | raise herror hcause =>
    intro st' h' heq
    cases h' <;> simp [outline, Outline.leaf] at heq
    case raise herror' hcause' =>
      have herrorEq := congrArg (Outline.field? "exc") heq
      have hcauseEq := congrArg (Outline.field? "cause") heq
      simp at herrorEq hcauseEq
      rw [Expr.eq_of_outline? herror herror' herrorEq, Expr.eq_of_outline? hcause hcause' hcauseEq]
  | tryStmt star _ htypes _ _ _ ihBody ihHandlers ihOrelse ihFinal =>
    intro st' h' heq
    cases h' <;> simp [outline, Outline.leaf] at heq
    case tryStmt hbody' htypes' hhandlers' horelse' hfinal' =>
      obtain ⟨rfl, hbodyEq, hhandlersEq, horelseEq, hfinalEq⟩ := heq
      have hunplaced := map_transfer (fun h hh h' hh' => Known.handler (htypes h hh) (htypes' h' hh')
        (hknown (hhandlers' h' hh') (ihHandlers h hh))) hhandlersEq
      simp only [unplaced, unplacedBlock_eq, unplacedHandlers_eq]
      rw [(hknown hbody' ihBody).block hbodyEq, hunplaced, (hknown horelse' ihOrelse).block horelseEq,
        (hknown hfinal' ihFinal).block hfinalEq]
  | importNames names =>
    intro st' h' heq
    cases h' <;> simp [outline, Outline.leaf] at heq
    case importNames => rw [heq]
  | importFrom source names level =>
    intro st' h' heq
    cases h' <;> simp [outline, Outline.leaf] at heq
    case importFrom =>
      have hsourceEq := congrArg (Outline.field? "module") heq
      have hnamesEq := congrArg (Outline.field? "names") heq
      have hlevelEq := congrArg (Outline.field? "level") heq
      simp at hsourceEq hnamesEq hlevelEq
      rw [hsourceEq, hnamesEq, hlevelEq]
  | globalNames names =>
    intro st' h' heq
    cases h' <;> simp [outline, Outline.leaf] at heq
    case globalNames => rw [heq]
  | nonlocalNames names =>
    intro st' h' heq
    cases h' <;> simp [outline, Outline.leaf] at heq
    case nonlocalNames => rw [heq]
  | matchStmt hsubject hpatterns hguards _ ihBodies =>
    intro st' h' heq
    cases h' <;> simp [outline, Outline.leaf] at heq
    case matchStmt hsubject' hpatterns' hguards' hbodies' =>
      have hunplaced := map_transfer (fun c hc c' hc' => Known.case (hpatterns c hc) (hpatterns' c' hc') (hguards c hc)
        (hguards' c' hc') (hknown (hbodies' c' hc') (ihBodies c hc))) heq.2
      simp only [unplaced, unplacedCases_eq]
      rw [Expr.eq_of_outline hsubject hsubject' heq.1, hunplaced]

end Stmt

end Treewalk
