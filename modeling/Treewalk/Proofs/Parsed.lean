/-
Program texts as statements: everything in a program text is genuine. In particular all its statements are spelled, with
all that is inside them.
-/
import Treewalk.Proofs.Reading

namespace Treewalk

namespace Stmt

/-- A statement that stands in a block inside another one, at any depth, or is it. -/
inductive Within (st : Stmt) : Stmt → Prop
  | self : Within st st
  | inside {inner whole : Stmt} : inner ∈ whole.inside → Within st inner → Within st whole

/-- All targets of the statement and of those inside it are spelled. -/
def Spelled (st : Stmt) : Prop := ∀ st' : Stmt, st'.Within st → ∀ e ∈ st'.targets, e.Spelled

variable {st st' : Stmt}

theorem Spelled.inside (h : st.Spelled) (hmem : st' ∈ st.inside) : st'.Spelled :=
  fun st'' h' => h st'' (.inside hmem h')

theorem Genuine.within (h : st.Genuine) (hwithin : st'.Within st) : st'.Genuine := by
  induction hwithin with
  | self => exact h
  | inside hmem _ ih => exact ih (h.inside hmem)

/-- Genuine statements are spelled. -/
theorem Genuine.spelled (h : st.Genuine) : st.Spelled := fun _ hwithin e he => ((h.within hwithin).targets e he).spelled

end Stmt

namespace Grammar

open Parse

/-! ## Patterns -/

/-- Reads only patterns that are genuine. -/
abbrev GivesPattern (p : Parse Pattern) : Prop := Gives Pattern.Genuine p

abbrev GivesPatterns (p : Parse (List Pattern × Bool)) : Prop := Gives (fun found => ∀ p ∈ found.1, p.Genuine) p

theorem genuine_dotted (first : String) : GivesGenuine (dotted first) := by
  refine .repeatWhile (fun e he => .after fun _ => .ite ?_ (.pure .none)) (.of trivial (by simp))
  exact .after fun n => .pure (.some (.of trivial (by simpa using he)))

theorem plain_number : Gives Literal.Plain number := by
  refine .get fun tokens htokens => ?_
  split
  · exact .set htokens.rest (.pure htokens.first)
  · exact .failure

/-- The imaginary part behind a number and a sign. -/
theorem genuine_imaginaryPart {op : Operator} (hop : op.group? = some .binary) {real : Expr} (hreal : real.Genuine)
    (value : Literal) : GivesGenuine (do
      match ← number with
      | .imaginary re im =>
        if isRealNumber value then return .binary real op (.constant (.imaginary re im) none) else failure
      | _ => failure) := by
  refine .bind plain_number fun part hpart => ?_
  split
  · refine .ite (.pure (.of hop ?_)) .failure
    exact List.forall_mem_cons.2 ⟨hreal, List.forall_mem_singleton.2 (Expr.genuine_constant hpart none)⟩
  · exact .failure

theorem genuine_numberPattern : GivesGenuine numberPattern := by
  refine .after fun negative => .bind plain_number fun value hvalue => ?_
  have hconstant := Expr.genuine_constant hvalue none
  have hreal : (if negative then Expr.unary .minus (.constant value none) else .constant value none).Genuine := by
    split
    · exact .of rfl (by simpa using hconstant)
    · exact hconstant
  refine .after fun _ => .ite (genuine_imaginaryPart rfl hreal value) (.after fun _ => ?_)
  exact .ite (genuine_imaginaryPart rfl hreal value) (.pure hreal)

instance : Keeps boundName := by
  refine ⟨.after fun n => ?_⟩
  split
  · exact .pure trivial
  · exact .failure

instance (closing : String) : Keeps (closes closing) := by
  unfold closes
  infer_instance

section

variable {self : PatternRec} (hself : GivesPattern self)

include hself

theorem genuine_sequenceItem : GivesPattern (sequenceItem self) :=
  .after fun _ => .ite (.after fun n => .pure (.star (captured n))) hself

theorem genuine_sequenceItems (closing : String) : GivesPatterns (sequenceItems self closing) := by
  have hitem := genuine_sequenceItem hself
  exact .after fun _ => .ite (.pure (List.forall_mem_nil _)) (.bind hitem fun first hfirst => .commaList hitem hfirst)

omit hself in
/-- Patterns between brackets or without them: a single one stands for itself, unless it is starred. -/
theorem genuine_sequence (items : List Pattern) (comma : Bool) : (∀ p ∈ items, p.Genuine) →
    GivesPattern (match items, comma with
      | [.star _], false => failure
      | [item], false => return item
      | items, _ => return .sequence items) := by
  intro hitems
  split
  · exact .failure
  · exact .pure (List.forall_mem_singleton.1 hitems)
  · exact .pure (.sequence hitems)

/-- The patterns of a class pattern are genuine, those for attributes as well. -/
abbrev ClassGenuine (found : List Pattern × List String × List Pattern) : Prop :=
  (∀ p ∈ found.1, p.Genuine) ∧ ∀ p ∈ found.2.2, p.Genuine

theorem genuine_classItems : Gives ClassGenuine (classItems self) := by
  refine .bind (U := ClassGenuine) (.repeatWhile ?_ ⟨List.forall_mem_nil _, List.forall_mem_nil _⟩)
    fun found hfound => .after fun _ => .pure hfound
  rintro ⟨items, names, named⟩ ⟨hitems, hnamed⟩
  have hlast : ∀ next, ClassGenuine next → Gives (Finds ClassGenuine) (do
      if ← nextIsOp ")" then return some next
      else
        op ","
        return some next) := fun next hnext =>
    .after fun _ => .ite (.pure (.some hnext)) (.after fun _ => .pure (.some hnext))
  refine .after fun _ => .ite (.pure .none) (.after fun tokens => .after fun tokens' => .ite ?_ (.ite ?_ .failure))
  · refine .after fun n => .after fun _ => .bind hself fun p hp => hlast _ ⟨hitems, ?_⟩
    exact List.forall_mem_append.2 ⟨hnamed, List.forall_mem_singleton.2 hp⟩
  · refine .bind hself fun p hp => hlast _ ⟨?_, hnamed⟩
    exact List.forall_mem_append.2 ⟨hitems, List.forall_mem_singleton.2 hp⟩

theorem genuine_namePattern (n : String) : GivesPattern (namePattern self n) := by
  refine .ite (.pure (.binding none nofun)) (.bind (genuine_dotted _) fun e he => .after fun _ => .ite ?_ ?_)
  · refine .bind (genuine_classItems hself) fun ⟨items, names, named⟩ hfound => ?_
    exact .pure (.classOf names he hfound.1 hfound.2)
  · split
    · exact .pure (.binding _ nofun)
    · exact .pure (.value he)

variable {expr : Rec} (hexpr : ∀ precedence, GivesGenuine (expr precedence))

include hexpr

omit hself in
theorem genuine_literalPattern [Host] :
    Gives (fun found => found.elim Expr.Genuine Literal.Plain) (literalPattern expr) := by
  refine .get fun tokens htokens => ?_
  split
  · exact .bind genuine_numberPattern fun _ he => .pure he
  · exact .bind genuine_numberPattern fun _ he => .pure he
  · exact .after fun qs => .bind (.lift (genuine_quotedLiteral hexpr qs)) fun _ he => .pure he
  · exact .set htokens.rest (.pure .none)
  · exact .set htokens.rest (.pure (.bool true))
  · exact .set htokens.rest (.pure (.bool false))
  · exact .failure

omit hself in
theorem genuine_mappingKey [Host] : GivesGenuine (mappingKey expr) := by
  refine .get fun tokens htokens => ?_
  split
  · refine .set htokens.rest (.bind (genuine_dotted _) fun e he => ?_)
    split
    · exact .failure
    · exact .pure he
  · refine .bind (genuine_literalPattern hexpr) fun found hfound => ?_
    cases found with
    | inl e => exact .pure hfound
    | inr l => exact .pure (Expr.genuine_constant hfound none)

/-- The keys and patterns of a mapping pattern are genuine. -/
abbrev MappingGenuine (s : MappingState) : Prop := (∀ e ∈ s.keys, e.Genuine) ∧ ∀ p ∈ s.items, p.Genuine

theorem genuine_mappingPattern [Host] : GivesPattern (mappingPattern expr self) := by
  refine .bind (U := MappingGenuine) (.repeatWhile ?_ ⟨List.forall_mem_nil _, List.forall_mem_nil _⟩)
    fun s hs => .after fun _ => .pure (.mapping s.rest hs.1 hs.2)
  intro s hs
  have hlast : ∀ next, MappingGenuine next → Gives (Finds MappingGenuine) (do
      if ← nextIsOp "\x7d" then return some next
      else
        op ","
        return some next) := fun next hnext =>
    .after fun _ => .ite (.pure (.some hnext)) (.after fun _ => .pure (.some hnext))
  refine .after fun _ => .ite (.pure .none) (.after fun _ => .ite ?_ (.ite ?_ ?_))
  · exact .bind (U := MappingGenuine) .failure hlast
  · exact .after fun n => hlast _ hs
  · refine .bind (genuine_mappingKey hexpr) fun key hkey => .after fun _ => .bind hself fun p hp => hlast _ ⟨?_, ?_⟩
    · exact List.forall_mem_append.2 ⟨hs.1, List.forall_mem_singleton.2 hkey⟩
    · exact List.forall_mem_append.2 ⟨hs.2, List.forall_mem_singleton.2 hp⟩

theorem genuine_closedPattern [Host] : GivesPattern (closedPattern expr self) := by
  refine .get fun tokens htokens => ?_
  split
  · exact .set htokens.rest (genuine_namePattern hself _)
  · refine .set htokens.rest (.bind (genuine_sequenceItems hself ")") fun ⟨items, comma⟩ hitems => ?_)
    exact .after fun _ => genuine_sequence items comma hitems
  · refine .set htokens.rest (.bind (genuine_sequenceItems hself "]") fun ⟨items, _⟩ hitems => ?_)
    exact .after fun _ => .pure (.sequence hitems)
  · exact .set htokens.rest (genuine_mappingPattern hself hexpr)
  · refine .bind (genuine_literalPattern hexpr) fun found hfound => ?_
    cases found with
    | inl e => exact .pure (.value hfound)
    | inr l => exact .pure (.singleton hfound)

theorem genuine_patternRule [Host] : GivesPattern (patternRule expr self) := by
  have hclosed := genuine_closedPattern hself hexpr
  refine .bind hclosed fun first hfirst => .bind (.many hclosed) fun rest hrest => ?_
  have hp : (if rest.isEmpty then first else Pattern.oneOf (first :: rest)).Genuine := by
    split
    · exact hfirst
    · exact .oneOf (List.forall_mem_cons.2 ⟨hfirst, hrest⟩)
  refine .after fun _ => .ite (.after fun n => .pure (.binding (some n) ?_)) (.pure hp)
  rintro _ ⟨⟩
  exact hp

omit hself in
theorem genuine_pattern [Host] : ∀ fuel : Nat, GivesPattern (pattern expr fuel)
  | 0 => .failure
  | fuel + 1 => genuine_patternRule (genuine_pattern fuel) hexpr

omit hexpr in
theorem genuine_casePattern : GivesPattern (casePattern self) := by
  have hitem := genuine_sequenceItem hself
  refine .bind hitem fun first hfirst => .bind (.commaList hitem hfirst) fun ⟨items, comma⟩ hitems => ?_
  exact genuine_sequence items comma hitems

end

/-! ## Simple statements -/

/-- Reads only statements that are genuine. -/
abbrev GivesStmt (p : Parse Stmt) : Prop := Gives Stmt.Genuine p

abbrev GivesStmts (p : Parse (List Stmt)) : Prop := Gives (fun body => ∀ st ∈ body, st.Genuine) p

instance : Keeps atStmtEnd := by
  refine ⟨.get fun tokens _ => ?_⟩
  split <;> exact .pure trivial

instance : Keeps atDedent := by
  refine ⟨.get fun tokens _ => ?_⟩
  split <;> exact .pure trivial

instance : Keeps optionalAs := by
  unfold optionalAs
  infer_instance

instance : Keeps dottedName := by
  unfold dottedName
  infer_instance

instance : Keeps importItem := by
  unfold importItem
  infer_instance

instance : Keeps fromItem := by
  unfold fromItem
  infer_instance

instance : Keeps leadingDots := by
  refine ⟨.repeatWhile (fun n _ => .after fun _ => .ite ?_ (.after fun _ => .ite ?_ ?_)) trivial⟩
  · exact .pure fun _ _ => trivial
  · exact .pure fun _ _ => trivial
  · exact .pure .none

instance : Keeps importedNames := by
  refine ⟨.after fun _ => .ite (.pure trivial) (.after fun _ => .ite (.after fun first => ?_) ?_)⟩
  · exact .bind (.commaList (Keeps.gives (p := fromItem)) trivial) fun _ _ => .after fun _ => .pure trivial
  · exact Keeps.gives

instance (star : Bool) : Keeps (takeExcept star) := by
  unfold takeExcept
  infer_instance

instance : Keeps takeCase := by
  unfold takeCase
  infer_instance

theorem genuine_importFrom : GivesStmt importFrom := by
  have hrest : ∀ (level : Nat) (source : Option String),
      GivesStmt (do keyword "import"; return .importFrom source (← importedNames) level) := fun level source =>
    .after fun _ => .after fun names => .pure (.importFrom source names level)
  exact .after fun level => .after fun _ => .ite (.after fun _ => hrest level _) (.after fun _ => hrest level _)

theorem plain_augmentingAt {tokens : List Lexeme} (htokens : PlainTokens tokens) :
    Finds (fun found => found.1.group? = some .binary ∧ PlainTokens found.2) (augmentingAt tokens) := by
  unfold augmentingAt
  split
  · exact .map (group_lookup (by decide) _) fun op hop => ⟨hop, htokens.rest⟩
  · exact .none

section

variable {expr : Rec} (hexpr : ∀ precedence, GivesGenuine (expr precedence))

include hexpr

theorem genuine_annotated (grouped : Bool) {first : Expr} (hfirst : first.Genuine) :
    GivesStmt (annotated expr grouped first) := by
  refine .bind (.lift (Expr.finds_asSinglePlace? hfirst)) fun target htarget => .bind (hexpr _) fun hint hhint => ?_
  exact .after fun _ => .optional (hexpr _) fun value hvalue => .pure (.annAssign _ htarget hhint hvalue)

theorem genuine_raising : GivesStmt (raising expr) := by
  refine .after fun _ => .ite (.pure (.raise nofun nofun)) (.bind (hexpr _) fun error herror => .after fun _ => ?_)
  exact .optional (hexpr _) fun cause hcause => .pure (.raise (Finds.some herror) hcause)

theorem genuine_asserting : GivesStmt (asserting expr) :=
  .bind (hexpr _) fun _ htest => .after fun _ =>
    .optional (hexpr _) fun _ hmessage => .pure (.assert htest hmessage)

theorem genuine_assignment {first : Expr} (hfirst : first.Genuine) : GivesStmt (assignment expr first) := by
  refine .bind (U := fun state => (∀ e ∈ state.1, e.Genuine) ∧ state.2.Genuine) (.repeatWhile ?_ ?_) ?_
  · rintro ⟨targets, value⟩ ⟨htargets, hvalue⟩
    have htarget := Expr.finds_asTarget? .store hvalue
    refine .after fun _ => .ite (.bind (.lift htarget) fun target htarget => ?_) (.pure .none)
    refine .bind (hexpr _) fun value hvalue => .pure (.some ⟨?_, hvalue⟩)
    exact List.forall_mem_append.2 ⟨htargets, List.forall_mem_singleton.2 htarget⟩
  · exact ⟨by simp, hfirst⟩
  · rintro ⟨targets, value⟩ ⟨htargets, hvalue⟩
    exact .pure (.assign htargets hvalue)

theorem genuine_expressionStmt : GivesStmt (expressionStmt expr) := by
  refine .get fun start _ => .bind (hexpr _) fun first hfirst => .after fun _ => ?_
  refine .ite (genuine_assignment hexpr hfirst) (.after fun _ => .ite ?_ (.get fun tokens htokens => ?_))
  · split
    · exact genuine_annotated hexpr _ hfirst
    · exact .failure
  · cases hfound : augmentingAt tokens with
    | none => exact .pure (.expr hfirst)
    | some found =>
      obtain ⟨hop, hrest⟩ := plain_augmentingAt htokens found hfound
      refine .set hrest (.bind (.lift (Expr.finds_asSinglePlace? hfirst)) fun target htarget => ?_)
      exact .bind (hexpr _) fun value hvalue => .pure (.augAssign htarget hop hvalue)

theorem genuine_deletion : GivesStmt (deletion expr) := by
  have hitem : GivesGenuine (do (← expr .bitOr).asTarget? .del) :=
    .bind (hexpr _) fun _ he => .lift (Expr.finds_asTarget? .del he)
  refine .bind hitem fun first hfirst => .bind (.commaList hitem hfirst) fun ⟨targets, _⟩ htargets => .after fun _ => ?_
  exact .ite (.pure (.delete htargets)) .failure

theorem genuine_keywordStmt (word : String) (line : Nat) : GivesStmt (keywordStmt expr word line) := by
  unfold keywordStmt
  dsimp only
  split
  · exact .pure .pass
  · exact .pure (.breakStmt _)
  · exact .pure (.continueStmt _)
  · have hreturn : ∀ value, Finds Expr.Genuine value → GivesStmt (return .returnStmt (some line) value) :=
      fun value hvalue => .pure (.returnStmt _ hvalue)
    refine .after fun _ => .ite (.bind (.pure .none) hreturn) ?_
    exact .bind (.map (hexpr _) fun _ he => .some he) hreturn
  · exact genuine_raising hexpr
  · exact .after fun names => .pure (.globalNames names)
  · exact .after fun names => .pure (.nonlocalNames names)
  · exact genuine_deletion hexpr
  · exact genuine_asserting hexpr
  · exact .after fun names => .pure (.importNames names)
  · exact genuine_importFrom
  · exact .failure

theorem genuine_simpleStmt : GivesStmt (simpleStmt expr) := by
  refine .get fun tokens htokens => ?_
  split
  · exact .ite (.set htokens.rest (genuine_keywordStmt hexpr _ _)) (genuine_expressionStmt hexpr)
  · exact genuine_expressionStmt hexpr

theorem genuine_simpleLine : GivesStmts (simpleLine expr) := by
  refine .bind (genuine_simpleStmt hexpr) fun first hfirst => ?_
  refine .bind (U := fun stmts => ∀ st ∈ stmts, st.Genuine) (.repeatWhile (fun stmts hstmts => ?_) ?_)
    fun stmts hstmts => ?_
  · refine .after fun _ => .ite (.get fun tokens _ => ?_) (.pure .none)
    split
    · exact .pure .none
    · exact .bind (genuine_simpleStmt hexpr) fun st hst => .pure (.some (List.forall_mem_cons.2 ⟨hst, hstmts⟩))
  · exact List.forall_mem_singleton.2 hfirst
  · exact .after fun _ => .pure fun st hst => hstmts st (List.mem_reverse.1 hst)

/-! ## Blocks -/

theorem genuine_withItem :
    Gives (fun i => i.value.Genuine ∧ ∀ e ∈ i.target, e.Genuine) (withItem expr) := by
  refine .bind (hexpr _) fun value hvalue => .after fun _ => .ite ?_ (.pure ⟨hvalue, nofun⟩)
  refine .bind (genuine_starItem hexpr (hexpr _)) fun target htarget => ?_
  exact .bind (.lift (Expr.finds_asTarget? .store htarget)) fun target htarget => .pure ⟨hvalue, Finds.some htarget⟩

theorem genuine_groupedWithItems :
    Gives (fun items => ∀ i ∈ items, i.value.Genuine ∧ ∀ e ∈ i.target, e.Genuine) (groupedWithItems expr) := by
  have hitem := genuine_withItem hexpr
  refine .after fun _ => .bind hitem fun first hfirst => .bind (.commaList hitem hfirst) fun ⟨items, _⟩ hitems => ?_
  exact .after fun _ => .after fun _ => .ite (.pure hitems) .failure

variable {self : StmtRec} (hself : GivesStmts self)

include hself

theorem genuine_block : GivesStmts (block expr self) := by
  refine .after fun _ => .get fun tokens htokens => ?_
  split
  · refine .set htokens.rest (.after fun _ => .bind hself fun first hfirst => .bind (.many hself) fun rest hrest => ?_)
    refine .after fun _ => .pure (List.forall_mem_append.2 ⟨hfirst, fun st hst => ?_⟩)
    obtain ⟨stmts, hstmts, hst⟩ := List.mem_flatten.1 hst
    exact hrest stmts hstmts st hst
  · exact genuine_simpleLine hexpr

theorem genuine_elseBlock : GivesStmts (elseBlock expr self) :=
  .after fun _ => .ite (genuine_block hexpr hself) (.pure (by simp))

/-! ## Compound statements -/

theorem genuine_ifStmt : GivesStmt (ifStmt expr self) := by
  have hbranch : Gives (fun branch => branch.1.Genuine ∧ ∀ st ∈ branch.2, st.Genuine)
      (do return (← expr .named, ← block expr self) : Parse (Expr × List Stmt)) :=
    .bind (hexpr _) fun _ htest => .bind (genuine_block hexpr hself) fun _ hbody => .pure ⟨htest, hbody⟩
  refine .bind hbranch fun first hfirst => .bind (.many hbranch) fun rest hrest => ?_
  refine .bind (genuine_elseBlock hexpr hself) fun orelse horelse => .pure (.ifStmt hfirst.1 hfirst.2 ?_)
  -- The alternatives nest to the right, so the induction is on their list.
  induction rest with
  | nil => exact horelse
  | cons branch rest ih =>
    obtain ⟨hbranch, hrest⟩ := List.forall_mem_cons.1 hrest
    exact List.forall_mem_singleton.2 (.ifStmt hbranch.1 hbranch.2 (ih hrest))

theorem genuine_whileStmt : GivesStmt (whileStmt expr self) :=
  .bind (hexpr _) fun _ htest => .bind (genuine_block hexpr hself) fun _ hbody =>
    .bind (genuine_elseBlock hexpr hself) fun _ horelse => .pure (.whileStmt htest hbody horelse)

theorem genuine_forStmt (isAsync : Bool) : GivesStmt (forStmt expr self isAsync) :=
  .bind (genuine_loopTarget hexpr) fun _ htarget => .after fun _ => .bind (hexpr _) fun _ hsource =>
    .bind (genuine_block hexpr hself) fun _ hbody => .bind (genuine_elseBlock hexpr hself) fun _ horelse =>
      .pure (.forStmt isAsync htarget hsource hbody horelse)

/-- All that a clause that catches errors holds is genuine. -/
abbrev HandlerGenuine (h : Handler) : Prop := (∀ e ∈ h.type, e.Genuine) ∧ ∀ st ∈ h.body, st.Genuine

theorem genuine_handler (star : Bool) : Gives HandlerGenuine (handler expr self star) := by
  have hbody := genuine_block hexpr hself
  refine .after fun _ => .ite (.bind hbody fun _ h => .pure ⟨nofun, h⟩) ?_
  exact .bind (hexpr _) fun type htype => .after fun n => .bind hbody fun _ h => .pure ⟨Finds.some htype, h⟩

theorem genuine_tryStmt : GivesStmt (tryStmt expr self) := by
  have hblock := genuine_block hexpr hself
  refine .bind hblock fun body hbody => .after fun tokens => .after fun tokens' => ?_
  refine .bind (.many (genuine_handler hexpr hself _)) fun handlers hhandlers => ?_
  have hfinal : ∀ (star : Bool) (orelse : List Stmt) (final : Option (List Stmt)), (∀ st ∈ orelse, st.Genuine) →
      Finds (fun block => ∀ st ∈ block, st.Genuine) final →
      GivesStmt (if handlers.isEmpty && final.isNone then failure
        else return .tryStmt star body handlers orelse (final.getD [])) := by
    refine fun star orelse final horelse hfinal => .ite .failure (.pure ?_)
    refine .tryStmt star hbody (fun h hh => (hhandlers h hh).1) (fun h hh => (hhandlers h hh).2) horelse ?_
    cases final with
    | none => simp
    | some block => exact hfinal block rfl
  have horelse : ∀ (star : Bool) (orelse : List Stmt), (∀ st ∈ orelse, st.Genuine) → GivesStmt (do
      let final ← if ← takeKeyword "finally" then some <$> block expr self else pure none
      if handlers.isEmpty && final.isNone then failure
      else return .tryStmt star body handlers orelse (final.getD [])) := fun star orelse horelse =>
    .after fun _ => .optional hblock fun final h => hfinal star orelse final horelse h
  refine .ite ?_ ?_
  · exact .bind (.pure (by simp)) fun orelse h => horelse _ orelse h
  · exact .bind (genuine_elseBlock hexpr hself) fun orelse h => horelse _ orelse h

theorem genuine_withStmt (isAsync : Bool) : GivesStmt (withStmt expr self isAsync) :=
  .bind (.orElse (genuine_groupedWithItems hexpr) (.commaSeparated (genuine_withItem hexpr))) fun _ hitems =>
    .bind (genuine_block hexpr hself) fun _ hbody => .pure (.withStmt isAsync hitems hbody)

theorem genuine_functionDef (isAsync : Bool) {decorators : List Expr} (hdecorators : ∀ e ∈ decorators, e.Genuine) :
    GivesStmt (functionDef expr self isAsync decorators) := by
  refine .after fun n => .after fun _ => .bind (genuine_paramList hexpr true ")") fun params hparams => ?_
  refine .after fun _ => .after fun _ => .optional (hexpr _) fun returns hreturns => ?_
  exact .bind (genuine_block hexpr hself) fun body hbody =>
    .pure (.functionDef isAsync n hparams hbody hdecorators hreturns)

theorem genuine_classDef {decorators : List Expr} (hdecorators : ∀ e ∈ decorators, e.Genuine) :
    GivesStmt (classDef expr self decorators) := by
  have hrest : ∀ (n : String) (given : ArgState), ArgsGenuine given → GivesStmt (if given.lone then failure
      else return .classDef n given.args given.keywords (← block expr self) decorators) := fun n given hgiven =>
    .ite .failure (.bind (genuine_block hexpr hself) fun _ hbody =>
      .pure (.classDef n hgiven.1 hgiven.2 hbody hdecorators))
  refine .after fun n => .after fun _ => .ite ?_ ?_
  · exact .bind (genuine_arguments hexpr) fun given hgiven => hrest n given hgiven
  · exact .bind (.pure ⟨by simp, by simp⟩) fun given hgiven => hrest n given hgiven

omit hself in
theorem genuine_decorator : GivesGenuine (decorator expr) :=
  .bind (hexpr _) fun _ he => .after fun _ => .pure he

theorem genuine_decorated : GivesStmt (decorated expr self) := by
  refine .bind (.many (genuine_decorator hexpr)) fun decorators hdecorators => .after fun _ => .ite ?_ ?_
  · exact genuine_functionDef hexpr hself false hdecorators
  · refine .after fun _ => .ite (genuine_classDef hexpr hself hdecorators) (.after fun _ => .after fun _ => ?_)
    exact genuine_functionDef hexpr hself true hdecorators

theorem genuine_asyncStmt : GivesStmt (asyncStmt expr self) := by
  refine .after fun _ => .ite (genuine_functionDef hexpr hself true (List.forall_mem_nil _)) ?_
  refine .after fun _ => .ite (genuine_forStmt hexpr hself true) (.after fun _ => ?_)
  exact genuine_withStmt hexpr hself true

/-- All that a case of a match statement holds is genuine. -/
abbrev CaseGenuine (c : Case) : Prop :=
  c.pattern.Genuine ∧ (∀ e ∈ c.guard, e.Genuine) ∧ ∀ st ∈ c.body, st.Genuine

theorem genuine_matchCase [Host] (fuel : Nat) : Gives CaseGenuine (matchCase expr self fuel) := by
  refine .bind (genuine_casePattern (genuine_pattern hexpr fuel)) fun p hp => .after fun _ => ?_
  refine .optional (hexpr _) fun guard hguard => .bind (genuine_block hexpr hself) fun body hbody => ?_
  exact .pure ⟨hp, hguard, hbody⟩

theorem genuine_matchStmt [Host] (fuel : Nat) : GivesStmt (matchStmt expr self fuel) := by
  refine .after fun _ => .bind (genuine_starList hexpr (hexpr _)) fun subject hsubject => ?_
  split
  · exact .failure
  · refine .after fun _ => .after fun _ => .after fun _ => ?_
    refine .bind (.many (genuine_matchCase hexpr hself fuel)) fun cases hcases => ?_
    refine .after fun _ => .ite .failure (.pure (.matchStmt hsubject ?_ ?_ ?_))
    · exact fun c hc => (hcases c hc).1
    · exact fun c hc => (hcases c hc).2.1
    · exact fun c hc => (hcases c hc).2.2

theorem genuine_compoundStmt (word : String) : GivesStmt (compoundStmt expr self word) := by
  unfold compoundStmt
  split
  · exact genuine_ifStmt hexpr hself
  · exact genuine_whileStmt hexpr hself
  · exact genuine_forStmt hexpr hself false
  · exact genuine_tryStmt hexpr hself
  · exact genuine_withStmt hexpr hself false
  · exact genuine_functionDef hexpr hself false (List.forall_mem_nil _)
  · exact genuine_classDef hexpr hself (List.forall_mem_nil _)
  · exact genuine_asyncStmt hexpr hself
  · exact .failure

/-! ## Program texts -/

theorem genuine_statementRule [Host] (fuel : Nat) : GivesStmts (statementRule expr fuel self) := by
  have hone : ∀ {p : Parse Stmt}, GivesStmt p → GivesStmts (do return [← p]) := fun hp =>
    .bind hp fun _ hst => .pure (List.forall_mem_singleton.2 hst)
  refine .get fun tokens htokens => ?_
  split
  · exact .ite (.set htokens.rest (hone (genuine_compoundStmt hexpr hself _))) (genuine_simpleLine hexpr)
  · exact hone (genuine_decorated hexpr hself)
  · exact .orElse (hone (genuine_matchStmt hexpr hself fuel)) (genuine_simpleLine hexpr)
  · exact genuine_simpleLine hexpr

end

theorem genuine_statement [Host] {expr : Rec} (hexpr : ∀ precedence, GivesGenuine (expr precedence)) (fuel : Nat) :
    ∀ depth : Nat, GivesStmts (statement expr fuel depth)
  | 0 => .failure
  | depth + 1 => genuine_statementRule hexpr (genuine_statement hexpr fuel depth) fuel

/-- All statements of a program text are genuine. -/
theorem genuine_parse? [Host] {source : String} {body : List Stmt} (h : parse? source = some body) :
    ∀ st ∈ body, st.Genuine := by
  have hmodule : ∀ fuel, GivesStmts (moduleBody fuel) := by
    refine fun fuel => .bind (.many (genuine_statement (genuine_expression fuel) fuel fuel)) fun stmts hstmts => ?_
    refine .pure fun st hst => ?_
    obtain ⟨line, hline, hst⟩ := List.mem_flatten.1 hst
    exact hstmts line hline st hst
  have hparse : Finds (fun body => ∀ st ∈ body, st.Genuine) (parse? source) := by
    refine .bind (Token.plain_scan _) fun tokens htokens => ?_
    exact .bind (hmodule _ tokens htokens) fun ⟨stmts, _⟩ hstmts => .some hstmts.1
  exact hparse body h

/-- All statements of a program text are spelled. -/
theorem spelled_parse? [Host] {source : String} {body : List Stmt} (h : parse? source = some body) :
    ∀ st ∈ body, st.Spelled := fun st hst => (genuine_parse? h st hst).spelled

end Grammar

end Treewalk
