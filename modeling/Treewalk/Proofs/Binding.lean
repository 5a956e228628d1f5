/-
Where names come from. A run can bind a name in the global frame only if some statement of the module binds it, outside
of every function and class; what is called meanwhile, and the bodies of classes, add none. An exit out of a class body
may leave the frame of the class on the stack, and later stores go there; so the bound is kept for each frame on its
own, wherever it stands. In a checked module no such frame is left, and the attributes of a new class are the names that
its body binds.
-/
import Treewalk.Proofs.Composition
import Treewalk.Proofs.Custody

namespace Treewalk

/-! ## The names that statements bind -/

/-- The name that a store to a target binds. -/
def Expr.boundName? : Expr → Option String
  | .name id _ => some id
  | _ => none

mutual

/-- The names that a statement binds in the frame it is executed in. -/
def Stmt.boundNames : Stmt → List String
  | .assign targets _ => targets.filterMap Expr.boundName?
  | .augAssign target _ _ => target.boundName?.toList
  | .functionDef false name _ _ _ _ => [name]
  | .classDef name _ _ _ _ => [name]
  | .ifStmt _ body orelse => boundNames body ++ boundNames orelse
  | .whileStmt _ body orelse => boundNames body ++ boundNames orelse
  | _ => []

def boundNames : List Stmt → List String
  | [] => []
  | st :: rest => st.boundNames ++ boundNames rest

end

/-! ## Frames that gain names -/

/-- A table that has gained none but the given names. -/
def Bindings.Gains {α : Type} (names : List String) (b b' : Bindings α) : Prop :=
  ∀ key, b'.contains key = true → b.contains key = true ∨ key ∈ names

namespace Bindings.Gains

variable {α : Type} {names : List String} {b b' b'' : Bindings α}

theorem refl (names : List String) (b : Bindings α) : b.Gains names b := fun _ h => .inl h

theorem trans (h : b.Gains names b') (h' : b'.Gains names b'') : b.Gains names b'' := fun key hkey =>
  (h' key hkey).elim (h key) .inr

theorem insert {name : String} (hname : name ∈ names) (b : Bindings α) (value : α) :
    b.Gains names (b.insert name value) := by
  intro key hkey
  rcases (contains_insert ..).1 hkey with rfl | hkey
  · exact .inr hname
  · exact .inl hkey

end Bindings.Gains

def Frame.isCall : Frame → Bool
  | .block _ => false
  | .call _ => true

/-- The global frame has gained names only if it was on top, and then only the given ones. A frame that was on top still
stands on the frames it stood on, maybe under others, and has gained the given names only. -/
structure Grown (names : List String) (s s' : State) : Prop where
  globals : ∀ key, s'.env.globals.contains key = true →
    s.env.globals.contains key = true ∨ s.env.frames = [] ∧ key ∈ names
  frames : ∀ frame below, s.env.frames = frame :: below → ∃ strays frame', s'.env.frames = strays ++ frame' :: below ∧
    frame'.isCall = frame.isCall ∧ frame.own.Gains names frame'.own

namespace Grown

variable {names names' : List String} {s s' : State}

theorem of_frames (hglobals : s'.env.globals.keys = s.env.globals.keys) (hframes : s'.env.frames = s.env.frames) :
    Grown names s s' := by
  refine ⟨fun key hkey => ?_, fun frame below h => ⟨[], frame, hframes.trans h, rfl, .refl names _⟩⟩
  rw [Bindings.contains_eq_of_keys hglobals] at hkey
  exact .inl hkey

theorem refl (names : List String) (s : State) : Grown names s s := of_frames rfl rfl

theorem of_undisturbed (h : Undisturbed s s') : Grown names s s' := of_frames h.names h.frames

theorem trans {a b c : State} (h : Grown names a b) (h' : Grown names b c) : Grown names a c := by
  refine ⟨fun key hkey => ?_, fun frame below ha => ?_⟩
  · rcases h'.globals key hkey with hb | ⟨hb, hin⟩
    · exact h.globals key hb
    · -- If the global frame was on top at the second step, then also at the first one.
      cases ha : a.env.frames with
      | nil => exact .inr ⟨rfl, hin⟩
      | cons frame below =>
        obtain ⟨strays, frame', hb', -⟩ := h.frames frame below ha
        rw [hb] at hb'
        exact absurd hb'.symm (by simp)
  · obtain ⟨strays, frame', hb, hkind, hgains⟩ := h.frames frame below ha
    cases strays with
    | nil =>
      obtain ⟨strays', frame'', hc, hkind', hgains'⟩ := h'.frames frame' below hb
      exact ⟨strays', frame'', hc, hkind'.trans hkind, hgains.trans hgains'⟩
    | cons top rest =>
      obtain ⟨strays', top', hc, -⟩ := h'.frames top (rest ++ frame' :: below) hb
      exact ⟨strays' ++ top' :: rest, frame', by simp [hc], hkind, hgains⟩

theorem mono (h : Grown names s s') (hsub : names ⊆ names') : Grown names' s s' := by
  refine ⟨fun key hkey => (h.globals key hkey).imp id fun hin => ⟨hin.1, hsub hin.2⟩, fun frame below hs => ?_⟩
  obtain ⟨strays, frame', hs', hkind, hgains⟩ := h.frames frame below hs
  exact ⟨strays, frame', hs', hkind, fun key hkey => (hgains key hkey).imp id fun hin => hsub hin⟩

theorem update {name : String} (hname : name ∈ names) (s : State) (value : Value) :
    Grown names s { s with env := s.env.update name value } := by
  obtain ⟨⟨globals, frames, returnTarget, flow⟩, heap, nextExit, output, trace, log⟩ := s
  match frames with
  | [] =>
    refine ⟨fun key hkey => ?_, nofun⟩
    exact (Bindings.Gains.insert hname globals value key hkey).imp id fun hin => ⟨rfl, hin⟩
  | .block own :: rest =>
    refine ⟨fun _ hkey => .inl hkey, fun frame below h => ?_⟩
    cases h
    exact ⟨[], .block (own.insert name value), rfl, rfl, .insert hname own value⟩
  | .call locals :: rest =>
    refine ⟨fun key hkey => .inl ?_, fun frame below h => ?_⟩
    · rwa [← Bindings.contains_eq_of_keys (Overlay.globals_keys_insert ⟨locals, globals⟩ name value)]
    · cases h
      refine ⟨[], .call ((Overlay.mk locals globals).insert name value).locals, rfl, rfl, ?_⟩
      unfold Overlay.insert
      split
      · exact .refl names locals
      · exact .insert hname locals value

/-- Above the frame of a class, whatever happens there, the frame below it has gained nothing. -/
theorem under {classBody : List String} (h : Grown classBody { s with env := s.env.pushFrame } s') :
    Grown names s s' := by
  refine ⟨fun key hkey => .inl ((h.globals key hkey).resolve_right nofun), fun frame below hs => ?_⟩
  obtain ⟨strays, top, hs', -⟩ := h.frames _ _ rfl
  refine ⟨strays ++ [top], frame, ?_, rfl, .refl names _⟩
  rw [hs', hs]
  simp

theorem classEnd {classBody : List String} (name : String)
    (h : Grown classBody { s with env := s.env.pushFrame } s') :
    s'.env.frames ≠ [] ∧ Grown [name] s (Eval.classState name s') := by
  obtain ⟨strays, top, hs', -⟩ := h.frames _ _ rfl
  let popped : State := { s' with env := { s'.env with frames := s'.env.frames.tail } }
  -- Whichever frame is taken off, the one that was on top before the class is still there.
  have hpopped : Grown [name] s popped := by
    refine ⟨(under h).globals, fun frame below hs => ⟨(strays ++ [top]).tail, frame, ?_, rfl, .refl _ _⟩⟩
    show s'.env.frames.tail = _
    rw [hs', hs]
    cases strays <;> simp
  refine ⟨by rw [hs']; simp, hpopped.trans ?_⟩
  obtain ⟨hglobals, hframes⟩ := update (List.mem_singleton.2 rfl) popped (.cls name s'.heap.maps.size)
  exact ⟨hglobals, hframes⟩

end Grown

/-! ## Evaluation binds what its statements bind -/

namespace Eval

open Contract

/-- From every state, the frame on top gains none but the given names. -/
def growing (names : List String) : Contract where
  pre _ := True
  ok := Grown names
  bad s _ s' := Grown names s s'
  refl _ := .refl names _
  keep _ _ := trivial
  trans := .trans
  early := .trans

section

variable {α : Type} {V : α → Prop} {x : Eval α} {names names' : List String}

theorem Contract.Met.grown_after (h : (growing names).Met V x) (s : State) : Grown names s (after x s) := by
  cases hx : x s with
  | ok a s' =>
    rw [after_ok hx]
    exact (h.of_ok trivial hx).2
  | error i s' =>
    rw [after_error hx]
    exact h.of_error trivial hx

theorem Contract.Met.widen (h : (growing names).Met V x) (hsub : names ⊆ names') : (growing names').Met V x :=
  h.mono (fun _ _ => trivial) (fun _ _ _ hok => hok.mono hsub) fun _ _ _ _ hbad => hbad.mono hsub

/-- Expressions bind nothing. -/
theorem grows_expression (h : Kept .expression V x) : (growing names).Met V x :=
  h.mono (fun _ _ => trivial) (fun _ _ _ hok => .of_undisturbed hok) fun _ _ _ _ hbad => .of_undisturbed hbad.2

theorem grows_fail {e : EvalError} : (growing names).Met V (fail e : Eval α) := .throw fun s _ => .refl names s

theorem grows_ofText {α : Type} {text : Except Unwritable α} : (growing names).Met (fun _ => True) (ofText text) :=
  .ofText fun _ s _ => .refl names s

theorem grows_update {name : String} (hname : name ∈ names) (v : Value) :
    (growing names).Met (fun _ => True) (update name v) :=
  .modifyGet fun s _ => ⟨trivial, .update hname s v⟩

end

section

variable {names : List String} {test : Eval Bool} {body orelse : Eval Unit}

theorem grows_round (breakTo : ExitPoint) (h : (growing names).Met (fun _ => True) (turn test body orelse)) :
    (growing names).Met (fun _ => True) (round breakTo test body orelse) := by
  intro s _
  have hstart : Grown names s (roundState breakTo s) := .of_frames rfl rfl
  rw [round_apply]
  cases ht : turn test body orelse (roundState breakTo s) with
  | ok again s' =>
    rw [handle_ok ht]
    exact ⟨trivial, hstart.trans (h.of_ok trivial ht).2⟩
  | error i s' =>
    have hend := hstart.trans (h.of_error trivial ht)
    rw [handle_error ht]
    rcases catchExit_cases breakTo ⟨"continue", s.nextExit⟩ i with ⟨again, hc⟩ | hc
    · rw [hc]
      exact ⟨trivial, hend⟩
    · rw [hc]
      exact hend

theorem grows_loop (limit : Nat) (h : (growing names).Met (fun _ => True) (turn test body orelse)) :
    (growing names).Met (fun _ => True) (loop limit test body orelse) := by
  have hrounds : ∀ b, (growing names).Met (fun _ => True) (rounds b test body orelse limit) := fun b =>
    .rounds (L := growing names) (fun s _ => .refl names s) (grows_round b h) limit
  -- Neither the numbers of exit points nor the current ones are names.
  have hends : ∀ s s', Grown names { s with nextExit := s.nextExit + 1 } s' → Grown names s (s'.setFlow s.env.flow) :=
    fun _ _ hs => ⟨hs.globals, hs.frames⟩
  exact .loop hrounds (fun _ _ => trivial) (fun s s' _ hs => hends s s' hs) fun s _ s' _ hs => hends s s' hs

theorem grows_defineClass {classBody : List String} (name : String)
    (h : (growing classBody).Met (fun _ => True) body) :
    (growing [name]).Met (fun _ => True) (defineClass name body) :=
  .defineClass h (fun _ _ => trivial) (fun _ _ _ hs => hs.classEnd name) fun _ _ _ _ hs => hs.under

end

section

variable (settings : Settings) (depth : Nat)

theorem kept_expr [Host] (e : Expr) : Kept .expression (fun _ => True) (expr (invoke settings depth) e) :=
  (confinement settings settings).expr ((confinement settings settings).invoke depth) e

theorem grows_test [Host] {names : List String} (e : Expr) :
    (growing names).Met (fun _ => True) (do truth (← expr (invoke settings depth) e)) :=
  .bind (grows_expression (kept_expr settings depth e)) fun _ _ =>
    grows_expression ((confinement settings settings).truth trivial)

theorem grows_assignTo [Host] {names : List String} (target : Expr) (v : Value)
    (hsub : target.boundName?.toList ⊆ names) : (growing names).Met (fun _ => True) (assignTo (invoke settings depth) target v) := by
  unfold assignTo
  split
  · exact grows_update (hsub (List.mem_singleton.2 rfl)) v
  · exact .bind (grows_expression (kept_expr settings depth _)) fun _ _ => grows_expression (kept_setAttr _ _ _)
  · exact .bind grows_ofText fun _ _ => grows_fail

theorem grows_assignAll [Host] {names : List String} (v : Value) : ∀ targets : List Expr,
    targets.filterMap Expr.boundName? ⊆ names →
    (growing names).Met (fun _ => True) (assignAll (invoke settings depth) v targets)
  | [], _ => .pure trivial
  | target :: rest, hsub => by
    have hfirst : target.boundName?.toList ⊆ names := by
      intro name hname
      exact hsub (List.mem_filterMap.2 ⟨target, List.mem_cons_self .., Option.mem_toList.1 hname⟩)
    have hrest : rest.filterMap Expr.boundName? ⊆ names := by
      intro name hname
      obtain ⟨t, ht, htn⟩ := List.mem_filterMap.1 hname
      exact hsub (List.mem_filterMap.2 ⟨t, List.mem_cons_of_mem _ ht, htn⟩)
    exact .bind (grows_assignTo settings depth target v hfirst) fun _ _ => grows_assignAll v rest hrest

theorem grows_augment [Host] (target : Expr) (op : Operator) (operand : Expr) :
    (growing target.boundName?.toList).Met (fun _ => True) (augment (invoke settings depth) target op operand) := by
  let D := confinement settings settings
  unfold augment
  split
  · refine .bind (grows_expression (D.lookup _)) fun old _ => ?_
    refine .bind (grows_expression (kept_expr settings depth operand)) fun v _ => ?_
    refine .bind (grows_expression (D.binary trivial trivial)) fun w _ => grows_update (List.mem_singleton.2 rfl) w
  · refine .bind (grows_expression (kept_expr settings depth _)) fun r _ => ?_
    refine .bind (grows_expression (D.readAttr trivial)) fun old _ => ?_
    refine .bind (grows_expression (kept_expr settings depth operand)) fun v _ => ?_
    exact .bind (grows_expression (D.binary trivial trivial)) fun w _ => grows_expression (kept_setAttr _ _ _)
  · exact .bind grows_ofText fun _ _ => grows_fail

mutual

theorem grows_stmt [Host] : ∀ st : Stmt,
    (growing st.boundNames).Met (fun _ => True) (stmt settings (invoke settings depth) st)
  | .expr e => by
    simp only [stmt, discard_eq_bind]
    exact .bind (grows_expression (kept_expr settings depth e)) fun _ _ => .pure trivial
  | .pass => by
    simp only [stmt]
    exact .pure trivial
  | .assert e _ => by
    simp only [stmt, ← bind_assoc]
    refine .bind (grows_test settings depth e) fun b _ => ?_
    cases b with
    | true => exact .pure trivial
    | false => exact grows_fail
  | .assign targets e => by
    simp only [stmt, Stmt.boundNames]
    refine .bind (grows_expression (kept_expr settings depth e)) fun v _ => ?_
    exact grows_assignAll settings depth v targets fun _ h => h
  | .augAssign target op e => by
    simp only [stmt, Stmt.boundNames]
    exact grows_augment settings depth target op e
  | .ifStmt e body orelse => by
    simp only [stmt, Stmt.boundNames, ← bind_assoc]
    refine .bind (grows_test settings depth e) fun b _ => ?_
    cases b with
    | true => exact (grows_block body).widen (List.subset_append_left ..)
    | false => exact (grows_block orelse).widen (List.subset_append_right ..)
  | .whileStmt e body orelse => by
    simp only [stmt, Stmt.boundNames]
    refine grows_loop _ (.turn (grows_test settings depth e) ?_ ?_)
    · exact (grows_block body).widen (List.subset_append_left ..)
    · exact (grows_block orelse).widen (List.subset_append_right ..)
  | .breakStmt _ => by
    simp only [stmt]
    exact grows_expression kept_breakOut
  | .continueStmt _ => by
    simp only [stmt]
    exact grows_expression kept_continueOn
  | .returnStmt _ (some e) => by
    simp only [stmt]
    exact .bind (grows_expression (kept_expr settings depth e)) fun v _ => grows_expression (kept_returnWith v)
  | .returnStmt _ none => by
    simp only [stmt]
    exact grows_expression (kept_returnWith _)
  | .delete _ => by
    simp only [stmt]
    exact .bind grows_ofText fun _ _ => grows_fail
  | .functionDef false name _ _ _ _ => by
    simp only [stmt, Stmt.boundNames]
    split
    · exact grows_fail
    · split
      · exact grows_fail
      · exact grows_update (List.mem_singleton.2 rfl) _
  | .classDef name _ _ body _ => by
    simp only [stmt, Stmt.boundNames]
    split
    · exact grows_fail
    · exact grows_defineClass name (grows_block body)
  | .functionDef true .. | .annAssign .. | .forStmt .. | .withStmt .. | .raise .. | .tryStmt .. | .importNames ..
  | .importFrom .. | .globalNames .. | .nonlocalNames .. | .matchStmt .. => by
    simp only [stmt]
    exact grows_fail

theorem grows_block [Host] : ∀ body : List Stmt,
    (growing (boundNames body)).Met (fun _ => True) (block settings (invoke settings depth) body)
  | [] => by
    simp only [block]
    exact .pure trivial
  | st :: rest => by
    simp only [block, boundNames]
    refine .bind (grows_expression kept_announce) fun _ _ => ?_
    refine .bind ((grows_stmt st).widen (List.subset_append_left ..)) fun _ _ => ?_
    exact (grows_block rest).widen (List.subset_append_right ..)

end

end

/-! ## Class statements -/

/-- A class statement that succeeds has run its body in a frame of its own and made the class from it. -/
theorem classDef_ok [Host] {settings : Settings} {depth : Nat} {name : String} {bases decorators : List Expr}
    {keywords : List Keyword} {body : List Stmt} {s s' : State}
    (h : stmt settings (invoke settings depth) (.classDef name bases keywords body decorators) s = .ok () s') :
    ∃ t, block settings (invoke settings depth) body { s with env := s.env.pushFrame } = .ok () t ∧
      s' = classState name t := by
  simp only [stmt] at h
  split at h
  · cases h
  · rw [defineClass_apply] at h
    cases hb : block settings (invoke settings depth) body { s with env := s.env.pushFrame } with
    | error i t =>
      rw [bind_error hb] at h
      cases h
    | ok a t =>
      have hgrown := ((grows_block settings depth body).of_ok trivial hb).2
      rw [bind_ok hb, finishClass_apply name (hgrown.classEnd name).1] at h
      cases h
      exact ⟨t, rfl, rfl⟩

/-- Behind the body of a class that passes the check, the frame on top is the one that was made for it, and it binds the
names that the body binds. -/
theorem names_of_classBody [Host] {S : Standard} (hS : S.ChecksBodies) {live : Address → Prop} {settings : Settings}
    {depth : Nat} {body : List Stmt} {s t : State} (hworld : S.WorldOk live s) (hbody : Accepted .outermost body)
    (h : block settings (invoke settings depth) body { s with env := s.env.pushFrame } = .ok () t) :
    ∀ key, t.env.top.contains key = true → key ∈ boundNames body := by
  let D := soundness settings settings hS live
  have hkept : KeptTo S live (.block .outermost) (fun _ => True) (block settings (invoke settings depth) body) :=
    D.block (D.invoke depth) .outermost body fun _ => hbody
  obtain ⟨-, -, hlevel, -⟩ := hkept.of_ok (ready_pushFrame hworld) h
  have hgrown := ((grows_block settings depth body).of_ok trivial h).2
  obtain ⟨strays, frame, hframes, hkind, hgains⟩ := hgrown.frames (.block .empty) s.env.frames rfl
  -- The frames below the top are those from before the class, so no frame was left behind.
  have hstrays : strays = [] := by
    have hbelow : t.env.frames.tail = s.env.frames := hlevel.below
    rw [hframes] at hbelow
    cases strays with
    | nil => rfl
    | cons top rest =>
      have hlength := congrArg List.length hbelow
      simp at hlength
      omega
  subst hstrays
  intro key hkey
  cases frame with
  | call locals => cases hkind
  | block names =>
    have htop : t.env.top = names := by
      unfold Environment.top
      rw [hframes]
      rfl
    rw [htop] at hkey
    exact (hgains key hkey).resolve_left nofun

end Eval

open Eval

/-- A standard that holds functions to the check is a custody. -/
def Standard.custody [Host] (S : Standard) (hS : S.ChecksBodies) (live : Address → Prop) : Custody :=
  .within S.fits live True (fun _ => True) (.of_scalar Standard.good_scalar) S.tuple S.cls S.object
    ⟨fun h => ⟨fun _ => (hS _ _ _).1 h, fun _ _ => trivial⟩, fun h => (hS _ _ _).2 (h.1 trivial)⟩

/-- A class statement has bound a new class whose attributes are names that its body binds. -/
def ClassOfNames (st : Stmt) (s : State) : Prop :=
  ∀ name bases keywords body decorators, st = .classDef name bases keywords body decorators →
    ∃ attrs, attrs + 1 = s.heap.maps.size ∧ s.env.get? name = some (.cls name attrs) ∧
      ∀ key, (s.heap.map attrs).contains key = true → key ∈ boundNames body

theorem classOfNames_of_ok [Host] {S : Standard} (hS : S.ChecksBodies) {live : Address → Prop} {settings : Settings}
    {depth : Nat} {sur : Surroundings} {st : Stmt} {s s' : State} (hworld : S.WorldOk live s)
    (hst : AcceptedStmt sur st) (h : stmt settings (invoke settings depth) st s = .ok () s') : ClassOfNames st s' := by
  rintro name bases keywords body decorators rfl
  obtain ⟨t, hbody, rfl⟩ := classDef_ok h
  refine ⟨t.heap.maps.size, ?_, Environment.get?_update .., fun key hkey => ?_⟩
  · simp [classState, Heap.alloc]
  · refine names_of_classBody hS hworld hst.classBody hbody key ?_
    simp only [classState, Heap.map_alloc, if_pos] at hkey
    exact hkey

/-- The bound on names. However the run of a module ends, each name that is then bound in the global frame was bound
before or is bound by a statement of the module outside of every function and class body, and every name bound before is
still bound. No call adds a global name, from whatever state and however deep, and neither does the body of a class. And
if the module and all functions of the world pass the check, then whenever a class statement finishes, the attributes of
the new class are names that its body binds outside of nested functions and classes. -/
theorem runModule_boundNames [Host] (settings : Settings) (file : String) (body : List Stmt) (globals : Bindings Value)
    (s : State) :
    let start : State := { s with env := .ofGlobals globals }
    let final := (runModule settings body start).2
    (∀ key, final.env.globals.contains key = true → globals.contains key = true ∨ key ∈ boundNames body) ∧
      (∀ key, globals.contains key = true → final.env.globals.contains key = true) ∧
      (∀ depth callee args t, (after (invoke settings depth callee args) t).env.globals.keys = t.env.globals.keys) ∧
      (∀ depth classBody (t : State),
        (after (block settings (invoke settings depth) classBody) { t with env := t.env.pushFrame }).env.globals.keys =
          t.env.globals.keys) ∧
      (checkModule file body = .ok () → World.BodiesChecked ⟨globals, s.heap⟩ →
        ∀ m ∈ history settings body start, ∀ name bases keywords classBody decorators,
          m.mark = .finished (.classDef name bases keywords classBody decorators) →
          ∃ attrs, attrs + 1 = m.state.heap.maps.size ∧ m.state.env.get? name = some (.cls name attrs) ∧
            ∀ key, (m.state.heap.map attrs).contains key = true → key ∈ boundNames classBody) := by
  intro start final
  let D := confinement settings settings
  have hfinal : final = after (moduleBody settings body) start := by
    show (runModule settings body start).2 = _
    unfold runModule after
    cases moduleBody settings body start <;> rfl
  refine ⟨fun key hkey => ?_, fun key hkey => ?_, fun depth callee args t => ?_, fun depth classBody t => ?_, ?_⟩
  · have hgrown := (grows_block settings settings.depth body).grown_after start
    rw [hfinal] at hkey
    exact (hgrown.globals key hkey).imp id And.right
  · rw [hfinal]
    exact (keysKept_moduleBody settings body start).globals key hkey
  · have hcall : Kept .call (fun _ => True) (invoke settings depth callee args) :=
      D.invoke depth callee args trivial fun _ _ => trivial
    exact (hcall.after t).names
  · have hbody : Kept (.block .outermost) (fun _ => True) (block settings (invoke settings depth) classBody) :=
      D.block (D.invoke depth) .outermost classBody False.elim
    exact ((hbody.after _).1.inner (by simp [Environment.pushFrame])).2.2
  · intro hchecked hworld m hm name bases keywords classBody decorators hmark
    let live := Live s.heap (World.Bound ⟨globals, s.heap⟩)
    have hS := Standard.bodies_checksBodies
    let C := Standard.bodies.custody hS live
    let L : Law settings := C.law ClassOfNames fun hs hst h =>
      classOfNames_of_ok hS ⟨hs.names.globals, hs.heap⟩ (hst trivial) h
    have hfit : ∀ v, Reachable s.heap (World.Bound ⟨globals, s.heap⟩) v → Standard.bodies.fits v := hworld
    have hstart : C.Intact () .top start := by
      refine .start (fun name v hv => ?_) (Standard.heapOk_of_reachable hfit)
      exact Standard.good_of_reachable hfit (.root ⟨name, hv⟩)
    obtain ⟨hsees, -⟩ := L.history_upholds body (r := ()) hstart fun _ => accepted_iff.2 hchecked
    exact (hsees m hm).2 _ hmark name bases keywords classBody decorators rfl

/-- A class with one attribute and one method. -/
def sampleClass : Stmt :=
  .classDef "D" [] [] [.assign [.name "x" .store] (.constant (.int 1) none),
    .functionDef false "m" (.plain ["self"]) [.assign [.name "y" .store] (.constant (.int 2) none)] [] none] []

section

attribute [local instance] Host.standard

/-- The sample class is made in the sample world, and it has no attributes but `x` and `m`. -/
theorem runModule_boundNames_sample :
    checkModule "" [sampleClass] = .ok () ∧ sampleWorld.BodiesChecked ∧
      ∃ m ∈ history ⟨false, 2, 1⟩ [sampleClass] (.start sampleWorld), m.mark = .finished sampleClass ∧
        ∃ attrs, m.state.env.get? "D" = some (.cls "D" attrs) ∧
          ∀ key, (m.state.heap.map attrs).contains key = true → key ∈ ["x", "m"] := by
  have hchecked : checkModule "" [sampleClass] = .ok () := rfl
  obtain ⟨m, hm, hmark⟩ : ∃ m ∈ history ⟨false, 2, 1⟩ [sampleClass] (.start sampleWorld),
      m.mark = .finished sampleClass := ⟨_, List.mem_of_getElem? (i := 14) rfl, rfl⟩
  have h := runModule_boundNames ⟨false, 2, 1⟩ "" [sampleClass] sampleWorld.globals (.start sampleWorld)
  obtain ⟨attrs, -, hbound, hkeys⟩ := h.2.2.2.2 hchecked sampleWorld_bodiesChecked m hm _ _ _ _ _ hmark
  exact ⟨hchecked, sampleWorld_bodiesChecked, m, hm, hmark, attrs, hbound, hkeys⟩

end

end Treewalk
