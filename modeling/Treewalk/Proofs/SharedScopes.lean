/-
Shared frame stacks against environments. An environment has one stack, and the end of a call cuts it back to what it was;
with shared stacks the end of a call brings another stack back. The two show the same names as long as calls end in the
reverse order of their starts and no call pops a frame that it did not push, which is how evaluation goes about it.

The invariant is that the calls that run divide the current stack: each of them has frames of its own on top of the stack
that it brings back, and that stack is not the current one, so nothing that is pushed or popped reaches it.
-/
import Treewalk.Proofs.Scope
import Treewalk.Scope.Shared

namespace Treewalk

/-! ## Histories -/

/-- What is done to scopes. -/
inductive ScopeAct where
  | update (name : String) (value : Value)
  | erase (name : String)
  | push
  | pop
  | enter (locals : Bindings Value) (target : ExitPoint)
  | leave

/-- An environment and the calls that run, from the innermost on. -/
structure Nesting where
  env : Environment
  calls : List SavedCall

namespace Nesting

/-- What cannot be done changes nothing. -/
def act (r : Nesting) : ScopeAct → Nesting
  | .update name value => { r with env := r.env.update name value }
  | .erase name => { r with env := (r.env.erase? name).getD r.env }
  | .push => { r with env := r.env.pushFrame }
  | .pop =>
    match r.env.popFrame with
    | .ok (_, env) => { r with env := env }
    | .error _ => r
  | .enter locals target =>
    let (saved, env) := r.env.enterCall locals target
    ⟨env, saved :: r.calls⟩
  | .leave =>
    match r.calls with
    | [] => r
    | saved :: rest => ⟨r.env.restore saved, rest⟩

/-- Only a frame that was pushed in the innermost call is popped. -/
def Allows (r : Nesting) : ScopeAct → Prop
  | .pop => ∀ saved ∈ r.calls.head?, saved.depth + 1 < r.env.frames.length
  | _ => True

def Disciplined : Nesting → List ScopeAct → Prop
  | _, [] => True
  | r, a :: rest => r.Allows a ∧ (r.act a).Disciplined rest

end Nesting

/-- The same with shared stacks, where a running call is known by the number to restore. -/
structure SharedNesting where
  scopes : SharedScopes
  calls : List Nat

def SharedNesting.act (r : SharedNesting) : ScopeAct → SharedNesting
  | .update name value => { r with scopes := r.scopes.update name value }
  | .erase name => { r with scopes := (r.scopes.erase? name).getD r.scopes }
  | .push => { r with scopes := r.scopes.pushFrame }
  | .pop =>
    match r.scopes.popFrame with
    | .ok (_, scopes) => { r with scopes := scopes }
    | .error _ => r
  | .enter locals target =>
    let (index, scopes) := r.scopes.enterCall locals target
    ⟨scopes, index :: r.calls⟩
  | .leave =>
    match r.calls with
    | [] => r
    | index :: rest => ⟨r.scopes.restore index, rest⟩

/-! ## Changes to the top frame -/

/-- At most the global names and the top frame differ. -/
structure Environment.TopChanged (env env' : Environment) : Prop where
  tail : env'.frames.tail = env.frames.tail
  bare : env'.frames = [] ↔ env.frames = []
  returnTarget : env'.returnTarget = env.returnTarget
  flow : env'.flow = env.flow

namespace Environment

theorem topChanged_update (env : Environment) (name : String) (value : Value) :
    env.TopChanged (env.update name value) :=
  ⟨env.tail_update name value, env.update_frames_eq_nil name value, env.returnTarget_update name value,
    env.flow_update name value⟩

theorem topChanged_erase {env env' : Environment} {name : String} (h : env.erase? name = some env') :
    env.TopChanged env' := by
  obtain ⟨globals, frames, returnTarget, flow⟩ := env
  match frames with
  | [] =>
    obtain ⟨-, h⟩ := Option.ite_none_right_eq_some.1 h
    cases h
    exact ⟨rfl, Iff.rfl, rfl, rfl⟩
  | .block names :: rest =>
    obtain ⟨-, h⟩ := Option.ite_none_right_eq_some.1 h
    cases h
    exact ⟨rfl, by simp, rfl, rfl⟩
  | .call locals :: rest =>
    obtain ⟨o, -, rfl⟩ := Option.map_eq_some_iff.1 h
    exact ⟨rfl, by simp, rfl, rfl⟩

end Environment

namespace SharedScopes

variable {s s' : SharedScopes} {stack used calls : List Nat} {saves : List SavedCall}

/-- A change to the top frame is a change to the frame that all stacks know by its number. -/
theorem view_writeTop (hnodup : s.stack.Nodup) (hbounds : ∀ n ∈ s.stack, n < s.frames.size) {env : Environment}
    (h : s.view.TopChanged env) : (s.writeTop env).view = env := by
  obtain ⟨htail, hbare, htarget, hflow⟩ := h
  obtain ⟨globals, frames, returnTarget, flow⟩ := env
  cases htarget
  cases hflow
  have hframes : s.stack.map (s.writeTop ⟨globals, frames, s.returnTarget, none⟩).frame = frames := by
    cases hstack : s.stack with
    | nil =>
      have hview : s.view.frames = [] := by
        rw [view, hstack, List.map_nil]
      exact (hbare.2 hview).symm
    | cons n rest =>
      rw [hstack] at hnodup hbounds
      have hview : s.view.frames = s.frame n :: rest.map s.frame := by
        rw [view, hstack, List.map_cons]
      rw [hview] at htail hbare
      cases frames with
      | nil => exact absurd (hbare.1 rfl) nofun
      | cons top below =>
        cases htail
        have hn : n < s.frames.size := hbounds n (List.mem_cons_self ..)
        have hwritten : (s.writeTop ⟨globals, top :: rest.map s.frame, s.returnTarget, none⟩).frames =
            s.frames.setIfInBounds n top := by
          rw [writeTop, hstack]
        rw [List.map_cons, List.cons.injEq]
        constructor
        · rw [frame, hwritten]
          simp [Array.getD_eq_getD_getElem?, hn]
        · refine List.map_congr_left fun m hm => ?_
          have hne : n ≠ m := fun heq => (List.nodup_cons.1 hnodup).1 (heq ▸ hm)
          rw [frame, hwritten, frame]
          simp [Array.getD_eq_getD_getElem?, Array.getElem?_setIfInBounds_ne hne]
  show Environment.mk _ _ _ _ = _
  rw [Environment.mk.injEq]
  exact ⟨rfl, hframes, rfl, rfl⟩

/-! ## Running calls -/

/-- The calls that run over a stack, with what their ends bring back. The stack of such a call is not among those used
above it. -/
inductive Running (s : SharedScopes) : (stack used calls : List Nat) → List SavedCall → Prop
  | none {stack used : List Nat} : Running s stack used [] []
  | call {own lower used calls : List Nat} {saves : List SavedCall} {id index : Nat} {target : Option ExitPoint} :
    own ≠ [] → s.saved[index]? = some (id, target) → s.stackTable[id]? = some lower → id ∉ used →
    Running s lower (id :: used) calls saves →
    Running s (own ++ lower) used (index :: calls) (⟨lower.length, target⟩ :: saves)

theorem Running.length (h : s.Running stack used calls saves) : calls.length = saves.length := by
  induction h with
  | none => rfl
  | call _ _ _ _ _ ih => exact congrArg Nat.succ ih

/-- Running calls go on over other scopes in which their stacks are found again, and are not used. -/
theorem Running.transfer (h : s.Running stack used calls saves) {used' : List Nat}
    (hsaved : ∀ (index : Nat) (entry : Nat × Option ExitPoint), s.saved[index]? = some entry →
      s'.saved[index]? = some entry)
    (htable : ∀ (id : Nat) (lower : List Nat), id ∉ used → s.stackTable[id]? = some lower →
      s'.stackTable[id]? = some lower ∧ id ∉ used') : s'.Running stack used' calls saves := by
  induction h generalizing used' with
  | none => exact .none
  | call hown hindex hlower hid _ ih =>
    obtain ⟨hlower', hid'⟩ := htable _ _ hid hlower
    refine .call hown (hsaved _ _ hindex) hlower' hid' (ih fun id lower hnot hfound => ?_)
    rw [List.mem_cons, not_or] at hnot ⊢
    obtain ⟨hfound', hnot'⟩ := htable id lower hnot.2 hfound
    exact ⟨hfound', hnot.1, hnot'⟩

theorem Running.push (h : s.Running stack used calls saves) (n : Nat) : s.Running (n :: stack) used calls saves := by
  cases h with
  | none => exact .none
  | call _ hindex hlower hid hrest => exact .call (List.cons_ne_nil n _) hindex hlower hid hrest

/-- The innermost call still has a frame when one that it pushed is popped. -/
theorem Running.pop {n : Nat} (h : s.Running (n :: stack) used calls saves)
    (hown : ∀ saved ∈ saves.head?, saved.depth + 1 < (n :: stack).length) : s.Running stack used calls saves := by
  generalize hwhole : n :: stack = whole at h
  cases h with
  | none => exact .none
  | @call own lower _ _ _ _ _ _ hne hindex hlower hid hrest =>
    obtain ⟨m, own, rfl⟩ := List.exists_cons_of_ne_nil hne
    obtain ⟨rfl, rfl⟩ := List.cons.inj hwhole
    have hlength : lower.length + 1 < (n :: (own ++ lower)).length := hown _ rfl
    refine .call ?_ hindex hlower hid hrest
    rintro rfl
    simp at hlength

/-! ## The simulation -/

/-- Shared scopes show what an environment holds, with the same calls running. -/
structure Shows (s : SharedScopes) (calls : List Nat) (t : Nesting) : Prop where
  shown : s.view = t.env
  nodup : s.stack.Nodup
  bounds : ∀ n ∈ s.stack, n < s.frames.size
  current : s.current < s.stackTable.size
  running : s.Running s.stack [s.current] calls t.calls

namespace Shows

variable {t : Nesting}

theorem length (h : Shows s calls t) : t.env.frames.length = s.stack.length := by
  rw [← h.shown]
  exact List.length_map ..

theorem writeTop (h : Shows s calls t) {env : Environment} (henv : t.env.TopChanged env) :
    Shows (s.writeTop env) calls { t with env := env } := by
  have hsize : (s.writeTop env).frames.size = s.frames.size := by
    unfold SharedScopes.writeTop
    dsimp only
    split
    · exact Array.size_setIfInBounds
    · rfl
  refine ⟨view_writeTop h.nodup h.bounds (h.shown ▸ henv), h.nodup, fun n hn => ?_, h.current, ?_⟩
  · rw [hsize]
    exact h.bounds n hn
  · exact h.running.transfer (fun _ _ hentry => hentry) fun _ _ hid hlower => ⟨hlower, hid⟩

end Shows

/-- A new frame changes none of the old ones. -/
theorem map_frame_push {frame : Frame} {frames : Array Frame} (hbounds : ∀ n ∈ stack, n < frames.size) :
    (frames.size :: stack).map (fun n => (frames.push frame).getD n default) =
      frame :: stack.map fun n => frames.getD n default := by
  rw [List.map_cons, List.cons.injEq]
  constructor
  · simp [Array.getD_eq_getD_getElem?]
  · refine List.map_congr_left fun n hn => ?_
    simp [Array.getD_eq_getD_getElem?, Array.getElem?_push_lt (hbounds n hn), hbounds n hn]

/-- With a new frame on top a stack still has each frame once, and only frames that exist. -/
theorem stacked_push (frame : Frame) {frames : Array Frame} (hnodup : stack.Nodup)
    (hbounds : ∀ n ∈ stack, n < frames.size) :
    (frames.size :: stack).Nodup ∧ ∀ n ∈ frames.size :: stack, n < (frames.push frame).size := by
  refine ⟨List.nodup_cons.2 ⟨fun hmem => Nat.lt_irrefl _ (hbounds _ hmem), hnodup⟩, fun n hn => ?_⟩
  rw [Array.size_push]
  rcases List.mem_cons.1 hn with rfl | hn
  · omega
  · have hlt := hbounds n hn
    omega

/-- What is found under a number is found there after a push. -/
theorem found_push {α : Type} {entries : Array α} {n : Nat} {a b : α} (h : entries[n]? = some a) :
    (entries.push b)[n]? = some a := by
  have hlt := (Array.getElem?_eq_some_iff.1 h).1
  rw [Array.getElem?_push_lt hlt, ← h, Array.getElem?_eq_getElem hlt]

theorem stack_setStack (h : s.current < s.stackTable.size) (stack : List Nat) : (s.setStack stack).stack = stack := by
  unfold SharedScopes.stack setStack
  simp [Array.getD_eq_getD_getElem?, h]

/-- Replacing the current stack replaces no other one. -/
theorem Running.setStack (h : s.Running stack [s.current] calls saves) (stack' : List Nat) :
    (s.setStack stack').Running stack [s.current] calls saves := by
  refine h.transfer (fun _ _ hentry => hentry) fun id lower hid hlower => ⟨?_, hid⟩
  have hne : s.current ≠ id := fun heq => hid (heq ▸ List.mem_singleton_self _)
  rw [SharedScopes.setStack, Array.getElem?_setIfInBounds_ne hne]
  exact hlower

namespace Shows

variable {t : Nesting}

theorem pushFrame (h : Shows s calls t) : Shows s.pushFrame calls { t with env := t.env.pushFrame } := by
  have hstack : s.pushFrame.stack = s.frames.size :: s.stack := stack_setStack h.current _
  obtain ⟨hnodup, hbounds⟩ := stacked_push (.block .empty) h.nodup h.bounds
  rw [← hstack] at hnodup hbounds
  refine ⟨?_, hnodup, hbounds, ?_, ?_⟩
  · show Environment.mk s.globals (s.pushFrame.stack.map s.pushFrame.frame) s.returnTarget none = _
    rw [hstack, ← h.shown]
    congr 1
    exact map_frame_push h.bounds
  · exact Nat.lt_of_lt_of_eq h.current Array.size_setIfInBounds.symm
  · rw [hstack]
    have hframes : ({ s with frames := s.frames.push (.block .empty) } : SharedScopes).Running s.stack [s.current]
        calls t.calls :=
      h.running.transfer (fun _ _ hentry => hentry) fun _ _ hid hlower => ⟨hlower, hid⟩
    exact (hframes.push _).setStack _

theorem popFrame (h : Shows s calls t) {n : Nat} {rest : List Nat} (hstack : s.stack = n :: rest)
    (hown : ∀ saved ∈ t.calls.head?, saved.depth + 1 < t.env.frames.length) :
    Shows (s.setStack rest) calls { t with env := { t.env with frames := t.env.frames.tail } } := by
  have hrest : (s.setStack rest).stack = rest := stack_setStack h.current _
  have hnodup := h.nodup
  have hbounds := h.bounds
  have hrunning := h.running
  rw [hstack] at hnodup hbounds hrunning
  refine ⟨?_, ?_, fun m hm => ?_, ?_, ?_⟩
  · show Environment.mk s.globals ((s.setStack rest).stack.map s.frame) s.returnTarget none = _
    rw [hrest, ← h.shown, view, hstack]
    rfl
  · rw [hrest]
    exact (List.nodup_cons.1 hnodup).2
  · rw [hrest] at hm
    exact hbounds m (List.mem_cons_of_mem _ hm)
  · exact Nat.lt_of_lt_of_eq h.current Array.size_setIfInBounds.symm
  · rw [hrest]
    rw [h.length, hstack] at hown
    exact (hrunning.pop hown).setStack _

theorem enterCall (h : Shows s calls t) (locals : Bindings Value) (target : ExitPoint) :
    Shows (s.enterCall locals target).2 ((s.enterCall locals target).1 :: calls)
      ⟨(t.env.enterCall locals target).2, (t.env.enterCall locals target).1 :: t.calls⟩ := by
  obtain ⟨env, saves⟩ := t
  obtain ⟨rfl, hnodup, hbounds, hcurrent, hrunning⟩ := h
  have hstack : (s.enterCall locals target).2.stack = s.frames.size :: s.stack := by
    show (s.stackTable.push _).getD s.stackTable.size [] = _
    simp [Array.getD_eq_getD_getElem?]
  have hfound : s.stackTable[s.current]? = some s.stack := by
    unfold stack
    simp [Array.getD_eq_getD_getElem?, hcurrent]
  obtain ⟨hnodup', hbounds'⟩ := stacked_push (.call locals) hnodup hbounds
  rw [← hstack] at hnodup' hbounds'
  refine ⟨?_, hnodup', hbounds', ?_, ?_⟩
  · show Environment.mk s.globals ((s.enterCall locals target).2.stack.map _) (some target) none = _
    rw [hstack]
    congr 1
    exact map_frame_push hbounds
  · show s.stackTable.size < (s.stackTable.push _).size
    rw [Array.size_push]
    omega
  · rw [hstack]
    have hlength : s.view.frames.length = s.stack.length := List.length_map ..
    let s' := (s.enterCall locals target).2
    have hindex : s'.saved[s.saved.size]? = some (s.current, s.returnTarget) := Array.getElem?_push_size
    have hid : s.current ∉ [s.stackTable.size] := by
      rw [List.mem_singleton]
      omega
    have hrest : s'.Running s.stack [s.current, s.stackTable.size] calls saves := by
      refine hrunning.transfer (fun _ _ hentry => found_push hentry) fun id lower hnot hlower => ?_
      have hlt : id < s.stackTable.size := (Array.getElem?_eq_some_iff.1 hlower).1
      rw [List.mem_singleton] at hnot
      refine ⟨found_push hlower, ?_⟩
      simp only [List.mem_cons, List.not_mem_nil, or_false, not_or]
      exact ⟨hnot, by omega⟩
    show s'.Running ([s.frames.size] ++ s.stack) [s.stackTable.size] (s.saved.size :: calls)
      (⟨s.view.frames.length, s.returnTarget⟩ :: saves)
    rw [hlength]
    exact .call (List.cons_ne_nil _ _) hindex (found_push hfound) hid hrest

theorem restore {index : Nat} {saved : SavedCall} {saves : List SavedCall} {env : Environment}
    (h : Shows s (index :: calls) ⟨env, saved :: saves⟩) :
    Shows (s.restore index) calls ⟨env.restore saved, saves⟩ := by
  obtain ⟨rfl, hnodup, hbounds, hcurrent, hrunning⟩ := h
  generalize hstack : s.stack = stack at hrunning
  cases hrunning with
  | @call own lower _ _ _ id _ target _ hindex hlower hid hrest =>
    rw [hstack] at hnodup hbounds
    have hrestored : s.restore index = { s with current := id, returnTarget := target } := by
      rw [SharedScopes.restore, hindex]
    have hlowered : (s.restore index).stack = lower := by
      rw [hrestored]
      show s.stackTable.getD id [] = lower
      rw [Array.getD_eq_getD_getElem?, hlower]
      rfl
    refine ⟨?_, ?_, fun n hn => ?_, ?_, ?_⟩
    · show (s.restore index).view = { s.view with
        frames := s.view.frames.drop (s.view.frames.length - lower.length), returnTarget := target }
      have hframes : s.view.frames = own.map s.frame ++ lower.map s.frame := by
        rw [view, hstack, List.map_append]
      have hdrop : s.view.frames.length - lower.length = (own.map s.frame).length := by
        rw [hframes, List.length_append, List.length_map, List.length_map]
        omega
      rw [hdrop, hframes, List.drop_left, view, hlowered, hrestored]
      rfl
    · rw [hlowered]
      exact (List.nodup_append.1 hnodup).2.1
    · rw [hlowered] at hn
      rw [hrestored]
      exact hbounds n (List.mem_append_right _ hn)
    · rw [hrestored]
      exact (Array.getElem?_eq_some_iff.1 hlower).1
    · rw [hlowered, hrestored]
      refine hrest.transfer (fun _ _ hentry => hentry) fun id' lower' hnot hfound => ⟨hfound, fun hmem => ?_⟩
      exact hnot (List.mem_singleton.1 hmem ▸ List.mem_cons_self ..)

/-- Whatever is done, both show the same afterwards. -/
theorem act {r : SharedNesting} (h : Shows r.scopes r.calls t) {a : ScopeAct} (ha : t.Allows a) :
    Shows (r.act a).scopes (r.act a).calls (t.act a) := by
  obtain ⟨s, calls⟩ := r
  have hview : s.view = t.env := h.shown
  cases a with
  | update name value =>
    rw [SharedNesting.act, SharedScopes.update, hview]
    exact h.writeTop (t.env.topChanged_update name value)
  | erase name =>
    rw [SharedNesting.act, Nesting.act, SharedScopes.erase?, hview]
    cases herased : t.env.erase? name with
    | none => exact h
    | some env => exact h.writeTop (Environment.topChanged_erase herased)
  | push => exact h.pushFrame
  | pop =>
    cases hstack : s.stack with
    | nil =>
      have hframes : t.env.frames = [] := by
        rw [← hview, view, hstack, List.map_nil]
      simp only [SharedNesting.act, Nesting.act, SharedScopes.popFrame, hview, Environment.popFrame, hframes]
      exact h
    | cons n rest =>
      have hframes : t.env.frames = s.frame n :: rest.map s.frame := by
        rw [← hview, view, hstack, List.map_cons]
      have hpopped := h.popFrame hstack ha
      simp only [SharedNesting.act, Nesting.act, SharedScopes.popFrame, hview, Environment.popFrame, hframes, hstack]
      rw [hframes] at hpopped
      exact hpopped
  | enter locals target => exact h.enterCall locals target
  | leave =>
    obtain ⟨env, saves⟩ := t
    have hlength : calls.length = saves.length := h.running.length
    cases calls with
    | nil =>
      cases saves with
      | nil => exact h
      | cons saved saves => cases hlength
    | cons index calls =>
      cases saves with
      | nil => cases hlength
      | cons saved saves => exact h.restore

theorem acts {r : SharedNesting} (h : Shows r.scopes r.calls t) {as : List ScopeAct} (has : t.Disciplined as) :
    Shows (as.foldl SharedNesting.act r).scopes (as.foldl SharedNesting.act r).calls
      (as.foldl Nesting.act t) := by
  induction as generalizing r t with
  | nil => exact h
  | cons a as ih => exact ih (h.act has.1) has.2

theorem start (globals : Bindings Value) : Shows (.ofGlobals globals) [] ⟨.ofGlobals globals, []⟩ :=
  ⟨rfl, .nil, nofun, Nat.zero_lt_one, .none⟩

end Shows

/-- After a disciplined history the current stack shows what the environment holds. -/
theorem view_acts (globals : Bindings Value) {acts : List ScopeAct}
    (h : Nesting.Disciplined ⟨.ofGlobals globals, []⟩ acts) :
    (acts.foldl SharedNesting.act ⟨.ofGlobals globals, []⟩).scopes.view =
      (acts.foldl Nesting.act ⟨.ofGlobals globals, []⟩).env :=
  (Shows.acts (r := ⟨.ofGlobals globals, []⟩) (Shows.start globals) h).shown

end SharedScopes

end Treewalk
