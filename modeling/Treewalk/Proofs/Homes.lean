/-
The home of a name. A call decides at every store anew whether a name is global or its own, from what is bound at that
time. Since nothing that runs while the call is active adds a global name, the decision is always the same: it depends on
the parameters that received an argument and on the names that were global when the call started.
-/
import Treewalk.Proofs.Upholding

namespace Treewalk

open Eval

/-! ## Where a store goes -/

namespace Overlay

variable {α : Type}

/-- Whether a name is read from the global names and stored there. -/
def isGlobal (o : Overlay α) (name : String) : Bool := !o.locals.contains name && o.globals.contains name

theorem isGlobal_iff {o : Overlay α} {name : String} :
    o.isGlobal name = true ↔ o.locals.contains name = false ∧ o.globals.contains name = true := by
  simp [isGlobal]

theorem get?_of_isGlobal {o : Overlay α} {name : String} (h : o.isGlobal name = true) :
    o.get? name = o.globals.get? name := by
  have hlocal : o.locals.get? name = none := by simpa [Bindings.contains] using (isGlobal_iff.1 h).1
  rw [get?, hlocal, Option.none_or]

theorem insert_eq (o : Overlay α) (name : String) (value : α) :
    o.insert name value =
      if o.isGlobal name then ⟨o.locals, o.globals.insert name value⟩ else ⟨o.locals.insert name value, o.globals⟩ :=
  rfl

theorem locals_insert {o : Overlay α} {name : String} (h : o.isGlobal name = true) (value : α) :
    (o.insert name value).locals = o.locals := by
  rw [insert_eq, if_pos h]

theorem globals_insert {o : Overlay α} {name : String} (h : o.isGlobal name = false) (value : α) :
    (o.insert name value).globals = o.globals := by
  rw [insert_eq, if_neg (Bool.not_eq_true _ ▸ h)]

/-- A store makes a name the call's own only if it was that before or is not a global one. -/
theorem contains_locals_insert {o : Overlay α} {name key : String} {value : α}
    (h : (o.insert name value).locals.contains key = true) :
    o.locals.contains key = true ∨ o.globals.contains key = false := by
  rw [insert_eq] at h
  split at h
  · exact .inl h
  · rename_i hg
    rcases (Bindings.contains_insert ..).1 h with rfl | h
    · cases hl : o.locals.contains name with
      | true => exact .inl rfl
      | false => exact .inr (by simpa [isGlobal, hl] using hg)
    · exact .inl h

theorem contains_insert_locals {o : Overlay α} {key : String} (name : String) (value : α)
    (h : o.locals.contains key = true) : (o.insert name value).locals.contains key = true := by
  unfold insert
  split
  · exact h
  · exact (Bindings.contains_insert ..).2 (.inr h)

end Overlay

theorem Bindings.contains_ofList {α : Type} {entries : List (String × α)} {name : String} :
    (Bindings.ofList entries).contains name = true ↔ name ∈ entries.map (·.1) := by
  suffices h : ∀ (l : List (String × α)) (b : Bindings α),
      (l.foldl (fun b entry => b.insert entry.1 entry.2) b).contains name = true ↔
        b.contains name = true ∨ name ∈ l.map (·.1) by
    rw [ofList, h entries .empty]
    simp [Bindings.contains]
  intro l
  induction l with
  | nil => simp
  | cons entry rest ih =>
    intro b
    rw [List.foldl_cons, ih, contains_insert, List.map_cons, List.mem_cons]
    constructor
    · rintro ((rfl | h) | h)
      · exact .inr (.inl rfl)
      · exact .inl h
      · exact .inr (.inr h)
    · rintro (h | rfl | h)
      · exact .inl (.inr h)
      · exact .inl (.inl rfl)
      · exact .inr h

/-! ## Active calls -/

/-- The own names of a call; the frame of a class body has none. -/
def Frame.locals? : Frame → Option (Bindings Value)
  | .block _ => none
  | .call locals => some locals

/-- The own names of the active calls, from the innermost. -/
def Environment.callLocals (env : Environment) : List (Bindings Value) := env.frames.filterMap Frame.locals?

/-- The names of an active call are at home: the global names are those from its start, each of its own names received an
argument or is not global, and the parameters that received one are its own. -/
structure AtHome (globals : Bindings Value) (call : Activation) (locals : Bindings Value) : Prop where
  names : globals.keys = call.globals.keys
  own : ∀ name, locals.contains name = true → name ∈ call.received ∨ globals.contains name = false
  received : ∀ name ∈ call.received, locals.contains name = true

namespace AtHome

variable {globals globals' locals : Bindings Value} {call : Activation}

theorem of_keys (h : AtHome globals call locals) (hkeys : globals'.keys = globals.keys) :
    AtHome globals' call locals := by
  refine ⟨hkeys.trans h.names, fun name hname => ?_, h.received⟩
  rw [Bindings.contains_eq_of_keys hkeys]
  exact h.own name hname

theorem insert (h : AtHome globals call locals) (name : String) (value : Value) :
    let o := (Overlay.mk locals globals).insert name value
    AtHome o.globals call o.locals := by
  have hkeys := Overlay.globals_keys_insert ⟨locals, globals⟩ name value
  refine ⟨hkeys.trans h.names, fun key hkey => ?_, fun key hkey => ?_⟩
  · rw [Bindings.contains_eq_of_keys hkeys]
    exact (Overlay.contains_locals_insert hkey).elim (h.own key) .inr
  · exact Overlay.contains_insert_locals name value (h.received key hkey)

theorem start (name : String) (params : List String) (args : List Value) (s : State) :
    AtHome s.env.globals (.ofCall name params args s) (.ofList (params.zip args)) :=
  ⟨rfl, fun _ h => .inl (Bindings.contains_ofList.1 h), fun _ h => Bindings.contains_ofList.2 h⟩

/-- Where a name is at home can be told from the start of the call. -/
theorem isGlobal_iff (h : AtHome globals call locals) (name : String) :
    (Overlay.mk locals globals).isGlobal name = true ↔
      call.globals.contains name = true ∧ name ∉ call.received := by
  rw [Overlay.isGlobal_iff, ← Bindings.contains_eq_of_keys h.names]
  constructor
  · rintro ⟨hlocal, hglobal⟩
    refine ⟨hglobal, fun hreceived => ?_⟩
    rw [h.received name hreceived] at hlocal
    cases hlocal
  · rintro ⟨hglobal, hreceived⟩
    refine ⟨?_, hglobal⟩
    cases hlocal : locals.contains name with
    | false => rfl
    | true =>
      rcases h.own name hlocal with hr | hg
      · exact absurd hr hreceived
      · rw [hglobal] at hg
        cases hg

end AtHome

/-- The active calls are those whose frames stand, and the names of all of them are at home. -/
structure AllHome (c : Pending) (s : State) : Prop where
  count : c.running.length = s.env.callLocals.length
  home : ∀ call locals, (call, locals) ∈ c.running.zip s.env.callLocals → AtHome s.env.globals call locals

namespace AllHome

variable {c : Pending} {s s' : State}

theorem of_eq (h : AllHome c s) (hkeys : s'.env.globals.keys = s.env.globals.keys)
    (hlocals : s'.env.callLocals = s.env.callLocals) : AllHome c s' := by
  refine ⟨by rw [hlocals, h.count], fun call locals hcall => ?_⟩
  rw [hlocals] at hcall
  exact (h.home call locals hcall).of_keys hkeys

theorem update (h : AllHome c s) (name : String) (value : Value) :
    AllHome c { s with env := s.env.update name value } := by
  obtain ⟨⟨globals, frames, returnTarget, flow⟩, heap, nextExit, output, trace, log⟩ := s
  obtain ⟨held, running⟩ := c
  obtain ⟨hcount, hhome⟩ := h
  match frames with
  | [] =>
    -- Only the global frame stands, so no call is active.
    have hnone : running = [] := List.eq_nil_of_length_eq_zero hcount
    subst hnone
    exact ⟨rfl, nofun⟩
  | .block names :: rest => exact ⟨hcount, hhome⟩
  | .call locals :: rest =>
    have hkeys := Overlay.globals_keys_insert ⟨locals, globals⟩ name value
    cases running with
    | nil => cases hcount
    | cons call calls =>
      refine ⟨hcount, fun call' locals' hcall => ?_⟩
      rcases List.mem_cons.1 hcall with heq | hcall
      · cases heq
        exact (hhome call locals (List.mem_cons_self ..)).insert name value
      · exact (hhome call' locals' (List.mem_cons_of_mem _ hcall)).of_keys hkeys

theorem pushFrame (h : AllHome c s) : AllHome c { s with env := s.env.pushFrame } := ⟨h.count, h.home⟩

/-- The frame that a class statement takes off is not that of a call: as many calls are active as before the class. -/
theorem callLocals_tail (h : AllHome c s) (h' : AllHome c s')
    (hconfined : Confined { s with env := s.env.pushFrame } s') :
    s'.env.frames.tail.filterMap Frame.locals? = s'.env.callLocals := by
  obtain ⟨hne, ⟨strays, hstrays⟩, -⟩ := hconfined.inner (by simp [Environment.pushFrame])
  have hcount : s'.env.callLocals.length = s.env.callLocals.length := by
    rw [← h.count, ← h'.count]
  obtain ⟨top, hframes⟩ : ∃ top, s'.env.frames = top :: (strays ++ s.env.frames) := by
    cases hf : s'.env.frames with
    | nil => exact absurd hf hne
    | cons top rest =>
      rw [hf] at hstrays
      exact ⟨top, congrArg _ hstrays.symm⟩
  unfold Environment.callLocals at hcount ⊢
  rw [hframes] at hcount ⊢
  cases top with
  | block names => rfl
  | call locals =>
    simp [Frame.locals?] at hcount
    omega

theorem classState (name : String) (h : AllHome c s) (h' : AllHome c s')
    (hconfined : Confined { s with env := s.env.pushFrame } s') : AllHome c (classState name s') := by
  let popped : State := { s' with env := { s'.env with frames := s'.env.frames.tail } }
  have hpopped : AllHome c popped := h'.of_eq rfl (h.callLocals_tail h' hconfined)
  exact (hpopped.update name (.cls name s'.heap.maps.size)).of_eq rfl rfl

theorem callState (name : String) (params : List String) (args : List Value) (h : AllHome c s) :
    AllHome (c.enter (.ofCall name params args s)) (callState name params args s) := by
  refine ⟨congrArg Nat.succ h.count, fun call locals hcall => ?_⟩
  rcases List.mem_cons.1 hcall with heq | hcall
  · cases heq
    exact .start name params args s
  · exact h.home call locals hcall

theorem backFrom (h : AllHome c s) (hback : Undisturbed s (backFrom s s')) : AllHome c (backFrom s s') := by
  refine h.of_eq hback.names ?_
  unfold Environment.callLocals
  rw [hback.frames]

end AllHome

/-- At every moment the names of all active calls are at home, in any program and on any values. -/
def homes [Host] (settings : Settings) : Law settings :=
  { Law.idle settings with
    Holds _ := AllHome
    hold h _ := ⟨h.count, h.home⟩
    release h := ⟨h.count, h.home⟩
    quiet h hglobals hframes _ := h.of_eq (congrArg _ hglobals) (congrArg (List.filterMap _) hframes)
    lookup _ _ := trivial
    entry _ _ _ _ := trivial
    update name h _ := h.update name _
    write _ h _ _ _ := ⟨h.count, h.home⟩
    create h _ := ⟨(), trivial, ⟨h.count, h.home⟩, trivial⟩
    push h := h.pushFrame
    define name h _ h' hconfined := ⟨(), trivial, h.classState name h' hconfined⟩
    enter name params h _ := h.callState name params _
    leave h _ _ hback := h.backFrom hback
    ended _ _ _ := trivial }

/-- The active calls of a moment with their own names. -/
def Moment.calls (m : Moment) : List (Activation × Bindings Value) :=
  m.pending.running.zip m.state.env.callLocals

/-- A name's home is fixed for the life of a call. At every moment of the run of any module from any globals, the active
calls are those whose frames stand; the global names are the same as when each of them started, and each of a call's own
names is a parameter that received an argument or is not global. So at any two moments of one call a name has the same
home: if it is global at one of them, a store at the other leaves the call's own names alone, and if not, a store leaves
the global ones alone. -/
theorem history_homes [Host] (settings : Settings) (body : List Stmt) (globals : Bindings Value) (s : State) :
    let moments := history settings body { s with env := .ofGlobals globals }
    (∀ m ∈ moments, m.pending.running.length = m.state.env.callLocals.length ∧
      ∀ call locals, (call, locals) ∈ m.calls → AtHome m.state.env.globals call locals) ∧
      ∀ m ∈ moments, ∀ m' ∈ moments, ∀ call locals locals', (call, locals) ∈ m.calls → (call, locals') ∈ m'.calls →
        ∀ name,
          let o : Overlay Value := ⟨locals, m.state.env.globals⟩
          let o' : Overlay Value := ⟨locals', m'.state.env.globals⟩
          o'.isGlobal name = o.isGlobal name ∧
            (o.isGlobal name = true → o.get? name = o.globals.get? name ∧
              ∀ value, (o'.insert name value).locals = o'.locals) ∧
            (o.isGlobal name = false → ∀ value, (o'.insert name value).globals = o'.globals) := by
  intro moments
  obtain ⟨hsees, -⟩ := (homes settings).history_upholds body (r := ())
    (s := { s with env := .ofGlobals globals }) ⟨rfl, nofun⟩ False.elim
  have hhome : ∀ m ∈ moments, AllHome m.pending m.state := by
    intro m hm
    obtain ⟨⟨_, h⟩, -⟩ := hsees m hm
    exact h
  refine ⟨fun m hm => ⟨(hhome m hm).count, (hhome m hm).home⟩, ?_⟩
  intro m hm m' hm' call locals locals' hcall hcall' name o o'
  have hat : AtHome m.state.env.globals call locals := (hhome m hm).home call locals hcall
  have hat' : AtHome m'.state.env.globals call locals' := (hhome m' hm').home call locals' hcall'
  have hsame : o'.isGlobal name = o.isGlobal name := by
    rw [Bool.eq_iff_iff, hat.isGlobal_iff, hat'.isGlobal_iff]
  refine ⟨hsame, fun hglobal => ⟨Overlay.get?_of_isGlobal hglobal, ?_⟩, ?_⟩
  · exact Overlay.locals_insert (hsame.trans hglobal)
  · exact fun hlocal => Overlay.globals_insert (hsame.trans hlocal)

end Treewalk
