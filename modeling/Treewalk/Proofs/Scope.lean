/-
What binding a name does to tables, overlays and environments, seen through look-ups and through the lists of names. A
store changes what is seen under its own name only, and a store into a frame above the global one adds no global name.
-/
import Treewalk.Scope.Environment

namespace Treewalk

/-! ## Tables -/

namespace Bindings

variable {α : Type}

theorem contains_eq_of_keys {b b' : Bindings α} (h : b'.keys = b.keys) (name : String) :
    b'.contains name = b.contains name := by
  rw [Bool.eq_iff_iff, contains_iff_mem_keys, contains_iff_mem_keys, h]

/-- All values of a table. -/
def All (P : α → Prop) (b : Bindings α) : Prop := ∀ name value, b.get? name = some value → P value

namespace All

variable {P : α → Prop}

theorem empty : (Bindings.empty : Bindings α).All P := fun name value h => by
  rw [get?_empty] at h
  cases h

theorem insert {b : Bindings α} (hb : b.All P) {name : String} {value : α} (hv : P value) :
    (b.insert name value).All P := by
  intro key v h
  rw [get?_insert] at h
  split at h
  · cases h
    exact hv
  · exact hb key v h

theorem ofList {entries : List (String × α)} (h : ∀ entry ∈ entries, P entry.2) :
    (Bindings.ofList entries).All P := by
  suffices hf : ∀ (l : List (String × α)) (b : Bindings α), (∀ entry ∈ l, P entry.2) → b.All P →
      (l.foldl (fun b entry => b.insert entry.1 entry.2) b).All P from hf entries .empty h .empty
  intro l
  induction l with
  | nil => exact fun b _ hb => hb
  | cons entry rest ih =>
    intro b hl hb
    exact ih _ (fun e he => hl e (List.mem_cons_of_mem _ he)) (hb.insert (hl entry (List.mem_cons_self ..)))

end All

end Bindings

/-! ## Overlays -/

namespace Overlay

variable {α : Type}

theorem globals_keys_insert (o : Overlay α) (name : String) (value : α) :
    (o.insert name value).globals.keys = o.globals.keys := by
  unfold insert
  split
  · rename_i h
    simp only [Bool.and_eq_true] at h
    exact Bindings.keys_insert value h.2
  · rfl

theorem insert_all {P : α → Prop} {o : Overlay α} (hl : o.locals.All P) (hg : o.globals.All P) (name : String)
    {value : α} (hv : P value) : (o.insert name value).locals.All P ∧ (o.insert name value).globals.All P := by
  unfold insert
  split
  · exact ⟨hl, hg.insert hv⟩
  · exact ⟨hl.insert hv, hg⟩

theorem getIn_filter (keep : String → Bool) {name : String} (hk : keep name = true) :
    ∀ entries : List (String × α), Bindings.getIn (entries.filter fun entry => keep entry.1) name =
      Bindings.getIn entries name
  | [] => rfl
  | (key, value) :: rest => by
    by_cases h : key = name
    · subst h
      simp [Bindings.getIn, hk]
    · by_cases hkey : keep key = true
      · simp [Bindings.getIn, hkey, h, getIn_filter keep hk rest]
      · simp [Bindings.getIn, hkey, h, getIn_filter keep hk rest]

theorem getIn_append (name : String) (front back : List (String × α)) :
    Bindings.getIn (front ++ back) name = (Bindings.getIn front name).or (Bindings.getIn back name) := by
  induction front with
  | nil => rfl
  | cons entry rest ih =>
    by_cases h : entry.1 = name
    · simp [Bindings.getIn, h]
    · simp [Bindings.getIn, h, ih]

/-- The entries that can be seen show what the look-up finds. -/
theorem get?_flatten (o : Overlay α) (name : String) : o.flatten.get? name = o.get? name := by
  show Bindings.getIn (o.locals.entries ++ o.globals.entries.filter fun e => !o.locals.contains e.1) name =
    (o.locals.get? name).or (o.globals.get? name)
  rw [getIn_append]
  cases hl : o.locals.get? name with
  | some value =>
    have : Bindings.getIn o.locals.entries name = some value := hl
    rw [this]
    rfl
  | none =>
    have : Bindings.getIn o.locals.entries name = none := hl
    rw [this, getIn_filter (fun key => !o.locals.contains key) (by simp [Bindings.contains, hl])]
    rfl

end Overlay

/-! ## Environments -/

/-- The bindings that a frame holds itself. -/
def Frame.own : Frame → Bindings Value
  | .block names => names
  | .call locals => locals

namespace Environment

variable (env : Environment) (name : String) (value : Value)

@[simp] theorem flow_update : (env.update name value).flow = env.flow := by
  unfold update; split <;> rfl

@[simp] theorem returnTarget_update : (env.update name value).returnTarget = env.returnTarget := by
  unfold update; split <;> rfl

/-- Only the top frame is bound in. -/
@[simp] theorem tail_update : (env.update name value).frames.tail = env.frames.tail := by
  unfold update
  split
  · rfl
  · rename_i h; simp [h]
  · rename_i h; simp [h]

@[simp] theorem update_frames_eq_nil : (env.update name value).frames = [] ↔ env.frames = [] := by
  unfold update
  split
  · rfl
  · rename_i h; simp [h]
  · rename_i h; simp [h]

theorem globals_keys_update (h : env.frames ≠ []) : (env.update name value).globals.keys = env.globals.keys := by
  unfold update
  split
  · rename_i hf; exact absurd hf h
  · rfl
  · exact Overlay.globals_keys_insert _ name value

/-! ## What the top frame shows -/

theorem get?_update : (env.update name value).get? name = some value := by
  obtain ⟨globals, frames, returnTarget, flow⟩ := env
  match frames with
  | [] => simp [update, get?, Bindings.get?_insert]
  | .block names :: _ => simp [update, get?, Bindings.get?_insert]
  | .call locals :: _ =>
    simp only [update, get?, Overlay.get?, Overlay.insert]
    split
    · rename_i h
      simp only [Bool.and_eq_true, Bool.not_eq_true'] at h
      have hlocal : locals.get? name = none := by simpa [Bindings.contains] using h.1
      simp [hlocal, Bindings.get?_insert]
    · simp [Bindings.get?_insert]

theorem heads_of_head?_eq {env env' : Environment} (hf : env'.frames.head? = env.frames.head?) :
    (env'.frames = [] ∧ env.frames = []) ∨
      ∃ frame rest' rest, env'.frames = frame :: rest' ∧ env.frames = frame :: rest := by
  cases h : env.frames with
  | nil =>
    rw [h] at hf
    exact .inl ⟨List.head?_eq_none_iff.1 hf, rfl⟩
  | cons frame rest =>
    rw [h] at hf
    obtain ⟨rest', h'⟩ := List.head?_eq_some_iff.1 hf
    exact .inr ⟨frame, rest', rest, h', rfl⟩

section

variable {env' : Environment} (hg : env'.globals = env.globals) (hf : env'.frames.head? = env.frames.head?)

include hg hf

theorem get?_of_top : env'.get? name = env.get? name := by
  unfold get?
  rcases heads_of_head?_eq hf with ⟨h', h⟩ | ⟨frame, rest', rest, h', h⟩
  · rw [h', h, hg]
  · rw [h', h, hg]
    cases frame <;> rfl

theorem top_of_top : env'.top = env.top := by
  unfold top
  rcases heads_of_head?_eq hf with ⟨h', h⟩ | ⟨frame, rest', rest, h', h⟩
  · rw [h', h, hg]
  · rw [h', h, hg]
    cases frame <;> rfl

theorem update_of_top : (env'.update name value).globals = (env.update name value).globals ∧
    (env'.update name value).frames.head? = (env.update name value).frames.head? := by
  unfold update
  rcases heads_of_head?_eq hf with ⟨h', h⟩ | ⟨frame, rest', rest, h', h⟩
  · rw [h', h, hg]
    exact ⟨rfl, rfl⟩
  · rw [h', h, hg]
    cases frame with
    | block names => exact ⟨rfl, rfl⟩
    | call locals => exact ⟨rfl, rfl⟩

end

/-! ## Values in the top frame -/

/-- All values that the top frame itself holds; the global frame is not looked at. -/
def TopAll (P : Value → Prop) (env : Environment) : Prop := ∀ frame ∈ env.frames.head?, frame.own.All P

variable {env name value} {P : Value → Prop}

theorem TopAll.of_frames {env' : Environment} (h : env.TopAll P) (hf : env'.frames = env.frames) : env'.TopAll P := by
  unfold TopAll
  rw [hf]
  exact h

theorem TopAll.get? (ht : env.TopAll P) (hg : env.globals.All P) (h : env.get? name = some value) : P value := by
  obtain ⟨globals, frames, returnTarget, flow⟩ := env
  match frames with
  | [] => exact hg name value h
  | .block names :: _ => exact ht (.block names) rfl name value h
  | .call locals :: _ =>
    rcases Option.or_eq_some_iff.1 h with h | ⟨-, h⟩
    · exact ht (.call locals) rfl name value h
    · exact hg name value h

theorem TopAll.top (ht : env.TopAll P) (hg : env.globals.All P) : env.top.All P := by
  intro name value h
  refine ht.get? hg (show env.get? name = some value from ?_)
  obtain ⟨globals, frames, returnTarget, flow⟩ := env
  match frames with
  | [] => exact h
  | .block names :: _ => exact h
  | .call locals :: _ => exact (Overlay.get?_flatten ⟨locals, globals⟩ name).symm.trans h

theorem TopAll.update (ht : env.TopAll P) (hg : env.globals.All P) (name : String) (hv : P value) :
    (env.update name value).TopAll P ∧ (env.update name value).globals.All P := by
  obtain ⟨globals, frames, returnTarget, flow⟩ := env
  match frames with
  | [] => exact ⟨nofun, hg.insert hv⟩
  | .block names :: rest =>
    refine ⟨fun frame hf => ?_, hg⟩
    cases hf
    exact Bindings.All.insert (ht (.block names) rfl) hv
  | .call locals :: rest =>
    obtain ⟨hl', hg'⟩ := Overlay.insert_all (o := ⟨locals, globals⟩) (ht (.call locals) rfl) hg name hv
    refine ⟨fun frame hf => ?_, hg'⟩
    cases hf
    exact hl'

end Environment

end Treewalk
