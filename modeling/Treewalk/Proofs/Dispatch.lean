/-
Where methods and attributes are found. A method of an object is looked up in the map of the object's class and an
attribute in the object's own map. On a well-owned heap these are different maps, so stores through objects do not change
what methods are found and stores through classes do not change what attributes are read. Over a run the class of an
object is the one whose call made the object, whoever refers to it.
-/
import Treewalk.Proofs.Ownership

namespace Treewalk

open Eval

/-! ## Stores -/

/-- An attribute that is set through a value. -/
structure Store where
  target : Value
  name : String
  value : Value

/-- Stores one after the other. -/
def storeAll (h : Heap) (stores : List Store) : Except EvalError Heap :=
  stores.foldlM (fun h store => store.target.setAttr h store.name store.value) h

theorem setAttr_of_ownMap {v : Value} {a : Address} (hv : v.ownMap? = some a) (h : Heap) (name : String)
    (value : Value) : v.setAttr h name value = .ok (h.write a name value) := by
  cases v with
  | cls _ _ | object _ _ =>
    cases hv
    rfl
  | none | bool _ | int _ | float _ | imaginary _ _ | string _ | tuple _ | function _ _ _ | foreign _ => cases hv

/-- Stores into the maps of some region succeed, and all maps outside of it stay as they are. -/
theorem storeAll_outside (region : Address → Prop) : ∀ (stores : List Store) (h : Heap),
    (∀ store ∈ stores, ∃ a, store.target.ownMap? = some a ∧ region a) →
    ∃ h', storeAll h stores = .ok h' ∧ ∀ b, ¬ region b → h'.map b = h.map b
  | [], h, _ => ⟨h, rfl, fun _ _ => rfl⟩
  | store :: rest, h, hstores => by
    obtain ⟨a, hown, ha⟩ := hstores store (List.mem_cons_self ..)
    obtain ⟨h', hrest, hsame⟩ := storeAll_outside region rest (h.write a store.name store.value)
      fun s hs => hstores s (List.mem_cons_of_mem _ hs)
    refine ⟨h', ?_, fun b hb => ?_⟩
    · rw [storeAll, List.foldlM_cons, setAttr_of_ownMap hown]
      exact hrest
    · rw [hsame b hb, Heap.map_write, if_neg]
      rintro ⟨rfl, -⟩
      exact hb ha

namespace WellOwned

variable {h : Heap} {roots : Value → Prop}

/-- Methods are found as before behind any stores through objects. -/
theorem getClassAttr_storeAll (hown : WellOwned h roots) {stores : List Store}
    (hreach : ∀ store ∈ stores, Reachable h roots store.target)
    (hobjects : ∀ store ∈ stores, ∃ type own, store.target = .object type own) :
    ∃ h', storeAll h stores = .ok h' ∧ ∀ k type own, Reachable h roots (.object type own) →
      (Value.object type own).getClassAttr h' k = (Value.object type own).getClassAttr h k := by
  let region (a : Address) : Prop := ∃ type, Reachable h roots (.object type a)
  have hregion : ∀ store ∈ stores, ∃ a, store.target.ownMap? = some a ∧ region a := by
    intro store hs
    obtain ⟨type, own, htarget⟩ := hobjects store hs
    exact ⟨own, by rw [htarget]; rfl, type, htarget ▸ hreach store hs⟩
  obtain ⟨h', hok, hsame⟩ := storeAll_outside region stores h hregion
  refine ⟨h', hok, fun k type own ho => ?_⟩
  obtain ⟨name, attrs, rfl⟩ := hown.classed type own ho
  have hmap : h'.map attrs = h.map attrs :=
    hsame attrs fun ⟨type', ho'⟩ => hown.apart name attrs type' attrs (.type ho) ho' rfl
  show Except.ok ((h'.map attrs).get? k) = .ok ((h.map attrs).get? k)
  rw [hmap]

/-- Attributes of objects are read as before behind any stores through classes. -/
theorem getAttr_storeAll (hown : WellOwned h roots) {stores : List Store}
    (hreach : ∀ store ∈ stores, Reachable h roots store.target)
    (hclasses : ∀ store ∈ stores, ∃ name attrs, store.target = .cls name attrs) :
    ∃ h', storeAll h stores = .ok h' ∧ ∀ k type own, Reachable h roots (.object type own) →
      (Value.object type own).getAttr h' k = (Value.object type own).getAttr h k := by
  let region (a : Address) : Prop := ∃ name, Reachable h roots (.cls name a)
  have hregion : ∀ store ∈ stores, ∃ a, store.target.ownMap? = some a ∧ region a := by
    intro store hs
    obtain ⟨name, attrs, htarget⟩ := hclasses store hs
    exact ⟨attrs, by rw [htarget]; rfl, name, htarget ▸ hreach store hs⟩
  obtain ⟨h', hok, hsame⟩ := storeAll_outside region stores h hregion
  refine ⟨h', hok, fun k type own ho => ?_⟩
  have hmap : h'.map own = h.map own := hsame own fun ⟨name, hc⟩ => hown.apart name own type own hc ho rfl
  show Except.ok ((h'.map own).get? k) = .ok ((h.map own).get? k)
  rw [hmap]

end WellOwned

/-! ## Look-ups -/

theorem findMethod_object (k name : String) (attrs own : Address) (s : State) :
    findMethod k (.object (.cls name attrs) own) s =
      match (s.heap.map attrs).get? k with
      | some method => .ok method s
      | none => .error (.error (.unknownMethod k)) s := by
  show (match (s.heap.map attrs).get? k with | some method => pure method | none => fail _ : Eval Value) s = _
  cases (s.heap.map attrs).get? k <;> rfl

theorem readAttr_object (k : String) (type : Value) (own : Address) (s : State) :
    readAttr k (.object type own) s =
      match (s.heap.map own).get? k with
      | some value => .ok value s
      | none => .error (.error (.unknownAttribute k)) s := by
  show (match (s.heap.map own).get? k with | some value => pure value | none => fail _ : Eval Value) s = _
  cases (s.heap.map own).get? k <;> rfl

theorem expr_methodCall [Host] (call : Caller) (e : Expr) (k : String) (ctx : Context) {args : List Expr}
    (hargs : args.any Expr.isStarred = false) :
    expr call (.call (.attribute e k ctx) args []) = (do
      let receiver ← expr call e
      let vs ← exprs call args
      let method ← findMethod k receiver
      call method (receiver :: vs)) := by
  rw [expr.eq_def]
  simp only [Expr.isPrint, hargs, List.isEmpty_nil, Bool.not_true, Bool.or_false, Bool.false_eq_true, if_false]

/-! ## Runs -/

/-- The class of an object on a registry. -/
def Registry.classOf (ω : Registry) (own : Address) : Value :=
  match ω[own]? with
  | some (.object type _) => type
  | _ => .none

/-- A run has one registry, which knows every object that a moment refers to; a new object was made at some moment by a
call of its class. -/
theorem history_registry [Host] (settings : Settings) (body : List Stmt) (globals : Bindings Value) (s : State)
    (hown : WellOwned s.heap (World.Bound ⟨globals, s.heap⟩)) :
    let moments := history settings body { s with env := .ofGlobals globals }
    ∃ ω : Registry, ∀ m ∈ moments, WellOwned m.state.heap m.Refers ∧
      ∀ type own, Reachable m.state.heap m.Refers (.object type own) → ω[own]? = some (.object type own) ∧
        (s.heap.maps.size ≤ own → ∃ m₀ ∈ moments, m₀.Creates type own) := by
  intro moments
  let L : Law settings := Registry.custody.law (fun _ _ => True) fun _ _ _ => trivial
  obtain ⟨ω₀, hω₀, hgood₀⟩ := hown.exists_registry
  have hstart : Registry.custody.Intact ω₀ .top { s with env := .ofGlobals globals } :=
    .start (fun name v hv => hgood₀ v (.root ⟨name, hv⟩)) hω₀
  obtain ⟨⟨ω₁, -, hsees⟩, hcourse⟩ := L.history_upholds_under body (r := ω₀) hstart False.elim fun _ _ => trivial
  obtain ⟨ω, hintact⟩ : ∃ ω : Registry, ∀ m ∈ moments, ∃ ω' : Registry, ω' <+: ω ∧
      Registry.custody.Intact ω' m.pending m.state := ⟨ω₁, fun m hm => (hsees m hm).1⟩
  -- Whatever a moment refers to is on the registry of the whole run.
  have howner : ∀ m ∈ moments, ∀ v a, Reachable m.state.heap m.Refers v → v.ownMap? = some a → ω[a]? = some v := by
    intro m hm v a hv ha
    obtain ⟨ω', hω', hm'⟩ := hintact m hm
    have hgood : ω'.Good v := Registry.Keeps.good_of_reachable hm'.heap (fun _ hw => hm'.refers hw) hv
    exact (hgood.mono hω').here.owner a ha
  refine ⟨ω, fun m hm => ?_⟩
  obtain ⟨ω', -, hm'⟩ := hintact m hm
  have hwell := Registry.wellOwned_of_intact hm'
  refine ⟨hwell, fun type own ho => ⟨howner m hm _ own ho rfl, fun hnew => ?_⟩⟩
  have hlt : own < (after (moduleBody settings body) { s with env := .ofGlobals globals }).heap.maps.size :=
    Nat.lt_of_lt_of_le (hwell.exists_map _ own ho rfl) (hcourse.stop m hm).size
  obtain ⟨m₀, hm₀, ⟨name, attrs, hcreates⟩ | ⟨name, hname⟩⟩ := hcourse.made own hnew hlt
  · obtain ⟨others, hheld⟩ := hcreates.held
    have hfirst : m₀.Refers (.object (.cls name attrs) own) := .inl (by rw [hheld]; exact List.mem_cons_self ..)
    have hsame := howner m₀ hm₀ _ own (.root hfirst) rfl
    rw [howner m hm _ own ho rfl] at hsame
    cases hsame
    exact ⟨m₀, hm₀, hcreates⟩
  · -- A map that was made for a class is not that of an object.
    obtain ⟨ω₁, hω₁, hm₁⟩ := hintact m₀ hm₀
    have hcls : ω₁.Good (.cls name own) := hm₁.names.top.get? hm₁.names.globals hname
    have hsame := (hcls.mono hω₁).here.owner own rfl
    rw [howner m hm _ own ho rfl] at hsame
    cases hsame

/-- Method dispatch ignores the state of objects. On every well-owned heap, any stores through objects succeed and leave
what methods are found on any object, and any stores through classes leave what attributes are read from any object.
Over the whole run of a module from well-owned globals, every object has one class: the one whose call made it, if it
was made in the run. At every moment its methods are found in the map of that class and its attributes in its own map,
which is another one, and what is not there is not found elsewhere. -/
theorem history_dispatch [Host] (settings : Settings) (body : List Stmt) (globals : Bindings Value) (s : State)
    (hown : WellOwned s.heap (World.Bound ⟨globals, s.heap⟩)) :
    (∀ (h : Heap) (roots : Value → Prop) (stores : List Store), WellOwned h roots →
      (∀ store ∈ stores, Reachable h roots store.target) →
      ((∀ store ∈ stores, ∃ type own, store.target = .object type own) →
        ∃ h', storeAll h stores = .ok h' ∧ ∀ k type own, Reachable h roots (.object type own) →
          (Value.object type own).getClassAttr h' k = (Value.object type own).getClassAttr h k) ∧
      ((∀ store ∈ stores, ∃ name attrs, store.target = .cls name attrs) →
        ∃ h', storeAll h stores = .ok h' ∧ ∀ k type own, Reachable h roots (.object type own) →
          (Value.object type own).getAttr h' k = (Value.object type own).getAttr h k)) ∧
    (let moments := history settings body { s with env := .ofGlobals globals }
      ∃ classOf : Address → Value, ∀ m ∈ moments, ∀ type own, Reachable m.state.heap m.Refers (.object type own) →
        type = classOf own ∧ (s.heap.maps.size ≤ own → ∃ m₀ ∈ moments, m₀.Creates type own) ∧
        ∃ name attrs, type = .cls name attrs ∧ attrs ≠ own ∧ ∀ k,
          (findMethod k (.object type own) m.state =
            match (m.state.heap.map attrs).get? k with
            | some method => .ok method m.state
            | none => .error (.error (.unknownMethod k)) m.state) ∧
          readAttr k (.object type own) m.state =
            match (m.state.heap.map own).get? k with
            | some value => .ok value m.state
            | none => .error (.error (.unknownAttribute k)) m.state) ∧
    ∀ (call : Caller) (e : Expr) (k : String) (ctx : Context) (args : List Expr), args.any Expr.isStarred = false →
      (expr call (.call (.attribute e k ctx) args []) = (do
        let receiver ← expr call e
        let vs ← exprs call args
        let method ← findMethod k receiver
        call method (receiver :: vs))) ∧
      expr call (.attribute e k ctx) = (do readAttr k (← expr call e)) := by
  refine ⟨fun h roots stores hwell hreach => ⟨hwell.getClassAttr_storeAll hreach, hwell.getAttr_storeAll hreach⟩, ?_, ?_⟩
  · obtain ⟨ω, hω⟩ := history_registry settings body globals s hown
    refine ⟨ω.classOf, fun m hm type own ho => ?_⟩
    obtain ⟨hwell, hobjects⟩ := hω m hm
    obtain ⟨howner, hcreated⟩ := hobjects type own ho
    obtain ⟨name, attrs, rfl⟩ := hwell.classed type own ho
    refine ⟨by rw [Registry.classOf, howner], hcreated, name, attrs, rfl, ?_, fun k => ⟨?_, ?_⟩⟩
    · exact hwell.apart name attrs (.cls name attrs) own (.type ho) ho
    · exact findMethod_object k name attrs own m.state
    · exact readAttr_object k (.cls name attrs) own m.state
  · exact fun call e k ctx args hargs => ⟨expr_methodCall call e k ctx hargs, by rw [expr]⟩

/-- Stores through the object of the sample world: over its class, and under the name of a method. -/
def sampleStores : List Store :=
  [⟨.object (.cls "C" 0) 1, classAttribute, .none⟩, ⟨.object (.cls "C" 0) 1, constructorName, .int 1⟩]

section

attribute [local instance] Host.standard

/-- The sample stores go through and leave the constructor of the object's class; and in the run of the sample module no
object changes its class. -/
theorem history_dispatch_sample :
    WellOwned sampleWorld.heap sampleWorld.Bound ∧
      (∃ h', storeAll sampleWorld.heap sampleStores = .ok h' ∧
        (Value.object (.cls "C" 0) 1).getClassAttr h' constructorName =
          (Value.object (.cls "C" 0) 1).getClassAttr sampleWorld.heap constructorName) ∧
      ∃ classOf : Address → Value, ∀ m ∈ history ⟨false, 2, 1⟩ sampleModule (.start sampleWorld), ∀ type own,
        Reachable m.state.heap m.Refers (.object type own) → type = classOf own := by
  obtain ⟨hstores, ⟨classOf, hclass⟩, -⟩ := history_dispatch ⟨false, 2, 1⟩ sampleModule sampleWorld.globals
    (.start sampleWorld) sampleWorld_wellOwned
  have hobject : Reachable sampleWorld.heap sampleWorld.Bound (.object (.cls "C" 0) 1) := .root ⟨"o", rfl⟩
  have htarget : ∀ store ∈ sampleStores, store.target = .object (.cls "C" 0) 1 := by
    intro store hs
    simp only [sampleStores, List.mem_cons, List.not_mem_nil, or_false] at hs
    rcases hs with rfl | rfl <;> rfl
  obtain ⟨h', hok, hsame⟩ := (hstores sampleWorld.heap sampleWorld.Bound sampleStores sampleWorld_wellOwned
    fun store hs => htarget store hs ▸ hobject).1 fun store hs => ⟨_, _, htarget store hs⟩
  refine ⟨sampleWorld_wellOwned, ⟨h', hok, hsame _ _ _ hobject⟩, classOf, ?_⟩
  exact fun m hm type own ho => (hclass m hm type own ho).1

end

end Treewalk
