/-
Who owns which attribute map. Maps are shared by reference and changed from everywhere, yet each of them belongs to one
class or to one object for good: whatever refers to a map refers to it as the same class, or as the same object of the
same class. A run is followed by a registry that names the owner of every map and grows when a map is made.
-/
import Treewalk.Proofs.Custody
import Treewalk.Proofs.Soundness

namespace Treewalk

open Eval

/-! ## Well-owned heaps -/

/-- What holds of the values that can be reached from some roots. That every map which is referred to exists is what it
means for an address to be one; the rest says who refers to it. -/
structure WellOwned (h : Heap) (roots : Value → Prop) : Prop where
  exists_map : ∀ v a, Reachable h roots v → v.ownMap? = some a → a < h.maps.size
  /-- The class of an object is a class. -/
  classed : ∀ type own, Reachable h roots (.object type own) → ∃ name attrs, type = .cls name attrs
  /-- No map belongs both to a class and to an object. -/
  apart : ∀ name attrs type own, Reachable h roots (.cls name attrs) → Reachable h roots (.object type own) →
    attrs ≠ own
  /-- Two classes with the same map have the same name. -/
  named : ∀ name name' attrs, Reachable h roots (.cls name attrs) → Reachable h roots (.cls name' attrs) → name = name'
  /-- Two objects with the same map have the same class. -/
  typed : ∀ type type' own, Reachable h roots (.object type own) → Reachable h roots (.object type' own) →
    type = type'
  /-- The map of an object has an entry for its class. -/
  marked : ∀ type own, Reachable h roots (.object type own) → (h.map own).contains classAttribute = true

namespace WellOwned

variable {h : Heap} {roots : Value → Prop}

/-- What fewer roots refer to is as well-owned. -/
theorem of_roots {roots' : Value → Prop} (hown : WellOwned h roots) (hroots : ∀ v, roots' v → roots v) :
    WellOwned h roots' := by
  have hreach : ∀ {v}, Reachable h roots' v → Reachable h roots v := Reachable.mono hroots
  refine ⟨?_, ?_, ?_, ?_, ?_, ?_⟩
  · exact fun v a hv => hown.exists_map v a (hreach hv)
  · exact fun type own hv => hown.classed type own (hreach hv)
  · exact fun name attrs type own hv hw => hown.apart name attrs type own (hreach hv) (hreach hw)
  · exact fun name name' attrs hv hw => hown.named name name' attrs (hreach hv) (hreach hw)
  · exact fun type type' own hv hw => hown.typed type type' own (hreach hv) (hreach hw)
  · exact fun type own hv => hown.marked type own (hreach hv)

/-- A map has one owner. -/
theorem owner_unique (hown : WellOwned h roots) {v w : Value} {a : Address} (hv : Reachable h roots v)
    (hw : Reachable h roots w) (hva : v.ownMap? = some a) (hwa : w.ownMap? = some a) : v = w := by
  cases v with
  | cls name attrs =>
    cases hva
    cases w with
    | cls name' attrs' =>
      cases hwa
      rw [hown.named name name' a hv hw]
    | object type own =>
      cases hwa
      exact absurd rfl (hown.apart name a type a hv hw)
    | none | bool _ | int _ | float _ | imaginary _ _ | string _ | tuple _ | function _ _ _ | foreign _ => cases hwa
  | object type own =>
    cases hva
    cases w with
    | cls name' attrs' =>
      cases hwa
      exact absurd rfl (hown.apart name' a type a hw hv)
    | object type' own' =>
      cases hwa
      rw [hown.typed type type' a hv hw]
    | none | bool _ | int _ | float _ | imaginary _ _ | string _ | tuple _ | function _ _ _ | foreign _ => cases hwa
  | none | bool _ | int _ | float _ | imaginary _ _ | string _ | tuple _ | function _ _ _ | foreign _ => cases hva

/-- Two objects are equal if and only if they have the same map, and the comparison never fails. -/
theorem equal_objects (hown : WellOwned h roots) {type type' : Value} {own own' : Address}
    (hv : Reachable h roots (.object type own)) (hw : Reachable h roots (.object type' own')) :
    Value.equal (.object type own) (.object type' own') = .ok (own == own') := by
  obtain ⟨name, attrs, rfl⟩ := hown.classed type own hv
  obtain ⟨name', attrs', rfl⟩ := hown.classed type' own' hw
  have hequal : Value.equal (.object (.cls name attrs) own) (.object (.cls name' attrs') own') =
      .ok (if name == name' && attrs == attrs' then own == own' else false) := by
    simp only [Value.equal]
    cases name == name' && attrs == attrs' <;> rfl
  rw [hequal]
  by_cases hown' : own = own'
  · subst hown'
    cases hown.typed _ _ own hv hw
    simp
  · simp [hown']

end WellOwned

/-! ## The registry -/

/-- The owner of every map by its address. A value that has no map stands for no owner. -/
abbrev Registry := List Value

namespace Registry

variable {ω ω' : Registry} {h : Heap}

/-- A value that owns the map it refers to; an object has a class. -/
structure Fits (ω : Registry) (v : Value) : Prop where
  owner : ∀ a, v.ownMap? = some a → ω[a]? = some v
  classed : ∀ type own, v = .object type own → ∃ name attrs, type = .cls name attrs

abbrev Good (ω : Registry) (v : Value) : Prop := v.Within ω.Fits fun _ => True

theorem fits_of_no_map {v : Value} (hv : v.ownMap? = none) : ω.Fits v := by
  refine ⟨fun a ha => ?_, fun type own hobj => ?_⟩
  · rw [hv] at ha
    cases ha
  · rw [hobj] at hv
    cases hv

theorem Fits.mono {v : Value} (hv : ω.Fits v) (hω : ω <+: ω') : ω'.Fits v := by
  obtain ⟨added, rfl⟩ := hω
  refine ⟨fun a ha => ?_, hv.classed⟩
  obtain ⟨hlt, -⟩ := List.getElem?_eq_some_iff.1 (hv.owner a ha)
  rw [List.getElem?_append_left hlt, hv.owner a ha]

theorem Good.mono {v : Value} (hv : ω.Good v) (hω : ω <+: ω') : ω'.Good v := hv.imp fun _ hw => hw.mono hω

theorem good_scalar {v : Value} (hv : v.isScalar = true) : ω.Good v := by
  cases v with
  | none | bool _ | int _ | float _ | imaginary _ _ | string _ =>
    simp only [Good, Value.Within]
    exact fits_of_no_map rfl
  | tuple _ | cls _ _ | object _ _ | function _ _ _ | foreign _ => cases hv

theorem good_tuple {items : List Value} (h : ∀ v ∈ items, ω.Good v) : ω.Good (.tuple items) :=
  Value.within_tuple.2 ⟨fits_of_no_map rfl, Value.allWithin_iff.2 h⟩

theorem good_function {name : String} {params : List String} {body : List Stmt} :
    ω.Good (.function name params body) := by
  simp only [Good, Value.Within]
  exact fits_of_no_map rfl

/-- A heap of which the registry knows all maps; the maps with an owner hold good values, and those of objects have an
entry for the class. -/
structure Keeps (ω : Registry) (h : Heap) : Prop where
  size : ω.length = h.maps.size
  entries : ∀ v a, ω[a]? = some v → v.ownMap? = some a → (h.map a).All ω.Good
  marked : ∀ type own, ω[own]? = some (.object type own) → (h.map own).contains classAttribute = true

/-- A new map gets an owner. -/
theorem Keeps.alloc (hh : ω.Keeps h) {owner : Value} {attrs : Bindings Value}
    (hattrs : attrs.All (Registry.Good (ω ++ [owner])))
    (hmarked : ∀ type own, owner = .object type own → attrs.contains classAttribute = true) :
    Registry.Keeps (ω ++ [owner]) (h.alloc attrs).2 := by
  have hlast : ∀ {a v}, (ω ++ [owner])[a]? = some v →
      a < h.maps.size ∧ ω[a]? = some v ∨ a = h.maps.size ∧ v = owner := by
    intro a v ha
    rw [← hh.size]
    rcases Nat.lt_or_ge a ω.length with hlt | hge
    · rw [List.getElem?_append_left hlt] at ha
      exact .inl ⟨hlt, ha⟩
    · rw [List.getElem?_append_right hge, List.getElem?_singleton] at ha
      split at ha
      · cases ha
        exact .inr ⟨by omega, rfl⟩
      · cases ha
  refine ⟨?_, fun v a ha hown => ?_, fun type own ho => ?_⟩
  · simp [Heap.alloc, hh.size]
  · rw [Heap.map_alloc]
    rcases hlast ha with ⟨hlt, ha⟩ | ⟨rfl, -⟩
    · rw [if_neg (Nat.ne_of_lt hlt)]
      exact (hh.entries v a ha hown).imp fun _ hw => hw.mono (List.prefix_append ..)
    · rw [if_pos rfl]
      exact hattrs
  · rw [Heap.map_alloc]
    rcases hlast ho with ⟨hlt, ho⟩ | ⟨rfl, ho⟩
    · rw [if_neg (Nat.ne_of_lt hlt)]
      exact hh.marked type own ho
    · rw [if_pos rfl]
      exact hmarked type _ ho.symm

theorem Keeps.write (hh : ω.Keeps h) (a : Address) (name : String) {v : Value} (hv : ω.Good v) :
    ω.Keeps (h.write a name v) := by
  refine ⟨?_, fun w b hb hown => ?_, fun type own ho => ?_⟩
  · simp [Heap.write, hh.size]
  · rw [Heap.map_write]
    split
    · exact (hh.entries w b hb hown).insert hv
    · exact hh.entries w b hb hown
  · exact Heap.contains_map_write a name v (hh.marked type own ho)

theorem good_new {owner : Value} (hh : ω.Keeps h) (howner : owner.ownMap? = some h.maps.size)
    (hclassed : ∀ type own, owner = .object type own → ∃ name attrs, type = .cls name attrs) :
    Registry.Fits (ω ++ [owner]) owner := by
  refine ⟨fun a ha => ?_, hclassed⟩
  rw [howner] at ha
  cases ha
  rw [← hh.size, List.getElem?_concat_length]

/-! ## Ownership is kept -/

def custody [Host] : Custody where
  Record := Registry
  le ω ω' := ω <+: ω'
  refl ω := List.prefix_refl ω
  trans := List.IsPrefix.trans
  checked := False
  allows _ := True
  Good := Good
  HeapOk := Keeps
  mono hω hv := hv.mono hω
  scalars _ := .of_scalar good_scalar
  tuple := good_tuple
  function _ _ := good_function
  accepted _ := False.elim
  allowed _ _ _ := trivial
  typeOf h := (Value.within_object.1 h).2.2
  entry hh hv ha hw := hh.entries _ _ (hv.here.owner _ ha) ha _ _ hw
  write a name hh hv := hh.write a name hv
  newObject {ω h name attrs} hh hcls := by
    have hω : ω <+: ω ++ [.object (.cls name attrs) h.maps.size] := List.prefix_append ..
    refine ⟨_, hω, hh.alloc (Bindings.All.empty.insert (hcls.mono hω)) fun _ _ _ => rfl, ?_⟩
    refine Value.within_object.2 ⟨good_new hh rfl fun _ _ hobj => ?_, trivial, hcls.mono hω⟩
    cases hobj
    exact ⟨name, attrs, rfl⟩
  newClass {ω h attrs} name hh hattrs := by
    have hω : ω <+: ω ++ [.cls name h.maps.size] := List.prefix_append ..
    refine ⟨_, hω, hh.alloc (hattrs.imp fun _ hv => hv.mono hω) nofun, ?_⟩
    exact Value.within_cls.2 ⟨good_new hh rfl nofun, trivial⟩

/-! ## From registries to well-owned heaps, and back -/

section

variable {roots : Value → Prop}

theorem Keeps.good_of_reachable (hh : ω.Keeps h) (hroots : ∀ v, roots v → ω.Good v) {v : Value}
    (hv : Reachable h roots v) : ω.Good v := by
  induction hv with
  | root hr => exact hroots _ hr
  | item _ hm ih => exact Value.allWithin_iff.1 (Value.within_tuple.1 ih).2 _ hm
  | type _ ih => exact (Value.within_object.1 ih).2.2
  | entry _ ho hg ih => exact hh.entries _ _ (ih.here.owner _ ho) ho _ _ hg

theorem Keeps.wellOwned (hh : ω.Keeps h) (hroots : ∀ v, roots v → ω.Good v) : WellOwned h roots := by
  have hfits : ∀ {v}, Reachable h roots v → ω.Fits v := fun hv => (hh.good_of_reachable hroots hv).here
  -- Whoever refers to a map is what the registry says.
  have hsame : ∀ {v w a}, Reachable h roots v → Reachable h roots w → v.ownMap? = some a → w.ownMap? = some a →
      v = w := by
    intro v w a hv hw hva hwa
    have hv' := (hfits hv).owner a hva
    rw [(hfits hw).owner a hwa] at hv'
    exact (Option.some.inj hv').symm
  refine ⟨fun v a hv ha => ?_, fun type own hv => (hfits hv).classed type own rfl, ?_, ?_, ?_, ?_⟩
  · rw [← hh.size]
    exact (List.getElem?_eq_some_iff.1 ((hfits hv).owner a ha)).1
  · rintro name attrs type own hv hw rfl
    cases hsame hv hw rfl rfl
  · intro name name' attrs hv hw
    cases hsame hv hw rfl rfl
    rfl
  · intro type type' own hv hw
    cases hsame hv hw rfl rfl
    rfl
  · exact fun type own hv => hh.marked type own ((hfits hv).owner own rfl)

end

end Registry

/-- A well-owned heap has a registry: the owner of a map is what refers to it, and a map that nothing refers to has
none. -/
theorem WellOwned.exists_registry {h : Heap} {roots : Value → Prop} (hown : WellOwned h roots) :
    ∃ ω : Registry, ω.Keeps h ∧ ∀ v, Reachable h roots v → ω.Good v := by
  have hchoice : ∀ a, ∃ v, (∀ w, Reachable h roots w → w.ownMap? = some a → v = w) ∧
      (v = .none ∨ Reachable h roots v) := by
    intro a
    by_cases hex : ∃ v, Reachable h roots v ∧ v.ownMap? = some a
    · obtain ⟨v, hv, hva⟩ := hex
      exact ⟨v, fun w hw hwa => hown.owner_unique hv hw hva hwa, .inr hv⟩
    · exact ⟨.none, fun w hw hwa => absurd ⟨w, hw, hwa⟩ hex, .inl rfl⟩
  obtain ⟨owner, howner⟩ := Classical.skolem.1 hchoice
  let ω : Registry := (List.range h.maps.size).map owner
  have hget : ∀ {a v}, ω[a]? = some v → v = owner a := by
    intro a v ha
    simp only [ω, List.getElem?_map, Option.map_eq_some_iff] at ha
    obtain ⟨b, hb, rfl⟩ := ha
    obtain ⟨hlt, hb⟩ := List.getElem?_eq_some_iff.1 hb
    rw [← hb, List.getElem_range]
  have hgood : ∀ v, Reachable h roots v → ω.Good v := by
    intro v hv
    refine hv.within (fun w hw => ⟨fun a ha => ?_, fun type own ho => ?_⟩) fun _ _ _ _ => trivial
    · have hlt := hown.exists_map w a hw ha
      simp [ω, hlt, (howner a).1 w hw ha]
    · subst ho
      exact hown.classed type own hw
  -- An owner on the registry is one that can be reached.
  have hreach : ∀ {a v}, ω[a]? = some v → v.ownMap? = some a → Reachable h roots v := by
    intro a v ha hva
    rw [hget ha] at hva ⊢
    rcases (howner a).2 with hnone | hr
    · rw [hnone] at hva
      cases hva
    · exact hr
  refine ⟨ω, ⟨by simp [ω], fun v a ha hva name w hw => ?_, fun type own ho => ?_⟩, hgood⟩
  · exact hgood w (.entry (hreach ha hva) hva hw)
  · exact hown.marked type own (hreach ho rfl)

/-! ## Runs -/

/-- What a moment refers to: the values that evaluation holds, and those that a frame binds. -/
def Moment.Refers (m : Moment) (v : Value) : Prop :=
  v ∈ m.pending.held ∨ m.state.world.Bound v ∨ ∃ frame ∈ m.state.env.frames, ∃ name, frame.own.get? name = some v

theorem Custody.Intact.refers [Host] {C : Custody} {r : C.Record} {m : Moment} (h : C.Intact r m.pending m.state)
    {v : Value} (hv : m.Refers v) : C.Good r v := by
  rcases hv with hv | ⟨name, hv⟩ | ⟨frame, hf, name, hv⟩
  · exact h.held v hv
  · exact h.names.globals name v hv
  · exact h.names.frames frame hf name v hv

theorem Registry.wellOwned_of_intact [Host] {ω : Registry} {m : Moment}
    (h : Registry.custody.Intact ω m.pending m.state) : WellOwned m.state.heap m.Refers :=
  Keeps.wellOwned h.heap fun _ hv => h.refers hv

theorem invoke_cls_apply [Host] (settings : Settings) (depth : Nat) (name : String) (attrs : Address) (args : List Value)
    (s : State) :
    let obj : Value := .object (.cls name attrs) s.heap.maps.size
    let s' := { s with heap := (s.heap.alloc (Bindings.empty.insert classAttribute (.cls name attrs))).2 }
    invoke settings (depth + 1) (.cls name attrs) args s =
      match (s'.heap.map attrs).get? constructorName with
      | some constructor => (invoke settings depth constructor (obj :: args) >>= fun _ => pure obj : Eval Value) s'
      | none => .ok obj s' := by
  intro obj s'
  have hfound : getAttr constructorName (.cls name attrs) s' =
      .ok ((s'.heap.map attrs).get? constructorName) s' := rfl
  have hobj : newObject (.cls name attrs) s = .ok obj s' := rfl
  rw [invoke, callValue, bind_ok hobj, bind_ok hfound]
  cases (s'.heap.map attrs).get? constructorName with
  | none => rfl
  | some constructor =>
    simp only [discard_eq_bind, bind_assoc, pure_bind]

/-- A call of a class that succeeds yields a new object of it, whatever the constructor does. -/
theorem invoke_cls_ok [Host] {settings : Settings} {depth : Nat} {name : String} {attrs : Address} {args : List Value}
    {s s' : State} {v : Value} (h : invoke settings depth (.cls name attrs) args s = .ok v s') :
    v = .object (.cls name attrs) s.heap.maps.size ∧ s.heap.maps.size < s'.heap.maps.size := by
  cases depth with
  | zero => cases h
  | succ depth =>
    rw [invoke_cls_apply] at h
    let t : State := { s with heap := (s.heap.alloc (Bindings.empty.insert classAttribute (.cls name attrs))).2 }
    have hsize : s.heap.maps.size < t.heap.maps.size := by simp [t, Heap.alloc]
    simp only at h
    split at h
    · rename_i constructor _
      have hkept := keysKept_invoke settings depth constructor
        (.object (.cls name attrs) s.heap.maps.size :: args) t
      cases hr : invoke settings depth constructor (.object (.cls name attrs) s.heap.maps.size :: args) t with
      | error i t' =>
        rw [bind_error hr] at h
        cases h
      | ok w t' =>
        rw [bind_ok hr] at h
        rw [after_ok hr] at hkept
        cases h
        exact ⟨rfl, Nat.lt_of_lt_of_le hsize hkept.size⟩
    · cases h
      exact ⟨rfl, hsize⟩

/-- Ownership of attribute maps. From globals that are well-owned, every moment of the run of any module is well-owned,
in all that evaluation holds and all that any frame binds, up to the moment in which the run ends or fails, and so is
the world that it leaves. Two objects are then equal exactly if their maps are the same one. No attribute map and no
table of global names loses a key on the way. And from every state, a call of a class that succeeds yields an object of
that class with a map that did not exist before the call. -/
theorem history_wellOwned [Host] (settings : Settings) (body : List Stmt) (globals : Bindings Value) (s : State)
    (hown : WellOwned s.heap (World.Bound ⟨globals, s.heap⟩)) :
    let start : State := { s with env := .ofGlobals globals }
    let moments := history settings body start
    let final := (runModule settings body start).2
    (∀ m ∈ moments, WellOwned m.state.heap m.Refers ∧
      ∀ type own type' own', Reachable m.state.heap m.Refers (.object type own) →
        Reachable m.state.heap m.Refers (.object type' own') →
        Value.equal (.object type own) (.object type' own') = .ok (own == own')) ∧
      WellOwned final.heap final.world.Bound ∧
      moments.Pairwise (fun m m' => KeysKept m.state m'.state) ∧
      ∀ depth name attrs args t t' v, invoke settings depth (.cls name attrs) args t = .ok v t' →
        v = .object (.cls name attrs) t.heap.maps.size ∧ t.heap.maps.size < t'.heap.maps.size := by
  intro start moments final
  let L : Law settings := Registry.custody.law (fun _ _ => True) fun _ _ _ => trivial
  obtain ⟨ω, hω, hgood⟩ := hown.exists_registry
  have hstart : Registry.custody.Intact ω .top start :=
    .start (fun name v hv => hgood v (.root ⟨name, hv⟩)) hω
  obtain ⟨hsees, horder⟩ := L.history_upholds body (r := ω) hstart False.elim
  have hwell : ∀ m ∈ moments, WellOwned m.state.heap m.Refers := by
    intro m hm
    obtain ⟨⟨ω', hintact⟩, -⟩ := hsees m hm
    exact Registry.wellOwned_of_intact hintact
  refine ⟨fun m hm => ⟨hwell m hm, fun _ _ _ _ hv hw => (hwell m hm).equal_objects hv hw⟩, ?_, horder, ?_⟩
  · obtain ⟨m, hm, hfinal⟩ := Option.map_eq_some_iff.1 (history_getLast settings body start)
    have hfinal' : m.state = final := hfinal
    rw [← hfinal']
    exact (hwell m (List.mem_of_getLast? hm)).of_roots fun v hv => .inr (.inl hv)
  · exact fun _ _ _ _ _ _ _ h => invoke_cls_ok h

theorem wellOwned_empty : WellOwned World.empty.heap World.empty.Bound := by
  have hempty : Registry.Keeps [] World.empty.heap := ⟨rfl, fun _ _ => nofun, fun _ _ => nofun⟩
  refine hempty.wellOwned ?_
  rintro v ⟨name, hv⟩
  cases hv

/-- The registry of the sample world: a class and an object of it. -/
def sampleRegistry : Registry := [.cls "C" 0, .object (.cls "C" 0) 1]

theorem sampleWorld_keeps :
    sampleRegistry.Keeps sampleWorld.heap ∧ ∀ v, sampleWorld.Bound v → sampleRegistry.Good v := by
  have hcls : sampleRegistry.Good (.cls "C" 0) :=
    Value.within_cls.2 ⟨⟨fun a ha => by cases ha; rfl, nofun⟩, trivial⟩
  have hobject : sampleRegistry.Good (.object (.cls "C" 0) 1) := by
    refine Value.within_object.2 ⟨⟨fun a ha => by cases ha; rfl, fun type own ho => ?_⟩, trivial, hcls⟩
    cases ho
    exact ⟨"C", 0, rfl⟩
  refine ⟨⟨rfl, fun v a ha _ => ?_, fun type own ho => ?_⟩, ?_⟩
  · match a with
    | 0 => exact .ofList fun entry he => List.mem_singleton.1 he ▸ Registry.good_function
    | 1 => exact .ofList fun entry he => List.mem_singleton.1 he ▸ hcls
    | a + 2 => cases ha
  · match own with
    | 0 => cases ho
    | 1 => rfl
    | own + 2 => cases ho
  · rintro v ⟨name, hv⟩
    refine Bindings.All.ofList (P := sampleRegistry.Good) (fun entry he => ?_) name v hv
    simp only [List.mem_cons, List.not_mem_nil, or_false] at he
    rcases he with rfl | rfl | rfl | rfl
    · exact hcls
    · exact hobject
    · refine Registry.good_tuple fun w hw => ?_
      simp only [List.mem_cons, List.not_mem_nil, or_false] at hw
      rcases hw with rfl | rfl
      · exact hcls
      · exact Registry.good_scalar rfl
    · exact Registry.good_function

theorem sampleWorld_wellOwned : WellOwned sampleWorld.heap sampleWorld.Bound :=
  sampleWorld_keeps.1.wellOwned sampleWorld_keeps.2

section

attribute [local instance] Host.standard

/-- The sample world is well-owned, and so is every moment of the sample module over it; and so is every moment of a run
that starts from nothing. -/
theorem history_wellOwned_sample :
    WellOwned sampleWorld.heap sampleWorld.Bound ∧
      (∀ m ∈ history ⟨false, 2, 1⟩ sampleModule (.start sampleWorld), WellOwned m.state.heap m.Refers) ∧
      ∀ m ∈ history ⟨false, 2, 1⟩ sampleModule (.start .empty), WellOwned m.state.heap m.Refers := by
  have hsample := history_wellOwned ⟨false, 2, 1⟩ sampleModule sampleWorld.globals (.start sampleWorld)
    sampleWorld_wellOwned
  have hempty := history_wellOwned ⟨false, 2, 1⟩ sampleModule .empty (.start .empty) wellOwned_empty
  exact ⟨sampleWorld_wellOwned, fun m hm => (hsample.1 m hm).1, fun m hm => (hempty.1 m hm).1⟩

end

end Treewalk
