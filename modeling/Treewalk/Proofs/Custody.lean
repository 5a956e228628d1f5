/-
Laws about values. A custody says which values are good and which heaps hold good values only, and what the operations of
evaluation on the heap do to both. It makes a law: at every moment all values are good that evaluation holds or that any
frame binds.
-/
import Treewalk.Proofs.Upholding

namespace Treewalk

/-! ## Values in an environment -/

theorem Bindings.All.imp {α : Type} {P Q : α → Prop} {b : Bindings α} (h : b.All P) (hpq : ∀ a, P a → Q a) :
    b.All Q := fun name value hv => hpq value (h name value hv)

/-- All values that an environment binds, in the global frame or in any frame above it. -/
structure Environment.All (P : Value → Prop) (env : Environment) : Prop where
  globals : env.globals.All P
  frames : ∀ frame ∈ env.frames, frame.own.All P

namespace Environment.All

variable {env : Environment} {P Q : Value → Prop}

theorem imp (h : env.All P) (hpq : ∀ v, P v → Q v) : env.All Q :=
  ⟨h.globals.imp hpq, fun frame hf => (h.frames frame hf).imp hpq⟩

theorem top (h : env.All P) : env.TopAll P := fun frame hf => h.frames frame (List.mem_of_mem_head? hf)

theorem update (h : env.All P) (name : String) {v : Value} (hv : P v) : (env.update name v).All P := by
  obtain ⟨htop, hglobals⟩ := h.top.update h.globals name hv
  refine ⟨hglobals, fun frame hf => ?_⟩
  -- Only the top frame has changed.
  cases hframes : (env.update name v).frames with
  | nil =>
    rw [hframes] at hf
    cases hf
  | cons top rest =>
    rw [hframes] at hf
    rcases List.mem_cons.1 hf with rfl | hf
    · exact htop frame (by rw [hframes]; rfl)
    · have hrest : rest = env.frames.tail := by rw [← tail_update env name v, hframes]; rfl
      exact h.frames frame (List.mem_of_mem_tail (hrest ▸ hf))

theorem pushFrame (h : env.All P) : env.pushFrame.All P := by
  refine ⟨h.globals, fun frame hf => ?_⟩
  rcases List.mem_cons.1 hf with rfl | hf
  · exact .empty
  · exact h.frames frame hf

end Environment.All

open Eval

/-! ## Custody -/

structure Custody [Host] where
  Record : Type
  le : Record → Record → Prop
  refl : ∀ r, le r r
  trans : ∀ {r r' r'' : Record}, le r r' → le r' r'' → le r r''
  checked : Prop
  allows : Literal → Prop
  Good : Record → Value → Prop
  HeapOk : Record → Heap → Prop
  -- values
  mono : ∀ {r r' : Record} {v : Value}, le r r' → Good r v → Good r' v
  scalars : ∀ r : Record, Scalars allows (Good r)
  tuple : ∀ {r : Record} {items : List Value}, (∀ v ∈ items, Good r v) → Good r (.tuple items)
  function : ∀ {r : Record} {name : String} {params : List String} {body : List Stmt},
    (checked → Accepted .functionBody body) → (∀ l ∈ Stmt.allLiterals body, allows l) →
    Good r (.function name params body)
  accepted : ∀ {r : Record} {name : String} {params : List String} {body : List Stmt},
    Good r (.function name params body) → checked → Accepted .functionBody body
  allowed : ∀ {r : Record} {name : String} {params : List String} {body : List Stmt},
    Good r (.function name params body) → ∀ l ∈ Stmt.allLiterals body, allows l
  typeOf : ∀ {r : Record} {type : Value} {attrs : Address}, Good r (.object type attrs) → Good r type
  -- attribute maps
  entry : ∀ {r : Record} {h : Heap} {v w : Value} {a : Address} {name : String}, HeapOk r h → Good r v →
    v.ownMap? = some a → (h.map a).get? name = some w → Good r w
  write : ∀ {r : Record} {h : Heap} {v : Value} (a : Address) (name : String), HeapOk r h → Good r v →
    HeapOk r (h.write a name v)
  newObject : ∀ {r : Record} {h : Heap} {name : String} {attrs : Address}, HeapOk r h → Good r (.cls name attrs) →
    ∃ r', le r r' ∧ HeapOk r' (h.alloc (Bindings.empty.insert classAttribute (.cls name attrs))).2 ∧
      Good r' (.object (.cls name attrs) h.maps.size)
  newClass : ∀ {r : Record} {h : Heap} {attrs : Bindings Value} (name : String), HeapOk r h → attrs.All (Good r) →
    ∃ r', le r r' ∧ HeapOk r' (h.alloc attrs).2 ∧ Good r' (.cls name h.maps.size)

namespace Custody

variable [Host]

/-- Everything is good that evaluation holds, that a frame binds or that is on the heap. -/
structure Intact (C : Custody) (r : C.Record) (c : Pending) (s : State) : Prop where
  held : ∀ v ∈ c.held, C.Good r v
  names : s.env.All (C.Good r)
  heap : C.HeapOk r s.heap

variable {C : Custody} {r r' : C.Record} {c : Pending} {s s' : State}

namespace Intact

theorem start {globals : Bindings Value} (hglobals : globals.All (C.Good r)) (hheap : C.HeapOk r s.heap) :
    C.Intact r .top { s with env := .ofGlobals globals } := by
  refine ⟨fun v hv => ?_, ⟨hglobals, fun frame hf => ?_⟩, hheap⟩
  · cases hv
  · cases hf

theorem hold {vs : List Value} (h : C.Intact r c s) (hvs : ∀ v ∈ vs, C.Good r v) : C.Intact r (c.hold vs) s :=
  ⟨fun v hv => (List.mem_append.1 hv).elim (hvs v) (h.held v), h.names, h.heap⟩

theorem release {vs : List Value} (h : C.Intact r (c.hold vs) s) : C.Intact r c s :=
  ⟨fun v hv => h.held v (List.mem_append_right _ hv), h.names, h.heap⟩

theorem quiet (h : C.Intact r c s) (hglobals : s'.env.globals = s.env.globals)
    (hframes : s'.env.frames = s.env.frames) (hheap : s'.heap = s.heap) : C.Intact r c s' :=
  ⟨h.held, ⟨hglobals ▸ h.names.globals, hframes ▸ h.names.frames⟩, hheap ▸ h.heap⟩

theorem update (h : C.Intact r c s) (name : String) {v : Value} (hv : C.Good r v) :
    C.Intact r c { s with env := s.env.update name v } :=
  ⟨h.held, h.names.update name hv, h.heap⟩

/-- A new map does nothing to what there is, and the record grows with it. -/
theorem grow (h : C.Intact r c s) (hr : C.le r r') {heap : Heap} (hheap : C.HeapOk r' heap) :
    C.Intact r' c { s with heap := heap } :=
  ⟨fun v hv => C.mono hr (h.held v hv), h.names.imp fun _ => C.mono hr, hheap⟩

theorem classState (name : String) (h : C.Intact r c s) :
    ∃ r', C.le r r' ∧ C.Intact r' c (classState name s) := by
  obtain ⟨r', hr, hheap, hcls⟩ := C.newClass name h.heap (h.names.top.top h.names.globals)
  have htail : ({ s.env with frames := s.env.frames.tail } : Environment).All (C.Good r') :=
    ⟨h.names.globals.imp fun _ => C.mono hr,
      fun frame hf => (h.names.frames frame (List.mem_of_mem_tail hf)).imp fun _ => C.mono hr⟩
  exact ⟨r', hr, fun v hv => C.mono hr (h.held v hv), htail.update name hcls, hheap⟩

theorem callState {args : List Value} (name : String) (params : List String) (h : C.Intact r c s)
    (hargs : ∀ v ∈ args, C.Good r v) :
    C.Intact r (c.enter (.ofCall name params args s)) (callState name params args s) := by
  refine ⟨h.held, ⟨h.names.globals, fun frame hf => ?_⟩, h.heap⟩
  rcases List.mem_cons.1 hf with rfl | hf
  · exact .ofList fun entry he => hargs _ (List.of_mem_zip he).2
  · exact h.names.frames frame hf

/-- Behind a call the frames of the caller are back. -/
theorem backFrom {call : Activation} (h : C.Intact r c s) (hr : C.le r r') (h' : C.Intact r' (c.enter call) s')
    (hback : Undisturbed s (backFrom s s')) : C.Intact r' c (backFrom s s') := by
  refine ⟨h'.held, ⟨h'.names.globals, ?_⟩, h'.heap⟩
  rw [hback.frames]
  exact fun frame hf => (h.names.frames frame hf).imp fun _ => C.mono hr

end Intact

/-- The custody of values that fit and have their maps at live addresses. Whether a value fits does not depend on what
was done before. -/
def within (fits : Value → Prop) (live : Address → Prop) (checked : Prop) (allows : Literal → Prop)
    (scalars : Scalars allows (Value.Within fits live)) (tuple : ∀ {items : List Value}, fits (.tuple items))
    (cls : ∀ {name : String} {attrs : Address}, fits (.cls name attrs))
    (object : ∀ {name : String} {attrs own : Address}, fits (.object (.cls name attrs) own))
    (function : ∀ {name : String} {params : List String} {body : List Stmt}, fits (.function name params body) ↔
      (checked → Accepted .functionBody body) ∧ ∀ l ∈ Stmt.allLiterals body, allows l) : Custody where
  Record := Unit
  le _ _ := True
  refl _ := trivial
  trans _ _ := trivial
  checked := checked
  allows := allows
  Good _ := Value.Within fits live
  HeapOk _ := Heap.Within fits live
  mono _ h := h
  scalars _ := scalars
  tuple h := Value.within_tuple.2 ⟨tuple, Value.allWithin_iff.2 h⟩
  function hbody hliterals := by
    simp only [Value.Within]
    exact function.2 ⟨hbody, hliterals⟩
  accepted h := (function.1 h.here).1
  allowed h := (function.1 h.here).2
  typeOf h := (Value.within_object.1 h).2.2
  entry hh hv ha hw := hh.maps _ (hv.ownMap ha) _ _ hw
  write a _ hh hv := hh.write hv a
  newObject hh hcls := ⟨(), trivial, hh.alloc (Bindings.All.empty.insert hcls),
    Value.within_object.2 ⟨object, hh.fresh _ (Nat.le_refl _), hcls⟩⟩
  newClass _ hh hattrs := ⟨(), trivial, hh.alloc hattrs, Value.within_cls.2 ⟨cls, hh.fresh _ (Nat.le_refl _)⟩⟩

/-- The law that a custody makes, with something to say besides of statements that have run to their end. -/
def law (C : Custody) {settings : Settings} (Ends : Stmt → State → Prop)
    (ended : ∀ {r : C.Record} {c : Pending} {s s' : State} {depth : Nat} {sur : Surroundings} {st : Stmt},
      C.Intact r c s → (C.checked → AcceptedStmt sur st) → stmt settings (invoke settings depth) st s = .ok () s' →
      Ends st s') : Law settings where
  Record := C.Record
  le := C.le
  refl := C.refl
  trans := C.trans
  checked := C.checked
  allows := C.allows
  Good := C.Good
  Holds := C.Intact
  Ends := Ends
  mono := C.mono
  scalars := C.scalars
  tuple := C.tuple
  function := C.function
  accepted := C.accepted
  allowed := C.allowed
  typeOf := C.typeOf
  hold := .hold
  release := .release
  quiet := .quiet
  lookup h hv := h.names.top.get? h.names.globals hv
  entry h := C.entry h.heap
  update name h hv := h.update name hv
  write name h hv _ _ := ⟨h.held, h.names, C.write _ name h.heap hv⟩
  create h hcls := by
    obtain ⟨r', hr, hheap, hobj⟩ := C.newObject h.heap hcls
    exact ⟨r', hr, h.grow hr hheap, hobj⟩
  push h := ⟨h.held, h.names.pushFrame, h.heap⟩
  define name _ _ h' _ := h'.classState name
  enter name params h hargs := h.callState name params hargs
  leave := .backFrom
  ended := ended

end Custody

end Treewalk
