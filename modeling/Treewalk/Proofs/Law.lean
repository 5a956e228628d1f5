/-
Laws of evaluation. A law says which values are good and what holds at every moment of a run, and lists what the single
steps of evaluation do to both. Evaluation then upholds it at all moments of its history, by one induction along the
evaluator, whatever program is run and however it ends. Goodness may depend on a record that is kept beside the run and
only grows, such as a record of who owns which attribute map. On the way no attribute map and no table of global names
loses a key, and no attribute map is made unseen.
-/
import Treewalk.Proofs.Confinement
import Treewalk.Proofs.History
import Treewalk.Proofs.Literals
import Treewalk.Proofs.Reachable

namespace Treewalk

/-! ## Keys -/

namespace Bindings

theorem contains_insert {α : Type} (b : Bindings α) (name key : String) (value : α) :
    (b.insert name value).contains key = true ↔ name = key ∨ b.contains key = true := by
  unfold contains
  rw [get?_insert]
  by_cases h : name = key <;> simp [h]

end Bindings

theorem Environment.contains_update_globals {env : Environment} {key : String} (name : String) (value : Value)
    (h : env.globals.contains key = true) : (env.update name value).globals.contains key = true := by
  unfold update
  split
  · exact (Bindings.contains_insert ..).2 (.inr h)
  · exact h
  · unfold Overlay.insert
    split
    · exact (Bindings.contains_insert ..).2 (.inr h)
    · exact h

theorem Heap.contains_map_write {heap : Heap} {a : Address} {key : String} (b : Address) (name : String) (value : Value)
    (h : (heap.map a).contains key = true) : ((heap.write b name value).map a).contains key = true := by
  rw [map_write]
  split
  · exact (Bindings.contains_insert ..).2 (.inr h)
  · exact h

theorem Heap.contains_map_alloc {heap : Heap} {a : Address} {key : String} (attrs : Bindings Value)
    (h : (heap.map a).contains key = true) : ((heap.alloc attrs).2.map a).contains key = true := by
  rw [map_alloc]
  split
  · rename_i ha
    rw [ha, map_of_le (Nat.le_refl _)] at h
    cases h
  · exact h

/-- No attribute map and no table of global names has lost a key. -/
structure KeysKept (s s' : State) : Prop where
  size : s.heap.maps.size ≤ s'.heap.maps.size
  maps : ∀ a key, (s.heap.map a).contains key = true → (s'.heap.map a).contains key = true
  globals : ∀ key, s.env.globals.contains key = true → s'.env.globals.contains key = true

/-- Besides, no attribute map has been made. -/
structure Steady (s s' : State) : Prop extends KeysKept s s' where
  made : s'.heap.maps.size ≤ s.heap.maps.size

namespace Steady

theorem of_eq {s s' : State} (hglobals : s'.env.globals = s.env.globals) (hheap : s'.heap = s.heap) : Steady s s' := by
  refine ⟨⟨?_, ?_, ?_⟩, ?_⟩
  · exact Nat.le_of_eq (by rw [hheap])
  · intro a key h
    rwa [hheap]
  · intro key h
    rwa [hglobals]
  · exact Nat.le_of_eq (by rw [hheap])

theorem refl (s : State) : Steady s s := of_eq rfl rfl

theorem update (s : State) (name : String) (value : Value) : Steady s { s with env := s.env.update name value } :=
  ⟨⟨Nat.le_refl _, fun _ _ h => h, fun _ h => Environment.contains_update_globals name value h⟩, Nat.le_refl _⟩

theorem write (s : State) (a : Address) (name : String) (value : Value) :
    Steady s { s with heap := s.heap.write a name value } :=
  ⟨⟨by simp [Heap.write], fun _ _ h => Heap.contains_map_write a name value h, fun _ h => h⟩, by simp [Heap.write]⟩

end Steady

namespace KeysKept

theorem trans {a b c : State} (h : KeysKept a b) (h' : KeysKept b c) : KeysKept a c :=
  ⟨Nat.le_trans h.size h'.size, fun a key hk => h'.maps a key (h.maps a key hk),
    fun key hk => h'.globals key (h.globals key hk)⟩

theorem refl (s : State) : KeysKept s s := (Steady.refl s).toKeysKept

theorem alloc (s : State) (attrs : Bindings Value) : KeysKept s { s with heap := (s.heap.alloc attrs).2 } :=
  ⟨by simp [Heap.alloc], fun _ _ h => Heap.contains_map_alloc attrs h, fun _ h => h⟩

/-- A class is made and bound. -/
theorem classState (name : String) (s : State) : KeysKept s (Eval.classState name s) := by
  refine ⟨by simp [Eval.classState, Heap.alloc], fun _ _ h => Heap.contains_map_alloc _ h, fun key h => ?_⟩
  have h' : ({ s.env with frames := s.env.frames.tail } : Environment).globals.contains key = true := h
  exact Environment.contains_update_globals name _ h'

end KeysKept

/-! ## Maps that are made -/

/-- A call of a class has just made an object, in which nothing is stored but its class. -/
structure Moment.Creates (m : Moment) (type : Value) (own : Address) : Prop where
  held : ∃ others, m.pending.held = .object type own :: type :: others
  last : m.state.heap.maps.size = own + 1
  content : m.state.heap.map own = Bindings.empty.insert classAttribute type

/-- A map that has just been made is that of an object which a call has made, or of a class that is bound. -/
def Moment.Presents (m : Moment) (a : Address) : Prop :=
  (∃ name attrs, m.Creates (.cls name attrs) a) ∨ ∃ name, m.state.env.get? name = some (.cls name a)

/-- Moments between two states, in an order in which no key is lost. Every map that is made on the way is presented at
one of them. -/
structure Course (s : State) (ms : List Moment) (s' : State) : Prop where
  start : ∀ m ∈ ms, KeysKept s m.state
  stop : ∀ m ∈ ms, KeysKept m.state s'
  order : ms.Pairwise fun m m' => KeysKept m.state m'.state
  whole : KeysKept s s'
  made : ∀ a, s.heap.maps.size ≤ a → a < s'.heap.maps.size → ∃ m ∈ ms, m.Presents a

namespace Course

theorem nil {s s' : State} (h : Steady s s') : Course s [] s' :=
  ⟨nofun, nofun, .nil, h.toKeysKept, fun _ ha ha' => absurd ha' (Nat.not_lt.2 (Nat.le_trans h.made ha))⟩

theorem steady {s s' : State} (h : Course s [] s') : Steady s s' := by
  refine ⟨h.whole, Nat.le_of_not_lt fun hlt => ?_⟩
  obtain ⟨m, hm, -⟩ := h.made s.heap.maps.size (Nat.le_refl _) hlt
  cases hm

theorem single {s s' : State} {m : Moment} (h : KeysKept s m.state) (hm : m.state = s')
    (hmade : ∀ a, s.heap.maps.size ≤ a → a < s'.heap.maps.size → m.Presents a) : Course s [m] s' := by
  subst hm
  refine ⟨fun n hn => ?_, fun n hn => ?_, List.pairwise_singleton _ _, h, fun a ha ha' => ?_⟩
  · rwa [List.mem_singleton.1 hn]
  · rw [List.mem_singleton.1 hn]
    exact .refl _
  · exact ⟨m, List.mem_singleton.2 rfl, hmade a ha ha'⟩

/-- The end of a step that makes no map. -/
theorem ending {s s' : State} {m : Moment} (h : Steady s s') (hm : m.state = s') : Course s [m] s' :=
  single (hm ▸ h.toKeysKept) hm fun _ ha ha' => absurd ha' (Nat.not_lt.2 (Nat.le_trans h.made ha))

theorem append {a b c : State} {ms ns : List Moment} (h : Course a ms b) (h' : Course b ns c) :
    Course a (ms ++ ns) c := by
  refine ⟨fun m hm => ?_, fun m hm => ?_, ?_, h.whole.trans h'.whole, fun i hi hi' => ?_⟩
  · rcases List.mem_append.1 hm with hm | hm
    · exact h.start m hm
    · exact h.whole.trans (h'.start m hm)
  · rcases List.mem_append.1 hm with hm | hm
    · exact (h.stop m hm).trans h'.whole
    · exact h'.stop m hm
  · refine List.pairwise_append.2 ⟨h.order, h'.order, fun m hm n hn => ?_⟩
    exact (h.stop m hm).trans (h'.start n hn)
  · rcases Nat.lt_or_ge i b.heap.maps.size with hlt | hge
    · obtain ⟨m, hm, hi⟩ := h.made i hi hlt
      exact ⟨m, List.mem_append_left _ hm, hi⟩
    · obtain ⟨m, hm, hi⟩ := h'.made i hge hi'
      exact ⟨m, List.mem_append_right _ hm, hi⟩

theorem cons {a b c : State} {m : Moment} {ms : List Moment} (h : Steady a b) (hm : m.state = b)
    (h' : Course b ms c) : Course a (m :: ms) c :=
  (ending h hm).append h'

end Course

open Eval

/-! ## Laws -/

/-- Values that evaluation makes of literals and by operators. -/
structure Scalars [Host] (allows : Literal → Prop) (Good : Value → Prop) : Prop where
  literal : ∀ {l : Literal} {v : Value}, allows l → Value.ofLiteral? l = some v → Good v
  none : Good .none
  bool : ∀ b : Bool, Good (.bool b)
  unary : ∀ {op : Operator} {v w : Value}, Good v → op.applyUnary v = .ok w → Good w
  binary : ∀ {op : Operator} {v w u : Value}, Good v → Good w → op.applyBinary v w = .ok u → Good u

/-- All of these are scalars. -/
theorem Scalars.of_scalar [Host] {allows : Literal → Prop} {Good : Value → Prop}
    (h : ∀ {v : Value}, v.isScalar = true → Good v) : Scalars allows Good where
  literal _ hv := h (Value.isScalar_ofLiteral hv)
  none := h rfl
  bool _ := h rfl
  unary {op v w} _ hw := by
    have hyields : Yields Standard.any.admits (fun w => w.isScalar = true) (op.applyUnary v) :=
      Standard.any.unary trivial
    exact h (hyields.of_ok hw)
  binary {op v w u} _ _ hu := by
    have hyields : Yields Standard.any.admits (fun u => u.isScalar = true) (op.applyBinary v w) :=
      Standard.any.binary trivial trivial
    exact h (hyields.of_ok hu)

structure Law [Host] (settings : Settings) where
  /-- What is kept beside a run. -/
  Record : Type
  le : Record → Record → Prop
  refl : ∀ r, le r r
  trans : ∀ {r r' r'' : Record}, le r r' → le r' r'' → le r r''
  /-- Whether exits are known to stand where they may. -/
  checked : Prop
  /-- The literals that a program may come to. -/
  allows : Literal → Prop
  Good : Record → Value → Prop
  /-- What holds at every moment. -/
  Holds : Record → Pending → State → Prop
  /-- What holds besides when a statement has run to its end. -/
  Ends : Stmt → State → Prop
  -- values
  mono : ∀ {r r' : Record} {v : Value}, le r r' → Good r v → Good r' v
  scalars : ∀ r : Record, Scalars allows (Good r)
  tuple : ∀ {r : Record} {items : List Value}, (∀ v ∈ items, Good r v) → Good r (.tuple items)
  function : ∀ {r : Record} {name : String} {params : List String} {body : List Stmt},
    (checked → Accepted .functionBody body) → (∀ l ∈ Stmt.allLiterals body, allows l) →
    Good r (.function name params body)
  accepted : ∀ {r : Record} {name : String} {params : List String} {body : List Stmt},
    Good r (.function name params body) → checked → Accepted .functionBody body
  allowed : ∀ {r : Record} {name : String} {params : List String} {body : List Stmt},
    Good r (.function name params body) → ∀ l ∈ Stmt.allLiterals body, allows l
  typeOf : ∀ {r : Record} {type : Value} {attrs : Address}, Good r (.object type attrs) → Good r type
  -- moments
  hold : ∀ {r : Record} {c : Pending} {s : State} {vs : List Value}, Holds r c s → (∀ v ∈ vs, Good r v) →
    Holds r (c.hold vs) s
  release : ∀ {r : Record} {c : Pending} {s : State} {vs : List Value}, Holds r (c.hold vs) s → Holds r c s
  quiet : ∀ {r : Record} {c : Pending} {s s' : State}, Holds r c s → s'.env.globals = s.env.globals →
    s'.env.frames = s.env.frames → s'.heap = s.heap → Holds r c s'
  lookup : ∀ {r : Record} {c : Pending} {s : State} {name : String} {v : Value}, Holds r c s →
    s.env.get? name = some v → Good r v
  entry : ∀ {r : Record} {c : Pending} {s : State} {v w : Value} {a : Address} {name : String}, Holds r c s →
    Good r v → v.ownMap? = some a → (s.heap.map a).get? name = some w → Good r w
  -- steps
  update : ∀ {r : Record} {c : Pending} {s : State} {v : Value} (name : String), Holds r c s → Good r v →
    Holds r c { s with env := s.env.update name v }
  write : ∀ {r : Record} {c : Pending} {s : State} {v target : Value} {a : Address} (name : String), Holds r c s →
    Good r v → Good r target → target.ownMap? = some a → Holds r c { s with heap := s.heap.write a name v }
  create : ∀ {r : Record} {c : Pending} {s : State} {name : String} {attrs : Address}, Holds r c s →
    Good r (.cls name attrs) → ∃ r', le r r' ∧
      Holds r' c { s with heap := (s.heap.alloc (Bindings.empty.insert classAttribute (.cls name attrs))).2 } ∧
      Good r' (.object (.cls name attrs) s.heap.maps.size)
  push : ∀ {r : Record} {c : Pending} {s : State}, Holds r c s → Holds r c { s with env := s.env.pushFrame }
  define : ∀ {r r' : Record} {c : Pending} {s s' : State} (name : String), Holds r c s → le r r' → Holds r' c s' →
    Confined { s with env := s.env.pushFrame } s' → ∃ r'', le r' r'' ∧ Holds r'' c (classState name s')
  enter : ∀ {r : Record} {c : Pending} {s : State} {args : List Value} (name : String) (params : List String),
    Holds r c s → (∀ v ∈ args, Good r v) →
    Holds r (c.enter (.ofCall name params args s)) (callState name params args s)
  leave : ∀ {r r' : Record} {c : Pending} {s s' : State} {name : String} {params : List String} {args : List Value},
    Holds r c s → le r r' → Holds r' (c.enter (.ofCall name params args s)) s' → Undisturbed s (backFrom s s') →
    Holds r' c (backFrom s s')
  ended : ∀ {r : Record} {c : Pending} {s s' : State} {depth : Nat} {sur : Surroundings} {st : Stmt}, Holds r c s →
    (checked → AcceptedStmt sur st) → stmt settings (invoke settings depth) st s = .ok () s' → Ends st s'

namespace Law

variable [Host] {settings : Settings} (L : Law settings) {α β : Type}

/-- What an evaluation ends in, under a record. -/
def Final (V : L.Record → α → Prop) (r : L.Record) (c : Pending) : EStateM.Result Interrupt State α → Prop
  | .ok a s => L.Holds r c s ∧ V r a
  | .error i s => L.Holds r c s ∧ ∀ v ∈ i.values, L.Good r v

/-- The same, with the record grown. -/
def Outcome (V : L.Record → α → Prop) (r : L.Record) (c : Pending) (res : EStateM.Result Interrupt State α) : Prop :=
  ∃ r', L.le r r' ∧ L.Final V r' c res

/-- A moment at which the law holds, under a record that has grown to the given one since. -/
def SeesUnder (r : L.Record) (m : Moment) : Prop :=
  (∃ r', L.le r' r ∧ L.Holds r' m.pending m.state) ∧ ∀ st, m.mark = .finished st → L.Ends st m.state

/-- A moment at which the law holds. -/
def Sees (m : Moment) : Prop :=
  (∃ r, L.Holds r m.pending m.state) ∧ ∀ st, m.mark = .finished st → L.Ends st m.state

/-- A watched evaluation from a state at which the law holds. -/
structure Passes (V : L.Record → α → Prop) (r : L.Record) (c : Pending) (x : Watched α) (s : State) : Prop where
  outcome : ∃ r', L.le r r' ∧ L.Final V r' c (x.run s) ∧ ∀ m ∈ x.seen c s, L.SeesUnder r' m
  course : Course s (x.seen c s) (after x.run s)

/-- An evaluation upholds the law: from the given record on, with results that satisfy `V`. -/
def Upholds (r : L.Record) (V : L.Record → α → Prop) (x : Watched α) : Prop :=
  ∀ r' c s, L.le r r' → L.Holds r' c s → L.Passes V r' c x s

/-- The same for a step of which nothing is seen. -/
abbrev Upheld (r : L.Record) (V : L.Record → α → Prop) (x : Eval α) : Prop := L.Upholds r V ⟨x, fun _ _ => []⟩

/-- Nothing is said of the result. -/
abbrev Any : L.Record → α → Prop := fun _ _ => True

variable {L} {r : L.Record} {V : L.Record → α → Prop} {W : L.Record → β → Prop}

/-! ## Sequences -/

theorem SeesUnder.mono {r' : L.Record} {m : Moment} (h : L.SeesUnder r m) (hr : L.le r r') : L.SeesUnder r' m := by
  obtain ⟨⟨r₀, hr₀, hm⟩, hends⟩ := h
  exact ⟨⟨r₀, L.trans hr₀ hr, hm⟩, hends⟩

theorem SeesUnder.sees {m : Moment} (h : L.SeesUnder r m) : L.Sees m := by
  obtain ⟨⟨r₀, -, hm⟩, hends⟩ := h
  exact ⟨⟨r₀, hm⟩, hends⟩

namespace Upholds

theorem mono {r' : L.Record} {x : Watched α} (h : L.Upholds r V x) (hr : L.le r r') : L.Upholds r' V x :=
  fun r'' c s hr' hs => h r'' c s (L.trans hr hr') hs

theorem pure {a : α} (h : ∀ r', L.le r r' → V r' a) : L.Upholds r V (Pure.pure a : Watched α) :=
  fun r' _ s hr hs => ⟨⟨r', L.refl r', ⟨hs, h r' hr⟩, nofun⟩, .nil (.refl s)⟩

theorem bind {x : Watched α} {f : α → Watched β} (hx : L.Upholds r V x)
    (hf : ∀ r' a, L.le r r' → V r' a → L.Upholds r' W (f a)) : L.Upholds r W (x >>= f) := by
  intro r₁ c s hr hs
  obtain ⟨⟨r₂, hr₂, hfinal, hsees⟩, hcourse⟩ := hx r₁ c s hr hs
  cases hxs : x.run s with
  | error i s' =>
    have hrun : (x >>= f).run s = .error i s' := bind_error hxs
    have hseen : (x >>= f).seen c s = x.seen c s := by
      show x.seen c s ++ _ = _
      rw [hxs, List.append_nil]
    rw [hxs] at hfinal
    rw [after_error hxs] at hcourse
    refine ⟨⟨r₂, hr₂, ?_, ?_⟩, ?_⟩
    · rw [hrun]
      exact hfinal
    · rw [hseen]
      exact hsees
    · rw [hseen, after_error hrun]
      exact hcourse
  | ok a s' =>
    rw [hxs] at hfinal
    rw [after_ok hxs] at hcourse
    obtain ⟨hs', ha⟩ := hfinal
    obtain ⟨⟨r₃, hr₃, hfinal', hsees'⟩, hcourse'⟩ := hf r₂ a (L.trans hr hr₂) ha r₂ c s' (L.refl r₂) hs'
    have hrun : (x >>= f).run s = (f a).run s' := bind_ok hxs
    have hseen : (x >>= f).seen c s = x.seen c s ++ (f a).seen c s' := by
      show x.seen c s ++ _ = _
      rw [hxs]
    refine ⟨⟨r₃, L.trans hr₂ hr₃, ?_, ?_⟩, ?_⟩
    · rw [hrun]
      exact hfinal'
    · rw [hseen]
      exact fun m hm => (List.mem_append.1 hm).elim (fun hm => (hsees m hm).mono hr₃) (hsees' m)
    · have hafter : after (x >>= f).run s = after (f a).run s' := by
        unfold after
        rw [hrun]
      rw [hseen, hafter]
      exact hcourse.append hcourse'

theorem ite {c : Prop} [Decidable c] {x y : Watched α} (hx : L.Upholds r V x) (hy : L.Upholds r V y) :
    L.Upholds r V (if c then x else y) := by
  split
  · exact hx
  · exact hy

theorem holding {vs : List Value} {x : Watched α} (hvs : ∀ v ∈ vs, L.Good r v) (hx : L.Upholds r V x) :
    L.Upholds r V (Watched.holding vs x) := by
  intro r₁ c s hr hs
  obtain ⟨⟨r₂, hr₂, hfinal, hsees⟩, hcourse⟩ := hx r₁ (c.hold vs) s hr (L.hold hs fun v hv => L.mono hr (hvs v hv))
  refine ⟨⟨r₂, hr₂, ?_, hsees⟩, hcourse⟩
  -- What was held is let go when the evaluation is over.
  show L.Final V r₂ c (x.run s)
  cases hxs : x.run s with
  | ok a s' =>
    rw [hxs] at hfinal
    exact ⟨L.release hfinal.1, hfinal.2⟩
  | error i s' =>
    rw [hxs] at hfinal
    exact ⟨L.release hfinal.1, hfinal.2⟩

end Upholds

/-! ## Single steps -/

theorem sees_behind {values : α → List Value} {c : Pending} {res : EStateM.Result Interrupt State α}
    (h : L.Final V r c res) (hvalues : ∀ r' a, V r' a → ∀ v ∈ values a, L.Good r' v) :
    L.SeesUnder r (Watched.behind values c res) := by
  cases res with
  | ok a s => exact ⟨⟨r, L.refl r, L.hold h.1 (hvalues r a h.2)⟩, nofun⟩
  | error i s => exact ⟨⟨r, L.refl r, L.hold h.1 h.2⟩, nofun⟩

omit [Host] in
theorem state_behind (values : α → List Value) (c : Pending) (x : Eval α) (s : State) :
    (Watched.behind values c (x s)).state = after x s := by
  unfold after
  cases x s <;> rfl

namespace Upheld

theorem seeing {values : α → List Value} {x : Eval α} (h : L.Upheld r V x)
    (hvalues : ∀ r' a, V r' a → ∀ v ∈ values a, L.Good r' v) : L.Upholds r V (Watched.seeing values x) := by
  intro r₁ c s hr hs
  obtain ⟨⟨r₂, hr₂, hfinal, -⟩, hcourse⟩ := h r₁ c s hr hs
  refine ⟨⟨r₂, hr₂, hfinal, fun m hm => ?_⟩, .ending hcourse.steady (state_behind values c x s)⟩
  rw [List.mem_singleton.1 hm]
  exact sees_behind hfinal hvalues

theorem step {x : Eval α} (h : L.Upheld r V x) : L.Upholds r V (Watched.step x) := h.seeing fun _ _ _ => nofun

theorem value {x : Eval Value} (h : L.Upheld r L.Good x) : L.Upholds r L.Good (Watched.value x) := by
  refine h.seeing fun r' v hv w hw => ?_
  rwa [List.mem_singleton.1 hw]

theorem intro {x : Eval α}
    (h : ∀ r' c s, L.le r r' → L.Holds r' c s → L.Final V r' c (x s) ∧ Steady s (after x s)) : L.Upheld r V x :=
  fun r' c s hr hs => ⟨⟨r', L.refl r', (h r' c s hr hs).1, nofun⟩, .nil (h r' c s hr hs).2⟩

theorem pure {a : α} (h : ∀ r', L.le r r' → V r' a) : L.Upheld r V (Pure.pure a : Eval α) := Upholds.pure h

theorem bind {x : Eval α} {f : α → Eval β} (hx : L.Upheld r V x)
    (hf : ∀ r' a, L.le r r' → V r' a → L.Upheld r' W (f a)) : L.Upheld r W (x >>= f) := by
  intro r₁ c s hr hs
  obtain ⟨⟨r₂, hr₂, hfinal, hsees⟩, hcourse⟩ := Upholds.bind hx hf r₁ c s hr hs
  -- Neither part is seen, so nothing is.
  have hnone : ((⟨x, fun _ _ => []⟩ : Watched α) >>= fun a => ⟨f a, fun _ _ => []⟩).seen c s = [] := by
    show (match x s with | .ok _ _ => [] | .error _ _ => [] : List Moment) = []
    cases x s <;> rfl
  rw [hnone] at hcourse
  exact ⟨⟨r₂, hr₂, hfinal, nofun⟩, hcourse⟩

theorem throw {i : Interrupt} (h : ∀ v ∈ i.values, L.Good r v) : L.Upheld r V (throw i : Eval α) :=
  .intro fun _ _ s hr hs => ⟨⟨hs, fun v hv => L.mono hr (h v hv)⟩, .refl s⟩

theorem fail (e : EvalError) : L.Upheld r V (fail e : Eval α) := .throw nofun

/-- A step chosen by the state it starts in, which holds the law. -/
theorem get {f : State → Eval α} (h : ∀ r' c s, L.le r r' → L.Holds r' c s → L.Upheld r' V (f s)) :
    L.Upheld r V (do f (← get)) := by
  intro r' c s hr hs
  obtain ⟨houtcome, hcourse⟩ := h r' c s hr hs r' c s (L.refl r') hs
  exact ⟨houtcome, hcourse⟩

theorem ofExcept {x : Except EvalError α} (h : ∀ r' a, L.le r r' → x = .ok a → V r' a) :
    L.Upheld r V (ofExcept x) := by
  cases x with
  | ok a => exact .pure fun r' hr => h r' a hr rfl
  | error e => exact .fail e

theorem ofFailure {x : Except Failure α} : L.Upheld r L.Any (ofFailure x) := by
  cases x with
  | ok a => exact .pure fun _ _ => trivial
  | error f =>
    cases f with
    | error e => exact .fail e
    | unwritable cause => exact .throw nofun

theorem ofText {α : Type} {x : Except Unwritable α} : L.Upheld r L.Any (ofText x) := by
  cases x with
  | ok s => exact .pure fun _ _ => trivial
  | error cause => exact .throw nofun

/-- A change to the records of a run only. -/
theorem modify {f : State → State} (hglobals : ∀ s, (f s).env.globals = s.env.globals)
    (hframes : ∀ s, (f s).env.frames = s.env.frames) (hheap : ∀ s, (f s).heap = s.heap) :
    L.Upheld r L.Any (modify f : Eval Unit) :=
  .intro fun _ _ s _ hs => ⟨⟨L.quiet hs (hglobals s) (hframes s) (hheap s), trivial⟩, .of_eq (hglobals s) (hheap s)⟩

end Upheld

/-! ## Values, names and attributes -/

theorem upheld_lookup (name : String) : L.Upheld r L.Good (Eval.lookup name) := by
  refine .get fun r' c s _ hs => .ofExcept fun r'' v hr hv => ?_
  unfold Environment.lookup at hv
  split at hv
  · rename_i w hw
    cases hv
    exact L.mono hr (L.lookup hs hw)
  · cases hv

theorem upheld_unary {op : Operator} {v : Value} (hv : L.Good r v) : L.Upheld r L.Good (ofExcept (op.applyUnary v)) :=
  .ofExcept fun r' _ hr hw => (L.scalars r').unary (L.mono hr hv) hw

theorem upheld_binary {op : Operator} {v w : Value} (hv : L.Good r v) (hw : L.Good r w) :
    L.Upheld r L.Good (ofExcept (op.applyBinary v w)) :=
  .ofExcept fun r' _ hr hu => (L.scalars r').binary (L.mono hr hv) (L.mono hr hw) hu

theorem upheld_truth {v : Value} : L.Upheld r L.Any (truth v) := .ofExcept fun _ _ _ _ => trivial

theorem upheld_getAttr {name : String} {v : Value} (hv : L.Good r v) :
    L.Upheld r (fun r' found => ∀ w, found = some w → L.Good r' w) (getAttr name v) := by
  refine .get fun r' c s hr hs => .ofExcept fun r'' found hr' hfound w hw => L.mono hr' ?_
  subst hw
  -- Only classes and objects have attributes, and they are in their own maps.
  cases v with
  | cls cname own => exact L.entry hs (L.mono hr hv) rfl (Except.ok.inj hfound)
  | object type own => exact L.entry hs (L.mono hr hv) rfl (Except.ok.inj hfound)
  | none | bool _ | int _ | float _ | imaginary _ _ | string _ | tuple _ | function _ _ _ | foreign _ => cases hfound

theorem upheld_readAttr {name : String} {v : Value} (hv : L.Good r v) : L.Upheld r L.Good (readAttr name v) := by
  refine .bind (upheld_getAttr hv) fun r' found _ hf => ?_
  cases found with
  | none => exact .fail _
  | some w => exact .pure fun r'' hr => L.mono hr (hf w rfl)

theorem upheld_findMethod {name : String} {v : Value} (hv : L.Good r v) : L.Upheld r L.Good (findMethod name v) := by
  refine .get fun r' c s hr hs => .bind (V := fun r' found => ∀ w, found = some w → L.Good r' w) ?_ ?_
  · refine .ofExcept fun r'' found hr' hfound w hw => L.mono hr' ?_
    subst hw
    cases v with
    | object type own =>
      have ht : L.Good r' type := L.typeOf (L.mono hr hv)
      cases type with
      | cls cname attrs => exact L.entry hs ht rfl (Except.ok.inj hfound)
      | none | bool _ | int _ | float _ | imaginary _ _ | string _ | tuple _ | function _ _ _ | object _ _
      | foreign _ => cases hfound
    | none | bool _ | int _ | float _ | imaginary _ _ | string _ | tuple _ | function _ _ _ | cls _ _
    | foreign _ => cases hfound
  · intro r'' found _ hf
    cases found with
    | none => exact .fail _
    | some w => exact .pure fun r'' hr => L.mono hr (hf w rfl)

theorem upheld_setAttr {name : String} {v target : Value} (hv : L.Good r v) (ht : L.Good r target) :
    L.Upheld r L.Any (setAttr name v target) := by
  refine .intro fun r' c s hr hs => ?_
  have hwrite : ∀ own, target.ownMap? = some own → L.Final L.Any r' c
      (.ok () { s with heap := s.heap.write own name v }) := fun own hown =>
    ⟨L.write name hs (L.mono hr hv) (L.mono hr ht) hown, trivial⟩
  cases target with
  | cls _ own => exact ⟨hwrite own rfl, .write s own name v⟩
  | object _ own => exact ⟨hwrite own rfl, .write s own name v⟩
  | none | bool _ | int _ | float _ | imaginary _ _ | string _ | tuple _ | function _ _ _ | foreign _ =>
    exact ⟨⟨hs, nofun⟩, .refl s⟩

/-- An object is made while its class is held. -/
theorem upholds_newObject {name : String} {attrs : Address} {others : List Value} (hcls : L.Good r (.cls name attrs))
    (hothers : ∀ v ∈ others, L.Good r v) :
    L.Upholds r L.Good (Watched.holding (.cls name attrs :: others) (Watched.value (newObject (.cls name attrs)))) := by
  intro r₁ c s hr hs
  obtain ⟨r₂, hr₂, hs', hobj⟩ := L.create hs (L.mono hr hcls)
  have hheld : ∀ v ∈ .cls name attrs :: others, L.Good r₂ v := by
    intro v hv
    rcases List.mem_cons.1 hv with rfl | hv
    · exact L.mono (L.trans hr hr₂) hcls
    · exact L.mono (L.trans hr hr₂) (hothers v hv)
  have hseen : ∀ v ∈ [.object (.cls name attrs) s.heap.maps.size], L.Good r₂ v := by
    intro v hv
    rwa [List.mem_singleton.1 hv]
  refine ⟨⟨r₂, hr₂, ⟨hs', hobj⟩, fun m hm => ?_⟩, .single (.alloc s _) rfl fun a ha ha' => .inl ⟨name, attrs, ?_⟩⟩
  · rw [List.mem_singleton.1 hm]
    exact ⟨⟨r₂, L.refl r₂, L.hold (L.hold hs' hheld) hseen⟩, nofun⟩
  · -- The only new map is that of the object.
    let heap := (s.heap.alloc (Bindings.empty.insert classAttribute (.cls name attrs))).2
    have hsize : heap.maps.size = s.heap.maps.size + 1 := by simp [heap, Heap.alloc]
    have hlt : a < heap.maps.size := ha'
    obtain rfl : a = s.heap.maps.size := by omega
    have hmap : heap.map s.heap.maps.size = Bindings.empty.insert classAttribute (.cls name attrs) := by
      simp [heap, Heap.map_alloc]
    exact ⟨⟨others ++ c.held, rfl⟩, hsize, hmap⟩

theorem upheld_update {name : String} {v : Value} (hv : L.Good r v) : L.Upheld r L.Any (Eval.update name v) :=
  .intro fun _ _ s hr hs => ⟨⟨L.update name hs (L.mono hr hv), trivial⟩, .update s name v⟩

theorem upheld_announce {st : Stmt} : L.Upheld r L.Any (announce settings st) := by
  unfold announce
  split
  · exact .bind .ofText fun _ _ _ _ => .modify (fun _ => rfl) (fun _ => rfl) fun _ => rfl
  · exact .pure fun _ _ => trivial

/-- A step that only raises an interrupt which carries no value. -/
theorem Upheld.raising {x : Eval α} (h : ∀ s, ∃ i, x s = .error i s ∧ i.values = []) : L.Upheld r V x := by
  refine .intro fun r' c s _ hs => ?_
  obtain ⟨i, hx, hvalues⟩ := h s
  rw [hx, after_error hx]
  refine ⟨⟨hs, fun v hv => ?_⟩, .refl s⟩
  rw [hvalues] at hv
  cases hv

theorem upheld_breakOut : L.Upheld r L.Any breakOut := by
  refine .raising fun s => ?_
  rw [breakOut_apply]
  cases s.env.flow with
  | none => exact ⟨_, rfl, rfl⟩
  | some f => exact ⟨_, rfl, rfl⟩

theorem upheld_continueOn : L.Upheld r L.Any continueOn := by
  refine .raising fun s => ?_
  rw [continueOn_apply]
  cases s.env.flow with
  | none => exact ⟨_, rfl, rfl⟩
  | some f => exact ⟨_, rfl, rfl⟩

theorem upheld_returnWith {v : Value} (hv : L.Good r v) : L.Upheld r L.Any (returnWith v) := by
  refine .get fun r' _ s hr _ => .bind (.ofExcept fun _ _ _ _ => trivial) fun r'' target hr' _ => .throw fun w hw => ?_
  rw [List.mem_singleton.1 hw]
  exact L.mono (L.trans hr hr') hv

end Law

end Treewalk
