/-
Overlays as maps. Membership, look-up, listing and counting each go through the two layers in their own way, and agree on
one map from names to values; stores and deletions change that map under one name, in one layer. This holds after any
sequence of stores and deletions, since no table has a name twice.
-/
import Mathlib.Data.List.Nodup
import Treewalk.Proofs.Scope

namespace Treewalk

/-! ## Deletions from tables -/

namespace Bindings

variable {α : Type} {b : Bindings α} {name key : String} {value : α}

theorem getIn_eraseIn_of_ne (h : key ≠ name) : ∀ entries : List (String × α),
    getIn (eraseIn entries name) key = getIn entries key
  | [] => rfl
  | (k, value) :: rest => by
    by_cases hk : k = name
    · subst hk
      simp [eraseIn, getIn, Ne.symm h]
    · simp [eraseIn, getIn, hk, getIn_eraseIn_of_ne h rest]

theorem get?_erase_of_ne (h : key ≠ name) : (b.erase name).get? key = b.get? key := getIn_eraseIn_of_ne h b.entries

theorem get?_eq_none_iff : b.get? name = none ↔ name ∉ b.keys := by
  rw [← contains_iff_mem_keys, contains, Bool.not_eq_true, Option.isSome_eq_false_iff, Option.isNone_iff_eq_none]

/-- What is removed is not uncovered, since its name occurs only once. -/
theorem get?_erase_self : (b.erase name).get? name = none := by
  rw [get?_eq_none_iff, keys_erase]
  exact List.Nodup.not_mem_erase b.distinct

end Bindings

namespace Overlay

variable {α : Type}

/-! ## Layers -/

/-- The layers of an overlay: the call's own names and the global ones. -/
inductive Layer where
  | own | global
deriving DecidableEq

/-- The layer that a name is read from. -/
def layer? (o : Overlay α) (name : String) : Option Layer :=
  if o.locals.contains name then some .own else if o.globals.contains name then some .global else none

/-- Two overlays agree about a name: in each layer, in what is seen of it, and in where that is. -/
structure SameAt (key : String) (o o' : Overlay α) : Prop where
  locals : o'.locals.get? key = o.locals.get? key
  globals : o'.globals.get? key = o.globals.get? key
  value : o'.get? key = o.get? key
  present : o'.contains key = o.contains key
  layer : o'.layer? key = o.layer? key

section

variable {o o' : Overlay α} {name key : String} {value : α}

theorem SameAt.of_layers (hl : o'.locals.get? key = o.locals.get? key) (hg : o'.globals.get? key = o.globals.get? key) :
    SameAt key o o' := by
  have hlocals : o'.locals.contains key = o.locals.contains key := by rw [Bindings.contains, hl, Bindings.contains]
  have hglobals : o'.globals.contains key = o.globals.contains key := by rw [Bindings.contains, hg, Bindings.contains]
  refine ⟨hl, hg, ?_, ?_, ?_⟩
  · rw [get?, get?, hl, hg]
  · rw [contains, contains, hlocals, hglobals]
  · rw [layer?, layer?, hlocals, hglobals]

theorem layer?_eq_own_iff : o.layer? name = some .own ↔ o.locals.contains name = true := by
  unfold layer?
  split
  · rename_i h
    simp [h]
  · rename_i h
    split <;> simp [h]

theorem layer?_eq_global_iff :
    o.layer? name = some .global ↔ o.locals.contains name = false ∧ o.globals.contains name = true := by
  unfold layer?
  split
  · rename_i h
    simp [h]
  · rename_i h
    split
    · rename_i h'
      simp [h, h']
    · rename_i h'
      simp [h']

theorem contains_eq : o.contains name = (o.get? name).isSome := Option.isSome_or.symm

theorem mem_keys_iff : name ∈ o.keys ↔ o.contains name = true := by
  have hkeys : o.keys = o.flatten.keys := rfl
  rw [hkeys, ← Bindings.contains_iff_mem_keys, Bindings.contains, get?_flatten, contains_eq]

/-! ## Listing and counting -/

theorem layer?_of_mem_others (h : name ∈ o.globals.keys.filter fun name => !o.locals.contains name) :
    o.layer? name = some .global := by
  rw [List.mem_filter, Bool.not_eq_true'] at h
  exact layer?_eq_global_iff.2 ⟨h.2, Bindings.contains_iff_mem_keys.2 h.1⟩

theorem size_eq : o.size = o.keys.length := by
  have hlocals : o.locals.keys.length = o.locals.size := List.length_map _
  rw [size, keys_eq, List.length_append, List.countP_eq_length_filter, hlocals]

/-! ## Stores -/

/-- What a store does. -/
structure Stored (name : String) (value : α) (o o' : Overlay α) : Prop where
  read : o'.get? name = some value
  others : ∀ key, key ≠ name → SameAt key o o'
  /-- One layer is written and the other one is left alone. -/
  written : (o.layer? name = some .global ∧ o'.locals = o.locals ∧ o'.globals.get? name = some value) ∨
    (o.layer? name ≠ some .global ∧ o'.globals = o.globals ∧ o'.locals.get? name = some value)
  names : o'.globals.keys = o.globals.keys

theorem insert_of_global (h : o.layer? name = some .global) (value : α) :
    o.insert name value = ⟨o.locals, o.globals.insert name value⟩ := by
  obtain ⟨hlocal, hglobal⟩ := layer?_eq_global_iff.1 h
  rw [insert, hlocal, hglobal]
  rfl

theorem insert_of_not_global (h : o.layer? name ≠ some .global) (value : α) :
    o.insert name value = ⟨o.locals.insert name value, o.globals⟩ := by
  rw [insert, if_neg]
  rwa [Bool.and_eq_true, Bool.not_eq_true', ← layer?_eq_global_iff]

theorem insert_stored (o : Overlay α) (name : String) (value : α) : Stored name value o (o.insert name value) := by
  have hother (b : Bindings α) {key : String} (hkey : key ≠ name) : (b.insert name value).get? key = b.get? key := by
    rw [Bindings.get?_insert, if_neg hkey.symm]
  have hself (b : Bindings α) : (b.insert name value).get? name = some value := by
    rw [Bindings.get?_insert, if_pos rfl]
  have hnames := globals_keys_insert o name value
  by_cases h : o.layer? name = some .global
  · have hlocal : o.locals.get? name = none := by
      have hnot := (layer?_eq_global_iff.1 h).1
      rwa [Bindings.contains, Option.isSome_eq_false_iff, Option.isNone_iff_eq_none] at hnot
    rw [insert_of_global h] at hnames ⊢
    refine ⟨?_, fun key hkey => .of_layers rfl (hother _ hkey), .inl ⟨h, rfl, hself _⟩, hnames⟩
    rw [get?, hlocal, hself, Option.none_or]
  · rw [insert_of_not_global h] at hnames ⊢
    refine ⟨?_, fun key hkey => .of_layers (hother _ hkey) rfl, .inr ⟨h, rfl, hself _⟩, hnames⟩
    rw [get?, hself, Option.some_or]

/-! ## Deletions -/

/-- What a deletion does: it removes a name of the call's own, which uncovers the global one if there is one, or else the
global name. -/
structure Deleted (name : String) (o o' : Overlay α) : Prop where
  others : ∀ key, key ≠ name → SameAt key o o'
  removed : (o.layer? name = some .own ∧ o'.globals = o.globals ∧ o'.locals.get? name = none ∧
      o'.get? name = o.globals.get? name) ∨
    (o.layer? name = some .global ∧ o'.locals = o.locals ∧ o'.get? name = none)

theorem erase?_deleted (hname : o.contains name = true) :
    ∃ o', o.erase? name = some o' ∧ Deleted name o o' := by
  unfold erase?
  by_cases hlocal : o.locals.contains name = true
  · rw [if_pos hlocal]
    have hgone : (o.locals.erase name).get? name = none := Bindings.get?_erase_self
    refine ⟨_, rfl, fun key hkey => .of_layers (Bindings.get?_erase_of_ne hkey) rfl, .inl ⟨?_, rfl, hgone, ?_⟩⟩
    · exact layer?_eq_own_iff.2 hlocal
    · rw [get?, hgone, Option.none_or]
  · have hglobal : o.globals.contains name = true := by
      rw [contains, Bool.or_eq_true] at hname
      exact hname.resolve_left hlocal
    have hnone : o.locals.get? name = none := by
      rwa [Bindings.contains, Bool.not_eq_true, Option.isSome_eq_false_iff, Option.isNone_iff_eq_none] at hlocal
    rw [if_neg hlocal, if_pos hglobal]
    refine ⟨_, rfl, fun key hkey => .of_layers rfl (Bindings.get?_erase_of_ne hkey), .inr ⟨?_, rfl, ?_⟩⟩
    · exact layer?_eq_global_iff.2 ⟨Bool.eq_false_iff.2 hlocal, hglobal⟩
    · rw [get?, hnone, Bindings.get?_erase_self, Option.none_or]

theorem erase?_eq_none (h : o.contains name = false) : o.erase? name = none := by
  rw [contains, Bool.or_eq_false_iff] at h
  rw [erase?, h.1, h.2]
  rfl

end

/-! ## Sequences of changes -/

/-- A store or a deletion. -/
inductive Change (α : Type) where
  | store (name : String) (value : α)
  | delete (name : String)

/-- What a change leaves; deleting a name that is not there leaves everything as it is. -/
def apply (o : Overlay α) : Change α → Overlay α
  | .store name value => o.insert name value
  | .delete name => (o.erase? name).getD o

/-- An overlay behaves as one map, made of the call's own names laid over the global ones. -/
structure Overlaid (o : Overlay α) : Prop where
  /-- A name is there exactly if it can be read, and exactly if it is listed. -/
  present : ∀ name, (o.contains name = true ↔ ∃ value, o.get? name = some value) ∧
    (o.contains name = true ↔ name ∈ o.keys)
  /-- Every name is listed once, the call's own ones first. -/
  listed : o.keys.Nodup ∧ ∃ others, o.keys = o.locals.keys ++ others ∧
    (∀ name ∈ o.locals.keys, o.layer? name = some .own) ∧ ∀ name ∈ others, o.layer? name = some .global
  size : o.size = o.keys.length
  store : ∀ name value, Stored name value o (o.insert name value)
  delete : ∀ name, o.contains name = true → ∃ o', o.erase? name = some o' ∧ Deleted name o o'
  /-- A name that is not there can be neither read nor deleted. -/
  absent : ∀ name, o.contains name = false →
    o.get? name = none ∧ o.erase? name = none ∧ o.apply (.delete name) = o

theorem overlaid (o : Overlay α) : o.Overlaid where
  present name := by
    refine ⟨?_, mem_keys_iff.symm⟩
    rw [contains_eq, Option.isSome_iff_exists]
  listed := by
    refine ⟨o.nodup_keys, _, o.keys_eq, fun name hname => ?_, fun name => layer?_of_mem_others⟩
    exact layer?_eq_own_iff.2 (Bindings.contains_iff_mem_keys.2 hname)
  size := size_eq
  store := insert_stored o
  delete _ := erase?_deleted
  absent name hname := by
    have herase := erase?_eq_none hname
    rw [contains_eq, Option.isSome_eq_false_iff, Option.isNone_iff_eq_none] at hname
    refine ⟨hname, herase, ?_⟩
    rw [apply, herase]
    rfl

/-- Whatever names a call starts with, after any sequence of stores and deletions its names behave as one map. -/
theorem overlaid_after (params globals : Bindings α) (changes : List (Change α)) :
    (changes.foldl apply ⟨params, globals⟩).Overlaid :=
  overlaid _

/-- A parameter that hides a global name is deleted and stored again: now the global name is bound anew. -/
example :
    let o := [Change.delete "x", .store "x" 7].foldl apply ⟨.ofList [("x", 1)], .ofList [("x", 5), ("y", 6)]⟩
    o.locals.entries = [] ∧ o.globals.entries = [("x", 7), ("y", 6)] := by
  decide

end Overlay

end Treewalk
