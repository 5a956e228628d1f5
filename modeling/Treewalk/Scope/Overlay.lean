/-
The names of a function call: its own bindings laid over the global ones. A store rebinds a global name only if the call
has no name of its own like it; every other store stays with the call.
-/
import Treewalk.Bindings

namespace Treewalk

structure Overlay (α : Type) where
  locals : Bindings α
  globals : Bindings α

namespace Overlay

variable {α : Type}

def get? (o : Overlay α) (name : String) : Option α := (o.locals.get? name).or (o.globals.get? name)

def contains (o : Overlay α) (name : String) : Bool := o.locals.contains name || o.globals.contains name

def insert (o : Overlay α) (name : String) (value : α) : Overlay α :=
  if !o.locals.contains name && o.globals.contains name then ⟨o.locals, o.globals.insert name value⟩
  else ⟨o.locals.insert name value, o.globals⟩

/-- Removes the call's own name, or else the global one; none if there is neither. -/
def erase? (o : Overlay α) (name : String) : Option (Overlay α) :=
  if o.locals.contains name then some ⟨o.locals.erase name, o.globals⟩
  else if o.globals.contains name then some ⟨o.locals, o.globals.erase name⟩
  else none

/-- The entries that can be seen: the call's own first, then the global ones they do not hide. -/
def entries (o : Overlay α) : List (String × α) :=
  o.locals.entries ++ o.globals.entries.filter fun entry => !o.locals.contains entry.1

def keys (o : Overlay α) : List String := o.entries.map (·.1)

/-- How many names can be seen: all of the call's own and those global ones that they do not hide. -/
def size (o : Overlay α) : Nat := o.locals.size + o.globals.keys.countP fun name => !o.locals.contains name

theorem keys_eq (o : Overlay α) : o.keys = o.locals.keys ++ o.globals.keys.filter fun name => !o.locals.contains name := by
  rw [keys, entries, List.map_append, Bindings.keys, Bindings.keys, List.filter_map]
  rfl

/-- A global name that can be seen is not one of the call's own. -/
theorem nodup_keys (o : Overlay α) : o.keys.Nodup := by
  rw [keys_eq, List.nodup_append]
  refine ⟨o.locals.distinct, o.globals.distinct.filter _, ?_⟩
  rintro key hkey _ hothers rfl
  rw [List.mem_filter, Bindings.contains_iff_mem_keys.2 hkey] at hothers
  exact Bool.false_ne_true hothers.2

/-- The visible entries as a table of their own. -/
def flatten (o : Overlay α) : Bindings α := ⟨o.entries, o.nodup_keys⟩

end Overlay

end Treewalk
