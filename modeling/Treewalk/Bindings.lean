/-
Bindings: names with values, in the order in which the names were first bound. A table has no name twice. Its view is
`get?`; the small lemmas beside the operations say what each of them does to the view and to the list of names.
-/

namespace Treewalk

/-- A table of names; binding a name again keeps its place. -/
structure Bindings (α : Type) where
  entries : List (String × α)
  /-- No name is bound twice. -/
  distinct : (entries.map (·.1)).Nodup

namespace Bindings

variable {α : Type}

/-! ## Lists of entries -/

def getIn : List (String × α) → String → Option α
  | [], _ => none
  | (key, value) :: rest, name => if key = name then some value else getIn rest name

def insertIn : List (String × α) → String → α → List (String × α)
  | [], name, value => [(name, value)]
  | (key, old) :: rest, name, value =>
    if key = name then (key, value) :: rest else (key, old) :: insertIn rest name value

def eraseIn : List (String × α) → String → List (String × α)
  | [], _ => []
  | (key, value) :: rest, name => if key = name then rest else (key, value) :: eraseIn rest name

theorem getIn_insertIn (entries : List (String × α)) (name key : String) (value : α) :
    getIn (insertIn entries name value) key = if name = key then some value else getIn entries key := by
  induction entries with
  | nil => simp [insertIn, getIn]
  | cons entry rest ih =>
    obtain ⟨k, old⟩ := entry
    by_cases h : k = name
    · subst h
      by_cases h' : k = key <;> simp [insertIn, getIn, h']
    · by_cases h' : k = key
      · subst h'
        simp [insertIn, getIn, h, Ne.symm h]
      · simp [insertIn, getIn, h, h', ih]

theorem isSome_getIn {name : String} : ∀ entries : List (String × α),
    (getIn entries name).isSome = true ↔ name ∈ entries.map (·.1)
  | [] => by simp [getIn]
  | (key, value) :: rest => by
    by_cases h : key = name
    · simp [getIn, h]
    · simp [getIn, h, Ne.symm h, isSome_getIn rest]

/-- Binding a bound name again adds no name. -/
theorem keys_insertIn {name : String} (value : α) : ∀ {entries : List (String × α)},
    (getIn entries name).isSome = true → (insertIn entries name value).map (·.1) = entries.map (·.1)
  | [], h => by simp [getIn] at h
  | (key, old) :: rest, h => by
    by_cases hk : key = name
    · simp [insertIn, hk]
    · simp only [getIn, if_neg hk] at h
      simp [insertIn, hk, keys_insertIn value h]

/-- A new name comes last. -/
theorem keys_insertIn_of_none {name : String} (value : α) : ∀ {entries : List (String × α)}, getIn entries name = none →
    (insertIn entries name value).map (·.1) = entries.map (·.1) ++ [name]
  | [], _ => rfl
  | (key, old) :: rest, h => by
    by_cases hk : key = name
    · simp [getIn, hk] at h
    · simp only [getIn, if_neg hk] at h
      simp [insertIn, hk, keys_insertIn_of_none value h]

theorem keys_eraseIn (name : String) : ∀ entries : List (String × α),
    (eraseIn entries name).map (·.1) = (entries.map (·.1)).erase name
  | [] => rfl
  | (key, value) :: rest => by
    by_cases h : key = name
    · simp [eraseIn, h]
    · simp [eraseIn, h, keys_eraseIn name rest]

theorem nodup_insertIn {entries : List (String × α)} (h : (entries.map (·.1)).Nodup) (name : String) (value : α) :
    ((insertIn entries name value).map (·.1)).Nodup := by
  cases hfound : getIn entries name with
  | some old => rwa [keys_insertIn value (by rw [hfound, Option.isSome_some])]
  | none =>
    rw [keys_insertIn_of_none value hfound, List.nodup_append]
    refine ⟨h, List.pairwise_singleton .., ?_⟩
    rintro key hkey _ hname rfl
    rw [List.mem_singleton] at hname
    subst hname
    rw [← isSome_getIn, hfound] at hkey
    cases hkey

theorem nodup_eraseIn {entries : List (String × α)} (h : (entries.map (·.1)).Nodup) (name : String) :
    ((eraseIn entries name).map (·.1)).Nodup := by
  rw [keys_eraseIn]
  exact h.erase name

/-! ## Tables -/

def empty : Bindings α := ⟨[], List.nodup_nil⟩

instance : Inhabited (Bindings α) := ⟨empty⟩

def get? (b : Bindings α) (name : String) : Option α := getIn b.entries name

def contains (b : Bindings α) (name : String) : Bool := (b.get? name).isSome

def insert (b : Bindings α) (name : String) (value : α) : Bindings α :=
  ⟨insertIn b.entries name value, nodup_insertIn b.distinct name value⟩

def erase (b : Bindings α) (name : String) : Bindings α := ⟨eraseIn b.entries name, nodup_eraseIn b.distinct name⟩

def keys (b : Bindings α) : List String := b.entries.map (·.1)

def size (b : Bindings α) : Nat := b.entries.length

/-- The later of two entries for one name wins. -/
def ofList (entries : List (String × α)) : Bindings α :=
  entries.foldl (fun b entry => b.insert entry.1 entry.2) empty

/-! ## The view -/

@[simp] theorem get?_empty (name : String) : (empty : Bindings α).get? name = none := rfl

theorem get?_insert (b : Bindings α) (name key : String) (value : α) :
    (b.insert name value).get? key = if name = key then some value else b.get? key :=
  getIn_insertIn b.entries name key value

/-- The names of a table are those that can be found in it. -/
theorem contains_iff_mem_keys {b : Bindings α} {name : String} : b.contains name = true ↔ name ∈ b.keys :=
  isSome_getIn b.entries

theorem keys_insert {b : Bindings α} {name : String} (value : α) (h : b.contains name = true) :
    (b.insert name value).keys = b.keys :=
  keys_insertIn value h

theorem keys_erase (b : Bindings α) (name : String) : (b.erase name).keys = b.keys.erase name :=
  keys_eraseIn name b.entries

end Bindings

end Treewalk
