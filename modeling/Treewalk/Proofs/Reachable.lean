/-
What can be reached from a set of values, through tuples, the classes of objects and attribute maps. What is reachable
changes with every store, so a run is followed by what does not change: the addresses that were reachable at its start
or were not yet in use. As long as only good values are stored at these live addresses, everything that can be reached
is good.
-/
import Treewalk.Proofs.Placement
import Treewalk.Proofs.Scope
import Treewalk.Proofs.Standard
import Treewalk.Run

namespace Treewalk

/-- The attribute map of a class or an object. -/
def Value.ownMap? : Value → Option Address
  | .cls _ attrs => some attrs
  | .object _ attrs => some attrs
  | _ => Option.none

inductive Reachable (h : Heap) (roots : Value → Prop) : Value → Prop
  | root {v : Value} : roots v → Reachable h roots v
  | item {items : List Value} {v : Value} : Reachable h roots (.tuple items) → v ∈ items → Reachable h roots v
  | type {type : Value} {attrs : Address} : Reachable h roots (.object type attrs) → Reachable h roots type
  | entry {v w : Value} {attrs : Address} {name : String} :
    Reachable h roots v → v.ownMap? = some attrs → (h.map attrs).get? name = some w → Reachable h roots w

theorem Reachable.mono {h : Heap} {roots roots' : Value → Prop} (hroots : ∀ v, roots v → roots' v) {v : Value}
    (hv : Reachable h roots v) : Reachable h roots' v := by
  induction hv with
  | root hr => exact .root (hroots _ hr)
  | item _ hm ih => exact .item ih hm
  | type _ ih => exact .type ih
  | entry _ ho hg ih => exact .entry ih ho hg

section

variable {h : Heap} {roots fits : Value → Prop} {live : Address → Prop}

-- The recursion is on the value: its parts are reachable with it, and maps are not followed.
mutual

theorem Reachable.within (hfit : ∀ v, Reachable h roots v → fits v)
    (hlive : ∀ v a, Reachable h roots v → v.ownMap? = some a → live a) :
    ∀ {v : Value}, Reachable h roots v → v.Within fits live
  | .tuple items, hv => Value.within_tuple.2 ⟨hfit _ hv, Reachable.allWithin hfit hlive fun _ hw => .item hv hw⟩
  | .cls _ _, hv => Value.within_cls.2 ⟨hfit _ hv, hlive _ _ hv rfl⟩
  | .object _ _, hv =>
    Value.within_object.2 ⟨hfit _ hv, hlive _ _ hv rfl, Reachable.within hfit hlive (.type hv)⟩
  | .none, hv | .bool _, hv | .int _, hv | .float _, hv | .imaginary _ _, hv | .string _, hv | .function _ _ _, hv
  | .foreign _, hv => by
    simp only [Value.Within]
    exact hfit _ hv

theorem Reachable.allWithin (hfit : ∀ v, Reachable h roots v → fits v)
    (hlive : ∀ v a, Reachable h roots v → v.ownMap? = some a → live a) :
    ∀ {items : List Value}, (∀ v ∈ items, Reachable h roots v) → Value.AllWithin fits live items
  | [], _ => by simp only [Value.AllWithin]
  | v :: rest, hitems => by
    simp only [Value.AllWithin]
    refine ⟨Reachable.within hfit hlive (hitems v (List.mem_cons_self ..)), Reachable.allWithin hfit hlive ?_⟩
    exact fun w hw => hitems w (List.mem_cons_of_mem _ hw)

end

end

/-- An address is live if its map is reachable or not yet in use. -/
def Live (h : Heap) (roots : Value → Prop) (a : Address) : Prop :=
  a < h.maps.size → ∃ v, Reachable h roots v ∧ v.ownMap? = some a

/-! ## The heap -/

namespace Heap

theorem map_of_le {h : Heap} {a : Address} (ha : h.maps.size ≤ a) : h.map a = .empty := by
  simp [map, ha]

theorem map_alloc (h : Heap) (attrs : Bindings Value) (a : Address) :
    (h.alloc attrs).2.map a = if a = h.maps.size then attrs else h.map a := by
  simp only [map, alloc, Array.getD_eq_getD_getElem?, Array.getElem?_push]
  split <;> rfl

theorem map_write (h : Heap) (a b : Address) (name : String) (value : Value) :
    (h.write a name value).map b = if a = b ∧ b < h.maps.size then (h.map b).insert name value else h.map b := by
  by_cases hb : b < h.maps.size
  · by_cases hab : a = b <;> simp [map, write, Array.getElem_modify, hb, hab]
  · simp [map, write, hb]

end Heap

/-- A heap whose maps at live addresses hold only values within bounds, and on which no unused address is not live. -/
structure Heap.Within (fits : Value → Prop) (live : Address → Prop) (h : Heap) : Prop where
  maps : ∀ a, live a → (h.map a).All (Value.Within fits live)
  fresh : ∀ a, h.maps.size ≤ a → live a

section

variable {h : Heap} {fits : Value → Prop} {live : Address → Prop}

theorem Heap.Within.alloc (hh : h.Within fits live) {attrs : Bindings Value}
    (hattrs : attrs.All (Value.Within fits live)) : (h.alloc attrs).2.Within fits live := by
  refine ⟨fun a ha => ?_, fun a ha => hh.fresh a ?_⟩
  · rw [Heap.map_alloc]
    split
    · exact hattrs
    · exact hh.maps a ha
  · simp only [Heap.alloc, Array.size_push] at ha
    omega

theorem Heap.Within.write (hh : h.Within fits live) {name : String} {v : Value} (hv : v.Within fits live)
    (a : Address) : (h.write a name v).Within fits live := by
  refine ⟨fun b hb => ?_, fun b hb => hh.fresh b ?_⟩
  · rw [Heap.map_write]
    split
    · exact (hh.maps b hb).insert hv
    · exact hh.maps b hb
  · simpa [Heap.write] using hb

theorem Value.Within.ownMap {v : Value} (hv : v.Within fits live) {a : Address} (ha : v.ownMap? = some a) :
    live a := by
  cases v with
  | cls _ _ => cases ha; exact (Value.within_cls.1 hv).2
  | object _ _ => cases ha; exact (Value.within_object.1 hv).2.1
  | none | bool _ | int _ | float _ | imaginary _ _ | string _ | tuple _ | function _ _ _ | foreign _ => cases ha

end

namespace Standard

/-- A heap with good values only in the maps at live addresses. -/
abbrev HeapOk (S : Standard) (live : Address → Prop) (h : Heap) : Prop := h.Within S.fits live

/-! ## From reachable to good, and back -/

section

variable {h : Heap} {roots fits : Value → Prop} {live : Address → Prop}

theorem good_of_reachable (hfit : ∀ v, Reachable h roots v → fits v) {v : Value} (hv : Reachable h roots v) :
    v.Within fits (Live h roots) :=
  hv.within hfit fun _ _ hw ha _ => ⟨_, hw, ha⟩

theorem heapOk_of_reachable (hfit : ∀ v, Reachable h roots v → fits v) : h.Within fits (Live h roots) := by
  refine ⟨fun a ha name v hv => ?_, fun a ha hlt => absurd hlt (Nat.not_lt.2 ha)⟩
  -- A live address in use belongs to something reachable; one not in use has an empty map.
  by_cases hlt : a < h.maps.size
  · obtain ⟨owner, hr, ho⟩ := ha hlt
    exact good_of_reachable hfit (.entry hr ho hv)
  · rw [Heap.map_of_le (Nat.not_lt.1 hlt), Bindings.get?_empty] at hv
    cases hv

theorem reachable_good (hh : h.Within fits live) (hroots : ∀ v, roots v → v.Within fits live) {v : Value}
    (hv : Reachable h roots v) : v.Within fits live := by
  induction hv with
  | root hr => exact hroots _ hr
  | item _ hm ih => exact Value.allWithin_iff.1 (Value.within_tuple.1 ih).2 _ hm
  | type _ ih => exact (Value.within_object.1 ih).2.2
  | entry _ ho hg ih => exact hh.maps _ (ih.ownMap ho) _ _ hg

end

end Standard

/-! ## Well-formed worlds -/

/-- A value of one of the kinds that evaluation knows; the class of an object is a class, and the body of a function
passes the check. -/
def Value.Proper : Value → Prop
  | .foreign _ => False
  | .object (.cls ..) _ => True
  | .object .. => False
  | .function _ _ body => Accepted .functionBody body
  | _ => True

/-- The values of global names. -/
def World.Bound (w : World) (v : Value) : Prop := ∃ name, w.globals.get? name = some v

/-- Everything that can be reached from the global names is proper. -/
def World.WellFormed (w : World) : Prop := ∀ v, Reachable w.heap w.Bound v → v.Proper

/-- Proper values end operations on them with ordinary errors only. -/
def Standard.proper : Standard where
  fits := Value.Proper
  admits e := e.kind ≠ .internalInvariant
  scalar {v} h := by
    cases v with
    | none | bool _ | int _ | float _ | imaginary _ _ | string _ => trivial
    | tuple _ | cls _ _ | object _ _ | function _ _ _ | foreign _ => cases h
  tuple := trivial
  cls := trivial
  object := trivial
  ordinary h := h.1
  foreign h := h.elim
  unclassed {type _} h hne := by
    cases type with
    | cls name attrs => exact absurd rfl (hne name attrs)
    | none | bool _ | int _ | float _ | imaginary _ _ | string _ | tuple _ | function _ _ _ | object _ _ | foreign _ =>
      exact h.elim
  unescaped h := h rfl

end Treewalk
