/-
The heap of attribute maps, and attributes read and written through it. An object's own map answers attribute reads, the
map of its class answers method look-ups, and neither falls back to the other.
-/
import Treewalk.Bindings
import Treewalk.Value.Basic

namespace Treewalk

/-- Attribute maps by address. Addresses are given out in order and never taken back. -/
structure Heap where
  maps : Array (Bindings Value)
deriving Inhabited

namespace Heap

def empty : Heap := ⟨#[]⟩

def map (h : Heap) (a : Address) : Bindings Value := h.maps.getD a .empty

/-- A new map, at an address that was not in use. -/
def alloc (h : Heap) (attrs : Bindings Value) : Address × Heap := (h.maps.size, ⟨h.maps.push attrs⟩)

def write (h : Heap) (a : Address) (name : String) (value : Value) : Heap :=
  ⟨h.maps.modify a fun attrs => attrs.insert name value⟩

end Heap

/-- The name under which an object keeps its class. -/
def classAttribute : String := "__class__"

/-- The name of the method that sets up a new object. -/
def constructorName : String := "__init__"

namespace Value

/-- The attribute in the value's own map. -/
def getAttr (h : Heap) (name : String) : Value → Except EvalError (Option Value)
  | .cls _ attrs => .ok ((h.map attrs).get? name)
  | .object _ attrs => .ok ((h.map attrs).get? name)
  | v => do throw (.noAttributes (← v.kind))

/-- The attribute in the map of the object's class. -/
def getClassAttr (h : Heap) (name : String) : Value → Except EvalError (Option Value)
  | .object type attrs => do return (h.map (← classMap (.object type attrs))).get? name
  | v => do throw (.noClassAttributes (← v.kind))

/-- Sets an attribute in the target's own map. -/
def setAttr (h : Heap) (name : String) (target value : Value) : Except EvalError Heap :=
  match target with
  | .cls _ attrs => .ok (h.write attrs name value)
  | .object _ attrs => .ok (h.write attrs name value)
  | target => do throw (.cannotSetAttribute name (← target.kind))

/-- A new object of a class; its map holds only the class. -/
def newObject (h : Heap) (type : Value) : Value × Heap :=
  let (attrs, h) := h.alloc (Bindings.empty.insert classAttribute type)
  (.object type attrs, h)

end Value

end Treewalk
