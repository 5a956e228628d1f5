/-
Decimal text of integers of any size, with the limit on its length.
-/

namespace Treewalk.Integer

/-- An integer with more decimal digits than this has no text. -/
def digitLimit : Nat := 4300

/-- Whether the text of an integer is within the limit; the sign does not count. -/
def hasText (n : Int) : Bool := decide (n.natAbs < Nat.pow 10 digitLimit)

/-- The decimal text of an integer of at most `digitLimit` digits. -/
def text? (n : Int) : Option String := if hasText n then some (toString n) else none

end Treewalk.Integer
