/-
Sets of characters given by their runs: the bounds of the runs in increasing order, each run from one bound up to but
not including the next.
-/

namespace Treewalk.Text

/-- How many of the sorted `bounds` in the window from `low` to `high` are at most `n`, counted from the start; the fuel
halves the window. -/
def boundsUpTo (bounds : Array Nat) (n : Nat) : Nat → Nat → Nat → Nat
  | 0, low, _ => low
  | fuel + 1, low, high =>
    if low < high then
      let middle := (low + high) / 2
      if bounds.getD middle 0 ≤ n then boundsUpTo bounds n fuel (middle + 1) high
      else boundsUpTo bounds n fuel low middle
    else low

/-- Whether `n` lies in one of the runs, that is, at or past an odd number of bounds. -/
def inRuns (bounds : Array Nat) (n : Nat) : Bool :=
  boundsUpTo bounds n (bounds.size + 1) 0 bounds.size % 2 == 1

end Treewalk.Text
