/-
The machine under an evaluation and the stream that takes its output. They decide which results are too large to be
formed, how deep the check of a program may go, which texts can be put out, and which characters have names; the language
fixes none of it.
-/
import Treewalk.Text.Quoted

namespace Treewalk

/-- Counts from here on do not fit a machine: `2 ^ 63`. -/
def indexLimit : Nat := 0x8000000000000000

/-- What evaluation takes from the machine under it and from the stream that it prints to. -/
class Host where
  /-- Powers and shifts with this many bits are too large to be formed. -/
  bitLimit : Nat
  /-- Repeated texts of this many code points are too long to be formed. -/
  lengthLimit : Nat
  /-- How many frames are left for the check of a program. -/
  checkFrames : Nat
  /-- What the output says of a text that it does not take. It takes the end of a line. -/
  complaint? : Text → Option String
  /-- The code point of a name, as `\N` escapes give it. -/
  named? : String → Option CodePoint
  bitLimit_le : bitLimit ≤ indexLimit
  lengthLimit_le : lengthLimit ≤ indexLimit

namespace Host

/-- Memory for `10 ^ 16` bits and `10 ^ 15` code points, a stack of a thousand frames of which a few are in use, an
output that takes every text, and no names of characters. -/
abbrev standard : Host where
  bitLimit := 10000000000000000
  lengthLimit := 1000000000000000
  checkFrames := 990
  complaint? _ := none
  named? _ := none
  bitLimit_le := by decide
  lengthLimit_le := by decide

/-- What an output in UTF-8 says of a text with surrogates: it names the first run of them. -/
def surrogateComplaint? (t : Text) : Option String :=
  let start := t.points.takeWhile fun p => p.toChar?.isSome
  let found := (t.points.drop start.length).takeWhile fun p => p.toChar?.isNone
  let refused : Option String := match found with
    | [] => none
    | [p] => some ("character '" ++ Text.escapeCode p.val ++ "' in position " ++ toString start.length)
    | _ => some ("characters in position " ++ toString start.length ++ "-" ++
        toString (start.length + found.length - 1))
  refused.map fun what => "'utf-8' codec can't encode " ++ what ++ ": surrogates not allowed"

/-- The standard host with an output in UTF-8. -/
abbrev utf8 : Host := { standard with complaint? := surrogateComplaint? }

end Host

end Treewalk
