/-
The one form of a name. Names that differ only in presentation, or in how their marks are put together, are one name: its
characters are taken apart, the marks behind each character are sorted, and what goes together is put together again.
-/
import Treewalk.Token.NormalTable
import Treewalk.Token.Number

namespace Treewalk.Token

/-! ## Tables -/

/-- The key and the value of a row. -/
abbrev Row := List Nat × List Nat

def readRow? (row : String) : Option Row :=
  let numbers (s : String) : List Nat := (s.splitOn "+").map fun digits => numberOf 16 digits.toList
  match row.splitOn ":" with
  | [key, value] => some (numbers key, numbers value)
  | _ => none

def readRows (table : String) : List Row := (table.splitOn "\n").flatMap fun line => (line.splitOn " ").filterMap readRow?

def decompositions : List Row := readRows decompositionTable

def classes : List Row := readRows classTable

def compositions : List Row := readRows compositionTable

/-! ## Syllables of three letters -/

/-- The first of the syllables. They are numbered by their letters, 19 at the front, 21 in the middle and 27 or none at
the end. -/
def syllableBase : Nat := 0xAC00

def syllableCount : Nat := 19 * 21 * 28

def frontBase : Nat := 0x1100

def middleBase : Nat := 0x1161

/-- One before the first letter at the end of a syllable. -/
def endBase : Nat := 0x11A7

def isSyllable (c : Nat) : Bool := decide (syllableBase ≤ c) && decide (c < syllableBase + syllableCount)

def syllableLetters (c : Nat) : List Nat :=
  let n := c - syllableBase
  let letters := [frontBase + n / (21 * 28), middleBase + n / 28 % 21]
  if n % 28 = 0 then letters else letters ++ [endBase + n % 28]

/-- A front and a middle letter, or a syllable without an end and an end. -/
def syllable? (a b : Nat) : Option Nat :=
  if frontBase ≤ a ∧ a < frontBase + 19 ∧ middleBase ≤ b ∧ b < middleBase + 21 then
    some (syllableBase + ((a - frontBase) * 21 + (b - middleBase)) * 28)
  else if isSyllable a ∧ (a - syllableBase) % 28 = 0 ∧ endBase < b ∧ b < endBase + 28 then some (a + (b - endBase))
  else none

/-! ## Normal forms -/

/-- The characters that one character is taken apart into. -/
def parts (c : Nat) : List Nat :=
  let found := decompositions.findSome? fun
    | ([key], value) => if key = c then some value else none
    | ([first, last], [value]) => if first ≤ c ∧ c ≤ last then some [value + (c - first)] else none
    | _ => none
  if isSyllable c then syllableLetters c else found.getD [c]

/-- The class of a mark; it is zero for all other characters. -/
def markClass (c : Nat) : Nat :=
  let found := classes.findSome? fun
    | ([first, last], [value]) => if first ≤ c ∧ c ≤ last then some value else none
    | _ => none
  found.getD 0

/-- Puts a character behind others, listed from the last one on. A mark goes before the marks of higher classes. -/
def placeMark (c : Nat) : List Nat → List Nat
  | [] => [c]
  | last :: before =>
    if markClass c ≠ 0 ∧ markClass c < markClass last then last :: placeMark c before else c :: last :: before

def sortMarks (cs : List Nat) : List Nat := (cs.foldl (fun done c => placeMark c done) []).reverse

def compose? (a b : Nat) : Option Nat := (syllable? a b).or (compositions.lookup [a, b] >>= List.head?)

/-- Puts together what goes together. A character is followed by the marks that have been kept, listed from the last one
on, and takes in another one unless a mark of the same class or of a higher one stands between. -/
def composeFrom (c : Nat) (marks : List Nat) : List Nat → List Nat
  | [] => c :: marks.reverse
  | next :: rest =>
    let free := match marks with
      | [] => true
      | last :: _ => decide (markClass last < markClass next)
    match if free then compose? c next else none with
    | some composed => composeFrom composed marks rest
    | none =>
      if markClass next = 0 then c :: marks.reverse ++ composeFrom next [] rest
      else composeFrom c (next :: marks) rest

def composeAll : List Nat → List Nat
  | [] => []
  | c :: rest => composeFrom c [] rest

/-- The form of a name; names in ASCII have it. -/
def normalName (s : String) : String :=
  if s.toList.all fun c => decide (c.toNat < 0x80) then s
  else String.ofList ((composeAll (sortMarks (s.toList.flatMap fun c => parts c.toNat))).map Char.ofNat)

end Treewalk.Token
