/-
Texts as sequences of code points. Besides characters there are surrogates: no string of characters holds one, but an
escape in a program text can name it, and two texts that differ in a surrogate are two texts.
-/

namespace Treewalk

/-- A character or a surrogate, by its number. -/
structure CodePoint where
  val : Nat
  lt : val < 0x110000
deriving DecidableEq, Repr

namespace CodePoint

def ofChar (c : Char) : CodePoint :=
  ⟨c.toNat, by
    have hvalid : c.toNat.isValidChar := c.valid
    unfold Nat.isValidChar at hvalid
    omega⟩

instance : Coe Char CodePoint := ⟨ofChar⟩

/-- A byte, as the code point of the same number. -/
def ofByte (b : UInt8) : CodePoint := ⟨b.toNat, Nat.lt_trans b.toNat_lt (by decide)⟩

/-- The code point of a number, if it is one. -/
def ofNat? (n : Nat) : Option CodePoint := if h : n < 0x110000 then some ⟨n, h⟩ else none

/-- The character; a surrogate is none. -/
def toChar? (p : CodePoint) : Option Char := if p.val.isValidChar then some (Char.ofNat p.val) else none

theorem ext {p q : CodePoint} (h : p.val = q.val) : p = q := by
  obtain ⟨_, _⟩ := p
  cases h
  rfl

theorem ofChar_inj {c d : Char} (h : ofChar c = ofChar d) : c = d := Char.toNat_inj.1 (congrArg val h)

@[simp] theorem toChar?_ofChar (c : Char) : (ofChar c).toChar? = some c := by
  have hvalid : c.toNat.isValidChar := c.valid
  unfold toChar?
  rw [show (ofChar c).val = c.toNat from rfl, if_pos hvalid, Char.ofNat_toNat]

/-- A code point that is a character is the one of that character. -/
theorem eq_ofChar {p : CodePoint} {c : Char} (h : p.toChar? = some c) : p = ofChar c := by
  unfold toChar? at h
  split at h
  · rename_i hvalid
    cases h
    refine ext ?_
    rw [Char.ofNat, dif_pos hvalid]
    rfl
  · cases h

@[simp] theorem ofNat?_val (p : CodePoint) : ofNat? p.val = some p := dif_pos p.lt

end CodePoint

structure Text where
  points : List CodePoint
deriving DecidableEq, Repr, Inhabited

namespace Text

def ofString (s : String) : Text := ⟨s.toList.map .ofChar⟩

instance : Coe String Text := ⟨ofString⟩

def empty : Text := ⟨[]⟩

def isEmpty (t : Text) : Bool := t.points.isEmpty

def length (t : Text) : Nat := t.points.length

def append (t u : Text) : Text := ⟨t.points ++ u.points⟩

instance : Append Text := ⟨append⟩

/-- Texts behind each other. -/
def join (ts : List Text) : Text := ⟨ts.flatMap points⟩

/-- Texts behind each other, divided by a separator. -/
def intercalate (separator : Text) : List Text → Text
  | [] => empty
  | [t] => t
  | t :: rest => t ++ separator ++ intercalate separator rest

def commaJoined (items : List Text) : Text := intercalate ", " items

/-- Items without parentheses of their own; a single one keeps a comma. -/
def bareTuple (items : List Text) : Text :=
  match items with
  | [item] => item ++ ","
  | _ => commaJoined items

@[simp] theorem points_append (t u : Text) : (t ++ u).points = t.points ++ u.points := rfl

theorem append_assoc (t u v : Text) : t ++ u ++ v = t ++ (u ++ v) := congrArg mk (List.append_assoc ..)

theorem append_empty (t : Text) : t ++ empty = t := congrArg mk (List.append_nil _)

@[simp] theorem ofString_inj {s s' : String} : ofString s = ofString s' ↔ s = s' := by
  rw [ofString, ofString, mk.injEq, List.map_inj_right fun _ _ => CodePoint.ofChar_inj, String.toList_inj]

end Text

end Treewalk
