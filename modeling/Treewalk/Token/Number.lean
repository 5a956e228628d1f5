/-
Number literals: integers in four bases, floats and imaginary numbers, with underscores between digits.
-/
import Treewalk.Token.Basic

namespace Treewalk.Token

def digitValue? (c : Char) : Option Nat :=
  if c.isDigit then some (c.toNat - '0'.toNat)
  else if 'a' ≤ c ∧ c ≤ 'f' then some (c.toNat - 'a'.toNat + 10)
  else if 'A' ≤ c ∧ c ≤ 'F' then some (c.toNat - 'A'.toNat + 10)
  else none

def isDigitOf (base : Nat) (c : Char) : Bool :=
  match digitValue? c with
  | some d => decide (d < base)
  | none => false

/-- The number written by digits. -/
def numberOf (base : Nat) (digits : List Char) : Nat :=
  digits.foldl (fun n c => n * base + (digitValue? c).getD 0) 0

/-- A run of digits, which may be divided by single underscores but does not end with one. -/
def digitRun (base : Nat) : List Char → Option (List Char × List Char)
  | '_' :: c :: rest =>
    if isDigitOf base c then (digitRun base rest).map fun (digits, rest) => (c :: digits, rest) else none
  | ['_'] => none
  | c :: rest =>
    if isDigitOf base c then (digitRun base rest).map fun (digits, rest) => (c :: digits, rest)
    else some ([], c :: rest)
  | [] => some ([], [])

/-- The characters of names and numbers, as far as finding the end of a number goes. -/
def isWordChar (c : Char) : Bool := c.isAlphanum || c == '_' || decide (0x80 ≤ c.toNat)

/-- The keywords that may follow a number without a blank. -/
def followers : List String := ["and", "else", "for", "if", "in", "is", "or", "not"]

/-- Whether a number may end before `rest`. -/
def endsNumber (rest : List Char) : Bool :=
  match rest with
  | [] => true
  | c :: _ => !isWordChar c || followers.any fun w => w.toList.isPrefixOf rest

/-- An integer in a base other than ten. -/
def radixNumber (base : Nat) (cs : List Char) : Option (Literal × List Char) := do
  let (digits, rest) ← digitRun base cs
  if digits.isEmpty || !endsNumber rest then none else some (.int (numberOf base digits), rest)

/-- The exponent of a float, if there is one; a sign must be followed by a digit. -/
def exponentPart (cs : List Char) : Option (Option Int × List Char) :=
  match cs with
  | e :: rest =>
    if e == 'e' || e == 'E' then
      let (signed, negative, digits) := match rest with
        | '+' :: r => (true, false, r)
        | '-' :: r => (true, true, r)
        | r => (false, false, r)
      match digits with
      | c :: _ =>
        if c.isDigit then do
          let (run, rest) ← digitRun 10 digits
          let n : Int := numberOf 10 run
          return (some (if negative then -n else n), rest)
        else if signed then none
        else some (none, cs)
      | [] => if signed then none else some (none, cs)
    else some (none, cs)
  | [] => some (none, [])

/-- The digits behind a decimal point. -/
def fractionPart (cs : List Char) : Option (List Char × List Char) :=
  match cs with
  | c :: _ => if c.isDigit then digitRun 10 cs else some ([], cs)
  | [] => some ([], [])

/-- An integer in base ten: no zeros in front of another digit, and a limited length; only zero may have any number of
digits. -/
def decimalInteger (digits : List Char) : Option Literal :=
  if digits.all (· == '0') then some (.int 0)
  else if digits.head? == some '0' || decide (Integer.digitLimit < digits.length) then none
  else some (.int (numberOf 10 digits))

/-- What follows the integer part of a decimal number. -/
def decimalNumber (whole : List Char) (cs : List Char) : Option (Literal × List Char) := do
  let (fraction, rest) ← match cs with
    | '.' :: rest => (fractionPart rest).map fun (digits, rest) => (some digits, rest)
    | rest => some (none, rest)
  let (exponent, rest) ← exponentPart rest
  let digits := whole ++ fraction.getD []
  let value := Double.ofDecimal false
    ⟨numberOf 10 digits, exponent.getD 0 - (fraction.getD []).length⟩
  match rest with
  | 'j' :: rest | 'J' :: rest =>
    if endsNumber rest then return (.imaginary (.zero false) value, rest) else none
  | rest =>
    if !endsNumber rest then none
    else if fraction.isNone && exponent.isNone then return (← decimalInteger whole, rest)
    else return (.float value, rest)

/-- A number at the start of the text, which begins with a digit or with a point and a digit. -/
def scanNumber (cs : List Char) : Option (Literal × List Char) :=
  match cs with
  | '0' :: 'x' :: rest | '0' :: 'X' :: rest => radixNumber 16 rest
  | '0' :: 'o' :: rest | '0' :: 'O' :: rest => radixNumber 8 rest
  | '0' :: 'b' :: rest | '0' :: 'B' :: rest => radixNumber 2 rest
  | '.' :: _ => decimalNumber [] cs
  | _ => do
    let (whole, rest) ← digitRun 10 cs
    decimalNumber whole rest

end Treewalk.Token
