/-
The escapes of quoted literals. What an escape names is a code point, be it a character or a surrogate; which code point
has a name is for the host to say.
-/
import Treewalk.Host
import Treewalk.Token.Number

namespace Treewalk.Grammar

open Token

/-- The characters that stand for one control character or for themselves behind a backslash. -/
def simpleEscape? (c : Char) : Option Char :=
  match c with
  | '\\' => some '\\'
  | '\'' => some '\''
  | '"' => some '"'
  | 'a' => some '\x07'
  | 'b' => some '\x08'
  | 'f' => some '\x0c'
  | 'n' => some '\n'
  | 'r' => some '\r'
  | 't' => some '\t'
  | 'v' => some '\x0b'
  | _ => none

/-- A code of exactly `count` hexadecimal digits. -/
def hexCode? (count : Nat) (cs : List Char) : Option (Nat × List Char) :=
  let digits := cs.take count
  if digits.length = count && digits.all (isDigitOf 16) then some (numberOf 16 digits, cs.drop count) else none

/-- The code point whose name stands in braces. -/
def namedPoint? [Host] (cs : List Char) : Option (CodePoint × List Char) :=
  match cs with
  | '\x7b' :: rest => do
    let name := rest.takeWhile (· != '\x7d')
    if name.isEmpty || name.length = rest.length then none
    else return (← Host.named? (String.ofList name), rest.drop (name.length + 1))
  | _ => none

/-- What a backslash and the characters behind it stand for, and the rest. In a byte string codes are those of bytes and
there are neither long ones nor names. An unknown escape stays as it is written; an incomplete code, one past the last
code point and an unknown name stand for nothing. -/
def escape? [Host] (isBytes : Bool) (cs : List Char) : Option (List CodePoint × List Char) :=
  match cs with
  | [] => some ([.ofChar '\\'], [])
  | c :: rest =>
    if c == '\n' then some ([], rest)
    else
      match simpleEscape? c with
      | some e => some ([↑e], rest)
      | none =>
        if isDigitOf 8 c then
          let digits := (cs.take 3).takeWhile (isDigitOf 8)
          let code := numberOf 8 digits
          (CodePoint.ofNat? (if isBytes then code % 256 else code)).map fun p => ([p], cs.drop digits.length)
        else if c == 'x' then do
          let (code, rest) ← hexCode? 2 rest
          return ([← CodePoint.ofNat? code], rest)
        else if isBytes then some ([.ofChar '\\', ↑c], rest)
        else if c == 'u' || c == 'U' then do
          let (code, rest) ← hexCode? (if c == 'u' then 4 else 8) rest
          return ([← CodePoint.ofNat? code], rest)
        else if c == 'N' then (namedPoint? rest).map fun (p, rest) => ([p], rest)
        else some ([.ofChar '\\', ↑c], rest)

/-- The content of a quoted literal with its escapes read; the fuel bounds its length. -/
def unescapeFrom [Host] (isBytes : Bool) : Nat → List Char → List CodePoint → Option Text
  | _, [], done => some ⟨done.reverse⟩
  | 0, _, _ => none
  | fuel + 1, '\\' :: rest, done => do
    let (points, rest) ← escape? isBytes rest
    unescapeFrom isBytes fuel rest (points.reverse ++ done)
  | fuel + 1, c :: rest, done => unescapeFrom isBytes fuel rest (↑c :: done)

/-- The text of a quoted literal. -/
def unescape [Host] (isRaw isBytes : Bool) (cs : List Char) : Option Text :=
  if isRaw then some ⟨cs.map .ofChar⟩ else unescapeFrom isBytes (cs.length + 1) cs []

/-- The bytes of a quoted literal, which is written in ASCII. -/
def bytesOf [Host] (q : QuotedToken) : Option (List UInt8) := do
  if q.content.any fun c => decide (0x80 ≤ c.toNat) then none
  else return (← unescape q.isRaw true q.content).points.map fun p => p.val.toUInt8

end Treewalk.Grammar
