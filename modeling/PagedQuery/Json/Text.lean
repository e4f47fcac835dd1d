import PagedQuery.Decimal.Integer
import PagedQuery.Json.Basic

/-!
# Strings of JSON documents

Between its quotes, a string is a sequence of code units: code points, and halves of
surrogate pairs written as escapes. A pair of halves in a row is one character; a half
on its own is none.

## Main definitions

* `Json.readUnits? cs`: the code units of a string, and what follows its closing quote.
* `Json.textOfUnits? us`: the text that code units stand for.
* `Json.quote s`: a text as a string.
-/

namespace PagedQuery

namespace Json

/-! ## Reading -/

/-- The value of a hexadecimal digit in either case. -/
def hexDigit? (c : Char) : Option Nat :=
  if c.isDigit then some (c.toNat - '0'.toNat)
  else if 'a' ≤ c ∧ c ≤ 'f' then some (c.toNat - 'a'.toNat + 10)
  else if 'A' ≤ c ∧ c ≤ 'F' then some (c.toNat - 'A'.toNat + 10)
  else none

/-- The code unit of four hexadecimal digits. -/
def hexUnit? (a b c d : Char) : Option Nat := do
  let a ← hexDigit? a
  let b ← hexDigit? b
  let c ← hexDigit? c
  let d ← hexDigit? d
  pure (((a * 16 + b) * 16 + c) * 16 + d)

/-- The code unit of an escape of one letter. -/
def letterEscape? : Char → Option Nat
  | '"' => some 0x22
  | '\\' => some 0x5C
  | '/' => some 0x2F
  | 'b' => some 0x08
  | 'f' => some 0x0C
  | 'n' => some 0x0A
  | 'r' => some 0x0D
  | 't' => some 0x09
  | _ => none

/-- Reads the rest of a string after the code units in `read`, the last of them first. A
control character has to be written as an escape. -/
def readUnits? (read : List Nat) : List Char → Option (List Nat × List Char)
  | [] => none
  | '"' :: cs => some (read.reverse, cs)
  | '\\' :: 'u' :: a :: b :: c :: d :: cs =>
    match hexUnit? a b c d with
    | some unit => readUnits? (unit :: read) cs
    | none => none
  | '\\' :: e :: cs =>
    match letterEscape? e with
    | some unit => readUnits? (unit :: read) cs
    | none => none
  | c :: cs => if c.toNat < 0x20 then none else readUnits? (c.toNat :: read) cs

/-- Holds of the first halves of surrogate pairs. -/
def isHighHalf (unit : Nat) : Bool := 0xD800 ≤ unit && unit ≤ 0xDBFF

/-- Holds of the second halves of surrogate pairs. -/
def isLowHalf (unit : Nat) : Bool := 0xDC00 ≤ unit && unit ≤ 0xDFFF

/-- The text that code units stand for: none if a half of a pair is on its own. -/
def textOfUnits? : List Nat → Option (List Char)
  | [] => some []
  | [unit] => if isHighHalf unit || isLowHalf unit then none else some [Char.ofNat unit]
  | unit :: next :: units =>
    if isHighHalf unit then
      if isLowHalf next then
        (textOfUnits? units).map
          (Char.ofNat (0x10000 + (unit - 0xD800) * 0x400 + (next - 0xDC00)) :: ·)
      else none
    else if isLowHalf unit then none
    else (textOfUnits? (next :: units)).map (Char.ofNat unit :: ·)

/-- Reads a string after its opening quote: its text, if it has one, and what follows
the closing quote. -/
def readString? (cs : List Char) : Option (Option String × List Char) :=
  (readUnits? [] cs).map fun (units, rest) => ((textOfUnits? units).map String.ofList, rest)

/-! ## Writing -/

/-- A hexadecimal digit in lower case. -/
def hexChar (n : Nat) : Char := Nat.digitChar (n % 16)

/-- The letter of the escape that is written for a character, if it has one of its own. -/
def escapeLetter? : Char → Option Char
  | '"' => some '"'
  | '\\' => some '\\'
  | '\x08' => some 'b'
  | '\x0c' => some 'f'
  | '\n' => some 'n'
  | '\r' => some 'r'
  | '\t' => some 't'
  | _ => none

/-- A character of a string, as an escape if it has to be one. -/
def escapeChar (c : Char) : List Char :=
  match escapeLetter? c with
  | some e => ['\\', e]
  | none =>
    if c.toNat < 0x20 then ['\\', 'u', '0', '0', hexChar (c.toNat / 16), hexChar c.toNat]
    else [c]

/-- A text as a string. -/
def quote (s : String) : List Char := '"' :: s.toList.flatMap escapeChar ++ ['"']

/-- A string without a text: half of a surrogate pair. -/
def quoteHalf : List Char := ['"', '\\', 'u', 'd', '8', '0', '0', '"']

end Json

end PagedQuery
