import PagedQuery.Text.GraphemeExtend
import PagedQuery.Text.Unprintable

/-!
# Quoted text

Strings and characters as they appear inside the text of a condition: between quotes,
with an escape for the quote, the backslash, and every character that would not show.

## Main definitions

* `escape quote c`: the written form of `c` between marks `quote`.
* `quoteString s`: `s` between double quotes.
* `quoteChar c`: `c` between single quotes.
-/

namespace PagedQuery.Text

/-- The hexadecimal escape of a character, in lower case and without leading zeros. -/
def hexEscape (c : Char) : List Char :=
  ['\\', 'u', '\x7b'] ++ Nat.toDigits 16 c.toNat ++ ['\x7d']

/-- The written form of a character between two marks `quote`: the mark itself and the
backslash after a backslash, four control characters by letter, whatever would not show
on its own in hexadecimal, and all else as it is. -/
def escape (quote c : Char) : List Char :=
  if c == '\x00' then ['\\', '0']
  else if c == '\t' then ['\\', 't']
  else if c == '\r' then ['\\', 'r']
  else if c == '\n' then ['\\', 'n']
  else if c == '\\' || c == quote then ['\\', c]
  else if isUnprintable c || extendsGrapheme c then hexEscape c
  else [c]

/-- The double quote. -/
def doubleQuote : Char := '\x22'

/-- The single quote. -/
def singleQuote : Char := '\x27'

/-- A string between double quotes. -/
def quoteString (s : String) : String :=
  String.ofList (doubleQuote :: s.toList.flatMap (escape doubleQuote) ++ [doubleQuote])

/-- A character between single quotes. -/
def quoteChar (c : Char) : String :=
  String.ofList (singleQuote :: escape singleQuote c ++ [singleQuote])

/-- Strings between brackets, each quoted, with commas between them. -/
def quoteList (ss : List String) : String :=
  "[" ++ ", ".intercalate (ss.map quoteString) ++ "]"

end PagedQuery.Text
