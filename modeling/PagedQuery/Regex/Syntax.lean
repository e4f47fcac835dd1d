/-!
# Regular expressions as texts

The part of the syntax of regular expressions that is needed to look for whole texts with
gaps in them: the two ends of the text, single characters, and runs of characters. A
character with a meaning of its own stands for itself after a backslash.

## Main definitions

* `Regex.isMeta c`, `Regex.escape c`: the characters with a meaning of their own, and how
  to write them.
* `Regex.Atom`, `Regex.Item`: what the text is asked for.
* `Regex.items? cs`: the items that `cs` writes, if it is within this part of the syntax.
-/

namespace PagedQuery.Regex

/-- Holds of the characters that a backslash is written before, if they stand for
themselves. -/
def isMeta (c : Char) : Bool :=
  ['\\', '.', '+', '*', '?', '(', ')', '|', '[', ']', '\x7b', '\x7d', '^', '$', '#', '&', '-',
    '~'].contains c

/-- The expression for one character. -/
def escape (c : Char) : List Char := if isMeta c then ['\\', c] else [c]

/-- What one character of a text is asked to be. -/
inductive Atom where
  /-- Any character. -/
  | any
  /-- The given character. -/
  | char (c : Char)
  deriving DecidableEq

/-- What a text is asked for at some position in it. -/
inductive Item where
  /-- That the text begins there. -/
  | start
  /-- That the text ends there. -/
  | stop
  /-- One character. -/
  | one (a : Atom)
  /-- Any number of characters, none included. -/
  | many (a : Atom)
  deriving DecidableEq

/-- The items that an expression writes. -/
def items? : List Char → Option (List Item)
  | [] => some []
  | '^' :: cs => (items? cs).map (.start :: ·)
  | '$' :: cs => (items? cs).map (.stop :: ·)
  | '.' :: '*' :: cs => (items? cs).map (.many .any :: ·)
  | '.' :: cs => (items? cs).map (.one .any :: ·)
  | '\\' :: c :: '*' :: cs => if isMeta c then (items? cs).map (.many (.char c) :: ·) else none
  | '\\' :: c :: cs => if isMeta c then (items? cs).map (.one (.char c) :: ·) else none
  | c :: '*' :: cs => if isMeta c then none else (items? cs).map (.many (.char c) :: ·)
  | c :: cs => if isMeta c then none else (items? cs).map (.one (.char c) :: ·)

end PagedQuery.Regex
