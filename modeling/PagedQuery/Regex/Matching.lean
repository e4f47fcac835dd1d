import PagedQuery.Regex.Syntax
import PagedQuery.Text.CaseFold

/-!
# What regular expressions match

The items of an expression match a text from some position on if the text goes on with a
piece for each of them, in order. Nothing is asked of what comes before the first piece and
after the last one, unless the items ask for the ends of the text.

## Main definitions

* `Regex.Flags`: what an expression is built with.
* `Regex.Atom.admits flags a c`: whether `c` is what `a` asks for.
* `Regex.MatchesAt flags text items s`: the items match `text` from its suffix `s` on.
* `Regex.Found flags items text`: the items match the text from some position on.
-/

namespace PagedQuery.Regex

open Text

/-- The options of an expression. Without either of them case matters, and a line feed is
not any character. -/
structure Flags where
  /-- Characters with the same simple case folding are one. -/
  caseInsensitive : Bool
  /-- Any character may be a line feed. -/
  dotMatchesNewLine : Bool
  deriving DecidableEq

/-- Holds of the characters that an atom asks for. -/
def Atom.admits (flags : Flags) : Atom → Char → Bool
  | any, d => flags.dotMatchesNewLine || d != '\n'
  | char c, d => if flags.caseInsensitive then foldCase d == foldCase c else d == c

/-- Holds if the items match the text from its suffix on. -/
inductive MatchesAt (flags : Flags) (text : List Char) : List Item → List Char → Prop
  | nil (s : List Char) : MatchesAt flags text [] s
  | start {items : List Item} : MatchesAt flags text items text →
    MatchesAt flags text (.start :: items) text
  | stop {items : List Item} : MatchesAt flags text items [] →
    MatchesAt flags text (.stop :: items) []
  | one {a : Atom} {items : List Item} {c : Char} {s : List Char} : a.admits flags c = true →
    MatchesAt flags text items s → MatchesAt flags text (.one a :: items) (c :: s)
  | many {a : Atom} {items : List Item} {run s : List Char} :
    (∀ c ∈ run, a.admits flags c = true) → MatchesAt flags text items s →
    MatchesAt flags text (.many a :: items) (run ++ s)

/-- Holds if the items match the text from some position on. -/
def Found (flags : Flags) (items : List Item) (text : List Char) : Prop :=
  ∃ s, s <:+ text ∧ MatchesAt flags text items s

section

variable {flags : Flags} {text s : List Char} {items : List Item} {a : Atom}

/-! ## One item -/

theorem matchesAt_start_iff :
    MatchesAt flags text (.start :: items) s ↔ s = text ∧ MatchesAt flags text items text := by
  constructor
  · rintro ⟨⟩
    next h => exact ⟨rfl, h⟩
  · rintro ⟨rfl, h⟩
    exact .start h

theorem matchesAt_stop_iff :
    MatchesAt flags text (.stop :: items) s ↔ s = [] ∧ MatchesAt flags text items [] := by
  constructor
  · rintro ⟨⟩
    next h => exact ⟨rfl, h⟩
  · rintro ⟨rfl, h⟩
    exact .stop h

theorem matchesAt_one_iff :
    MatchesAt flags text (.one a :: items) s ↔
      ∃ c rest, s = c :: rest ∧ a.admits flags c = true ∧ MatchesAt flags text items rest := by
  constructor
  · rintro ⟨⟩
    next h hrest => exact ⟨_, _, rfl, h, hrest⟩
  · rintro ⟨c, rest, rfl, h, hrest⟩
    exact .one h hrest

theorem matchesAt_many_iff :
    MatchesAt flags text (.many a :: items) s ↔
      ∃ run rest, run ++ rest = s ∧ (∀ c ∈ run, a.admits flags c = true) ∧
        MatchesAt flags text items rest := by
  constructor
  · rintro ⟨⟩
    next h hrest => exact ⟨_, _, rfl, h, hrest⟩
  · rintro ⟨run, rest, rfl, h, hrest⟩
    exact .many h hrest

end

end PagedQuery.Regex
