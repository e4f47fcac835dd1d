import PagedQuery.Regex.Rows

/-!
# Engines for regular expressions

An engine builds a test of texts from the text of an expression and its options. It may
refuse to, and it says why: an expression may be malformed, or larger than the engine allows.
What it builds for an expression of the syntax considered here looks for the expression in a
text.

## Main definitions

* `Regex.Decides flags source test`: `test` looks for the expression `source`.
* `Regex.Engine`: an engine, with what may be relied on.
* `Regex.Engine.byRows refuses?`: an engine that matches row by row.
-/

namespace PagedQuery.Regex

/-- Holds of the tests that look for an expression, if it is within the syntax considered
here. -/
def Decides (flags : Flags) (source : String) (test : String → Bool) : Prop :=
  ∀ items, items? source.toList = some items →
    ∀ s : String, test s = true ↔ Found flags items s.toList

/-- An engine for regular expressions. -/
structure Engine where
  /-- The test for an expression, or the reason not to build it. -/
  build : Flags → String → Except String (String → Bool)
  /-- What is built looks for the expression. -/
  decides_of_build : ∀ {flags : Flags} {source : String} {test : String → Bool},
    build flags source = .ok test → Decides flags source test

namespace Engine

/-- The test that matches row by row, unless there is something against the expression. -/
def buildByRows (refuses? : List Item → Option String) (flags : Flags) (source : String) :
    Except String (String → Bool) :=
  match items? source.toList with
  | none => .error "unsupported syntax"
  | some items =>
    match refuses? items with
    | some reason => .error reason
    | none => .ok fun s => found flags items s.toList

/-- An engine that builds the expressions that nothing is said against, and matches row by
row. -/
def byRows (refuses? : List Item → Option String) : Engine where
  build := buildByRows refuses?
  decides_of_build := by
    intro flags source test h items hitems s
    simp only [buildByRows, hitems] at h
    cases hreason : refuses? items with
    | some reason =>
      rw [hreason] at h
      cases h
    | none =>
      rw [hreason] at h
      rw [← Except.ok.inj h]
      exact found_iff flags items s.toList

end Engine

end PagedQuery.Regex
