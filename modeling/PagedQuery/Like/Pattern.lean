import PagedQuery.Regex.Engine

/-!
# Like patterns

The text of a like pattern: a percent sign stands for any run of characters, an
underscore for any one character, and every other character for itself. There is no
escape. A pattern is matched as a regular expression, so it can be used if the engine for
these builds it.

## Main definitions

* `likeSource text`: the regular expression for a pattern text.
* `LikePattern`: a pattern with its test, and `LikePattern.build`, which makes one.
* `Placement`: where in another text a text is searched for.
-/

namespace PagedQuery

/-- The regular expression for one character of a pattern. -/
def likePiece (c : Char) : List Char :=
  if c = '%' then ['.', '*'] else if c = '_' then ['.'] else Regex.escape c

/-- The regular expression for a pattern text, from one end of a text to the other. -/
def likeSource (text : String) : String :=
  String.ofList ('^' :: (text.toList.flatMap likePiece ++ ['$']))

/-- The options for patterns: case does not matter, and line feeds are characters. -/
def likeFlags : Regex.Flags := ⟨true, true⟩

/-- A pattern that may be used. -/
structure LikePattern where
  /-- The text of the pattern, with its wildcards. -/
  text : String
  /-- The test of whole texts. -/
  accepts : String → Bool
  decides : Regex.Decides likeFlags (likeSource text) accepts

namespace LikePattern

/-- The pattern with the given text, unless the engine does not build it. -/
def build (engine : Regex.Engine) (text : String) : Except String LikePattern :=
  match h : engine.build likeFlags (likeSource text) with
  | .error reason => .error reason
  | .ok test => .ok ⟨text, test, engine.decides_of_build h⟩

/-- Patterns are compared by their texts. -/
instance : BEq LikePattern := ⟨fun p q => p.text == q.text⟩

theorem text_of_build {engine : Regex.Engine} {text : String} {pattern : LikePattern}
    (h : build engine text = .ok pattern) : pattern.text = text := by
  unfold build at h
  split at h
  · cases h
  · cases h
    rfl

end LikePattern

/-- Where in another text a text is searched for. -/
inductive Placement where
  | anywhere
  | atStart
  | atEnd
  deriving DecidableEq

namespace Placement

/-- The pattern text that searches for a text. Wildcards inside the text keep their
meaning. -/
def around (place : Placement) (text : String) : String :=
  match place with
  | anywhere => "%" ++ text ++ "%"
  | atStart => text ++ "%"
  | atEnd => "%" ++ text

/-- The name of a search in the given place. -/
def name : Placement → String
  | anywhere => "contains"
  | atStart => "startswith"
  | atEnd => "endswith"

end Placement

end PagedQuery
