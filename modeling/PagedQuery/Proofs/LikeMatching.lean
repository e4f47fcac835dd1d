import Mathlib.Data.List.Forall2
import PagedQuery.Like.Pattern

/-!
# What like patterns match

The regular expression for a pattern text is read as one item for each character, between the
two ends of a text. Each item takes the pieces of text that its character stands for, whatever
the character means elsewhere in expressions. So the test of a pattern accepts a text exactly
if the whole of it splits into pieces for the characters of the pattern.

## Main definitions

* `likeItem c`, `likeItems text`: the items of a character and of a pattern text.
* `StandsFor`: the pieces of text that a character of a pattern stands for.
* `LikeMatches p s`: the text splits into pieces for the characters of the pattern.
-/

namespace PagedQuery

open Text

/-! ## The expression is read back -/

namespace Regex

/-- A character that is not followed by a star is one character, however it is written. -/
theorem items?_escape (c : Char) {cs : List Char} (h : cs.head? ≠ some '*') :
    items? (escape c ++ cs) = (items? cs).map (.one (.char c) :: ·) := by
  have hstar (rest : List Char) (hcons : cs = '*' :: rest) : False := h (by rw [hcons]; rfl)
  unfold escape
  split
  · next hmeta =>
    rw [List.cons_append, List.cons_append, List.nil_append, items?, if_pos hmeta]
    exact hstar
  · next hmeta =>
    have hne (m : Char) (hm : isMeta m = true) : c ≠ m := fun heq => hmeta (heq ▸ hm)
    rw [List.cons_append, List.nil_append, items?, if_neg hmeta]
    · exact hne '^' rfl
    · exact hne '$' rfl
    · exact fun _ heq => absurd heq (hne '.' rfl)
    · exact hne '.' rfl
    · exact fun _ _ heq => absurd heq (hne '\\' rfl)
    · exact fun _ _ heq => absurd heq (hne '\\' rfl)
    · exact hstar

theorem items?_dot_star (cs : List Char) :
    items? ('.' :: '*' :: cs) = (items? cs).map (.many .any :: ·) := by
  rw [items?]

theorem items?_dot {cs : List Char} (h : cs.head? ≠ some '*') :
    items? ('.' :: cs) = (items? cs).map (.one .any :: ·) := by
  rw [items?]
  exact fun rest hcons => h (by rw [hcons]; rfl)

theorem head?_escape (c : Char) (cs : List Char) : (escape c ++ cs).head? ≠ some '*' := by
  unfold escape
  split
  · next hmeta => exact fun hstar => by cases hstar
  · next hmeta =>
    intro hstar
    obtain rfl := Option.some.inj hstar
    exact hmeta rfl

end Regex

/-- The item for a character of a pattern. -/
def likeItem (c : Char) : Regex.Item :=
  if c = '%' then .many .any else if c = '_' then .one .any else .one (.char c)

/-- The items for a pattern text. -/
def likeItems (text : String) : List Regex.Item := .start :: (text.toList.map likeItem ++ [.stop])

/-- No piece of the expression begins with a star, so none is taken for a run by mistake. -/
theorem head?_likePiece (c : Char) (cs : List Char) : (likePiece c ++ cs).head? ≠ some '*' := by
  unfold likePiece
  split
  · exact fun hstar => by cases hstar
  · split
    · exact fun hstar => by cases hstar
    · exact Regex.head?_escape c cs

theorem items?_likePiece (c : Char) {cs : List Char} (h : cs.head? ≠ some '*') :
    Regex.items? (likePiece c ++ cs) = (Regex.items? cs).map (likeItem c :: ·) := by
  unfold likePiece likeItem
  split
  · exact Regex.items?_dot_star cs
  · split
    · exact Regex.items?_dot h
    · exact Regex.items?_escape c h

/-- **The expression for a pattern is read as one item for each character.** -/
theorem items?_likeSource (text : String) :
    Regex.items? (likeSource text).toList = some (likeItems text) := by
  have hhead (p : List Char) : (p.flatMap likePiece ++ ['$']).head? ≠ some '*' := by
    cases p with
    | nil => exact fun hstar => by cases hstar
    | cons c p =>
      rw [List.flatMap_cons, List.append_assoc]
      exact head?_likePiece c _
  have hpieces (p : List Char) :
      Regex.items? (p.flatMap likePiece ++ ['$']) = some (p.map likeItem ++ [.stop]) := by
    induction p with
    | nil => rfl
    | cons c p ih =>
      rw [List.flatMap_cons, List.append_assoc, items?_likePiece c (hhead p), ih]
      rfl
  rw [likeSource, String.toList_ofList, Regex.items?, hpieces]
  rfl

/-! ## Pieces of a text -/

/-- The pieces of text that a character of a pattern stands for: any run of characters for
the percent sign, any one character for the underscore, and for every other character
those that differ from it in case alone. -/
inductive StandsFor : Char → List Char → Prop
  | percent (piece : List Char) : StandsFor '%' piece
  | underscore (d : Char) : StandsFor '_' [d]
  | other {c d : Char} (hpercent : c ≠ '%') (hunderscore : c ≠ '_')
      (h : foldCase d = foldCase c) : StandsFor c [d]

/-- The texts that split into pieces for the characters of a pattern, in order. -/
inductive LikeMatches : List Char → List Char → Prop
  | nil : LikeMatches [] []
  | cons {c : Char} {p piece rest : List Char} :
      StandsFor c piece → LikeMatches p rest → LikeMatches (c :: p) (piece ++ rest)

section

variable {c : Char} {p s text : List Char}

theorem likeMatches_nil_iff : LikeMatches [] s ↔ s = [] := by
  constructor
  · rintro ⟨⟩
    rfl
  · rintro rfl
    exact .nil

theorem likeMatches_cons_iff :
    LikeMatches (c :: p) s ↔ ∃ piece rest, piece ++ rest = s ∧ StandsFor c piece ∧
      LikeMatches p rest := by
  constructor
  · rintro (_ | ⟨hpiece, hrest⟩)
    exact ⟨_, _, rfl, hpiece, hrest⟩
  · rintro ⟨piece, rest, rfl, hpiece, hrest⟩
    exact .cons hpiece hrest

theorem likeMatches_percent_iff :
    LikeMatches ('%' :: p) s ↔ ∃ rest, rest <:+ s ∧ LikeMatches p rest := by
  rw [likeMatches_cons_iff]
  constructor
  · rintro ⟨piece, rest, h, -, hrest⟩
    exact ⟨rest, ⟨piece, h⟩, hrest⟩
  · rintro ⟨rest, ⟨piece, h⟩, hrest⟩
    exact ⟨piece, rest, h, .percent piece, hrest⟩

theorem likeMatches_other_iff (hpercent : c ≠ '%') (hunderscore : c ≠ '_') :
    LikeMatches (c :: p) s ↔
      ∃ d rest, s = d :: rest ∧ foldCase d = foldCase c ∧ LikeMatches p rest := by
  rw [likeMatches_cons_iff]
  constructor
  · rintro ⟨_, rest, rfl, _ | _ | ⟨-, -, hfold⟩, hrest⟩
    · exact absurd rfl hpercent
    · exact absurd rfl hunderscore
    · exact ⟨_, rest, rfl, hfold, hrest⟩
  · rintro ⟨d, rest, rfl, hfold, hrest⟩
    exact ⟨[d], rest, rfl, .other hpercent hunderscore hfold, hrest⟩

/-- A pattern matches a text exactly if the text is made of a piece for each character. -/
theorem likeMatches_iff_pieces :
    LikeMatches p s ↔
      ∃ pieces : List (List Char), pieces.flatten = s ∧ List.Forall₂ StandsFor p pieces := by
  induction p generalizing s with
  | nil => simp [likeMatches_nil_iff, eq_comm]
  | cons c p ih =>
    rw [likeMatches_cons_iff]
    constructor
    · rintro ⟨piece, rest, rfl, hpiece, hrest⟩
      obtain ⟨pieces, rfl, hpieces⟩ := ih.1 hrest
      exact ⟨piece :: pieces, rfl, .cons hpiece hpieces⟩
    · rintro ⟨_, rfl, ⟨⟩ | ⟨hpiece, hpieces⟩⟩
      exact ⟨_, _, rfl, hpiece, ih.2 ⟨_, rfl, hpieces⟩⟩

/-! ## Patterns as expressions -/

/-- The item of a character matches where one of its pieces stands. -/
theorem matchesAt_likeItem_iff {items : List Regex.Item} :
    Regex.MatchesAt likeFlags text (likeItem c :: items) s ↔
      ∃ piece rest, piece ++ rest = s ∧ StandsFor c piece ∧
        Regex.MatchesAt likeFlags text items rest := by
  unfold likeItem
  by_cases hpercent : c = '%'
  · subst hpercent
    rw [if_pos rfl, Regex.matchesAt_many_iff]
    constructor
    · rintro ⟨run, rest, happend, -, hrest⟩
      exact ⟨run, rest, happend, .percent run, hrest⟩
    · rintro ⟨piece, rest, happend, -, hrest⟩
      exact ⟨piece, rest, happend, fun _ _ => rfl, hrest⟩
  rw [if_neg hpercent]
  by_cases hunderscore : c = '_'
  · subst hunderscore
    rw [if_pos rfl, Regex.matchesAt_one_iff]
    constructor
    · rintro ⟨d, rest, rfl, -, hrest⟩
      exact ⟨[d], rest, rfl, .underscore d, hrest⟩
    · rintro ⟨_, rest, rfl, _ | d | ⟨-, hne, -⟩, hrest⟩
      · exact ⟨d, rest, rfl, rfl, hrest⟩
      · exact absurd rfl hne
  · rw [if_neg hunderscore, Regex.matchesAt_one_iff]
    constructor
    · rintro ⟨d, rest, rfl, hfold, hrest⟩
      exact ⟨[d], rest, rfl, .other hpercent hunderscore (beq_iff_eq.1 hfold), hrest⟩
    · rintro ⟨_, rest, rfl, _ | _ | ⟨-, -, hfold⟩, hrest⟩
      · exact absurd rfl hpercent
      · exact absurd rfl hunderscore
      · exact ⟨_, rest, rfl, beq_iff_eq.2 hfold, hrest⟩

/-- The items of a pattern match exactly the rest of a text where the rest splits. -/
theorem matchesAt_map_likeItem_iff :
    Regex.MatchesAt likeFlags text (p.map likeItem ++ [.stop]) s ↔ LikeMatches p s := by
  induction p generalizing s with
  | nil =>
    rw [List.map_nil, List.nil_append, Regex.matchesAt_stop_iff, likeMatches_nil_iff]
    exact and_iff_left (.nil _)
  | cons c p ih =>
    rw [List.map_cons, List.cons_append, matchesAt_likeItem_iff, likeMatches_cons_iff]
    simp only [ih]

/-- A pattern is found in a text only from its start, and then up to its end. -/
theorem found_likeItems_iff {pattern : String} :
    Regex.Found likeFlags (likeItems pattern) s ↔ LikeMatches pattern.toList s := by
  simp only [Regex.Found, likeItems, Regex.matchesAt_start_iff, matchesAt_map_likeItem_iff]
  constructor
  · rintro ⟨_, -, -, h⟩
    exact h
  · intro h
    exact ⟨s, List.suffix_refl s, rfl, h⟩

end

namespace LikePattern

variable {pattern : LikePattern}

/-- The test of a pattern decides the relation. -/
theorem accepts_iff {s : String} :
    pattern.accepts s = true ↔ LikeMatches pattern.text.toList s.toList :=
  (pattern.decides _ (items?_likeSource _) s).trans found_likeItems_iff

/-- A pattern is determined by its text. -/
theorem text_injective : Function.Injective LikePattern.text := by
  intro p q h
  have haccepts : p.accepts = q.accepts := by
    funext s
    rw [Bool.eq_iff_iff, accepts_iff, accepts_iff, h]
  cases p
  cases q
  cases h
  cases haccepts
  rfl

instance : LawfulBEq LikePattern where
  rfl {p} := beq_self_eq_true p.text
  eq_of_beq h := text_injective (eq_of_beq h)

/-- **A pattern matches the texts that split along it.** If the engine builds the pattern, the
test accepts a text exactly if the whole of it is made of one piece for each character of the
pattern, in order, each of them a piece that the character stands for. -/
theorem accepts_iff_pieces {engine : Regex.Engine} {text : String}
    (h : build engine text = .ok pattern) (s : String) :
    pattern.accepts s = true ↔
      ∃ pieces : List (List Char), pieces.flatten = s.toList ∧
        List.Forall₂ StandsFor text.toList pieces := by
  rw [accepts_iff, text_of_build h, likeMatches_iff_pieces]

/-- A letter takes the sign that folds to it, a percent sign a line break, and a full stop
nothing but itself. -/
theorem accepts_kelvin_stop :
    ∃ pattern, build (.byRows fun _ => none) "k%._" = .ok pattern ∧
      pattern.accepts "\u212A\n.é" = true ∧ pattern.accepts "kx" = false := by
  have hbuild : ∃ pattern, build (.byRows fun _ => none) "k%._" = .ok pattern := ⟨_, rfl⟩
  obtain ⟨pattern, hpattern⟩ := hbuild
  refine ⟨pattern, hpattern, ?_, ?_⟩
  · refine (accepts_iff_pieces hpattern _).2 ⟨[['\u212A'], ['\n'], ['.'], ['é']], rfl, ?_⟩
    exact .cons (.other (by decide) (by decide) foldCase_kelvin)
      (.cons (.percent _) (.cons (.other (by decide) (by decide) rfl)
        (.cons (.underscore _) .nil)))
  · obtain rfl := Except.ok.inj hpattern
    decide +kernel

end LikePattern

end PagedQuery
