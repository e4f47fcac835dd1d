import PagedQuery.Regex.Matching

/-!
# Matching row by row

The matcher goes through the items of an expression from the last to the first. For each it
lists, for every suffix of the text, whether the items from there on match the text from
this suffix on. The work is the product of the two lengths, however many runs there are.

The step from one row to the next follows the piece that the item takes. An expression is
found in a text exactly if its last row has a mark.

## Main definitions

* `Regex.rowOf flags items text`: for every suffix of the text, whether the items match
  from there on.
* `Regex.found flags items text`: whether the items are found in the text.
* `Regex.Marks P s hits`: the row `hits` marks the suffixes of `s` that have the property
  `P`.
-/

namespace PagedQuery.Regex

/-! ## The matcher -/

/-- A row without a mark but for the last. -/
def lastOnly (s : List Char) (hit : Bool) : List Bool := s.map (fun _ => false) ++ [hit]

/-- For each position of a row, whether a hit is reached from it over characters that pass a
test. -/
def reaches (test : Char → Bool) : List Char → List Bool → List Bool
  | c :: s, hit :: hits =>
    let later := reaches test s hits
    (hit || test c && later.headD false) :: later
  | _, hits => hits

/-- For every suffix of a text, the longest first and the empty one last, whether the items
match from there on. -/
def rowOf (flags : Flags) : List Item → List Char → List Bool
  | [], s => s.map (fun _ => true) ++ [true]
  | .start :: items, s => (rowOf flags items s).headD false :: s.map fun _ => false
  | .stop :: items, s => lastOnly s ((rowOf flags items s).getLastD false)
  | .one a :: items, s =>
    s.zipWith (fun c hit => a.admits flags c && hit) ((rowOf flags items s).drop 1) ++ [false]
  | .many a :: items, s => reaches (a.admits flags) s (rowOf flags items s)

/-- Holds if the items match the text from some position on. -/
def found (flags : Flags) (items : List Item) (text : List Char) : Bool :=
  (rowOf flags items text).any id

/-! ## Rows of marks -/

/-- A row marks the suffixes of a text that have a property: the longest suffix first and
the empty one last. -/
inductive Marks (P : List Char → Prop) : List Char → List Bool → Prop
  | nil {hit : Bool} (h : hit = true ↔ P []) : Marks P [] [hit]
  | cons {c : Char} {s : List Char} {hit : Bool} {hits : List Bool} (h : hit = true ↔ P (c :: s))
      (hs : Marks P s hits) : Marks P (c :: s) (hit :: hits)

namespace Marks

variable {P Q : List Char → Prop} {s : List Char} {hits : List Bool}

/-- A row begins with the mark of the whole text. -/
theorem eq_cons (h : Marks P s hits) : ∃ hit, hits = hit :: hits.drop 1 ∧ (hit = true ↔ P s) := by
  cases h with
  | nil h => exact ⟨_, rfl, h⟩
  | cons h _ => exact ⟨_, rfl, h⟩

theorem headD_iff (h : Marks P s hits) : hits.headD false = true ↔ P s := by
  obtain ⟨hit, heq, hhit⟩ := h.eq_cons
  rw [heq]
  exact hhit

/-- A row ends with the mark of the empty text. -/
theorem getLastD_iff (h : Marks P s hits) : hits.getLastD false = true ↔ P [] := by
  induction h with
  | nil h => exact h
  | cons _ hs ih =>
    obtain ⟨hit, heq, -⟩ := hs.eq_cons
    rw [heq] at ih ⊢
    exact ih

/-- A row has a mark if some suffix has the property. -/
theorem any_iff (h : Marks P s hits) : hits.any id = true ↔ ∃ rest, rest <:+ s ∧ P rest := by
  induction h with
  | nil h => simp [h]
  | cons h _ ih =>
    rw [List.any_cons, Bool.or_eq_true, id, h, ih]
    simp only [List.suffix_cons_iff, or_and_right, exists_or, exists_eq_left]

theorem congr (h : Marks P s hits) (hPQ : ∀ rest, rest <:+ s → (P rest ↔ Q rest)) :
    Marks Q s hits := by
  induction h with
  | nil h => exact .nil (h.trans (hPQ _ (List.suffix_refl _)))
  | @cons c s _ _ h _ ih =>
    refine .cons (h.trans (hPQ _ (List.suffix_refl _))) (ih fun rest hrest => ?_)
    exact hPQ rest (hrest.trans (List.suffix_cons c s))

/-- Every suffix has a property that all texts have. -/
theorem all (hP : ∀ s, P s) (s : List Char) : Marks P s (s.map (fun _ => true) ++ [true]) := by
  induction s with
  | nil => exact .nil (by simp [hP])
  | cons c s ih => exact .cons (by simp [hP]) ih

/-- The empty suffix is the last. -/
theorem lastOnly {hit : Bool} (h : hit = true ↔ P []) (s : List Char) :
    Marks (fun rest => rest = [] ∧ P []) s (lastOnly s hit) := by
  induction s with
  | nil => exact .nil (by simp [h])
  | cons c s ih => exact .cons (by simp) ih

/-- The whole text is the first of its suffixes. -/
theorem headOnly {hit : Bool} {text : List Char} (h : hit = true ↔ P text) :
    Marks (fun rest => rest = text ∧ P text) text (hit :: text.map fun _ => false) := by
  have hnone (d : Char) {s : List Char} (hlt : s.length < text.length) :
      Marks (fun rest => rest = text ∧ P text) s ((d :: s).map fun _ => false) := by
    induction s generalizing d with
    | nil =>
      refine .nil (iff_of_false Bool.false_ne_true ?_)
      rintro ⟨rfl, -⟩
      exact Nat.lt_irrefl _ hlt
    | cons c s ih =>
      refine .cons (iff_of_false Bool.false_ne_true ?_) (ih c (Nat.lt_of_succ_lt hlt))
      rintro ⟨rfl, -⟩
      exact Nat.lt_irrefl _ hlt
  cases text with
  | nil => exact .nil (by simp [h])
  | cons c s => exact .cons (by simp [h]) (hnone c (Nat.lt_succ_self _))

/-- Any number of characters that pass a test may come before a suffix that is marked. -/
theorem reaches (test : Char → Bool) (h : Marks P s hits) :
    Marks (fun s => ∃ run rest, run ++ rest = s ∧ (∀ c ∈ run, test c = true) ∧ P rest) s
      (reaches test s hits) := by
  induction h with
  | nil h =>
    refine .nil (h.trans ⟨fun hP => ⟨[], [], rfl, nofun, hP⟩, ?_⟩)
    rintro ⟨run, rest, happend, -, hP⟩
    rwa [(List.append_eq_nil_iff.1 happend).2] at hP
  | @cons c s hit hits h _ ih =>
    refine .cons ?_ ih
    rw [Bool.or_eq_true, Bool.and_eq_true, h, ih.headD_iff]
    constructor
    · rintro (hP | ⟨hc, run, rest, rfl, hrun, hP⟩)
      · exact ⟨[], _, rfl, nofun, hP⟩
      · exact ⟨c :: run, rest, rfl, List.forall_mem_cons.2 ⟨hc, hrun⟩, hP⟩
    · rintro ⟨run, rest, happend, hrun, hP⟩
      cases run with
      | nil => exact .inl (happend ▸ hP)
      | cons d run =>
        obtain ⟨rfl, rfl⟩ := List.cons.inj happend
        obtain ⟨hd, hrun⟩ := List.forall_mem_cons.1 hrun
        exact .inr ⟨hd, run, rest, rfl, hrun, hP⟩

/-- One character that passes a test may come before a suffix that is marked. -/
theorem zipWith_drop_one (test : Char → Bool) (h : Marks P s hits) :
    Marks (fun s => ∃ c rest, s = c :: rest ∧ test c = true ∧ P rest) s
      (s.zipWith (fun c hit => test c && hit) (hits.drop 1) ++ [false]) := by
  induction h with
  | nil _ => exact .nil (by simp)
  | cons _ hs ih =>
    obtain ⟨hit, heq, hhit⟩ := hs.eq_cons
    rw [List.drop_one, List.tail_cons, heq]
    refine .cons ?_ ih
    rw [Bool.and_eq_true, hhit]
    constructor
    · rintro ⟨htest, hP⟩
      exact ⟨_, _, rfl, htest, hP⟩
    · rintro ⟨_, _, hcons, htest, hP⟩
      obtain ⟨rfl, rfl⟩ := List.cons.inj hcons
      exact ⟨htest, hP⟩

end Marks

section

variable (flags : Flags) (items : List Item) (text : List Char)

/-- **The invariant of the matcher.** The row of a list of items marks the suffixes from
which on these items match. The induction is on the items, as the rows are filled. -/
theorem marks_rowOf : Marks (MatchesAt flags text items) text (rowOf flags items text) := by
  induction items with
  | nil => exact .all (fun s => .nil s) text
  | cons item items ih =>
    cases item with
    | start => exact (Marks.headOnly ih.headD_iff).congr fun _ _ => matchesAt_start_iff.symm
    | stop => exact (Marks.lastOnly ih.getLastD_iff text).congr fun _ _ => matchesAt_stop_iff.symm
    | one a => exact (ih.zipWith_drop_one _).congr fun _ _ => matchesAt_one_iff.symm
    | many a => exact (ih.reaches _).congr fun _ _ => matchesAt_many_iff.symm

/-- The matcher decides whether the items are found. -/
theorem found_iff : found flags items text = true ↔ Found flags items text :=
  (marks_rowOf flags items text).any_iff

end

end PagedQuery.Regex
