import PagedQuery.Proofs.Searching
import PagedQuery.Proofs.Typing

/-!
# Searching for a plain text

A text without wildcards is searched for as it is. The wildcards that a search puts around
it leave the rest of a string open on one side or on both, so the search finds the text as a
run of the string: anywhere, at its start or at its end. Runs are compared character by
character by their case folding. So a search finds the same whatever the case of the
letters, and what is found at the start or at the end is found anywhere.

## Main definitions

* `SameUpToCase s t`: two texts that differ in case alone.
* `Placement.Occurs place text s`: the text occurs in the string in the given place.
-/

namespace PagedQuery

open Text

variable {ρ : Type}

/-! ## Texts up to case -/

/-- The texts have the same length, and each character of one has the case folding of the
character of the other in its place. -/
def SameUpToCase (s t : List Char) : Prop := List.Forall₂ (fun c d => foldCase c = foldCase d) s t

theorem sameUpToCase_iff {s t : List Char} :
    SameUpToCase s t ↔ s.map foldCase = t.map foldCase := by
  rw [SameUpToCase, ← List.forall₂_eq_eq_eq, List.forall₂_map_left_iff, List.forall₂_map_right_iff]

/-- A text without wildcards. -/
def Plain (text : List Char) : Prop := ∀ c ∈ text, c ≠ '%' ∧ c ≠ '_'

/-- A code point stands for its character, or for the null character if it has none. -/
theorem toNat_ofNat (n : Nat) : (Char.ofNat n).toNat = n ∨ (Char.ofNat n).toNat = 0 := by
  by_cases h : n.isValidChar
  · rw [Char.ofNat, dif_pos h]
    exact .inl rfl
  · rw [Char.ofNat, dif_neg h]
    exact .inr rfl

/-- Letters in lower case come after the wildcards. -/
theorem toLower_eq_or_le (c : Char) : c.toLower = c ∨ 0x61 ≤ c.toLower.toNat := by
  unfold Char.toLower
  split
  · next hupper =>
    have hlower : (c.val + 32).toNat = c.toNat + 32 := by
      have hle : c.toNat ≤ 90 := hupper.2
      rw [UInt32.toNat_add, Char.toNat_val]
      exact Nat.mod_eq_of_lt (by simp only [UInt32.reduceToNat]; omega)
    have hle : 65 ≤ c.toNat := hupper.1
    refine .inr ?_
    change 0x61 ≤ (c.val + 32).toNat
    omega
  · exact .inl rfl

/-- Characters that fold to others fold to letters, and these come after the wildcards. -/
theorem foldCase_eq_or_le (c : Char) :
    foldCase c = c ∨ 0x61 ≤ (foldCase c).toNat ∨ (foldCase c).toNat = 0 := by
  rcases Nat.lt_or_ge c.toNat 0x80 with hlt | hge
  · rw [foldCase_of_lt hlt]
    exact (toLower_eq_or_le c).imp_right .inl
  · have himage : ∀ run ∈ foldRuns, 0x61 ≤ run.image := by decide +kernel
    rw [foldCase, if_neg (Nat.not_lt.2 hge)]
    split
    · next run hrun =>
      have hle := himage run (List.mem_of_find?_eq_some hrun)
      rcases toNat_ofNat (run.image + (c.toNat - run.first)) with heq | heq
      · exact .inr (.inl (by omega))
      · exact .inr (.inr heq)
    · exact .inl rfl

/-- No character but the wildcard itself folds to a wildcard. -/
theorem foldCase_eq_wildcard_iff {c w : Char} (hw : w = '%' ∨ w = '_') :
    foldCase c = w ↔ c = w := by
  have hself : foldCase w = w := by rcases hw with rfl | rfl <;> rfl
  have hbound : 0 < w.toNat ∧ w.toNat < 0x60 := by rcases hw with rfl | rfl <;> decide
  constructor
  · rintro rfl
    rcases foldCase_eq_or_le c with heq | hletter | hnull
    · exact heq.symm
    · omega
    · omega
  · rintro rfl
    exact hself

theorem Plain.of_sameUpToCase {s t : List Char} (h : SameUpToCase s t) (ht : Plain t) :
    Plain s := by
  intro c hc
  have hmem : foldCase c ∈ t.map foldCase := by
    rw [← sameUpToCase_iff.1 h]
    exact List.mem_map_of_mem hc
  obtain ⟨d, hd, hfold⟩ := List.mem_map.1 hmem
  obtain ⟨hpercent, hunderscore⟩ := ht d hd
  constructor
  · rintro rfl
    exact hpercent ((foldCase_eq_wildcard_iff (.inl rfl)).1 hfold)
  · rintro rfl
    exact hunderscore ((foldCase_eq_wildcard_iff (.inr rfl)).1 hfold)

/-! ## The pattern of a search -/

namespace Placement

/-- The wildcards that a search puts before its text. -/
def lead : Placement → List Char
  | anywhere => ['%']
  | atStart => []
  | atEnd => ['%']

/-- The wildcards that a search puts after its text. -/
def trail : Placement → List Char
  | anywhere => ['%']
  | atStart => ['%']
  | atEnd => []

theorem toList_around (place : Placement) (text : String) :
    (place.around text).toList = place.lead ++ (text.toList ++ place.trail) := by
  cases place <;> simp [around, lead, trail, String.toList_append]

end Placement

/-- A plain text in front of other characters takes a run that differs from it in case alone. -/
theorem Plain.likeMatches_append_iff {text p s : List Char} (h : Plain text) :
    LikeMatches (text ++ p) s ↔
      ∃ run rest, run ++ rest = s ∧ SameUpToCase run text ∧ LikeMatches p rest := by
  induction text generalizing s with
  | nil => simp [SameUpToCase]
  | cons c text ih =>
    obtain ⟨⟨hpercent, hunderscore⟩, htext⟩ := List.forall_mem_cons.1 h
    rw [List.cons_append, likeMatches_other_iff hpercent hunderscore]
    constructor
    · rintro ⟨d, _, rfl, hfold, hmatch⟩
      obtain ⟨run, rest, rfl, hrun, hrest⟩ := (ih htext).1 hmatch
      exact ⟨d :: run, rest, rfl, .cons hfold hrun, hrest⟩
    · rintro ⟨_, rest, rfl, hfold | ⟨hfold, hrun⟩, hrest⟩
      exact ⟨_, _, rfl, hfold, (ih htext).2 ⟨_, rest, rfl, hrun, hrest⟩⟩

/-! ## Where a text occurs -/

/-- Holds if a text occurs in a string in a place, up to case: some run of the string, some
start of it or some end of it differs from the text in case alone. -/
def Placement.Occurs (place : Placement) (text s : List Char) : Prop :=
  match place with
  | anywhere => ∃ run, run <:+: s ∧ SameUpToCase run text
  | atStart => ∃ run, run <+: s ∧ SameUpToCase run text
  | atEnd => ∃ run, run <:+ s ∧ SameUpToCase run text

namespace Placement.Occurs

variable {place : Placement} {text s : List Char}

/-- What occurs at the start or at the end occurs. -/
theorem anywhere (h : place.Occurs text s) : Placement.anywhere.Occurs text s := by
  cases place with
  | anywhere => exact h
  | atStart =>
    obtain ⟨run, hrun, hcase⟩ := h
    exact ⟨run, hrun.isInfix, hcase⟩
  | atEnd =>
    obtain ⟨run, hrun, hcase⟩ := h
    exact ⟨run, hrun.isInfix, hcase⟩

/-- A run of a string occurs there exactly if it does so with the case of both folded. -/
theorem iff_map : place.Occurs text s ↔
    match place with
    | .anywhere => text.map foldCase <:+: s.map foldCase
    | .atStart => text.map foldCase <+: s.map foldCase
    | .atEnd => text.map foldCase <:+ s.map foldCase := by
  cases place with
  | anywhere => simp only [Occurs, List.infix_map_iff, sameUpToCase_iff, eq_comm]
  | atStart => simp only [Occurs, List.prefix_map_iff, sameUpToCase_iff, eq_comm]
  | atEnd => simp only [Occurs, List.suffix_map_iff, sameUpToCase_iff, eq_comm]

/-- Whether a text occurs in a string is no matter of the case of either. -/
theorem congr {text' s' : List Char} (htext : SameUpToCase text' text) (hs : SameUpToCase s' s) :
    place.Occurs text' s' ↔ place.Occurs text s := by
  rw [iff_map, iff_map, sameUpToCase_iff.1 htext, sameUpToCase_iff.1 hs]

end Placement.Occurs

/-- A search for a plain text takes the strings in which the text occurs. -/
theorem likeMatches_around_iff {place : Placement} {text : String} (h : Plain text.toList)
    {s : List Char} :
    LikeMatches (place.around text).toList s ↔ place.Occurs text.toList s := by
  have hany {rest : List Char} : LikeMatches ['%'] rest := by
    simpa using LikeMatches.cons (.percent rest) .nil
  have hstart {s : List Char} :
      LikeMatches (text.toList ++ ['%']) s ↔ ∃ run, run <+: s ∧ SameUpToCase run text.toList := by
    rw [h.likeMatches_append_iff]
    constructor
    · rintro ⟨run, rest, rfl, hrun, -⟩
      exact ⟨run, List.prefix_append run rest, hrun⟩
    · rintro ⟨run, ⟨rest, rfl⟩, hrun⟩
      exact ⟨run, rest, rfl, hrun, hany⟩
  have hwhole {s : List Char} :
      LikeMatches (text.toList ++ []) s ↔ SameUpToCase s text.toList := by
    simp only [h.likeMatches_append_iff, likeMatches_nil_iff]
    constructor
    · rintro ⟨run, _, rfl, hrun, rfl⟩
      rwa [List.append_nil]
    · intro hs
      exact ⟨s, [], List.append_nil s, hs, rfl⟩
  rw [Placement.toList_around]
  cases place with
  | anywhere =>
    refine likeMatches_percent_iff.trans ?_
    constructor
    · rintro ⟨rest, hrest, hmatch⟩
      obtain ⟨run, hrun, hcase⟩ := hstart.1 hmatch
      exact ⟨run, hrun.isInfix.trans hrest.isInfix, hcase⟩
    · rintro ⟨run, hrun, hcase⟩
      obtain ⟨rest, hprefix, hrest⟩ := List.infix_iff_prefix_suffix.1 hrun
      exact ⟨rest, hrest, hstart.2 ⟨run, hprefix, hcase⟩⟩
  | atStart => exact hstart
  | atEnd =>
    refine likeMatches_percent_iff.trans ?_
    exact exists_congr fun rest => and_congr_right fun _ => hwhole

/-! ## The whole search -/

namespace Filter

variable (schema : Schema ρ) (engine : Regex.Engine) {field : Field ρ} {text : String}
  (connector : Connector)

/-- A search for a plain text in a field of strings means a condition that holds of the
strings in which the text occurs, if it means one. -/
theorem holds_search_plain (hfield : field ∈ schema.fields) (place : Placement)
    (hplain : Plain text.toList) {c : Condition}
    (hc : (searchFilter place connector (field.name, text)).condition? schema .standard engine =
      some c) (r : ρ) :
    c.holds schema r = true ↔
      ∃ s, field.read r = some (.string s) ∧ place.Occurs text.toList s.toList := by
  have hsearch : Searchable schema engine place (field.name, text) := by
    by_contra hnot
    rw [condition?_searchFilter_eq_none_iff.2 hnot] at hc
    cases hc
  obtain ⟨pattern, hpattern, hcondition⟩ := condition?_searchFilter (k := connector) hsearch
  obtain rfl := Option.some.inj (hcondition.symm.trans hc)
  simp only [Condition.holds, schema.valueOf_of_mem hfield, Option.any_eq_true,
    FieldValue.string?_eq_some_iff, LikePattern.accepts_iff, LikePattern.text_of_build hpattern,
    likeMatches_around_iff hplain]

/-- **A search for a plain text finds it up to case.** With the usual parsers, a search for a
text without wildcards in a field of strings means a condition, if the engine builds its
pattern. The condition holds of a string exactly if some run of it, for a search at the start
some start of it and for one at the end some end of it, has the length of the text and equals
it character by character up to case folding. So the case of the text and of the string is of
no consequence, and what is found at the start or at the end is found anywhere, wherever the
other search means a condition too. -/
theorem search_plain (hfield : field ∈ schema.fields) (hkind : field.kind = .string)
    (place : Placement) (hplain : Plain text.toList)
    (hbuilt : (LikePattern.build engine (place.around text)).isOk = true) :
    ∃ c, (searchFilter place connector (field.name, text)).condition? schema .standard engine =
        some c ∧
      (∀ r s, field.read r = some (.string s) →
        (c.holds schema r = true ↔ place.Occurs text.toList s.toList)) ∧
      (∀ text' c', SameUpToCase text'.toList text.toList →
        (searchFilter place connector (field.name, text')).condition? schema .standard engine =
          some c' →
        ∀ r s r' s', field.read r = some (.string s) → field.read r' = some (.string s') →
          SameUpToCase s'.toList s.toList → c'.holds schema r' = c.holds schema r) ∧
      ∀ c', (searchFilter .anywhere connector (field.name, text)).condition? schema .standard
          engine = some c' →
        ∀ r, c.holds schema r = true → c'.holds schema r = true := by
  have hsearch : Searchable schema engine place (field.name, text) :=
    ⟨⟨field, hfield, rfl, hkind⟩, hbuilt⟩
  obtain ⟨pattern, -, hc⟩ := condition?_searchFilter (k := connector) hsearch
  have hholds := holds_search_plain schema engine connector hfield place hplain hc
  refine ⟨_, hc, fun r s hread => ?_, fun text' c' htext hc' r s r' s' hread hread' hcase => ?_,
    fun c' hc' r hr => ?_⟩
  · simp [hholds, hread]
  · have hoccurs : place.Occurs text'.toList s'.toList ↔ place.Occurs text.toList s.toList :=
      Placement.Occurs.congr htext hcase
    have hholds' := holds_search_plain schema engine connector hfield place
      (.of_sameUpToCase htext hplain) hc'
    rw [Bool.eq_iff_iff, hholds, hholds']
    simp [hread, hread', hoccurs]
  · obtain ⟨s, hread, hoccurs⟩ := (hholds r).1 hr
    exact (holds_search_plain schema engine connector hfield .anywhere hplain hc' r).2
      ⟨s, hread, hoccurs.anywhere⟩

/-- A word at the end of a string with a line break, written with the sign that folds to its
first letter. -/
theorem search_plain_kelvin :
    let schema : Schema String := ⟨[⟨"name", .string, fun s => some (.string s)⟩], by simp,
      by simp, by simp⟩
    let engine := Regex.Engine.byRows fun _ => none
    Plain "key".toList ∧ (LikePattern.build engine (Placement.atEnd.around "key")).isOk = true ∧
    ∃ c, (searchFilter .atEnd .or ("name", "key")).condition? schema .standard engine = some c ∧
      c.holds schema "mon\n\u212AEY" = true ∧ c.holds schema "keys" = false := by
  intro schema engine
  have hplain : Plain "key".toList := by simp [Plain]
  have hbuilt : (LikePattern.build engine (Placement.atEnd.around "key")).isOk = true := by decide
  obtain ⟨c, hc, hstring, -, -⟩ := search_plain schema engine .or (List.mem_singleton_self _) rfl
    .atEnd hplain hbuilt
  refine ⟨hplain, hbuilt, c, hc, ?_, ?_⟩
  · refine (hstring _ _ rfl).2 ⟨['\u212A', 'E', 'Y'], ⟨['m', 'o', 'n', '\n'], rfl⟩, ?_⟩
    exact .cons foldCase_kelvin (.cons (by decide) (.cons (by decide) .nil))
  · rw [Bool.eq_false_iff, Ne, hstring _ _ rfl, Placement.Occurs.iff_map]
    decide

end Filter

end PagedQuery
