import Mathlib.Data.List.Forall2
import Mathlib.Data.List.TakeWhile
import PagedQuery.Literal.ParserTable

/-!
# White space around a text and the case of its letters

A text is trimmed before it is read, unless it stands for a string. So white space around it
is of no consequence. A character is the exception among the other kinds: a text of one
character is not trimmed, and may be white space itself. Truth values and the names of
variants are read in any case, where case is that of ASCII letters only.

## Main definitions

* `AllBlank ws`: the text `ws` is white space.
* `Padded cs s`: the text `s` is `cs` with white space around it.
* `Recased s t`: the text `t` is `s` with some ASCII letters in another case.
-/

namespace PagedQuery

open Text

/-! ## White space around a text -/

/-- Holds of text that is white space, the empty one included. -/
def AllBlank (ws : List Char) : Prop := ∀ c ∈ ws, isBlank c = true

instance (ws : List Char) : Decidable (AllBlank ws) :=
  decidable_of_iff (ws.all isBlank = true) List.all_eq_true

/-- Holds if the second text is the first with white space around it. -/
def Padded (cs s : List Char) : Prop :=
  ∃ before after, AllBlank before ∧ AllBlank after ∧ s = before ++ cs ++ after

section

variable {before after cs s : List Char}

theorem AllBlank.reverse (h : AllBlank cs) : AllBlank cs.reverse :=
  fun c hc => h c (List.mem_reverse.1 hc)

theorem trimStart_eq_nil_iff : trimStart cs = [] ↔ AllBlank cs := List.dropWhile_eq_nil_iff

theorem trimStart_append (h : AllBlank before) (cs : List Char) :
    trimStart (before ++ cs) = trimStart cs :=
  List.dropWhile_append_of_pos h

/-- White space around a text is what trimming removes. -/
theorem trim_append (hbefore : AllBlank before) (hafter : AllBlank after) (cs : List Char) :
    trim (before ++ cs ++ after) = trim cs := by
  have hend : trimStart (trimStart (cs ++ after)).reverse = trimStart (trimStart cs).reverse := by
    unfold trimStart
    rw [List.dropWhile_append]
    split
    · next hempty =>
      have hnil : after.dropWhile isBlank = [] := trimStart_eq_nil_iff.2 hafter
      rw [hnil, List.isEmpty_iff.1 hempty]
    · rw [List.reverse_append]
      exact trimStart_append hafter.reverse _
  rw [trim, List.append_assoc, trimStart_append hbefore, hend, trim]

/-- What trimming removes is white space at the two ends. -/
theorem padded_trim (s : List Char) : Padded (trim s) s := by
  have hblank (ds : List Char) : AllBlank (ds.takeWhile isBlank) := fun _ => List.mem_takeWhile_imp
  have hsplit (ds : List Char) : ds.takeWhile isBlank ++ trimStart ds = ds :=
    List.takeWhile_append_dropWhile
  refine ⟨_, _, hblank s, (hblank (trimStart s).reverse).reverse, ?_⟩
  rw [List.append_assoc, trim, ← List.reverse_append, hsplit, List.reverse_reverse, hsplit]

theorem Padded.trim_eq (h : Padded cs s) : trim s = trim cs := by
  obtain ⟨before, after, hbefore, hafter, rfl⟩ := h
  exact trim_append hbefore hafter cs

theorem Padded.not_allBlank (h : Padded cs s) (hcs : ¬ AllBlank cs) : ¬ AllBlank s := by
  obtain ⟨before, after, -, -, rfl⟩ := h
  exact fun hs => hcs fun c hc => hs c (List.mem_append_left _ (List.mem_append_right _ hc))

/-- A text with white space at neither end is what trimming leaves of a text exactly if the
latter is that text with white space around it. -/
theorem trim_eq_iff_padded (hcs : ∀ c ∈ cs, isBlank c = false) : trim s = cs ↔ Padded cs s := by
  constructor
  · rintro rfl
    exact padded_trim s
  · intro h
    rw [h.trim_eq]
    exact trim_eq_self (fun c hc => hcs c (List.mem_of_head? hc))
      fun c hc => hcs c (List.mem_of_getLast? hc)

end

/-! ## The case of ASCII letters -/

/-- Holds of characters that differ at most in the case of an ASCII letter. -/
def SameLetter (c d : Char) : Prop := d = c ∨ d = c.toLower ∨ d = c.toUpper

/-- Holds if the second text is the first with some ASCII letters in another case. -/
def Recased (s t : List Char) : Prop := List.Forall₂ SameLetter s t

theorem toNat_toLower (c : Char) :
    c.toLower.toNat = if 65 ≤ c.toNat ∧ c.toNat ≤ 90 then c.toNat + 32 else c.toNat := by
  have hupper : (c.val ≥ 'A'.val ∧ c.val ≤ 'Z'.val) ↔ 65 ≤ c.toNat ∧ c.toNat ≤ 90 := Iff.rfl
  unfold Char.toLower
  split
  · next h =>
    have hbounds := hupper.1 h
    rw [if_pos hbounds]
    change (c.val + 32).toNat = c.toNat + 32
    rw [UInt32.toNat_add, Char.toNat_val]
    exact Nat.mod_eq_of_lt (by simp only [UInt32.reduceToNat]; omega)
  · next h => rw [if_neg (mt hupper.2 h)]

theorem toNat_toUpper (c : Char) :
    c.toUpper.toNat = if 97 ≤ c.toNat ∧ c.toNat ≤ 122 then c.toNat - 32 else c.toNat := by
  have hlower : ('a'.val ≤ c.val ∧ c.val ≤ 'z'.val) ↔ 97 ≤ c.toNat ∧ c.toNat ≤ 122 := Iff.rfl
  unfold Char.toUpper
  split
  · next h =>
    have hbounds := hlower.1 h
    rw [if_pos hbounds]
    change (c.val + 4294967264).toNat = c.toNat - 32
    rw [UInt32.toNat_add, Char.toNat_val]
    simp only [UInt32.reduceToNat]
    omega
  · next h => rw [if_neg (mt hlower.2 h)]

/-- Characters are the same letter exactly if they are the same in lower case. -/
theorem sameLetter_iff {c d : Char} : SameLetter c d ↔ c.toLower = d.toLower := by
  simp only [SameLetter, ← Char.toNat_inj, toNat_toLower, toNat_toUpper]
  split_ifs <;> omega

theorem recased_iff {s t : List Char} : Recased s t ↔ s.map Char.toLower = t.map Char.toLower := by
  have hrel : SameLetter = fun c d => c.toLower = d.toLower := by
    funext c d
    exact propext sameLetter_iff
  rw [Recased, hrel, ← List.forall₂_eq_eq_eq, List.forall₂_map_left_iff, List.forall₂_map_right_iff]

theorem isBlank_toLower (c : Char) : isBlank c.toLower = isBlank c := by
  rw [Bool.eq_iff_iff]
  simp only [isBlank, toNat_toLower, Bool.or_eq_true, Bool.and_eq_true, beq_iff_eq,
    decide_eq_true_eq]
  split <;> omega

theorem trim_map {f : Char → Char} (hf : ∀ c, isBlank (f c) = isBlank c) (cs : List Char) :
    trim (cs.map f) = (trim cs).map f := by
  have hblank : isBlank ∘ f = isBlank := funext hf
  have hstart (ds : List Char) : trimStart (ds.map f) = (trimStart ds).map f := by
    unfold trimStart
    rw [List.dropWhile_map, hblank]
  simp only [trim, hstart, ← List.map_reverse]

/-- Trimming is no matter of case. -/
theorem Recased.trim {s t : List Char} (h : Recased s t) : Recased (trim s) (trim t) := by
  rw [recased_iff] at h ⊢
  rw [← trim_map isBlank_toLower, ← trim_map isBlank_toLower, h]

namespace Literal

theorem equalsIgnoringCase_iff {a b : List Char} : equalsIgnoringCase a b = true ↔ Recased a b := by
  rw [equalsIgnoringCase, beq_iff_eq, recased_iff]

theorem equalsIgnoringCase_left {s t : List Char} (h : Recased s t) (word : List Char) :
    equalsIgnoringCase t word = equalsIgnoringCase s word := by
  rw [equalsIgnoringCase, equalsIgnoringCase, recased_iff.1 h]

theorem equalsIgnoringCase_right {s t : List Char} (h : Recased s t) (word : List Char) :
    equalsIgnoringCase word t = equalsIgnoringCase word s := by
  rw [equalsIgnoringCase, equalsIgnoringCase, recased_iff.1 h]

/-! ## Literals -/

theorem bool?_of_recased {s t : String} (h : Recased s.toList t.toList) (kind : FieldKind) :
    bool? t kind = bool? s kind := by
  simp only [bool?, equalsIgnoringCase_left h.trim]

theorem enum?_of_recased {s t : String} (h : Recased s.toList t.toList) (kind : FieldKind) :
    enum? t kind = enum? s kind := by
  cases kind with
  | enum variants => simp only [enum?, equalsIgnoringCase_right h.trim]
  | _ => rfl

/-- A text with a character that is not white space is trimmed before it is read as a
character, or might have been. -/
theorem char?_of_not_allBlank {s : String} (h : ¬ AllBlank s.toList) (kind : FieldKind) :
    char? s kind = single? (trim s.toList) := by
  unfold char?
  split
  · next hlength =>
    obtain ⟨c, hc⟩ : ∃ c, s.toList = [c] := by
      rw [← List.length_eq_one_iff]
      have hne : s.toList ≠ [] := by
        intro hnil
        rw [hnil] at h
        exact h (List.forall_mem_nil _)
      have := List.length_pos_iff.2 hne
      omega
    rw [hc] at h ⊢
    have hblank : isBlank c = false := by simpa [AllBlank] using h
    rw [trim_eq_self] <;> simpa
  · rfl

end Literal

namespace ParserTable

/-- Texts that are the same when trimmed are read alike, but for strings and characters. -/
theorem standard_parse?_of_trim_eq {s t : String} {kind : FieldKind}
    (h : trim s.toList = trim t.toList) (hstring : kind ≠ .string) (hchar : kind ≠ .char) :
    standard.parse? s kind = standard.parse? t kind := by
  simp only [parse?, standard, Option.bind_some]
  cases kind with
  | int => exact congrArg (fun cs => (Number.readInt? cs).map Scalar.number) h
  | uint => exact congrArg (fun cs => (Number.readUInt? cs).map Scalar.number) h
  | float => exact congrArg (fun cs => (Number.readFloat? cs).map Scalar.number) h
  | string => exact absurd rfl hstring
  | char => exact absurd rfl hchar
  | bool => simp only [FieldKind.basic, standardParser, Literal.bool?, h]
  | dateTime => exact congrArg (fun cs => (readDateTime? cs).map Scalar.dateTime) h
  | enum variants => simp only [FieldKind.basic, standardParser, Literal.enum?, h]

/-- **White space around a text and the case of its letters are of no consequence.** With
white space on either side, a text is read by the usual parsers as it is without it, or
refused like it: for every kind but strings, and for characters if the text is not all white
space. As a truth value or as the name of a variant, a text is read alike whatever the case of
its ASCII letters. -/
theorem standard_up_to_padding_and_case :
    (∀ (s before after : String) (kind : FieldKind),
      AllBlank before.toList → AllBlank after.toList →
      kind ≠ .string → (kind = .char → ¬ AllBlank s.toList) →
      standard.parse? (before ++ s ++ after) kind = standard.parse? s kind) ∧
    ∀ (s t : String) (kind : FieldKind), Recased s.toList t.toList →
      (kind = .bool ∨ ∃ variants, kind = .enum variants) →
      standard.parse? t kind = standard.parse? s kind := by
  constructor
  · intro s before after kind hbefore hafter hstring hchar
    have hpadded : Padded s.toList (before ++ s ++ after).toList :=
      ⟨_, _, hbefore, hafter, by rw [String.toList_append, String.toList_append]⟩
    by_cases hkind : kind = .char
    · subst hkind
      have hblank : ¬ AllBlank (before ++ s ++ after).toList := hpadded.not_allBlank (hchar rfl)
      have hread : Literal.char? (before ++ s ++ after) .char = Literal.char? s .char := by
        rw [Literal.char?_of_not_allBlank hblank, Literal.char?_of_not_allBlank (hchar rfl),
          hpadded.trim_eq]
      exact hread
    · exact standard_parse?_of_trim_eq hpadded.trim_eq hstring hkind
  · rintro s t kind hcase (rfl | ⟨variants, rfl⟩)
    · exact Literal.bool?_of_recased hcase .bool
    · exact Literal.enum?_of_recased hcase (.enum variants)

/-- A truth value in mixed case between an ideographic space and a line break, and a variant
whose name has a letter beyond ASCII. A single space is a character, two of them are none. -/
theorem standard_up_to_padding_and_case_truth :
    let variants := ["new", "géant", "GÉANT"]
    AllBlank "\u3000".toList ∧ AllBlank "\n".toList ∧ Recased "true".toList "tRUe".toList ∧
    standard.parse? "\u3000tRUe\n" .bool = some (.bool true) ∧
    Recased "géant".toList "GéANT".toList ∧
    standard.parse? "GéANT" (.enum variants) = some (.variant 1) ∧
    standard.parse? " " .char = some (.char ' ') ∧ standard.parse? "  " .char = none := by
  intro variants
  have hbefore : AllBlank "\u3000".toList := by decide
  have hafter : AllBlank "\n".toList := by decide
  have htruth : Recased "true".toList "tRUe".toList := by rw [recased_iff]; decide
  have hname : Recased "géant".toList "GéANT".toList := by rw [recased_iff]; decide
  obtain ⟨hpadding, hcase⟩ := standard_up_to_padding_and_case
  refine ⟨hbefore, hafter, htruth, ?_, hname, ?_, rfl, rfl⟩
  · have hpadded := hpadding "tRUe" "\u3000" "\n" .bool hbefore hafter (by decide) (by decide)
    have hlower := hcase "true" "tRUe" .bool htruth (.inl rfl)
    exact hpadded.trans (hlower.trans rfl)
  · exact (hcase "géant" "GéANT" (.enum variants) hname (.inr ⟨variants, rfl⟩)).trans rfl

end ParserTable

end PagedQuery
