import Mathlib.Data.List.Forall2
import Mathlib.Data.List.Nodup
import PagedQuery.Proofs.JsonWriting
import PagedQuery.Wire.Request

/-!
# Requests, settings and pages are read back from their documents

What a document is read as is said of its text, not of the document that was written: the
two need not agree for a type that writes a number in its own way. Values are read back
part by part. A list needs nothing but its elements, a structure nothing but its fields,
as long as no two fields have the same name.

A reader does not go into documents that are nested too deeply. Lists and structures lie one
level above their parts, so a page lies two levels above its rows, and can be too deep where
each of its rows is not.

## Main definitions

* `Json.depth j`: the number of levels of arrays and objects in `j`.
* `Json.ReadsBack levels written read? a`: the text of the document `written` is read as `a`,
  on at most so many levels.
* `Wire.RoundTrips levels a`: the text of `a` is read as `a`, on at most so many levels.
* `Page.Representable`: holds of the pages whose counts are unsigned words.
-/

namespace PagedQuery

-- Powers are those of the core library, whatever others are in scope.
attribute [local instance (high)] instPowNat

open Json

/-! ## Levels -/

namespace Json

mutual

/-- The number of levels of arrays and objects in a document. -/
def depth : Json → Nat
  | null | bool _ | integer _ | decimal _ | string _ => 0
  | array elements => depthOfElements elements + 1
  | object members => depthOfMembers members + 1

/-- The number of levels of the deepest element. -/
def depthOfElements : List Json → Nat
  | [] => 0
  | value :: values => max (depth value) (depthOfElements values)

/-- The number of levels of the deepest member. -/
def depthOfMembers : List (Option String × Json) → Nat
  | [] => 0
  | (_, value) :: members => max (depth value) (depthOfMembers members)

end

variable {levels : Nat}

/-- An array lies one level above its elements. -/
theorem depth_array_le {js : List Json} (h : ∀ j ∈ js, j.depth ≤ levels) :
    (array js).depth ≤ levels + 1 := by
  have helements : depthOfElements js ≤ levels := by
    induction js with
    | nil => exact Nat.zero_le _
    | cons j js ih =>
      obtain ⟨hj, hjs⟩ := List.forall_mem_cons.1 h
      exact Nat.max_le.2 ⟨hj, ih hjs⟩
  exact Nat.succ_le_succ helements

/-- An object lies one level above the documents of its members. -/
theorem depth_record_le {ms : List (String × Json)} (h : ∀ m ∈ ms, m.2.depth ≤ levels) :
    (record ms).depth ≤ levels + 1 := by
  have hmembers : depthOfMembers (ms.map member) ≤ levels := by
    induction ms with
    | nil => exact Nat.zero_le _
    | cons m ms ih =>
      obtain ⟨hm, hms⟩ := List.forall_mem_cons.1 h
      exact Nat.max_le.2 ⟨hm, ih hms⟩
  exact Nat.succ_le_succ hmembers

end Json

/-! ## Reading back -/

/-- Holds if a text is read as a document with at most so many levels, wherever it stands. -/
structure Json.ReadsWithin (levels : Nat) (cs : List Char) (j : Json) : Prop where
  readsAs : ReadsAs cs j
  depth_le : j.depth ≤ levels

/-- Holds if the text of the document `written` is read as the value `a`, wherever the text
stands, and has at most so many levels. -/
def Json.ReadsBack {α : Type} (levels : Nat) (written : Json) (read? : Json → Option α) (a : α) :
    Prop :=
  ∃ j : Json, ReadsWithin levels written.renderChars j ∧ read? j = some a

/-- Holds if a value is what its own text is read as, and that text has at most so many
levels. -/
structure Wire.RoundTrips {α : Type} [Wire α] (levels : Nat) (a : α) : Prop where
  decode?_encode : Wire.decode? (Wire.encode a) = some a
  depth_le : ∀ j, Json.read? (Wire.encode a) = some j → j.depth ≤ levels

section

variable {α : Type} [Wire α] {levels : Nat} {a : α}

theorem Wire.roundTrips_iff :
    Wire.RoundTrips levels a ↔ ReadsBack levels (Wire.toJson a) Wire.ofJson? a := by
  constructor
  · rintro ⟨hdecode, hdepth⟩
    obtain ⟨j, hj, hread⟩ := Option.bind_eq_some_iff.1 hdecode
    exact ⟨j, ⟨read?_render_iff.1 hj, hdepth j hj⟩, hread⟩
  · rintro ⟨j, hj, hread⟩
    have hj' := read?_render_iff.2 hj.readsAs
    refine ⟨Option.bind_eq_some_iff.2 ⟨j, hj', hread⟩, fun i hi => ?_⟩
    obtain rfl := Option.some.inj (hj'.symm.trans hi)
    exact hj.depth_le

end

variable {levels : Nat}

/-! ## Words, counts and texts -/

theorem readsBack_string (s : String) : ReadsBack levels (Wire.toJson s) Wire.ofJson? s :=
  ⟨.text s, ⟨.text s, Nat.zero_le _⟩, rfl⟩

theorem readsBack_int64 (n : Int64) : ReadsBack levels (Wire.toJson n) Wire.ofJson? n := by
  refine ⟨.integer n.toInt, ⟨.integer _, Nat.zero_le _⟩, ?_⟩
  have hrange : -2 ^ (63 : Nat) ≤ n.toInt ∧ n.toInt < 2 ^ (63 : Nat) := ⟨n.le_toInt, n.toInt_lt⟩
  exact (if_pos hrange).trans (congrArg some n.ofInt_toInt)

theorem ofJson?_uint64 (n : UInt64) : Wire.ofJson? (.integer n.toNat) = some n := by
  have hrange : 0 ≤ (n.toNat : Int) ∧ (n.toNat : Int) < 2 ^ (64 : Nat) := by
    have hlt := n.toNat_lt
    omega
  exact (if_pos hrange).trans (congrArg some n.ofNat_toNat)

theorem readsBack_uint64 (n : UInt64) : ReadsBack levels (Wire.toJson n) Wire.ofJson? n :=
  ⟨.integer n.toNat, ⟨.integer _, Nat.zero_le _⟩, ofJson?_uint64 n⟩

/-- A count is read back if it is an unsigned word. -/
theorem readsBack_count {n : Nat} (h : n < 2 ^ (64 : Nat)) :
    ReadsBack levels (countToJson n) countOfJson? n := by
  refine ⟨.integer n, ⟨.integer _, Nat.zero_le _⟩, ?_⟩
  have hword : (UInt64.ofNat n).toNat = n := UInt64.toNat_ofNat_of_lt' h
  have hread := ofJson?_uint64 (UInt64.ofNat n)
  rw [hword] at hread
  rw [countOfJson?, hread, Option.map_some, hword]

/-! ## Variants -/

/-- Variants with names of their own are read back. -/
theorem readsBack_named {α : Type} [Named α] (hall : ∀ a : α, a ∈ Named.all)
    (hnames : ((Named.all : List α).map Named.wireName).Nodup) (a : α) :
    ReadsBack levels (Wire.toJson a) Wire.ofJson? a := by
  refine ⟨.text (Named.wireName a), ⟨.text _, Nat.zero_le _⟩, ?_⟩
  change Named.all.find? (fun b => Named.wireName b == Named.wireName a) = some a
  have hsome : (Named.all.find? fun b => Named.wireName b == Named.wireName a).isSome = true :=
    List.find?_isSome.2 ⟨a, hall a, beq_self_eq_true (Named.wireName a)⟩
  obtain ⟨b, hb⟩ := Option.isSome_iff_exists.1 hsome
  have hname : Named.wireName b = Named.wireName a := by simpa using List.find?_some hb
  rw [hb, List.inj_on_of_nodup_map hnames (hall b) (hall a) hname]

theorem readsBack_comparison (c : Comparison) : ReadsBack levels (Wire.toJson c) Wire.ofJson? c :=
  readsBack_named Comparison.mem_all (by decide) c

theorem readsBack_connector (c : Connector) : ReadsBack levels (Wire.toJson c) Wire.ofJson? c :=
  readsBack_named (fun a => by cases a <;> decide) (by decide) c

theorem readsBack_policy (policy : ConnectorPolicy) :
    ReadsBack levels (Wire.toJson policy) Wire.ofJson? policy :=
  readsBack_named (fun a => by cases a <;> decide) (by decide) policy

theorem readsBack_direction (d : Direction) : ReadsBack levels (Wire.toJson d) Wire.ofJson? d :=
  readsBack_named (fun a => by cases a <;> decide) (by decide) d

/-! ## Options and lists -/

section

variable {α : Type} [Wire α]

/-- A document other than null stands for a value that is there. -/
theorem ofJson?_option {j : Json} (hne : j ≠ .null) :
    (Wire.ofJson? j : Option (Option α)) = (Wire.ofJson? j : Option α).map some := by
  cases j with
  | null => exact absurd rfl hne
  | _ => rfl

/-- A value that may be missing is read back if null stands for nothing else. -/
theorem readsBack_option (a? : Option α) (hnull : (Wire.ofJson? .null : Option α) = none)
    (h : ∀ a ∈ a?, ReadsBack levels (Wire.toJson a) Wire.ofJson? a) :
    ReadsBack levels (Wire.toJson a?) Wire.ofJson? a? := by
  cases a? with
  | none => exact ⟨.null, ⟨.null, Nat.zero_le _⟩, rfl⟩
  | some a =>
    obtain ⟨j, hj, hread⟩ := h a rfl
    refine ⟨j, hj, ?_⟩
    rw [ofJson?_option, hread, Option.map_some]
    rintro rfl
    rw [hnull] at hread
    cases hread

/-- A list is read back if its elements are, one level above them. -/
theorem readsBack_list (as : List α)
    (h : ∀ a ∈ as, ReadsBack levels (Wire.toJson a) Wire.ofJson? a) :
    ReadsBack (levels + 1) (Wire.toJson as) Wire.ofJson? as := by
  have hparts : ∃ js : List Json,
      List.Forall₂ (fun j j' => ReadsAs j.renderChars j') (as.map Wire.toJson) js ∧
        (∀ j ∈ js, j.depth ≤ levels) ∧ js.mapM Wire.ofJson? = some as := by
    induction as with
    | nil => exact ⟨[], .nil, List.forall_mem_nil _, rfl⟩
    | cons a as ih =>
      obtain ⟨j, hj, hread⟩ := h a List.mem_cons_self
      obtain ⟨js, hjs, hdepth, hreads⟩ := ih fun b hb => h b (List.mem_cons_of_mem a hb)
      refine ⟨j :: js, .cons hj.readsAs hjs, List.forall_mem_cons.2 ⟨hj.depth_le, hdepth⟩, ?_⟩
      rw [List.mapM_cons, hread, hreads]
      rfl
  obtain ⟨js, hjs, hdepth, hread⟩ := hparts
  exact ⟨.array js, ⟨.array hjs, depth_array_le hdepth⟩, hread⟩

end

/-! ## Structures -/

namespace Json

section

variable {names : List String} {js : List Json}

/-- Where no name comes twice, one member has a given name. -/
theorem filter_zip_of_nodup (hnames : names.Nodup) {m : String × Json} (hm : m ∈ names.zip js) :
    (names.zip js).filter (fun m' => m'.1 == m.1) = [m] := by
  induction names generalizing js with
  | nil => cases hm
  | cons name names ih =>
    cases js with
    | nil => cases hm
    | cons j js =>
      obtain ⟨hfresh, hnames⟩ := List.nodup_cons.1 hnames
      rw [List.zip_cons_cons] at hm ⊢
      have hne {m' : String × Json} (hm' : m' ∈ names.zip js) : m'.1 ≠ name := by
        intro heq
        exact hfresh (heq ▸ (List.of_mem_zip hm').1)
      rcases List.mem_cons.1 hm with rfl | hm
      · have hnone : (names.zip js).filter (fun m' => m'.1 == name) = [] := by
          rw [List.filter_eq_nil_iff]
          intro m' hm'
          simpa using hne hm'
        rw [List.filter_cons_of_pos (by simp), hnone]
      · have hother : ¬ (name == m.1) = true := by simpa using (hne hm).symm
        rw [List.filter_cons, if_neg hother, ih hnames hm]

theorem uniqueMember?_of_mem_zip (hnames : names.Nodup) {m : String × Json}
    (hm : m ∈ names.zip js) : uniqueMember? ((names.zip js).map member) m.1 = some (some m.2) := by
  have hfilter : ((names.zip js).map member).filter (fun m' => m'.1 == some m.1) = [member m] := by
    rw [List.filter_map]
    exact congrArg (List.map member) (filter_zip_of_nodup hnames hm)
  rw [uniqueMember?, hfilter]
  rfl

theorem filter_eq_nil_of_absent {members : List (Option String × Json)} {name : String}
    (h : ∀ m ∈ members, m.1 ≠ some name) : members.filter (fun m => m.1 == some name) = [] := by
  simpa [List.filter_eq_nil_iff] using h

theorem uniqueMember?_of_absent {members : List (Option String × Json)} {name : String}
    (h : ∀ m ∈ members, m.1 ≠ some name) : uniqueMember? members name = some none := by
  rw [uniqueMember?, filter_eq_nil_of_absent h]

theorem mapM_of_zip {α β : Type} {f : α → Option (Option β)} {as : List α} {bs : List β}
    (hlength : bs.length ≤ as.length) (hfound : ∀ p ∈ as.zip bs, f p.1 = some (some p.2))
    (hrest : ∀ a ∈ as.drop bs.length, f a = some none) :
    as.mapM f = some (bs.map some ++ List.replicate (as.length - bs.length) none) := by
  induction as generalizing bs with
  | nil =>
    obtain rfl := List.length_eq_zero_iff.1 (Nat.le_zero.1 hlength)
    rfl
  | cons a as ih =>
    cases bs with
    | nil =>
      have htail := @ih [] (Nat.zero_le _) (by simp) fun a' h =>
        hrest a' (List.mem_cons_of_mem a h)
      rw [List.mapM_cons, hrest a List.mem_cons_self, htail]
      rfl
    | cons b bs =>
      rw [List.zip_cons_cons, List.forall_mem_cons] at hfound
      rw [List.mapM_cons, hfound.1, ih (Nat.le_of_succ_le_succ hlength) hfound.2 hrest,
        List.length_cons, List.length_cons, Nat.add_sub_add_right]
      rfl

/-- The fields of an object are found under their names. The last of them may be missing. -/
theorem fieldsOf?_record (unknown : UnknownMembers) (hnames : names.Nodup)
    (hlength : js.length ≤ names.length) :
    fieldsOf? unknown names (record (names.zip js)) =
      some (js.map some ++ List.replicate (names.length - js.length) none) := by
  have hall : ((names.zip js).map member).all
      (fun m => admissibleName unknown names m.1) = true := by
    rw [List.all_map, List.all_eq_true]
    intro m hm
    have hmem : names.contains m.1 = true := List.contains_iff_mem.2 (List.of_mem_zip hm).1
    simp only [Function.comp, member, admissibleName, hmem, Bool.or_true]
  rw [record_eq, fieldsOf?, if_pos hall]
  refine mapM_of_zip hlength (fun m hm => uniqueMember?_of_mem_zip hnames hm) ?_
  intro name hname
  refine uniqueMember?_of_absent fun m hm hsame => ?_
  obtain ⟨m', hm', rfl⟩ := List.mem_map.1 hm
  -- The names with a document come before those without, and no name comes twice.
  obtain ⟨i, hi, rfl⟩ := List.mem_iff_getElem.1 hm'
  rw [List.length_zip, Nat.min_eq_right hlength] at hi
  have hfirst : name ∈ names.take js.length := by
    rw [← Option.some.inj hsame]
    exact List.mem_take_iff_getElem.2 ⟨i, by omega, by rw [List.getElem_zip]⟩
  exact List.disjoint_take_drop hnames (Nat.le_refl _) hfirst hname

theorem forall₂_zip {R : Json → Json → Prop} {written : List Json}
    (h : List.Forall₂ R written js) (names : List String) :
    List.Forall₂ (fun m m' => m.1 = m'.1 ∧ R m.2 m'.2) (names.zip written) (names.zip js) := by
  induction h generalizing names with
  | nil =>
    rw [List.zip_nil_right]
    exact .nil
  | cons hpart _ ih =>
    cases names with
    | nil => exact .nil
    | cons name names => exact .cons ⟨rfl, hpart⟩ (ih names)

/-- A structure is read back if the documents of its fields are, one level above them, and
their values make up the structure. -/
theorem ReadsBack.record {α : Type} {a : α} {read? : Json → Option α} {written js : List Json}
    (unknown : UnknownMembers) (names : List String) (hnames : names.Nodup)
    (hlength : names.length = written.length)
    (hparts : List.Forall₂ (fun w j => ReadsWithin levels w.renderChars j) written js)
    (hread : ∀ j, fieldsOf? unknown names j = some (js.map some) → read? j = some a) :
    ReadsBack (levels + 1) (record (names.zip written)) read? a := by
  have hlength' : names.length = js.length := hlength.trans hparts.length_eq
  have hfields := fieldsOf?_record unknown hnames (Nat.le_of_eq hlength'.symm)
  rw [hlength', Nat.sub_self, List.replicate_zero, List.append_nil] at hfields
  obtain ⟨hdepth, hreads⟩ : (∀ j ∈ js, j.depth ≤ levels) ∧
      List.Forall₂ (fun j w => ReadsAs w.renderChars j) js written :=
    (List.forall₂_and_left _ _).1 (hparts.flip.imp fun _ _ h => ⟨h.depth_le, h.readsAs⟩)
  exact ⟨.record (names.zip js), ⟨.record (forall₂_zip hreads.flip names),
    depth_record_le fun m hm => hdepth m.2 (List.of_mem_zip hm).2⟩, hread _ hfields⟩

end

end Json

/-! ## Requests, settings and pages -/

theorem readsBack_filter (f : Filter) : ReadsBack (levels + 1) (Wire.toJson f) Wire.ofJson? f := by
  obtain ⟨key, hkey, keyBack⟩ := readsBack_option f.key rfl fun s _ => readsBack_string s
  obtain ⟨value, hvalue, valueBack⟩ := readsBack_option f.value rfl fun s _ => readsBack_string s
  obtain ⟨comparison, hcomparison, comparisonBack⟩ := readsBack_comparison f.comparison
  obtain ⟨connector, hconnector, connectorBack⟩ := readsBack_connector f.connector
  refine ReadsBack.record .ignored ["key", "value", "comparison", "connector"] (by decide) rfl
    (.cons hkey (.cons hvalue (.cons hcomparison (.cons hconnector .nil)))) ?_
  intro j hfields
  unfold Wire.ofJson? instWireFilter
  simp only [hfields, List.map_cons, List.map_nil, optional?, keyBack, valueBack, comparisonBack,
    connectorBack]
  rfl

theorem readsBack_sort (sort : SortRequest) :
    ReadsBack (levels + 1) (Wire.toJson sort) Wire.ofJson? sort := by
  obtain ⟨field, hfield, fieldBack⟩ := readsBack_string sort.field
  obtain ⟨direction, hdirection, directionBack⟩ :=
    readsBack_option sort.direction rfl fun d _ => readsBack_direction d
  refine ReadsBack.record .ignored ["field", "dir"] (by decide) rfl
    (.cons hfield (.cons hdirection .nil)) ?_
  intro j hfields
  unfold Wire.ofJson? instWireSortRequest
  simp only [hfields, List.map_cons, List.map_nil, required?, optional?, Option.bind_some,
    fieldBack, directionBack]
  rfl

theorem readsBack_request (request : PageRequest) :
    ReadsBack (levels + 3) (Wire.toJson request) Wire.ofJson? request := by
  obtain ⟨page, hpage, pageBack⟩ := readsBack_int64 request.page
  obtain ⟨size, hsize, sizeBack⟩ := readsBack_int64 request.pageSize
  obtain ⟨filters, hfilters, filtersBack⟩ :=
    readsBack_list request.filters fun f _ => readsBack_filter f
  obtain ⟨sort, hsort, sortBack⟩ := readsBack_option request.sort rfl fun s _ => readsBack_sort s
  refine ReadsBack.record .ignored ["page", "pageSize", "filters", "ordering"] (by decide) rfl
    (.cons hpage (.cons hsize (.cons hfilters (.cons hsort .nil)))) ?_
  intro j hfields
  unfold Wire.ofJson? instWirePageRequest
  simp only [hfields, List.map_cons, List.map_nil, required?, optional?, Option.bind_some,
    pageBack, sizeBack, filtersBack, sortBack]
  rfl

theorem readsBack_settings (settings : Settings) :
    ReadsBack (levels + 1) (Wire.toJson settings) Wire.ofJson? settings := by
  obtain ⟨bound, hbound, boundBack⟩ :=
    readsBack_option settings.maxPageSize rfl fun n _ => readsBack_uint64 n
  obtain ⟨policy, hpolicy, policyBack⟩ := readsBack_policy settings.policy
  refine ReadsBack.record .refused ["max_page_size", "none_connector"] (by decide) rfl
    (.cons hbound (.cons hpolicy .nil)) ?_
  intro j hfields
  unfold Wire.ofJson? instWireSettings
  simp only [hfields, List.map_cons, List.map_nil, optional?, boundBack, policyBack]
  rfl

/-- Holds of the pages whose counts are unsigned words, as they are wherever a page can be
stored. -/
structure Page.Representable {ι : Type} (p : Page ι) : Prop where
  number_lt : p.number < 2 ^ (64 : Nat)
  size_lt : p.size < 2 ^ (64 : Nat)
  rowCount_lt : p.rowCount < 2 ^ (64 : Nat)
  pageCount_lt : p.pageCount < 2 ^ (64 : Nat)

theorem readsBack_page {ι : Type} [Wire ι] {p : Page ι} (hp : p.Representable)
    (hrows : ∀ row ∈ p.rows, ReadsBack levels (Wire.toJson row) Wire.ofJson? row) :
    ReadsBack (levels + 2) (Wire.toJson p) Wire.ofJson? p := by
  obtain ⟨number, hnumber, numberBack⟩ := readsBack_count hp.number_lt
  obtain ⟨size, hsize, sizeBack⟩ := readsBack_count hp.size_lt
  obtain ⟨rowCount, hrowCount, rowCountBack⟩ := readsBack_count hp.rowCount_lt
  obtain ⟨pageCount, hpageCount, pageCountBack⟩ := readsBack_count hp.pageCount_lt
  obtain ⟨rows, hrows, rowsBack⟩ := readsBack_list p.rows hrows
  refine ReadsBack.record .ignored ["currentPage", "pageSize", "rowCount", "pageCount", "results"]
    (by decide) rfl (.cons hnumber (.cons hsize (.cons hrowCount (.cons hpageCount
      (.cons hrows .nil))))) ?_
  intro j hfields
  unfold Wire.ofJson? instWirePage
  simp only [hfields, List.map_cons, List.map_nil, required?, Option.bind_some, numberBack,
    sizeBack, rowCountBack, pageCountBack, rowsBack]
  rfl

/-- The levels of arrays and objects that a reader goes into. -/
def readerLevels : Nat := 127

theorem Wire.roundTrips_request (request : PageRequest) : RoundTrips readerLevels request :=
  roundTrips_iff.2 (readsBack_request request)

theorem Wire.roundTrips_filter (f : Filter) : RoundTrips readerLevels f :=
  roundTrips_iff.2 (readsBack_filter f)

theorem Wire.roundTrips_sort (sort : SortRequest) : RoundTrips readerLevels sort :=
  roundTrips_iff.2 (readsBack_sort sort)

theorem Wire.roundTrips_settings (settings : Settings) : RoundTrips readerLevels settings :=
  roundTrips_iff.2 (readsBack_settings settings)

/-- **Requests, their parts, settings and pages are read back from their texts.** Every page
request, filter, sorting and setting is what its own text is read as. So is every page with
counts in the range of unsigned words, if each of its rows is what the text of the row is read
as. No text is too deep for its reader, if those of the rows are not where they stand, on the
third level of the page. -/
theorem Wire.decode?_encode :
    (∀ request : PageRequest, RoundTrips readerLevels request) ∧
    (∀ f : Filter, RoundTrips readerLevels f) ∧
    (∀ sort : SortRequest, RoundTrips readerLevels sort) ∧
    (∀ settings : Settings, RoundTrips readerLevels settings) ∧
    ∀ {ι : Type} [Wire ι] (p : Page ι), p.Representable →
      (∀ row ∈ p.rows, RoundTrips (readerLevels - 2) row) → RoundTrips readerLevels p := by
  refine ⟨roundTrips_request, roundTrips_filter, roundTrips_sort, roundTrips_settings, ?_⟩
  intro ι _ p hp hrows
  exact roundTrips_iff.2 (readsBack_page hp fun row hrow => roundTrips_iff.1 (hrows row hrow))

/-- The last page of three texts, with characters to escape in its row. -/
theorem Wire.decode?_encode_escaped_row :
    let page : Page String := ⟨2, 2, 3, 2, ["a \"b\"\n\\ é"]⟩
    (∀ row ∈ page.rows, RoundTrips (readerLevels - 2) row) ∧
    encode page = "\x7b\"currentPage\":2,\"pageSize\":2,\"rowCount\":3,\"pageCount\":2," ++
      "\"results\":[\"a \\\"b\\\"\\n\\\\ é\"]\x7d" ∧
    decode? (encode page) = some page := by
  intro page
  have hrows : ∀ row ∈ page.rows, RoundTrips (readerLevels - 2) row :=
    fun row _ => roundTrips_iff.2 (readsBack_string row)
  exact ⟨hrows, by cbv, (decode?_encode.2.2.2.2 page ⟨by decide, by decide, by decide, by decide⟩
    hrows).decode?_encode⟩

end PagedQuery
