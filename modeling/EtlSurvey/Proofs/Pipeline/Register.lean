import EtlSurvey.Proofs.Dictionary
import EtlSurvey.Proofs.Pipeline.Owners
import EtlSurvey.Proofs.Survey.Extraction
import EtlSurvey.Proofs.Text.Utf8

/-! # A register of components and their places

Components may be gathered one by one beside a table that has the place of each id. Elements that
are left out change neither, so the table has exactly the ids of the components, each with the place
of its component. An owner of an end can then be looked up in the table, whose entries come in some
order that means nothing: the search compares bytes and takes one of the longest ids that it meets.
It never asks for a byte behind the end, and two different ids that lead to one end are not equally
long, so that it finds the component that the end belongs to. -/

namespace EtlSurvey
open Text Markup

/-- The components so far, and the place of each of them by its id. -/
structure Register where
  components : List Component := []
  places : Dictionary Nat := ∅

namespace Register

/-- The register with one more component. -/
def push (r : Register) (c : Component) : Register :=
  ⟨r.components ++ [c], r.places.insert c.id r.components.length⟩

/-- Adds the component of an element unless it is left out or its id is taken. -/
def add (taskId : String) (r : Register) (e : Element) : Register :=
  match (componentExtraction taskId).read e with
  | .error _ => r
  | .ok c => if r.places.contains c.id then r else r.push c

def ofElements (taskId : String) (elements : List Element) : Register :=
  elements.foldl (add taskId) {}

def ids (r : Register) : List String := r.components.map (·.id)

end Register

section Search

/-- Whether the bytes of an end begin with an id that a dot follows; none if a byte is asked for
that the end does not have. -/
def dotFollows? (id pathEnd : Bytes) : Option Bool :=
  if id.length < pathEnd.length && id.isPrefixOf pathEnd then
    (pathEnd[id.length]?).map (· == 0x2E)
  else some false

/-- The entries whose ids lead to an end. -/
def leadingEntries? (pathEnd : Bytes) : List (String × Nat) → Option (List (String × Nat))
  | [] => some []
  | entry :: rest => do
    let leads ← dotFollows? (Utf8.encode entry.1) pathEnd
    let others ← leadingEntries? pathEnd rest
    return if leads then entry :: others else others

/-- The entry with more bytes in its id, the second of two of one size. -/
def largerEntry (best : Option (String × Nat)) (entry : String × Nat) : Option (String × Nat) :=
  match best with
  | some b => if Utf8.size entry.1 < Utf8.size b.1 then some b else some entry
  | none => some entry

/-- The place of the component that an end belongs to, if there is one. The entries of the table are
met in the given order; none if the search asks for a byte that is not there. -/
def Register.search? (r : Register) (order : List (String × Nat)) (pathEnd : String) :
    Option (Option Nat) :=
  match r.places.get? pathEnd with
  | some place => some (some place)
  | none => (leadingEntries? (Utf8.encode pathEnd) order).map fun leading =>
    (leading.foldl largerEntry none).map (·.2)

end Search

namespace Register

section Places

variable {taskId : String} {r : Register} {c : Component} {e : Element}

/-- The table has the ids of the components and the place of each. -/
structure Indexed (r : Register) : Prop where
  get?_iff : ∀ id place, r.places.get? id = some place ↔
    ∃ c, r.components[place]? = some c ∧ c.id = id

/-- What an element does: nothing, or it adds a component under a new id. -/
theorem add_cases (taskId : String) (r : Register) (e : Element) :
    (r.add taskId e = r ∧
      ∀ c, (componentExtraction taskId).read e = .ok c → r.places.contains c.id = true) ∨
    ∃ c, (componentExtraction taskId).read e = .ok c ∧ r.places.contains c.id = false ∧
      r.add taskId e = r.push c := by
  cases hread : (componentExtraction taskId).read e with
  | error cause => exact .inl ⟨by rw [add, hread], fun c h => by cases h⟩
  | ok c =>
    cases htaken : r.places.contains c.id with
    | true =>
      refine .inl ⟨by simp only [add, hread, htaken, if_true], fun c' h => ?_⟩
      cases h
      exact htaken
    | false =>
      exact .inr ⟨c, rfl, htaken, by
        simp only [add, hread, htaken, Bool.false_eq_true, if_false]⟩

theorem Indexed.push (h : r.Indexed) (hnew : r.places.contains c.id = false) :
    (r.push c).Indexed := by
  refine ⟨fun id place => ?_⟩
  have hfresh : ∀ place, r.places.get? c.id ≠ some place := by
    intro place hplace
    rw [Dictionary.contains, hplace] at hnew
    cases hnew
  rw [Register.push, Dictionary.get?_insert, List.getElem?_append]
  by_cases hid : id = c.id
  · subst hid
    rw [if_pos rfl, Option.some_inj]
    constructor
    · rintro rfl
      exact ⟨c, by simp, rfl⟩
    · rintro ⟨c', hc', hid⟩
      split at hc'
      · exact absurd ((h.get?_iff _ _).mpr ⟨c', hc', hid⟩) (hfresh place)
      · next hbehind =>
        rw [List.getElem?_singleton] at hc'
        split at hc'
        · omega
        · cases hc'
  · rw [if_neg hid, h.get?_iff]
    refine exists_congr fun c' => and_congr_left fun hc' => ?_
    split
    · exact Iff.rfl
    · next hbehind =>
      rw [List.getElem?_eq_none (Nat.le_of_not_lt hbehind), List.getElem?_singleton]
      refine iff_of_false (fun h => by cases h) fun h => ?_
      split at h
      · cases h
        exact hid hc'.symm
      · cases h

theorem Indexed.add (h : r.Indexed) (taskId : String) (e : Element) :
    (r.add taskId e).Indexed := by
  obtain ⟨hsame, -⟩ | ⟨c, -, hnew, hpush⟩ := add_cases taskId r e
  · rwa [hsame]
  · rw [hpush]
    exact h.push hnew

theorem indexed_ofElements (taskId : String) (elements : List Element) :
    (ofElements taskId elements).Indexed := by
  have hrun : ∀ r : Register, r.Indexed → (elements.foldl (Register.add taskId) r).Indexed := by
    induction elements with
    | nil => exact fun r h => h
    | cons e rest ih => exact fun r h => ih _ (h.add taskId e)
  refine hrun {} ⟨fun id place => ?_⟩
  simp

/-- A run from a register whose table has the keys of the elements before adds the records that the
reader keeps of the others. -/
theorem components_foldl_add {before elements : List Element}
    (hseen : ∀ key, r.places.contains key = true ↔
      ∃ s ∈ before, (componentExtraction taskId).key? s = some key) :
    (elements.foldl (Register.add taskId) r).components = r.components ++
      (elements.mapIdx fun i s =>
        (componentExtraction taskId).fate (before ++ elements.take i) s).filterMap
          Except.toOption := by
  induction elements generalizing r before with
  | nil => simp
  | cons e rest ih =>
    rw [List.foldl_cons, Extraction.fates_cons]
    have hany : ∀ key, before.any ((componentExtraction taskId).key? · == some key) =
        r.places.contains key := by
      intro key
      rw [Bool.eq_iff_iff, hseen, List.any_eq_true]
      simp only [beq_iff_eq]
    obtain ⟨hsame, htaken⟩ | ⟨c, hread, hnew, hpush⟩ := add_cases taskId r e
    · rw [hsame]
      have hkeys : ∀ key, r.places.contains key = true ↔
          ∃ s ∈ before ++ [e], (componentExtraction taskId).key? s = some key := by
        intro key
        rw [Extraction.exists_key_snoc, hseen, or_iff_left_of_imp]
        intro hkey
        obtain ⟨c, hc, rfl⟩ := Option.map_eq_some_iff.mp hkey
        exact (hseen _).mp (htaken c (eq_ok_of_toOption hc))
      have hfate : ((componentExtraction taskId).fate before e).toOption = none := by
        rw [Extraction.fate]
        split
        · rfl
        · next c hc => exact congrArg Except.toOption (if_pos ((hany _).trans (htaken c hc)))
      rw [ih hkeys, List.filterMap_cons_none hfate]
    · rw [hpush]
      have hkeys : ∀ key, (r.push c).places.contains key = true ↔
          ∃ s ∈ before ++ [e], (componentExtraction taskId).key? s = some key := by
        intro key
        have hkey : (componentExtraction taskId).key? e = some c.id := by
          rw [Extraction.key?, hread]
          rfl
        rw [Extraction.exists_key_snoc, ← hseen, hkey, Dictionary.contains, Register.push,
          Dictionary.get?_insert, Option.some_inj]
        by_cases heq : key = c.id
        · simp [heq]
        · rw [if_neg heq, or_iff_left (Ne.symm heq)]
          rfl
      have hfate : ((componentExtraction taskId).fate before e).toOption = some c := by
        have hfree : ¬ before.any ((componentExtraction taskId).key? · == some c.id) = true := by
          rw [hany, hnew]
          exact Bool.false_ne_true
        rw [Extraction.fate, hread]
        exact congrArg Except.toOption (if_neg hfree)
      rw [ih hkeys, List.filterMap_cons_some hfate, Register.push, List.append_assoc]
      rfl

/-- The register holds what the reader keeps. -/
theorem components_ofElements (taskId : String) (elements : List Element) :
    (ofElements taskId elements).components = (readComponents taskId elements).value := by
  have hempty : ∀ key, ({} : Register).places.contains key = true ↔
      ∃ s ∈ ([] : List Element), (componentExtraction taskId).key? s = some key := by
    simp [Dictionary.contains]
  rw [(readComponents_keepsFirst taskId elements).records, ofElements,
    components_foldl_add hempty]
  rfl

end Places

end Register

section Search

variable {id pathEnd : String} {order : List (String × Nat)}

/-- The search asks for no byte behind the end, and what it takes for leading to the end does. -/
theorem dotFollows?_encode (id pathEnd : String) :
    dotFollows? (Utf8.encode id) (Utf8.encode pathEnd) =
      some ((id ++ ".").toList.isPrefixOf pathEnd.toList) := by
  have hdot : Utf8.encode (id ++ ".") = Utf8.encode id ++ [0x2E] := Utf8.encode_append id "."
  have hleads : (id ++ ".").toList.isPrefixOf pathEnd.toList = true ↔
      Utf8.encode id ++ [0x2E] <+: Utf8.encode pathEnd := by
    rw [List.isPrefixOf_iff_prefix, ← Utf8.encode_prefix_iff, hdot]
  rw [dotFollows?]
  split
  · next h =>
    obtain ⟨hlength, hfront⟩ := Bool.and_eq_true_iff.mp h
    obtain ⟨rest, hrest⟩ := List.isPrefixOf_iff_prefix.mp hfront
    rw [← hrest] at hleads hlength ⊢
    cases rest with
    | nil => simp at hlength
    | cons b rest =>
      rw [List.getElem?_append_right (Nat.le_refl _), Nat.sub_self, List.getElem?_cons_zero,
        Option.map_some, Option.some_inj, Bool.eq_iff_iff, hleads, beq_iff_eq,
        List.prefix_append_right_inj, List.cons_prefix_cons, and_iff_left List.nil_prefix, eq_comm]
  · next h =>
    rw [Option.some_inj, eq_comm, Bool.eq_false_iff]
    intro hlead
    have hlong := hleads.mp hlead
    refine h (Bool.and_eq_true_iff.mpr ⟨?_, ?_⟩)
    · have hlength := hlong.length_le
      rw [List.length_append, List.length_singleton] at hlength
      exact decide_eq_true hlength
    · exact List.isPrefixOf_iff_prefix.mpr ((List.prefix_append _ _).trans hlong)

theorem leadingEntries?_eq (pathEnd : String) (order : List (String × Nat)) :
    leadingEntries? (Utf8.encode pathEnd) order =
      some (order.filter fun entry => (entry.1 ++ ".").toList.isPrefixOf pathEnd.toList) := by
  induction order with
  | nil => rfl
  | cons entry rest ih =>
    rw [leadingEntries?, dotFollows?_encode, ih, List.filter_cons]
    rfl

theorem picks_largerEntry : Picks (fun entry : String × Nat => Utf8.size entry.1) largerEntry where
  first _ := rfl
  next best a := by
    rw [largerEntry]
    split
    · next hsmaller => exact .inl ⟨rfl, Nat.le_of_lt hsmaller⟩
    · next hlarger => exact .inr ⟨rfl, Nat.le_of_not_lt hlarger⟩

theorem LeadsTo.isPrefix (h : LeadsTo id pathEnd) : id.toList <+: pathEnd.toList := by
  rw [LeadsTo, String.toList_append] at h
  exact (List.prefix_append _ _).trans h

/-- Of ids that lead to one end, one with no more bytes has no more characters. -/
theorem LeadsTo.length_le_of_size_le {other : String} (h : LeadsTo id pathEnd)
    (hother : LeadsTo other pathEnd) (hsize : Utf8.size other ≤ Utf8.size id) :
    other.length ≤ id.length := by
  rcases List.prefix_or_prefix_of_prefix hother.isPrefix h.isPrefix with hshort | hlong
  · simpa only [String.length_toList] using hshort.length_le
  · have hsame := (Utf8.encode_prefix_iff.mpr hlong).eq_of_length_le hsize
    rw [Utf8.encode_injective hsame]

end Search

namespace Register

variable {r : Register} {order : List (String × Nat)} {pathEnd : String}

theorem Indexed.mem_ids_iff (h : r.Indexed) {id : String} :
    id ∈ r.ids ↔ ∃ place, r.places.get? id = some place := by
  rw [ids, List.mem_map]
  simp only [h.get?_iff, List.mem_iff_getElem?]
  constructor
  · rintro ⟨c, ⟨place, hc⟩, hid⟩
    exact ⟨place, c, hc, hid⟩
  · rintro ⟨place, c, hc, hid⟩
    exact ⟨c, ⟨place, hc⟩, hid⟩

/-- In whatever order the entries of the table come, the search finds the place of the component
that the end belongs to. -/
theorem Indexed.search?_eq (h : r.Indexed) (horder : order.Perm r.places.entries)
    (pathEnd : String) :
    r.search? order pathEnd = some ((resolveEnd r.ids pathEnd).bind r.places.get?) := by
  rw [search?]
  cases hself : r.places.get? pathEnd with
  | some place =>
    have hmem : pathEnd ∈ r.ids := h.mem_ids_iff.mpr ⟨place, hself⟩
    rw [resolveEnd_eq_some_iff.mpr (BelongsTo.self hmem), Option.bind_some, hself]
  | none =>
    have hother : pathEnd ∉ r.ids := by
      rw [h.mem_ids_iff, hself]
      simp
    rw [leadingEntries?_eq, Option.map_some, Option.some_inj]
    have hleading : ∀ entry, entry ∈ order.filter (fun entry =>
        (entry.1 ++ ".").toList.isPrefixOf pathEnd.toList) ↔
        r.places.get? entry.1 = some entry.2 ∧ LeadsTo entry.1 pathEnd := by
      intro entry
      rw [List.mem_filter, horder.mem_iff, Dictionary.mem_entries_iff, List.isPrefixOf_iff_prefix,
        LeadsTo]
    generalize (order.filter fun entry =>
      (entry.1 ++ ".").toList.isPrefixOf pathEnd.toList) = leading at hleading
    cases hpicked : leading.foldl largerEntry none with
    | none =>
      have hnone : resolveEnd r.ids pathEnd = none := by
        rw [resolveEnd_eq_none_iff]
        rintro id ⟨hid, rfl | ⟨-, hlead, -⟩⟩
        · exact hother hid
        · obtain ⟨place, hplace⟩ := h.mem_ids_iff.mp hid
          have hmem := (hleading (id, place)).mpr ⟨hplace, hlead⟩
          rw [picks_largerEntry.eq_nil hpicked] at hmem
          cases hmem
      rw [hnone]
      rfl
    | some entry =>
      obtain ⟨hentry, hlargest⟩ := picks_largerEntry.largest hpicked
      obtain ⟨hplace, hlead⟩ := (hleading entry).mp hentry
      have howner : BelongsTo r.ids pathEnd entry.1 := by
        refine ⟨h.mem_ids_iff.mpr ⟨_, hplace⟩, .inr ⟨hother, hlead, fun other hid hleads => ?_⟩⟩
        obtain ⟨place, hother⟩ := h.mem_ids_iff.mp hid
        exact hlead.length_le_of_size_le hleads
          (hlargest (other, place) ((hleading _).mpr ⟨hother, hleads⟩))
      rw [resolveEnd_eq_some_iff.mpr howner, Option.bind_some, hplace]
      rfl

/-- The owner that is found has its place in the table. -/
theorem Indexed.bind_get?_eq_none_iff (h : r.Indexed) :
    (resolveEnd r.ids pathEnd).bind r.places.get? = none ↔
      ∀ id ∈ r.ids, pathEnd ≠ id ∧ ¬ LeadsTo id pathEnd := by
  rw [← resolveEnd_eq_none_iff_forall]
  cases hid : resolveEnd r.ids pathEnd with
  | none => simp
  | some id =>
    obtain ⟨place, hplace⟩ := h.mem_ids_iff.mp (resolveEnd_eq_some_iff.mp hid).1
    rw [Option.bind_some, hplace]
    simp

theorem Indexed.bind_get?_eq_some_iff (h : r.Indexed) {place : Nat} :
    (resolveEnd r.ids pathEnd).bind r.places.get? = some place ↔
      ∃ c, r.components[place]? = some c ∧ BelongsTo r.ids pathEnd c.id := by
  rw [Option.bind_eq_some_iff]
  constructor
  · rintro ⟨id, hid, hplace⟩
    obtain ⟨c, hc, rfl⟩ := (h.get?_iff _ _).mp hplace
    exact ⟨c, hc, resolveEnd_eq_some_iff.mp hid⟩
  · rintro ⟨c, hc, howner⟩
    exact ⟨c.id, resolveEnd_eq_some_iff.mpr howner, (h.get?_iff _ _).mpr ⟨c, hc, rfl⟩⟩

end Register

/-- Whatever elements come one after the other, the components are those that the reader keeps, and
the table has the place of each under its id. In whatever order the entries of the table come, the
search for an end asks for no byte that is not there and finds the place of the owner: of the
component whose id is the end, or else of the one with the longest id that a dot follows at the
start of the end. It finds none exactly if there is no such id. -/
theorem register_finds_owners (taskId : String) (elements : List Element) :
    let r := Register.ofElements taskId elements
    r.components = (readComponents taskId elements).value ∧
    (∀ id place, r.places.get? id = some place ↔
      ∃ c, r.components[place]? = some c ∧ c.id = id) ∧
    ∀ pathEnd, let found := (resolveEnd r.ids pathEnd).bind r.places.get?
      (∀ order, order.Perm r.places.entries → r.search? order pathEnd = some found) ∧
      (∀ place, found = some place ↔
        ∃ c, r.components[place]? = some c ∧ BelongsTo r.ids pathEnd c.id) ∧
      (found = none ↔ ∀ id ∈ r.ids, pathEnd ≠ id ∧ ¬ LeadsTo id pathEnd) := by
  intro r
  have hindexed : r.Indexed := Register.indexed_ofElements taskId elements
  refine ⟨Register.components_ofElements taskId elements, hindexed.get?_iff, fun pathEnd => ?_⟩
  exact ⟨fun order horder => hindexed.search?_eq horder pathEnd,
    fun place => hindexed.bind_get?_eq_some_iff, hindexed.bind_get?_eq_none_iff⟩

/-- Two components, of which the id of one leads to the id of the other. -/
def nestedElements : List Element :=
  [⟨⟨none, "component", [⟨none, "refId", "Orders"⟩,
      ⟨none, "componentClassID", "Microsoft.OLEDBSource"⟩], ""⟩, .nil⟩,
    ⟨⟨none, "component", [⟨none, "refId", "Orders.Ö"⟩,
      ⟨none, "componentClassID", "Microsoft.Multicast"⟩], ""⟩, .nil⟩]

/-- An end inside the longer id leads to the second place, although the entry of that id is met
first. -/
theorem register_finds_owners_nestedElements :
    let r := Register.ofElements "Flow" nestedElements
    [("Orders.Ö", 1), ("Orders", 0)].Perm r.places.entries ∧
      r.search? [("Orders.Ö", 1), ("Orders", 0)] "Orders.Ö.Outputs[All]" = some (some 1) := by
  intro r
  have hentries : [("Orders.Ö", 1), ("Orders", 0)].Perm r.places.entries := by
    decide +kernel
  have howner : (resolveEnd r.ids "Orders.Ö.Outputs[All]").bind r.places.get? = some 1 := by
    decide +kernel
  obtain ⟨-, -, hfinds⟩ := register_finds_owners "Flow" nestedElements
  obtain ⟨hsearch, -, -⟩ := hfinds "Orders.Ö.Outputs[All]"
  exact ⟨hentries, (hsearch _ hentries).trans (congrArg some howner)⟩

end EtlSurvey
