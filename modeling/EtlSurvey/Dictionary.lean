/-! Dictionaries with text keys, kept in ascending order of the keys. Texts compare code point by
code point, which is also the order of their UTF-8 bytes. -/

namespace EtlSurvey

/-- Puts a value under a key, replacing the one that is there. -/
def putEntry (key : String) (value : α) : List (String × α) → List (String × α)
  | [] => [(key, value)]
  | (k, v) :: rest =>
    if key < k then (key, value) :: (k, v) :: rest
    else if key = k then (key, value) :: rest
    else (k, v) :: putEntry key value rest

theorem mem_putEntry {key : String} {value : α} {entries : List (String × α)}
    {e : String × α} (h : e ∈ putEntry key value entries) :
    e = (key, value) ∨ e ∈ entries := by
  induction entries with
  | nil => simpa [putEntry] using h
  | cons head rest ih =>
    obtain ⟨k, v⟩ := head
    simp only [putEntry] at h
    split at h
    · simpa using h
    · split at h
      · rcases List.mem_cons.mp h with h | h
        · exact .inl h
        · exact .inr (List.mem_cons_of_mem _ h)
      · rcases List.mem_cons.mp h with h | h
        · exact .inr (h ▸ List.mem_cons_self)
        · exact (ih h).imp id (List.mem_cons_of_mem _)

theorem pairwise_putEntry (key : String) (value : α) {entries : List (String × α)}
    (h : entries.Pairwise fun a b => a.1 < b.1) :
    (putEntry key value entries).Pairwise fun a b => a.1 < b.1 := by
  induction entries with
  | nil => simp [putEntry]
  | cons head rest ih =>
    obtain ⟨k, v⟩ := head
    obtain ⟨hk, hr⟩ := List.pairwise_cons.mp h
    simp only [putEntry]
    split
    · next lt =>
      refine List.pairwise_cons.mpr ⟨fun e he => ?_, h⟩
      rcases List.mem_cons.mp he with rfl | he
      · exact lt
      · exact String.lt_trans lt (hk e he)
    · next ge =>
      split
      · next same => subst same; exact List.pairwise_cons.mpr ⟨hk, hr⟩
      · next other =>
        refine List.pairwise_cons.mpr ⟨fun e he => ?_, ih hr⟩
        rcases mem_putEntry he with rfl | he
        · exact ((Std.lt_trichotomy key k).resolve_left ge).resolve_left other
        · exact hk e he

theorem lookup_entry (key : String) (value : α) (rest : List (String × α)) (k : String) :
    ((key, value) :: rest).lookup k = if k = key then some value else rest.lookup k := by
  by_cases h : k = key
  · simp [h]
  · simp [List.lookup_cons, beq_eq_false_iff_ne.mpr h, h]

theorem lookup_putEntry (key : String) (value : α) (entries : List (String × α)) (k : String) :
    (putEntry key value entries).lookup k =
      if k = key then some value else entries.lookup k := by
  induction entries with
  | nil => exact lookup_entry key value [] k
  | cons head rest ih =>
    obtain ⟨k', v⟩ := head
    simp only [putEntry]
    split
    · simp only [lookup_entry]
    · split
      · next same => subst same; simp only [lookup_entry]; split <;> rfl
      · next other =>
        simp only [lookup_entry, ih]
        by_cases h : k = k'
        · simp [h, Ne.symm other]
        · simp [h]

structure Dictionary (α : Type) where
  entries : List (String × α)
  ascending : entries.Pairwise fun a b => a.1 < b.1

namespace Dictionary

def empty : Dictionary α := ⟨[], .nil⟩

instance : EmptyCollection (Dictionary α) := ⟨empty⟩
instance : Inhabited (Dictionary α) := ⟨empty⟩

theorem ext {d e : Dictionary α} (h : d.entries = e.entries) : d = e := by
  cases d; cases e; simp_all

instance [DecidableEq α] : DecidableEq (Dictionary α) := fun d e =>
  if h : d.entries = e.entries then isTrue (ext h) else isFalse fun he => h (he ▸ rfl)

def get? (d : Dictionary α) (key : String) : Option α := d.entries.lookup key

def contains (d : Dictionary α) (key : String) : Bool := (d.get? key).isSome

def insert (d : Dictionary α) (key : String) (value : α) : Dictionary α :=
  ⟨putEntry key value d.entries, pairwise_putEntry key value d.ascending⟩

@[simp] theorem get?_empty (key : String) : (∅ : Dictionary α).get? key = none := rfl

theorem get?_insert (d : Dictionary α) (key : String) (value : α) (k : String) :
    (d.insert key value).get? k = if k = key then some value else d.get? k :=
  lookup_putEntry key value d.entries k

/-- Puts a value unless the key has one. -/
def insertMissing (d : Dictionary α) (key : String) (value : α) : Dictionary α :=
  if d.contains key then d else d.insert key value

theorem get?_insertMissing (d : Dictionary α) (key : String) (value : α) (k : String) :
    (d.insertMissing key value).get? k = if k = key then some ((d.get? key).getD value)
      else d.get? k := by
  by_cases present : d.contains key
  · obtain ⟨v, hv⟩ := Option.isSome_iff_exists.mp present
    by_cases h : k = key <;> simp [insertMissing, present, h, hv]
  · have absent : d.get? key = none := by simpa [contains] using present
    simp [insertMissing, present, get?_insert, absent]

/-- Of entries with one key the last counts. -/
def ofList (entries : List (String × α)) : Dictionary α :=
  entries.foldl (fun d (key, value) => d.insert key value) ∅

/-- A key behind all others goes to the end. -/
theorem putEntry_last {key : String} (value : α) {entries : List (String × α)}
    (h : ∀ e ∈ entries, e.1 < key) : putEntry key value entries = entries ++ [(key, value)] := by
  induction entries with
  | nil => rfl
  | cons head rest ih =>
    obtain ⟨k, v⟩ := head
    obtain ⟨hk, hrest⟩ := List.forall_mem_cons.mp h
    have hlt : ¬ key < k := fun h => String.lt_irrefl k (String.lt_trans hk h)
    have hne : ¬ key = k := by
      rintro rfl
      exact String.lt_irrefl key hk
    simp only [putEntry, if_neg hlt, if_neg hne, ih hrest, List.cons_append]

theorem entries_foldl_insert (entries : List (String × α)) (d : Dictionary α)
    (h : (d.entries ++ entries).Pairwise fun a b => a.1 < b.1) :
    (entries.foldl (fun d (key, value) => d.insert key value) d).entries =
      d.entries ++ entries := by
  induction entries generalizing d with
  | nil => simp
  | cons head rest ih =>
    obtain ⟨key, value⟩ := head
    have hlast : (d.insert key value).entries = d.entries ++ [(key, value)] :=
      putEntry_last value fun e he =>
        (List.pairwise_append.mp h).2.2 e he (key, value) List.mem_cons_self
    simp only [List.foldl_cons]
    rw [ih _ (by rw [hlast]; simpa using h), hlast]
    simp

/-- A dictionary is made of its own entries. -/
theorem ofList_entries (d : Dictionary α) : ofList d.entries = d :=
  ext (entries_foldl_insert d.entries ∅ d.ascending)

def keys (d : Dictionary α) : List String := d.entries.map (·.1)

def size (d : Dictionary α) : Nat := d.entries.length

def isEmpty (d : Dictionary α) : Bool := d.entries.isEmpty

/-- New values from keys and values. -/
def mapValues (f : String → α → β) (d : Dictionary α) : Dictionary β where
  entries := d.entries.map fun (key, value) => (key, f key value)
  ascending := List.pairwise_map.mpr d.ascending

theorem get?_mapValues (f : String → α → β) (d : Dictionary α) (k : String) :
    (d.mapValues f).get? k = (d.get? k).map (f k) := by
  simp only [get?, mapValues]
  induction d.entries with
  | nil => rfl
  | cons head rest ih =>
    obtain ⟨k', v⟩ := head
    simp only [List.map_cons, lookup_entry, ih]
    by_cases h : k = k' <;> simp [h]

end Dictionary
end EtlSurvey
