import EtlSurvey.Dictionary
import Mathlib.Data.List.Perm.Subperm

/-! # Dictionaries made of entries

A dictionary has the keys of the entries that it is made of, and under each the value of the last
one. -/

namespace EtlSurvey

/-- Looked up in a table of a function, an argument leads to its value. -/
theorem lookup_map_pair [BEq κ] [LawfulBEq κ] (f : κ → α) {k : κ} {keys : List κ} (h : k ∈ keys) :
    (keys.map fun k => (k, f k)).lookup k = some (f k) := by
  induction keys with
  | nil => cases h
  | cons first rest ih =>
    rw [List.map_cons, List.lookup_cons]
    split
    next heq => rw [eq_of_beq heq]
    next hne =>
      have hne : k ≠ first := by simpa using hne
      exact ih ((List.mem_cons.mp h).resolve_left hne)

namespace Dictionary

theorem mem_entries_iff {d : Dictionary α} {k : String} {v : α} :
    (k, v) ∈ d.entries ↔ d.get? k = some v := by
  obtain ⟨entries, hascending⟩ := d
  show (k, v) ∈ entries ↔ entries.lookup k = some v
  induction entries with
  | nil => exact iff_of_false List.not_mem_nil (Option.some_ne_none v ∘ Eq.symm)
  | cons entry rest ih =>
    obtain ⟨key, value⟩ := entry
    obtain ⟨hfirst, hrest⟩ := List.pairwise_cons.mp hascending
    rw [List.mem_cons, lookup_entry, ih hrest]
    by_cases hkey : k = key
    · subst hkey
      rw [if_pos rfl, Option.some_inj, Prod.mk.injEq, and_iff_right rfl, eq_comm]
      refine or_iff_left fun hmem => ?_
      exact String.lt_irrefl k (hfirst _ ((ih hrest).mpr hmem))
    · rw [if_neg hkey]
      exact or_iff_right fun h => hkey (Prod.mk.inj h).1

theorem get?_foldl_insert (entries : List (String × α)) (d : Dictionary α) (k : String) :
    (entries.foldl (fun d (key, value) => d.insert key value) d).get? k =
      (entries.reverse.lookup k).or (d.get? k) := by
  induction entries generalizing d with
  | nil => rfl
  | cons entry rest ih =>
    rw [List.foldl_cons, ih, get?_insert, List.reverse_cons, List.lookup_append, lookup_entry,
      Option.or_assoc]
    split <;> rfl

theorem get?_ofList_eq (entries : List (String × α)) (k : String) :
    (ofList entries).get? k = entries.reverse.lookup k := by
  rw [ofList, get?_foldl_insert, get?_empty, Option.or_none]

theorem mem_keys_iff {d : Dictionary α} {k : String} : k ∈ d.keys ↔ (d.get? k).isSome := by
  rw [get?, List.lookup_isSome_iff, keys, List.mem_map]
  simp only [beq_iff_eq, @eq_comm _ k]

theorem mem_keys_ofList {entries : List (String × α)} {k : String} :
    k ∈ (ofList entries).keys ↔ k ∈ entries.map (·.1) := by
  rw [mem_keys_iff, get?_ofList_eq, List.lookup_isSome_iff, List.mem_map]
  simp only [List.mem_reverse, beq_iff_eq, @eq_comm _ k]

theorem keys_ascending (d : Dictionary α) : d.keys.Pairwise (· < ·) :=
  List.pairwise_map.mpr d.ascending

/-- Entries get lost exactly where two of them have one key. -/
theorem length_keys_ofList_iff {entries : List (String × α)} :
    (ofList entries).keys.length = entries.length ↔ (entries.map (·.1)).Nodup := by
  have hkeys : (ofList entries).keys.Nodup := by
    refine (keys_ascending _).imp ?_
    rintro key _ hlt rfl
    exact String.lt_irrefl key hlt
  constructor
  · intro hlength
    have hsub : (ofList entries).keys.Subperm (entries.map (·.1)) :=
      List.subperm_of_subset hkeys fun _ hk => mem_keys_ofList.mp hk
    have hperm := hsub.perm_of_length_le (Nat.le_of_eq (by rw [List.length_map, hlength]))
    exact hperm.nodup_iff.mp hkeys
  · intro hnodup
    have hperm := (List.perm_ext_iff_of_nodup hkeys hnodup).mpr fun _ => mem_keys_ofList
    rw [hperm.length_eq, List.length_map]

end Dictionary
end EtlSurvey
