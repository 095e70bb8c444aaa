import EtlSurvey.Text.Basic
import Mathlib.Data.List.Basic
import Mathlib.Data.List.Sort
import Mathlib.Data.List.TakeWhile

/-! # Lists in ascending order, and lists cut at the first item of a kind

A list in strictly ascending order is known from what it holds. The different texts of a list form
such a list, and so do the keys of items that are sorted by them, if no two keys are the same. What
stands in front of the first separator of a list, and behind it, does not depend on how it is found.
-/

namespace EtlSurvey
open Text

/-- What a list in ascending order holds says which list it is. -/
theorem ascending_ext {items others : List String} (h : items.Pairwise (· < ·))
    (hothers : others.Pairwise (· < ·)) (hmem : ∀ t, t ∈ items ↔ t ∈ others) :
    items = others := by
  have : Std.Irrefl fun a b : String => a < b := ⟨String.lt_irrefl⟩
  have : Std.Antisymm fun a b : String => a < b :=
    ⟨fun a b hab hba => absurd (String.lt_trans hab hba) (String.lt_irrefl a)⟩
  exact h.eq_of_mem_iff hothers hmem

/-- A search among items whose keys ascend finds an item if those with smaller keys do not fit. -/
theorem find?_eq_some_iff_of_ascending {key : α → String} {items : List α}
    (h : (items.map key).Pairwise (· < ·)) (fits : α → Bool) {a : α} (ha : a ∈ items) :
    items.find? fits = some a ↔ fits a ∧ ∀ b ∈ items, key b < key a → ¬ fits b := by
  rw [List.pairwise_map] at h
  rw [List.find?_eq_some_iff_append]
  constructor
  · rintro ⟨hfits, before, after, rfl, hbefore⟩
    refine ⟨hfits, fun b hb hlt => ?_⟩
    obtain hb | hb := List.mem_append.mp hb
    · simpa using hbefore b hb
    -- what comes from the item on has no smaller key
    have hafter := (List.pairwise_cons.mp (List.pairwise_append.mp h).2.1).1
    obtain rfl | hb := List.mem_cons.mp hb
    · exact absurd hlt (String.lt_irrefl _)
    · exact absurd (String.lt_trans hlt (hafter b hb)) (String.lt_irrefl _)
  · rintro ⟨hfits, hnone⟩
    obtain ⟨before, after, rfl⟩ := List.append_of_mem ha
    have hbefore := (List.pairwise_append.mp h).2.2
    refine ⟨hfits, before, after, rfl, fun b hb => ?_⟩
    simpa using hnone b (List.mem_append_left _ hb) (hbefore b hb a List.mem_cons_self)

/-- A list names exactly the texts with a property, in ascending order. -/
structure Lists (items : List String) (p : String → Prop) : Prop where
  ascending : items.Pairwise (· < ·)
  mem_iff : ∀ t, t ∈ items ↔ p t

theorem Lists.same_iff {items : List String} {p q : String → Prop} (h : Lists items p) :
    Lists items q ↔ ∀ t, p t ↔ q t := by
  constructor
  · intro hq t
    rw [← h.mem_iff, hq.mem_iff]
  · intro hsame
    exact ⟨h.ascending, fun t => (h.mem_iff t).trans (hsame t)⟩

section Distinct

theorem mem_putText {s t : String} {items : List String} :
    t ∈ putText s items ↔ t = s ∨ t ∈ items := by
  induction items with
  | nil => simp [putText]
  | cons item rest ih =>
    rw [putText]
    split
    · simp
    · split
      · next heq => simp [heq]
      · simp only [List.mem_cons, ih]
        exact or_left_comm

theorem mem_sortedDistinct {t : String} {items : List String} :
    t ∈ sortedDistinct items ↔ t ∈ items := by
  induction items with
  | nil => rfl
  | cons item rest ih =>
    rw [sortedDistinct, List.foldr_cons, mem_putText, List.mem_cons, ← ih]
    rfl

theorem putText_ascending {s : String} {items : List String} (h : items.Pairwise (· < ·)) :
    (putText s items).Pairwise (· < ·) := by
  induction items with
  | nil => exact List.pairwise_singleton ..
  | cons item rest ih =>
    obtain ⟨hfirst, hrest⟩ := List.pairwise_cons.mp h
    rw [putText]
    split
    next hlt =>
      refine List.pairwise_cons.mpr ⟨fun t ht => ?_, h⟩
      obtain rfl | ht := List.mem_cons.mp ht
      · exact hlt
      · exact String.lt_trans hlt (hfirst t ht)
    next hge =>
    split
    next => exact h
    next hne =>
      refine List.pairwise_cons.mpr ⟨fun t ht => ?_, ih hrest⟩
      obtain rfl | ht := mem_putText.mp ht
      · exact (Std.lt_trichotomy t item).resolve_left hge |>.resolve_left hne
      · exact hfirst t ht

theorem sortedDistinct_ascending (items : List String) :
    (sortedDistinct items).Pairwise (· < ·) := by
  induction items with
  | nil => exact .nil
  | cons item rest ih => exact putText_ascending ih

end Distinct

section ByKey

variable {key : α → String}

theorem putByKey_eq_orderedInsert (key : α → String) (a : α) (items : List α) :
    putByKey key a items = items.orderedInsert (key · ≤ key ·) a := by
  induction items with
  | nil => rfl
  | cons b rest ih =>
    rw [putByKey, List.orderedInsert_cons, ih]
    by_cases h : key b < key a
    · rw [if_pos h, if_neg (String.not_le.mpr h)]
    · rw [if_neg h, if_pos (String.not_lt.mp h)]

theorem sortByKey_eq_insertionSort (key : α → String) (items : List α) :
    sortByKey key items = items.insertionSort (key · ≤ key ·) := by
  rw [sortByKey, List.insertionSort, funext₂ (putByKey_eq_orderedInsert key)]

theorem sortByKey_perm (key : α → String) (items : List α) :
    (sortByKey key items).Perm items := by
  rw [sortByKey_eq_insertionSort]
  exact List.perm_insertionSort _ items

theorem mem_sortByKey {a : α} {items : List α} : a ∈ sortByKey key items ↔ a ∈ items :=
  (sortByKey_perm key items).mem_iff

theorem sortByKey_sorted (items : List α) :
    (sortByKey key items).Pairwise (key · ≤ key ·) := by
  have : Std.Total fun a b => key a ≤ key b := ⟨fun a b => String.le_total (key a) (key b)⟩
  have : IsTrans α fun a b => key a ≤ key b := ⟨fun _ _ _ => String.le_trans⟩
  rw [sortByKey_eq_insertionSort]
  exact List.pairwise_insertionSort _ items

/-- Different keys ascend strictly. -/
theorem sortByKey_ascending {items : List α} (h : (items.map key).Nodup) :
    ((sortByKey key items).map key).Pairwise (· < ·) := by
  have hnodup : ((sortByKey key items).map key).Nodup :=
    ((sortByKey_perm key items).map key).nodup_iff.mpr h
  refine ((List.pairwise_map.mpr (sortByKey_sorted items)).and hnodup).imp fun {a b} ⟨hle, hne⟩ => ?_
  exact (Std.lt_trichotomy a b).resolve_right (not_or.mpr ⟨hne, String.not_lt.mpr hle⟩)

end ByKey

section FirstCut

variable {α : Type*} [BEq α] [LawfulBEq α] {a : α} {s t u v : List α}

theorem takeWhile_bne_of_not_mem (h : a ∉ s) : s.takeWhile (· != a) = s :=
  List.takeWhile_eq_self_iff.mpr fun _ hb => bne_iff_ne.mpr (ne_of_mem_of_not_mem hb h)

theorem takeWhile_bne_append_cons (h : a ∉ s) : (s ++ a :: t).takeWhile (· != a) = s := by
  rw [List.takeWhile_append_of_pos fun b hb => bne_iff_ne.mpr (ne_of_mem_of_not_mem hb h),
    List.takeWhile_cons_of_neg (by simp), List.append_nil]

theorem dropWhile_bne_append_cons (h : a ∉ s) : (s ++ a :: t).dropWhile (· != a) = a :: t := by
  rw [List.dropWhile_append_of_pos fun b hb => bne_iff_ne.mpr (ne_of_mem_of_not_mem hb h),
    List.dropWhile_cons_of_neg (by simp)]

theorem append_cons_inj (hs : a ∉ s) (hu : a ∉ u) (h : s ++ a :: t = u ++ a :: v) :
    s = u ∧ t = v := by
  obtain rfl : s = u := by
    rw [← takeWhile_bne_append_cons (t := t) hs, h, takeWhile_bne_append_cons hu]
  exact ⟨rfl, (List.cons.inj (List.append_cancel_left h)).2⟩

end FirstCut

end EtlSurvey
