import EtlSurvey.Survey.Pipeline

/-! # Which component an end of a path belongs to

The search for an end takes one of the longest ids that are followed by a dot at its start. Two
such ids of one length are the same, so that the order of the ids does not matter, and the search
decides the relation below. -/

namespace EtlSurvey

/-- The id is followed by a dot at the start of the end. -/
def LeadsTo (id pathEnd : String) : Prop := (id ++ ".").toList <+: pathEnd.toList

/-- The end is the id, or it is none of the ids, and this one is the longest of those that lead
to it. -/
def BelongsTo (ids : List String) (pathEnd id : String) : Prop :=
  id ∈ ids ∧ (pathEnd = id ∨ pathEnd ∉ ids ∧ LeadsTo id pathEnd ∧
    ∀ other ∈ ids, LeadsTo other pathEnd → other.length ≤ id.length)

theorem LeadsTo.eq_of_length_eq {id other pathEnd : String} (h : LeadsTo id pathEnd)
    (hother : LeadsTo other pathEnd) (hlength : id.length = other.length) : id = other := by
  have hle : (id ++ ".").toList.length ≤ (other ++ ".").toList.length := by
    simp only [String.length_toList, String.length_append]
    omega
  have heq := (List.prefix_of_prefix_length_le h hother hle).eq_of_length (by
    simp only [String.length_toList, String.length_append]
    omega)
  rw [String.toList_append, String.toList_append] at heq
  exact String.toList_injective (List.append_cancel_right heq)

section Picking

variable {α : Type} {size : α → Nat} {pick : Option α → α → Option α}

/-- Going through items one by one, the one so far gives way to none that is smaller, and stays
before none that is larger. -/
structure Picks (size : α → Nat) (pick : Option α → α → Option α) : Prop where
  first : ∀ a, pick none a = some a
  next : ∀ best a, pick (some best) a = some best ∧ size a ≤ size best ∨
    pick (some best) a = some a ∧ size best ≤ size a

theorem Picks.foldl_some (h : Picks size pick) (items : List α) (best : α) :
    ∃ s ∈ best :: items, items.foldl pick (some best) = some s ∧
      ∀ t ∈ best :: items, size t ≤ size s := by
  induction items generalizing best with
  | nil => exact ⟨best, List.mem_cons_self, rfl, by simp⟩
  | cons t rest ih =>
    obtain ⟨hstays, hle⟩ | ⟨hgives, hle⟩ := h.next best t
    · obtain ⟨s, hs, hfold, hmax⟩ := ih best
      obtain ⟨hbest, hrest⟩ := List.forall_mem_cons.mp hmax
      refine ⟨s, ?_, by rw [List.foldl_cons, hstays, hfold], ?_⟩
      · obtain rfl | hs := List.mem_cons.mp hs
        · exact List.mem_cons_self
        · exact .tail _ (.tail _ hs)
      · rw [List.forall_mem_cons, List.forall_mem_cons]
        exact ⟨hbest, Nat.le_trans hle hbest, hrest⟩
    · obtain ⟨s, hs, hfold, hmax⟩ := ih t
      refine ⟨s, .tail _ hs, by rw [List.foldl_cons, hgives, hfold], ?_⟩
      rw [List.forall_mem_cons]
      exact ⟨Nat.le_trans hle (hmax t List.mem_cons_self), hmax⟩

theorem Picks.eq_nil {items : List α} (h : Picks size pick) (hnone : items.foldl pick none = none) :
    items = [] := by
  cases items with
  | nil => rfl
  | cons t rest =>
    rw [List.foldl_cons, h.first] at hnone
    obtain ⟨s, -, hsome, -⟩ := h.foldl_some rest t
    cases hnone.symm.trans hsome

/-- What is picked is one of the largest. -/
theorem Picks.largest {items : List α} {s : α} (h : Picks size pick)
    (hsome : items.foldl pick none = some s) : s ∈ items ∧ ∀ t ∈ items, size t ≤ size s := by
  cases items with
  | nil => cases hsome
  | cons t rest =>
    rw [List.foldl_cons, h.first] at hsome
    obtain ⟨s', hs, hpicked, hmax⟩ := h.foldl_some rest t
    obtain rfl : s' = s := Option.some.inj (hpicked.symm.trans hsome)
    exact ⟨hs, hmax⟩

theorem picks_longer : Picks String.length longer where
  first _ := rfl
  next best a := by
    rw [longer]
    split
    · next hlonger => exact .inr ⟨rfl, Nat.le_of_lt hlonger⟩
    · next hshorter => exact .inl ⟨rfl, Nat.le_of_not_lt hshorter⟩

end Picking

theorem mem_leading {ids : List String} {pathEnd id : String} :
    id ∈ ids.filter (fun id => (id ++ ".").toList.isPrefixOf pathEnd.toList) ↔
      id ∈ ids ∧ LeadsTo id pathEnd := by
  rw [List.mem_filter, List.isPrefixOf_iff_prefix, LeadsTo]

theorem resolveEnd_eq_some_iff {ids : List String} {pathEnd id : String} :
    resolveEnd ids pathEnd = some id ↔ BelongsTo ids pathEnd id := by
  rw [resolveEnd]
  by_cases hself : pathEnd ∈ ids
  · rw [if_pos (List.contains_iff_mem.mpr hself), Option.some_inj]
    constructor
    · rintro rfl
      exact ⟨hself, .inl rfl⟩
    · rintro ⟨-, heq | ⟨hother, -⟩⟩
      · exact heq
      · exact absurd hself hother
  rw [if_neg (by simpa using hself)]
  constructor
  · intro hfound
    obtain ⟨hmem, hmax⟩ := picks_longer.largest hfound
    obtain ⟨hid, hleads⟩ := mem_leading.mp hmem
    refine ⟨hid, .inr ⟨hself, hleads, fun other hother hlead => ?_⟩⟩
    exact hmax other (mem_leading.mpr ⟨hother, hlead⟩)
  · rintro ⟨hid, rfl | ⟨-, hleads, hmax⟩⟩
    · exact absurd hid hself
    have hmem := mem_leading.mpr ⟨hid, hleads⟩
    cases hfound : (ids.filter fun id =>
        (id ++ ".").toList.isPrefixOf pathEnd.toList).foldl longer none with
    | none =>
      rw [picks_longer.eq_nil hfound] at hmem
      cases hmem
    | some s =>
      -- What is found and the given id lead to the end, and neither is longer than the other.
      obtain ⟨hs, hlongest⟩ := picks_longer.largest hfound
      obtain ⟨hsids, hsleads⟩ := mem_leading.mp hs
      have hle := hmax s hsids hsleads
      have hge := hlongest id hmem
      rw [hsleads.eq_of_length_eq hleads (by omega)]

theorem resolveEnd_eq_none_iff {ids : List String} {pathEnd : String} :
    resolveEnd ids pathEnd = none ↔ ∀ id, ¬ BelongsTo ids pathEnd id := by
  rw [Option.eq_none_iff_forall_ne_some]
  exact forall_congr' fun id => not_congr resolveEnd_eq_some_iff

end EtlSurvey
