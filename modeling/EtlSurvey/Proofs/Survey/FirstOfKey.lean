import EtlSurvey.Finding.Note

/-! # The first of each key

Where repeated keys are left out, the records that are kept have the keys of the candidates in the
order in which they first come, each of them once. -/

namespace EtlSurvey

theorem nodup_eraseDups {α : Type} [BEq α] [LawfulBEq α] (as : List α) : as.eraseDups.Nodup := by
  match as with
  | [] => exact List.nodup_nil
  | a :: rest =>
    rw [List.eraseDups_cons, List.nodup_cons, List.mem_eraseDups]
    refine ⟨fun h => ?_, nodup_eraseDups _⟩
    simpa using (List.mem_filter.mp h).2
termination_by as.length
decreasing_by
  have := List.length_filter_le (fun b => !b == a) rest
  rw [List.length_cons]
  omega

/-- The key of a candidate that is not left out. -/
def Candidate.key? : Candidate κ α → Option κ
  | .dropped => none
  | .keyed key _ _ => some key

/-- The record shows the key under which it is kept. -/
def Candidate.Shows (keyOf : α → κ) (c : Candidate κ α) : Prop :=
  ∀ key repeated record, c = .keyed key repeated record → keyOf record.value = key

theorem keys_keepFirst [BEq κ] {keyOf : α → κ} {seen : List κ}
    {candidates : List (Noted (Candidate κ α))}
    (h : ∀ c ∈ candidates, c.value.Shows keyOf) :
    (keepFirst seen candidates).value.map keyOf =
      ((candidates.filterMap (·.value.key?)).filter (!seen.contains ·)).eraseDups := by
  induction candidates generalizing seen with
  | nil => rfl
  | cons c rest ih =>
    obtain ⟨hc, hrest⟩ := List.forall_mem_cons.mp h
    rw [keepFirst, Noted.value_bind]
    split
    · next hvalue =>
      rw [List.filterMap_cons_none (by rw [hvalue]; rfl)]
      exact ih hrest
    · next key repeated record hvalue =>
      rw [List.filterMap_cons_some (b := key) (by rw [hvalue]; rfl), List.filter_cons]
      cases hseen : seen.contains key with
      | true => exact ih hrest
      | false =>
        simp only [Bool.not_false, Bool.false_eq_true, if_false, if_true]
        rw [Noted.value_bind, Noted.value_bind, Noted.value_pure, List.map_cons,
          hc key repeated record hvalue, ih hrest, List.eraseDups_cons, List.filter_filter]
        refine congrArg (fun keys => key :: List.eraseDups keys) (List.filter_congr fun k _ => ?_)
        rw [List.contains_cons, Bool.not_or]

/-- Where nothing has been seen before, all keys are kept. -/
theorem keys_keepFirst_nil [BEq κ] {keyOf : α → κ} {candidates : List (Noted (Candidate κ α))}
    (h : ∀ c ∈ candidates, c.value.Shows keyOf) :
    (keepFirst [] candidates).value.map keyOf =
      (candidates.filterMap (·.value.key?)).eraseDups := by
  rw [keys_keepFirst h]
  exact congrArg List.eraseDups (List.filter_eq_self.mpr fun _ _ => rfl)

theorem nodup_keys_keepFirst {κ α : Type} [BEq κ] [LawfulBEq κ] {keyOf : α → κ} {seen : List κ}
    {candidates : List (Noted (Candidate κ α))} (h : ∀ c ∈ candidates, c.value.Shows keyOf) :
    ((keepFirst seen candidates).value.map keyOf).Nodup := by
  rw [keys_keepFirst h]
  exact nodup_eraseDups _

theorem find?_key_cons [DecidableEq κ] (keyOf : σ → κ) (item : σ) (rest : List σ) (key : κ) :
    (item :: rest).find? (keyOf · == key) =
      if keyOf item = key then some item else rest.find? (keyOf · == key) := by
  rw [List.find?_cons]
  by_cases h : keyOf item = key
  · rw [if_pos h, h, beq_self_eq_true]
  · rw [if_neg h, beq_eq_false_iff_ne.mpr h]

section Kept

variable {κ α σ : Type} [BEq κ] [LawfulBEq κ] {candidate : σ → Noted (Candidate κ α)}
  {seen : List κ} {item s : σ} {rest : List σ} {record : Noted α}

def hasKey (candidate : σ → Noted (Candidate κ α)) (key : κ) (s : σ) : Bool :=
  (candidate s).value.key? == some key

/-- The item is the first of its key, and the key has not been seen. So its record is kept. -/
def IsKept (candidate : σ → Noted (Candidate κ α)) (seen : List κ) (items : List σ) (s : σ)
    (record : Noted α) : Prop :=
  ∃ key repeated, (candidate s).value = .keyed key repeated record ∧ key ∉ seen ∧
    items.find? (hasKey candidate key) = some s

theorem isKept_cons_of_passed (h : ∀ key, (candidate item).value.key? = some key → key ∈ seen) :
    IsKept candidate seen (item :: rest) s record ↔ IsKept candidate seen rest s record := by
  refine exists_congr fun key => exists_congr fun repeated => and_congr_right fun _ =>
    and_congr_right fun hnew => ?_
  rw [List.find?_cons_of_neg]
  exact fun hkey => hnew (h key (beq_iff_eq.mp hkey))

theorem isKept_cons_of_new {key : κ} {repeated : Note} {first : Noted α}
    (h : (candidate item).value = .keyed key repeated first) (hnew : key ∉ seen) :
    IsKept candidate seen (item :: rest) s record ↔
      (s = item ∧ record = first) ∨ IsKept candidate (key :: seen) rest s record := by
  have hitem : ∀ other, hasKey candidate other item = true ↔ key = other := by
    intro other
    rw [hasKey, h, beq_iff_eq]
    exact Option.some_inj
  constructor
  · rintro ⟨other, repeated', hvalue, hother, hfirst⟩
    by_cases hkey : key = other
    · rw [List.find?_cons_of_pos ((hitem other).mpr hkey)] at hfirst
      obtain rfl := Option.some.inj hfirst
      exact .inl ⟨rfl, (Candidate.keyed.inj (hvalue.symm.trans h)).2.2⟩
    · rw [List.find?_cons_of_neg (mt (hitem other).mp hkey)] at hfirst
      refine .inr ⟨other, repeated', hvalue, fun hmem => ?_, hfirst⟩
      exact (List.mem_cons.mp hmem).elim (fun heq => hkey heq.symm) hother
  · rintro (⟨rfl, rfl⟩ | ⟨other, repeated', hvalue, hother, hfirst⟩)
    · exact ⟨key, repeated, h, hnew, List.find?_cons_of_pos ((hitem key).mpr rfl)⟩
    · obtain ⟨hkey, hother⟩ := not_or.mp (mt List.mem_cons.mpr hother)
      refine ⟨other, repeated', hvalue, hother, ?_⟩
      rw [List.find?_cons_of_neg (mt (hitem other).mp (Ne.symm hkey)), hfirst]

/-- Of the records that are kept, the new one or one of those behind it has a property. -/
theorem exists_isKept_cons_of_new {p : Noted α → Prop} {key : κ} {repeated : Note}
    {first : Noted α} (h : (candidate item).value = .keyed key repeated first)
    (hnew : key ∉ seen) :
    (∃ s record, IsKept candidate seen (item :: rest) s record ∧ p record) ↔
      p first ∨ ∃ s record, IsKept candidate (key :: seen) rest s record ∧ p record := by
  simp only [isKept_cons_of_new h hnew, or_and_right, exists_or]
  refine or_congr_left ⟨?_, fun hfirst => ⟨item, first, ⟨rfl, rfl⟩, hfirst⟩⟩
  rintro ⟨_, _, ⟨rfl, rfl⟩, hfirst⟩
  exact hfirst

/-- What happens at an item: the run goes on behind it as if it were not there, but for a note, or
its record is kept and its key has been seen from there on. -/
theorem keepFirst_cons (seen : List κ) (item : σ) (rest : List σ)
    (candidate : σ → Noted (Candidate κ α)) :
    ((∀ key, (candidate item).value.key? = some key → key ∈ seen) ∧ ∃ notes : List Note,
      keepFirst seen ((item :: rest).map candidate) =
        ⟨(keepFirst seen (rest.map candidate)).value, (candidate item).remarks ++
          (notes.map Remark.note ++ (keepFirst seen (rest.map candidate)).remarks)⟩) ∨
    ∃ key repeated record, (candidate item).value = .keyed key repeated record ∧ key ∉ seen ∧
      keepFirst seen ((item :: rest).map candidate) =
        ⟨record.value :: (keepFirst (key :: seen) (rest.map candidate)).value,
          (candidate item).remarks ++
            (record.remarks ++ (keepFirst (key :: seen) (rest.map candidate)).remarks)⟩ := by
  cases hvalue : (candidate item).value with
  | dropped =>
    refine .inl ⟨fun key h => ?_, [], Noted.ext ?_ ?_⟩
    · cases h
    all_goals simp only [List.map_cons, keepFirst, Noted.value_bind, Noted.remarks_bind, hvalue,
      List.map_nil, List.nil_append]
  | keyed key repeated record =>
    by_cases hseen : key ∈ seen
    · refine .inl ⟨fun key' h => Option.some.inj h ▸ hseen, [repeated], Noted.ext ?_ ?_⟩
      all_goals simp only [List.map_cons, keepFirst, Noted.value_bind, Noted.remarks_bind, hvalue,
        List.contains_iff_mem.mpr hseen, if_true, Noted.remarks_note, List.map_nil]
    · refine .inr ⟨key, repeated, record, rfl, hseen, Noted.ext ?_ ?_⟩
      all_goals simp only [List.map_cons, keepFirst, Noted.value_bind, Noted.remarks_bind, hvalue,
        List.contains_iff_mem, hseen, if_false, Noted.value_pure, Noted.remarks_pure,
        List.append_nil]

/-- The records of a run are those of the items that are the first of their keys. -/
theorem mem_value_keepFirst {items : List σ} {a : α} :
    a ∈ (keepFirst seen (items.map candidate)).value ↔
      ∃ s record, IsKept candidate seen items s record ∧ record.value = a := by
  induction items generalizing seen with
  | nil =>
    refine iff_of_false List.not_mem_nil ?_
    rintro ⟨s, record, ⟨_, _, _, _, h⟩, -⟩
    cases h
  | cons item rest ih =>
    obtain ⟨hpassed, notes, hrun⟩ | ⟨key, repeated, record, hvalue, hnew, hrun⟩ :=
      keepFirst_cons seen item rest candidate
    · rw [hrun, ih]
      simp only [isKept_cons_of_passed hpassed]
    · rw [hrun, List.mem_cons, ih, exists_isKept_cons_of_new hvalue hnew, eq_comm]

end Kept

/-- Where no candidate is dropped, the records that are kept are those of the items that are the
first of their keys. -/
theorem mem_keepFirst_pure {κ α σ : Type} [DecidableEq κ] {keyOf : σ → κ} {repeated : σ → Note}
    {record : σ → α} {seen : List κ} {items : List σ} {a : α} :
    a ∈ (keepFirst seen (items.map fun s =>
        pure (.keyed (keyOf s) (repeated s) (pure (record s))))).value ↔
      ∃ s, keyOf s ∉ seen ∧ items.find? (keyOf · == keyOf s) = some s ∧ record s = a := by
  rw [mem_value_keepFirst]
  constructor
  · rintro ⟨s, _, ⟨key, _, hvalue, hnew, hfirst⟩, rfl⟩
    obtain ⟨rfl, -, rfl⟩ := Candidate.keyed.inj hvalue
    exact ⟨s, hnew, hfirst, rfl⟩
  · rintro ⟨s, hnew, hfirst, rfl⟩
    exact ⟨s, pure (record s), ⟨keyOf s, repeated s, rfl, hnew, hfirst⟩, rfl⟩

/-- The items that are the first of their keys, in order. -/
structure FirstOfEach {κ α : Type} [DecidableEq κ] (keyOf : α → κ) (items firsts : List α) :
    Prop where
  sublist : firsts.Sublist items
  nodup : (firsts.map keyOf).Nodup
  mem_iff : ∀ a, a ∈ firsts ↔ items.find? (keyOf · == keyOf a) = some a

theorem firstOfEach_eraseDupsBy {κ α : Type} [DecidableEq κ] (keyOf : α → κ) (items : List α) :
    FirstOfEach keyOf items (items.eraseDupsBy fun a b => keyOf a == keyOf b) := by
  match items with
  | [] => exact ⟨.slnil, List.nodup_nil, fun a => by simp⟩
  | item :: rest =>
    have ih := firstOfEach_eraseDupsBy keyOf (rest.filter fun b => (keyOf b == keyOf item) = false)
    have hother : ∀ a ∈ (rest.filter fun b => (keyOf b == keyOf item) = false).eraseDupsBy
        fun a b => keyOf a == keyOf b, keyOf a ≠ keyOf item := by
      intro a ha
      simpa using (List.mem_filter.mp (ih.sublist.subset ha)).2
    rw [List.eraseDupsBy_cons]
    refine ⟨(ih.sublist.trans List.filter_sublist).cons_cons item, ?nodup, fun a => ?mem⟩
    case nodup =>
      rw [List.map_cons, List.nodup_cons]
      refine ⟨fun hmem => ?_, ih.nodup⟩
      obtain ⟨a, ha, hkey⟩ := List.mem_map.mp hmem
      exact hother a ha hkey
    case mem =>
      rw [List.mem_cons, find?_key_cons]
      split
      next hkey =>
        refine ⟨fun h => ?_, fun h => .inl (Option.some.inj h).symm⟩
        obtain rfl | ha := h
        · rfl
        · exact absurd hkey.symm (hother a ha)
      next hkey =>
        have hne : ¬ a = item := fun heq => hkey (congrArg keyOf heq).symm
        rw [or_iff_right hne, ih.mem_iff, List.find?_filter]
        -- what has the key of this item has not that of the first one
        have hsame : ∀ b, ((keyOf b == keyOf item) = false ∧ (keyOf b == keyOf a) = true) ↔
            (keyOf b == keyOf a) = true := by
          intro b
          refine and_iff_right_of_imp fun hb => ?_
          rw [beq_iff_eq] at hb
          rw [beq_eq_false_iff_ne, hb]
          exact Ne.symm hkey
        simp only [hsame, decide_eq_true_eq, Bool.decide_eq_true]
termination_by items.length
decreasing_by
  have := List.length_filter_le (fun b => decide ((keyOf b == keyOf item) = false)) rest
  rw [List.length_cons]
  omega

end EtlSurvey
