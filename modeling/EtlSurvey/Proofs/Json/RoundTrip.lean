import EtlSurvey.Proofs.Json.Scalar

/-! # A printed value is read back, whatever its layout

The induction is on the value. Its step knows nothing of the text that follows but that no number
goes on in it, and reads with any fuel of at least twice the length of the printed text: each
character is reached through at most two calls. -/

namespace EtlSurvey.Json

/-- Values that their text determines: each key and each string is a text, each number an
integer. -/
inductive Value.Faithful : Value → Prop where
  | null : Faithful .null
  | bool (b : Bool) : Faithful (.bool b)
  | int (n : Int) : Faithful (.int n)
  | text (s : String) : Faithful (.text s)
  | list {items : List Value} (h : ∀ v ∈ items, Faithful v) : Faithful (.list items)
  | object {members : List (Option String × Value)} (keyed : ∀ m ∈ members, m.1.isSome = true)
      (h : ∀ m ∈ members, Faithful m.2) : Faithful (.object members)

namespace Reader

theorem value_digit (fuel : Nat) {c : Char} (s : List Char) (hc : c.isDigit = true) :
    value? (fuel + 1) (c :: s) = number? false (c :: s) := by
  unfold value?
  split
  case h_8 => rfl
  all_goals
    next h =>
      obtain ⟨rfl, -⟩ := List.cons.inj h
      exact absurd hc (by decide)

theorem value_renderInt (fuel : Nat) (n : Int) {rest : List Char} (hr : Ends rest) :
    value? (fuel + 1) (renderInt n ++ rest) = some (.int n, rest) := by
  cases n with
  | ofNat n =>
    have hread := number_toDigits false n hr (by simp)
    obtain ⟨c, text, hc⟩ := List.exists_cons_of_ne_nil (Nat.toDigits_ne_nil (n := n) (b := 10))
    have hdigit : c.isDigit = true :=
      Nat.isDigit_of_mem_toDigits (b := 10) (n := n) (by decide) (by decide) (by simp [hc])
    simp only [renderInt]
    rw [hc, List.cons_append] at hread ⊢
    rw [value_digit fuel _ hdigit, hread]
    rfl
  | negSucc n =>
    have hread := number_toDigits true (n + 1) hr (by simp)
    simp only [renderInt, List.cons_append, value?]
    rw [hread]
    rfl

/-! ## What printed text begins with -/

/-- A character that starts a value: neither a blank nor the end of a list. -/
def Starts (c : Char) : Prop := isSpace c = false ∧ c ≠ ']'

theorem of_isSpace {c : Char} (h : isSpace c = true) :
    c = ' ' ∨ c = '\t' ∨ c = '\n' ∨ c = '\r' := by
  simpa [isSpace, or_assoc] using h

theorem starts_digit {c : Char} (h : c.isDigit = true) : Starts c := by
  refine ⟨?_, ?_⟩
  · cases hs : isSpace c with
    | false => rfl
    | true => rcases of_isSpace hs with rfl | rfl | rfl | rfl <;> exact absurd h (by decide)
  · rintro rfl
    exact absurd h (by decide)

theorem layOut_starts (l : Layout) (depth : Nat) {v : Value} (h : v.Faithful) :
    ∃ c text, v.layOut l depth = c :: text ∧ Starts c := by
  have other : ∀ (c : Char) (text : List Char), isSpace c = false → c ≠ ']' →
      ∃ c' text', c :: text = c' :: text' ∧ Starts c' :=
    fun c text hs hb => ⟨c, text, rfl, hs, hb⟩
  cases h with
  | null => exact other 'n' _ rfl (by decide)
  | bool b => cases b <;> exact other _ _ (by decide) (by decide)
  | text s => exact other '"' _ rfl (by decide)
  | list h =>
    rename_i items
    cases items <;> exact other '[' _ rfl (by decide)
  | object keyed h =>
    rename_i members
    cases members <;> exact other '\x7b' _ rfl (by decide)
  | int n =>
    cases n with
    | negSucc n => exact other '-' _ rfl (by decide)
    | ofNat n =>
      obtain ⟨c, text, hc⟩ := List.exists_cons_of_ne_nil (Nat.toDigits_ne_nil (n := n) (b := 10))
      exact ⟨c, text, hc, starts_digit (Nat.isDigit_of_mem_toDigits (b := 10) (n := n)
        (by decide) (by decide) (by simp [hc]))⟩

theorem ends_space {c : Char} {rest : List Char} (h : isSpace c = true) : Ends (c :: rest) := by
  apply ends_cons
  rcases of_isSpace h with rfl | rfl | rfl | rfl <;> decide

theorem ends_lead (l : Layout) (depth : Nat) {c : Char} {rest : List Char}
    (h : c.isDigit = false ∧ c ≠ '.' ∧ c ≠ 'e' ∧ c ≠ 'E') : Ends (l.lead depth ++ c :: rest) := by
  cases hl : l.lead depth with
  | nil => exact ends_cons h
  | cons b blanks => exact ends_space (l.lead_blank depth b (by simp [hl]))

theorem ends_layOutItems (l : Layout) (depth : Nat) (items : List Value) (rest : List Char) :
    Ends (layOutItems l depth items ++ rest) := by
  cases items with
  | nil =>
    simp only [layOutItems, List.append_assoc, List.cons_append, List.nil_append]
    exact ends_lead l depth (by decide)
  | cons item items => exact ends_cons (by decide)

theorem ends_layOutMembers (l : Layout) (depth : Nat) (members : List (Option String × Value))
    (rest : List Char) : Ends (layOutMembers l depth members ++ rest) := by
  cases members with
  | nil =>
    simp only [layOutMembers, List.append_assoc, List.cons_append, List.nil_append]
    exact ends_lead l depth (by decide)
  | cons member members =>
    obtain ⟨key, v⟩ := member
    exact ends_cons (by decide)

/-- A key starts with its quote, so blanks in front of it end there. -/
theorem skipSpace_renderKey (key : Option String) (rest : List Char) :
    skipSpace (renderKey key ++ rest) = renderKey key ++ rest := by
  rw [renderKey, renderText_append, skipSpace_cons rfl]

/-! ## The induction -/

/-- The value is read back in front of anything that does not go on with a number. -/
def ReadsBack (l : Layout) (v : Value) : Prop :=
  ∀ depth fuel rest, Ends rest → 2 * (v.layOut l depth).length ≤ fuel →
    value? fuel (v.layOut l depth ++ rest) = some (v, rest)

theorem items_layOutItems (l : Layout) (depth : Nat) {items : List Value}
    (faithful : ∀ v ∈ items, v.Faithful) (ih : ∀ v ∈ items, ReadsBack l v)
    (fuel : Nat) (rest : List Char) (hf : 2 * (layOutItems l depth items).length ≤ fuel) :
    items? fuel (skipSpace (layOutItems l depth items ++ rest)) = some (items, rest) := by
  induction items generalizing fuel with
  | nil =>
    obtain ⟨fuel, rfl⟩ : ∃ n, fuel = n + 1 := ⟨fuel - 1, by simp [layOutItems] at hf; omega⟩
    simp only [layOutItems, List.append_assoc]
    rw [skipSpace_append (l.lead_blank depth)]
    rfl
  | cons item items ihItems =>
    obtain ⟨faithful, faithfuls⟩ := List.forall_mem_cons.mp faithful
    obtain ⟨ih, ihs⟩ := List.forall_mem_cons.mp ih
    obtain ⟨c, text, hc, hs, -⟩ := layOut_starts l (depth + 1) faithful
    simp only [layOutItems, List.length_cons, List.length_append] at hf
    obtain ⟨fuel, rfl⟩ : ∃ n, fuel = n + 1 := ⟨fuel - 1, by omega⟩
    have hitem := ih (depth + 1) fuel (layOutItems l depth items ++ rest)
      (ends_layOutItems l depth items rest) (by omega)
    have hitems := ihItems faithfuls ihs fuel (by omega)
    simp only [layOutItems, List.cons_append, List.append_assoc]
    rw [skipSpace_cons rfl]
    simp only [items?]
    rw [skipSpace_append (l.lead_blank (depth + 1)), hc, List.cons_append, skipSpace_cons hs,
      ← List.cons_append, ← hc, hitem]
    simp only [Option.bind_eq_bind, Option.bind_some]
    rw [hitems]
    rfl

theorem member_layOut (l : Layout) (depth : Nat) (key : String) {v : Value}
    (faithful : v.Faithful) (ih : ReadsBack l v) (fuel : Nat) {rest : List Char} (hr : Ends rest)
    (hf : 2 * (v.layOut l depth).length < fuel) :
    member? fuel (renderKey (some key) ++ ':' :: (l.gap ++ (v.layOut l depth ++ rest))) =
      some ((some key, v), rest) := by
  obtain ⟨fuel, rfl⟩ : ∃ n, fuel = n + 1 := ⟨fuel - 1, by omega⟩
  obtain ⟨c, text, hc, hs, -⟩ := layOut_starts l depth faithful
  have hv := ih depth fuel rest hr (by omega)
  simp only [renderKey, Option.getD_some]
  rw [renderText_append]
  simp only [member?]
  rw [string_escaped]
  simp only [Option.bind_eq_bind, Option.bind_some]
  rw [skipSpace_cons rfl]
  simp only []
  rw [skipSpace_append l.gap_blank, hc, List.cons_append, skipSpace_cons hs, ← List.cons_append,
    ← hc, hv]
  rfl

theorem members_layOutMembers (l : Layout) (depth : Nat)
    {members : List (Option String × Value)} (keyed : ∀ m ∈ members, m.1.isSome = true)
    (faithful : ∀ m ∈ members, m.2.Faithful) (ih : ∀ m ∈ members, ReadsBack l m.2)
    (fuel : Nat) (rest : List Char) (hf : 2 * (layOutMembers l depth members).length ≤ fuel) :
    members? fuel (skipSpace (layOutMembers l depth members ++ rest)) = some (members, rest) := by
  induction members generalizing fuel with
  | nil =>
    obtain ⟨fuel, rfl⟩ : ∃ n, fuel = n + 1 := ⟨fuel - 1, by simp [layOutMembers] at hf; omega⟩
    simp only [layOutMembers, List.append_assoc]
    rw [skipSpace_append (l.lead_blank depth)]
    rfl
  | cons member members ihMembers =>
    obtain ⟨key, v⟩ := member
    obtain ⟨hkey, keyeds⟩ := List.forall_mem_cons.mp keyed
    obtain ⟨key, rfl⟩ := Option.isSome_iff_exists.mp hkey
    obtain ⟨faithful, faithfuls⟩ := List.forall_mem_cons.mp faithful
    obtain ⟨ih, ihs⟩ := List.forall_mem_cons.mp ih
    simp only [layOutMembers, List.length_cons, List.length_append] at hf
    obtain ⟨fuel, rfl⟩ : ∃ n, fuel = n + 1 := ⟨fuel - 1, by omega⟩
    have hmember := member_layOut l (depth + 1) key (v := v) faithful ih fuel
      (ends_layOutMembers l depth members rest) (by omega)
    have hmembers := ihMembers keyeds faithfuls ihs fuel (by omega)
    simp only [layOutMembers, List.cons_append, List.append_assoc]
    rw [skipSpace_cons rfl]
    simp only [members?]
    rw [skipSpace_append (l.lead_blank (depth + 1)), skipSpace_renderKey, hmember]
    simp only [Option.bind_eq_bind, Option.bind_some]
    rw [hmembers]
    rfl

theorem readsBack_list (l : Layout) {items : List Value} (faithful : ∀ v ∈ items, v.Faithful)
    (ih : ∀ v ∈ items, ReadsBack l v) : ReadsBack l (.list items) := by
  intro depth fuel rest _ hf
  cases items with
  | nil =>
    obtain ⟨fuel, rfl⟩ : ∃ n, fuel = n + 1 := ⟨fuel - 1, by simp [Value.layOut] at hf; omega⟩
    rfl
  | cons item items =>
    obtain ⟨faithful, faithfuls⟩ := List.forall_mem_cons.mp faithful
    obtain ⟨ih, ihs⟩ := List.forall_mem_cons.mp ih
    obtain ⟨c, text, hc, hs, hend⟩ := layOut_starts l (depth + 1) faithful
    simp only [Value.layOut, List.length_cons, List.length_append] at hf
    obtain ⟨fuel, rfl⟩ : ∃ n, fuel = n + 1 := ⟨fuel - 1, by omega⟩
    have hitem := ih (depth + 1) fuel (layOutItems l depth items ++ rest)
      (ends_layOutItems l depth items rest) (by omega)
    have hitems := items_layOutItems l depth faithfuls ihs fuel rest (by omega)
    simp only [Value.layOut, List.cons_append, List.append_assoc, value?]
    rw [skipSpace_append (l.lead_blank (depth + 1)), hc, List.cons_append, skipSpace_cons hs]
    split
    · next h => exact absurd (List.cons.inj h).1 hend
    · rw [← List.cons_append, ← hc, hitem]
      simp only [Option.bind_eq_bind, Option.bind_some]
      rw [hitems]
      rfl

theorem readsBack_object (l : Layout) {members : List (Option String × Value)}
    (keyed : ∀ m ∈ members, m.1.isSome = true) (faithful : ∀ m ∈ members, m.2.Faithful)
    (ih : ∀ m ∈ members, ReadsBack l m.2) : ReadsBack l (.object members) := by
  intro depth fuel rest _ hf
  cases members with
  | nil =>
    obtain ⟨fuel, rfl⟩ : ∃ n, fuel = n + 1 := ⟨fuel - 1, by simp [Value.layOut] at hf; omega⟩
    rfl
  | cons member members =>
    obtain ⟨key, v⟩ := member
    obtain ⟨hkey, keyeds⟩ := List.forall_mem_cons.mp keyed
    obtain ⟨key, rfl⟩ := Option.isSome_iff_exists.mp hkey
    obtain ⟨faithful, faithfuls⟩ := List.forall_mem_cons.mp faithful
    obtain ⟨ih, ihs⟩ := List.forall_mem_cons.mp ih
    simp only [Value.layOut, List.length_cons, List.length_append] at hf
    obtain ⟨fuel, rfl⟩ : ∃ n, fuel = n + 1 := ⟨fuel - 1, by omega⟩
    have hmember := member_layOut l (depth + 1) key (v := v) faithful ih fuel
      (ends_layOutMembers l depth members rest) (by omega)
    have hmembers := members_layOutMembers l depth keyeds faithfuls ihs fuel rest (by omega)
    simp only [Value.layOut, List.cons_append, List.append_assoc, value?]
    rw [skipSpace_append (l.lead_blank (depth + 1)), skipSpace_renderKey]
    split
    · next h => rw [renderKey, renderText_append] at h; cases h
    · rw [hmember]
      simp only [Option.bind_eq_bind, Option.bind_some]
      rw [hmembers]
      rfl

/-- Every value that its text determines is read back from it. -/
theorem value_layOut (l : Layout) {v : Value} (h : v.Faithful) : ReadsBack l v := by
  induction h with
  | null =>
    intro depth fuel rest _ hf
    obtain ⟨fuel, rfl⟩ : ∃ n, fuel = n + 1 := ⟨fuel - 1, by simp [Value.layOut] at hf; omega⟩
    rfl
  | bool b =>
    intro depth fuel rest _ hf
    obtain ⟨fuel, rfl⟩ : ∃ n, fuel = n + 1 :=
      ⟨fuel - 1, by cases b <;> simp [Value.layOut] at hf <;> omega⟩
    cases b <;> rfl
  | int n =>
    intro depth fuel rest hr hf
    have hpos : 0 < (renderInt n).length := by
      cases n <;> simp [renderInt, Nat.length_toDigits_pos]
    simp only [Value.layOut] at hf ⊢
    obtain ⟨fuel, rfl⟩ : ∃ n, fuel = n + 1 := ⟨fuel - 1, by omega⟩
    exact value_renderInt fuel n hr
  | text s =>
    intro depth fuel rest _ hf
    obtain ⟨fuel, rfl⟩ : ∃ n, fuel = n + 1 :=
      ⟨fuel - 1, by simp [Value.layOut, renderText] at hf; omega⟩
    simp only [Value.layOut, renderText_append, value?, string_escaped]
    rfl
  | list faithful ih => exact readsBack_list l faithful ih
  | object keyed faithful ih => exact readsBack_object l keyed faithful ih

end Reader

/-- A printed value is read back from its whole text. -/
theorem Value.read_printWith (l : Layout) {v : Value} (h : v.Faithful) :
    Value.read? (v.printWith l) = some v := by
  obtain ⟨c, text, hc, hs, -⟩ := Reader.layOut_starts l 0 h
  have hread := Reader.value_layOut l h 0 (2 * (v.layOut l 0).length + 2) [] Reader.ends_nil
    (by omega)
  rw [List.append_nil, hc] at hread
  simp only [Value.read?, Value.printWith, String.toList_ofList]
  rw [hc, Reader.skipSpace_cons hs, hread]
  rfl

end EtlSurvey.Json
