import EtlSurvey.Json.Record
import EtlSurvey.Proofs.Json.RoundTrip
import EtlSurvey.Record.PackageFormat

/-! # Fields of records are read back

A record is written as an object and read by the names of its fields. Each field comes back by what
it was written with: a value, a value or nothing, or a list that is left out when it is empty. So
the forms of records need no induction of their own. -/

namespace EtlSurvey.Json

/-- What is written is read back, from its text too; and it is never mistaken for an absent
value. -/
structure Restores (write : α → Value) (read : Value → Option α) : Prop where
  faithful : ∀ a, (write a).Faithful
  present : ∀ a, write a ≠ .null
  reads : ∀ a, read (write a) = some a

/-! ## Objects -/

/-- What stands in the place of a member that was written like this. -/
def Slot.ofMember : Option Value → Slot
  | some v => .given v
  | none => .absent

theorem mapM_of_forall {f : α → Option β} {g : α → β} {items : List α}
    (h : ∀ a ∈ items, f a = some (g a)) : items.mapM f = some (items.map g) := by
  induction items with
  | nil => rfl
  | cons a items ih =>
    obtain ⟨ha, hitems⟩ := List.forall_mem_cons.mp h
    simp [List.mapM_cons, ha, ih hitems]

/-- The members that a record is written with. -/
def writtenMembers (members : List (String × Option Value)) : List (String × Value) :=
  members.filterMap fun m => m.2.map (m.1, ·)

theorem members_record (members : List (String × Option Value)) :
    (Value.record members).members? = some (writtenMembers members) := by
  have hrecord : Value.record members =
      .object ((writtenMembers members).map fun m => (some m.1, m.2)) := by
    simp [Value.record, writtenMembers, List.map_filterMap, Function.comp_def, Option.map_map]
  rw [hrecord]
  simp only [Value.members?, List.mapM_map]
  rw [mapM_of_forall (g := id) (by simp)]
  simp

theorem writtenMembers_absent {members : List (String × Option Value)} {name : String}
    (h : name ∉ members.map Prod.fst) :
    (writtenMembers members).filter (·.1 == name) = [] := by
  rw [List.filter_eq_nil_iff]
  intro written hw he
  obtain ⟨member, hm, hv⟩ := List.mem_filterMap.mp hw
  obtain ⟨v, _, rfl⟩ := Option.map_eq_some_iff.mp hv
  exact h (List.mem_map.mpr ⟨member, hm, by simpa using he⟩)

theorem slotOfMember_record {members : List (String × Option Value)}
    (hn : (members.map Prod.fst).Nodup) {name : String} {v : Option Value}
    (h : (name, v) ∈ members) :
    slotOfMember (writtenMembers members) name = some (Slot.ofMember v) := by
  have hfilter : (writtenMembers members).filter (·.1 == name) = (v.map (name, ·)).toList := by
    induction members with
    | nil => cases h
    | cons head members ih =>
      obtain ⟨hhead, hnodup⟩ := List.nodup_cons.mp hn
      have hcons : writtenMembers (head :: members) =
          (head.2.map (head.1, ·)).toList ++ writtenMembers members := by
        unfold writtenMembers
        rw [List.filterMap_cons]
        cases head.2 <;> rfl
      rw [hcons, List.filter_append]
      rcases List.mem_cons.mp h with rfl | h
      · rw [writtenMembers_absent hhead]
        cases v <;> simp
      · have hne : head.1 ≠ name := by
          rintro rfl
          exact hhead (List.mem_map.mpr ⟨_, h, rfl⟩)
        rw [ih hnodup h]
        cases head.2 <;> simp [hne]
  unfold slotOfMember
  rw [hfilter]
  cases v <;> rfl

/-- Reading a record by the names it was written with gives its members in order. -/
theorem fields_record {names : List String} {members : List (String × Option Value)}
    (hnames : members.map Prod.fst = names) (hn : names.Nodup) :
    (Value.record members).fields? names = some (members.map fun m => Slot.ofMember m.2) := by
  subst hnames
  have hslots : (members.map Prod.fst).mapM (slotOfMember (writtenMembers members)) =
      some (members.map fun m => Slot.ofMember m.2) := by
    rw [List.mapM_map]
    exact mapM_of_forall fun member hm => slotOfMember_record hn hm
  rw [← hslots, Value.record, Value.fields?, ← Value.record, members_record]
  rfl

/-- The member is left out, or its value is faithful. -/
def FaithfulMember (member : String × Option Value) : Prop := ∀ v ∈ member.2, v.Faithful

@[simp] theorem faithfulMember_some (key : String) (v : Value) :
    FaithfulMember (key, some v) ↔ v.Faithful := by simp [FaithfulMember]

theorem faithful_record {members : List (String × Option Value)}
    (h : ∀ m ∈ members, FaithfulMember m) : (Value.record members).Faithful := by
  refine .object ?_ ?_
  · intro written hw
    obtain ⟨member, _, hv⟩ := List.mem_filterMap.mp hw
    obtain ⟨v, _, rfl⟩ := Option.map_eq_some_iff.mp hv
    rfl
  · intro written hw
    obtain ⟨member, hm, hv⟩ := List.mem_filterMap.mp hw
    obtain ⟨v, hwritten, rfl⟩ := Option.map_eq_some_iff.mp hv
    exact h member hm v hwritten

theorem record_present (members : List (String × Option Value)) :
    Value.record members ≠ .null := nofun

/-! ## Values of fields -/

attribute [simp] Value.Faithful.text Value.Faithful.bool

theorem text_restores : Restores Value.text Value.text? where
  faithful s := .text s
  present _ := nofun
  reads _ := rfl

theorem bool_restores : Restores Value.bool Value.bool? where
  faithful b := .bool b
  present _ := nofun
  reads _ := rfl

section
variable {write : α → Value} {read : Value → Option α} (h : Restores write read)
include h

theorem Restores.list : Restores (fun items => .list (items.map write)) (Value.listOf? read) where
  faithful items := by
    refine .list fun v hv => ?_
    obtain ⟨a, _, rfl⟩ := List.mem_map.mp hv
    exact h.faithful a
  present _ := nofun
  reads items := by
    simp only [Value.listOf?, List.mapM_map]
    exact (mapM_of_forall (g := id) fun a _ => h.reads a).trans (by simp)

theorem Restores.required (a : α) : (Slot.ofMember (some (write a))).required read = some a :=
  h.reads a

theorem Restores.optional (a : Option α) :
    (Slot.ofMember (a.map write)).optional read = some a := by
  cases a with
  | none => rfl
  | some a =>
    have hpresent := h.present a
    simp only [Option.map_some, Slot.ofMember, Slot.optional, Value.nullable?]
    rw [h.reads a]
    rfl

/-- A list that is left out when it is empty, and is empty by default. -/
theorem Restores.orEmpty (key : String) (items : List α) :
    (Slot.ofMember (listMember key (items.map write)).2).orElse [] (Value.listOf? read) =
      some items := by
  cases items with
  | nil => rfl
  | cons a items => exact h.list.reads (a :: items)

theorem Restores.optional_faithful (key : String) (a : Option α) :
    FaithfulMember (key, a.map write) := by
  intro v hv
  obtain ⟨a, _, rfl⟩ := Option.map_eq_some_iff.mp hv
  exact h.faithful a

theorem Restores.orEmpty_faithful (key : String) (items : List α) :
    FaithfulMember (listMember key (items.map write)) := by
  intro v hv
  unfold listMember at hv
  dsimp only at hv
  split at hv
  · cases hv
  · cases hv
    exact h.list.faithful items

end

end EtlSurvey.Json
