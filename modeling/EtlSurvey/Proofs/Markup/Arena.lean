import EtlSurvey.Proofs.Markup.Skeleton
import Mathlib.Data.List.Nodup
import Mathlib.Logic.Relation

/-! # Elements in an arena

An element can be known by its place in a list, with the places of its parent and its children. A
tag puts a new place at the end of the list and at the end of the children of the innermost open
element. Whatever the order of tags and ends, this makes a tree: parents come before their children,
and children ascend. An iterator with a stack of places visits what is below a place. -/

namespace EtlSurvey.Markup

/-- An element in a list: the places of its parent and its children. -/
structure Slot where
  parent : Option Nat
  children : List Nat
  deriving DecidableEq, Repr

/-- The elements so far, and the places of those that are open, innermost first. -/
structure Arena where
  slots : List Slot
  opened : List Nat
  deriving DecidableEq, Repr

namespace Arena

def initial : Arena := ⟨[], []⟩

/-- Puts a place at the end of the children of its parent. -/
def adopt (child : Nat) : Option Nat → List Slot → List Slot
  | none, slots => slots
  | some parent, slots => slots.modify parent fun s => { s with children := s.children ++ [child] }

def push (a : Arena) : Arena where
  slots := adopt a.slots.length a.opened.head? (a.slots ++ [⟨a.opened.head?, []⟩])
  opened := a.slots.length :: a.opened

def close (a : Arena) : Arena := { a with opened := a.opened.tail }

/-- The root is there and no longer open. -/
def isClosed (a : Arena) : Bool := !a.slots.isEmpty && a.opened.isEmpty

/-- One event; none if it ends the document. -/
def step (a : Arena) : Event → Option Arena
  | .start _ => if a.isClosed then none else some a.push
  | .empty _ => if a.isClosed then none else some a.push.close
  | .text _ => some a
  | .close => some a.close

def run (a : Arena) : List Event → Arena
  | [] => a
  | e :: rest =>
    match a.step e with
    | some a => a.run rest
    | none => a

def ofEvents (es : List Event) : Arena := initial.run es

def parents (a : Arena) : List (Option Nat) := a.slots.map (·.parent)

def parent? (a : Arena) (i : Nat) : Option Nat := a.parents[i]?.join

def children (a : Arena) (i : Nat) : List Nat := (a.slots[i]?.map (·.children)).getD []

/-! ## The invariant -/

/-- The slots are a tree, and the open places are in it. -/
structure IsTree (a : Arena) : Prop where
  parent_lt : ∀ i p, a.parent? i = some p → p < i
  root_iff : ∀ i < a.slots.length, a.parent? i = none ↔ i = 0
  children_eq : ∀ p, a.children p = a.parents.idxsOf (some p)
  opened_lt : ∀ p ∈ a.opened, p < a.slots.length

section Push

variable (a : Arena)

theorem getElem?_adopt (child : Nat) (parent : Option Nat) (slots : List Slot) (i : Nat) :
    (adopt child parent slots)[i]? = slots[i]?.map fun s =>
      if parent = some i then { s with children := s.children ++ [child] } else s := by
  cases parent with
  | none => simp [adopt]
  | some parent => simp [adopt, List.getElem?_modify]

theorem length_push : a.push.slots.length = a.slots.length + 1 := by
  rw [push]
  cases a.opened.head? <;> simp [adopt]

theorem parents_push : a.push.parents = a.parents ++ [a.opened.head?] := by
  have hadopt : ∀ child parent slots, (adopt child parent slots).map (·.parent) =
      slots.map (·.parent) := by
    intro child parent slots
    refine List.ext_getElem? fun i => ?_
    rw [List.getElem?_map, getElem?_adopt, List.getElem?_map, Option.map_map]
    refine congrArg (Option.map · slots[i]?) (funext fun s => ?_)
    simp only [Function.comp_apply]
    split <;> rfl
  rw [parents, push, hadopt, List.map_append]
  rfl

theorem parent?_push (i : Nat) : a.push.parent? i =
    if i = a.slots.length then a.opened.head? else a.parent? i := by
  have hlength : a.parents.length = a.slots.length := List.length_map ..
  rw [parent?, parents_push, parent?]
  split
  · next h => rw [h, ← hlength, List.getElem?_concat_length, Option.join_some]
  · next h =>
    by_cases hi : i < a.slots.length
    · rw [List.getElem?_append_left (hlength ▸ hi)]
    · rw [List.getElem?_eq_none (by simp; omega), List.getElem?_eq_none (by omega)]

theorem children_push (h : ∀ p ∈ a.opened, p < a.slots.length) (p : Nat) : a.push.children p =
    a.children p ++ if a.opened.head? = some p then [a.slots.length] else [] := by
  rw [children, push, getElem?_adopt, Option.map_map, children]
  obtain hp | rfl | hp := Nat.lt_trichotomy p a.slots.length
  · rw [List.getElem?_append_left hp, List.getElem?_eq_getElem hp, Option.map_some, Option.map_some,
      Option.getD_some, Option.getD_some, Function.comp_apply]
    split
    · rfl
    · rw [List.append_nil]
  · -- a new place is not open yet
    have hnew : a.opened.head? ≠ some a.slots.length := fun hhead =>
      Nat.lt_irrefl _ (h _ (List.mem_of_head? hhead))
    simp [hnew]
  · have hout : a.opened.head? ≠ some p := fun hhead =>
      absurd (h _ (List.mem_of_head? hhead)) (Nat.lt_asymm hp)
    rw [List.getElem?_eq_none (by simp; omega), List.getElem?_eq_none (by omega), if_neg hout]
    rfl

end Push

theorem initial_isTree : initial.IsTree where
  parent_lt i p h := by cases i <;> cases h
  root_iff i h := absurd h (Nat.not_lt_zero i)
  children_eq p := by cases p <;> rfl
  opened_lt p h := by cases h

namespace IsTree

variable {a a' : Arena}

theorem push (h : a.IsTree) (hopen : a.isClosed = false) : a.push.IsTree where
  parent_lt i p hp := by
    rw [parent?_push] at hp
    split at hp
    · next hi => exact hi ▸ h.opened_lt p (List.mem_of_head? hp)
    · exact h.parent_lt i p hp
  root_iff i hi := by
    rw [length_push] at hi
    rw [parent?_push]
    split
    · next hlast =>
      subst hlast
      rw [List.head?_eq_none_iff]
      constructor
      · -- with no place open the document has only begun
        intro hnone
        rw [isClosed, hnone] at hopen
        simpa using hopen
      · intro hzero
        cases hopened : a.opened with
        | nil => rfl
        | cons p rest =>
          have hlt := h.opened_lt p (hopened ▸ List.mem_cons_self)
          omega
    · exact h.root_iff i (by omega)
  children_eq p := by
    rw [children_push a h.opened_lt, parents_push, List.idxsOf_append, h.children_eq]
    have hlength : a.parents.length = a.slots.length := List.length_map ..
    simp [hlength]
  opened_lt p hp := by
    rw [length_push]
    obtain rfl | hp := List.mem_cons.mp hp
    · exact Nat.lt_succ_self _
    · exact Nat.lt_succ_of_lt (h.opened_lt p hp)

theorem close (h : a.IsTree) : a.close.IsTree where
  parent_lt := h.parent_lt
  root_iff := h.root_iff
  children_eq := h.children_eq
  opened_lt p hp := h.opened_lt p (List.mem_of_mem_tail hp)

/-- Every event leaves a tree. -/
theorem step (h : a.IsTree) {e : Event} (he : a.step e = some a') : a'.IsTree := by
  cases e with
  | start tag =>
    obtain ⟨hopen, heq⟩ := Option.ite_none_left_eq_some.mp he
    obtain rfl := Option.some.inj heq
    exact h.push (Bool.eq_false_iff.mpr hopen)
  | empty tag =>
    obtain ⟨hopen, heq⟩ := Option.ite_none_left_eq_some.mp he
    obtain rfl := Option.some.inj heq
    exact (h.push (Bool.eq_false_iff.mpr hopen)).close
  | text text =>
    obtain rfl := Option.some.inj he
    exact h
  | close =>
    obtain rfl := Option.some.inj he
    exact h.close

/-- So do all events. -/
theorem run (h : a.IsTree) (es : List Event) : (a.run es).IsTree := by
  induction es generalizing a with
  | nil => exact h
  | cons e rest ih =>
    rw [Arena.run]
    split
    · next a' ha => exact ih (h.step ha)
    · exact h

theorem mem_children_iff (h : a.IsTree) {i p : Nat} : i ∈ a.children p ↔ a.parent? i = some p := by
  rw [h.children_eq, List.mem_idxsOf_iff_exists_getElem_pos, parent?]
  simp only [beq_iff_eq, Option.join_eq_some_iff, List.getElem?_eq_some_iff]

theorem children_ascending (h : a.IsTree) (p : Nat) : (a.children p).Pairwise (· < ·) := by
  rw [h.children_eq]
  exact List.pairwise_idxsOf

/-- A parent lists each of its children once. -/
theorem count_children (h : a.IsTree) {i p : Nat} (hp : a.parent? i = some p) :
    (a.children p).count i = 1 := by
  have hnodup : (a.children p).Nodup := (h.children_ascending p).imp Nat.ne_of_lt
  exact List.count_eq_one_of_mem hnodup (h.mem_children_iff.mpr hp)

end IsTree

theorem ofEvents_isTree (es : List Event) : (ofEvents es).IsTree := initial_isTree.run es

/-! ## The iterator -/

/-- One step of an iterator with a stack of places: the next place, with its children on the
stack. -/
def next? (a : Arena) : List Nat → Option (Nat × List Nat)
  | [] => none
  | i :: stack => some (i, a.children i ++ stack)

/-- An iterator with a stack of places visits these and stops. -/
inductive Visits (a : Arena) : List Nat → List Nat → Prop
  | done {stack : List Nat} (h : a.next? stack = none) : Visits a stack []
  | item {stack rest visited : List Nat} {i : Nat} (h : a.next? stack = some (i, rest))
      (hrest : Visits a rest visited) : Visits a stack (i :: visited)

/-- A place is somewhere above another. -/
def IsAbove (a : Arena) : Nat → Nat → Prop := Relation.TransGen fun p i => a.parent? i = some p

namespace Visits

variable {a : Arena} {stack visited visited' : List Nat}

theorem unique (h : a.Visits stack visited) (h' : a.Visits stack visited') :
    visited' = visited := by
  induction h generalizing visited' with
  | done hnone =>
    cases h' with
    | done => rfl
    | item hsome => rw [hnone] at hsome; cases hsome
  | item hsome _ ih =>
    cases h' with
    | done hnone => rw [hnone] at hsome; cases hsome
    | item hsome' hrest' =>
      obtain ⟨rfl, rfl⟩ := Prod.mk.inj (Option.some.inj (hsome.symm.trans hsome'))
      rw [ih hrest']

/-- Visited are the places on the stack and those below them. -/
theorem mem_iff (hchildren : ∀ {i p : Nat}, i ∈ a.children p ↔ a.parent? i = some p)
    (h : a.Visits stack visited) {j : Nat} : j ∈ visited ↔
      ∃ i ∈ stack, Relation.ReflTransGen (fun p i => a.parent? i = some p) i j := by
  induction h with
  | @done stack hnone =>
    cases stack with
    | nil => simp
    | cons => cases hnone
  | @item stack rest visited i hsome _ ih =>
    cases stack with
    | nil => cases hsome
    | cons i' stack =>
      obtain ⟨rfl, rfl⟩ := Prod.mk.inj (Option.some.inj hsome)
      rw [List.mem_cons, ih, List.exists_mem_cons_iff, Relation.ReflTransGen.cases_head_iff]
      simp only [List.mem_append, hchildren, or_and_right, exists_or, or_assoc, eq_comm]

end Visits

/-- Below a place is what an iterator visits that starts with its children. -/
theorem IsTree.isAbove_iff {a : Arena} (h : a.IsTree) {i j : Nat} {visited : List Nat}
    (hvisits : a.Visits (a.children i) visited) : a.IsAbove i j ↔ j ∈ visited := by
  rw [IsAbove, Relation.TransGen.head'_iff, hvisits.mem_iff h.mem_children_iff]
  simp only [h.mem_children_iff]

end Arena
end EtlSurvey.Markup
