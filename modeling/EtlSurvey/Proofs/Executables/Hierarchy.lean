import EtlSurvey.Proofs.Executables.Reading
import Mathlib.Logic.ExistsUnique
import Mathlib.Logic.Relation

/-! # The executables of a package are a forest in pre-order

The parent links of the list describe one forest, and listing it in pre-order gives the list
again. The nesting of the outline gives a forest for the nodes that are kept: a node that is left
out hands what is inside it up to where it stands. That the links describe this forest and no
other rests on distinct ids: the children of an executable are all in the part of the list that
belongs to it. -/

namespace EtlSurvey
open Markup

/-- Sibling executables in order, each with those inside it. -/
inductive Hierarchy where
  | nil
  | node (e : Executable) (inner next : Hierarchy)

/-- The executables of a list that name this parent, in order. -/
def childrenIn (es : List Executable) (parentId : Option String) : List Executable :=
  es.filter (·.parentId == parentId)

theorem mem_childrenIn {es : List Executable} {parentId : Option String} {e : Executable} :
    e ∈ childrenIn es parentId ↔ e ∈ es ∧ e.parentId = parentId := by
  simp [childrenIn]

@[simp] theorem childrenIn_append (es others : List Executable) (parentId : Option String) :
    childrenIn (es ++ others) parentId = childrenIn es parentId ++ childrenIn others parentId :=
  List.filter_append ..

theorem childrenIn_cons_self (e : Executable) (es : List Executable) :
    childrenIn (e :: es) e.parentId = e :: childrenIn es e.parentId :=
  List.filter_cons_of_pos (by simp)

theorem childrenIn_cons_of_ne {e : Executable} {parentId : Option String}
    (h : e.parentId ≠ parentId) (es : List Executable) :
    childrenIn (e :: es) parentId = childrenIn es parentId :=
  List.filter_cons_of_neg (by simpa using h)

namespace Hierarchy

/-- The forest as a list, each executable before those inside it. -/
def list : Hierarchy → List Executable
  | nil => []
  | node e inner next => e :: (inner.list ++ next.list)

def roots : Hierarchy → List Executable
  | nil => []
  | node e _ next => e :: next.roots

def append : Hierarchy → Hierarchy → Hierarchy
  | nil, others => others
  | node e inner next, others => node e inner (next.append others)

@[simp] theorem list_append (t others : Hierarchy) :
    (t.append others).list = t.list ++ others.list := by
  induction t with
  | nil => rfl
  | node e inner next _ ih => simp [append, list, ih]

/-- What is inside each executable are the children that it has in the list. -/
def Grows (es : List Executable) : Hierarchy → Prop
  | nil => True
  | node e inner next => inner.roots = childrenIn es (some e.id) ∧ inner.Grows es ∧ next.Grows es

/-- The forest is the one that the parent links of the list describe. -/
structure Describes (es : List Executable) (t : Hierarchy) : Prop where
  roots : t.roots = childrenIn es none
  grows : t.Grows es

theorem Grows.unique {es : List Executable} {t s : Hierarchy} (ht : t.Grows es) (hs : s.Grows es)
    (hroots : t.roots = s.roots) : t = s := by
  induction t generalizing s with
  | nil =>
    cases s with
    | nil => rfl
    | node => cases hroots
  | node e inner next ihInner ihNext =>
    cases s with
    | nil => cases hroots
    | node e' inner' next' =>
      obtain ⟨rfl, hnext⟩ := List.cons.inj hroots
      obtain ⟨hinner, htInner, htNext⟩ := ht
      obtain ⟨hinner', hsInner, hsNext⟩ := hs
      rw [ihInner htInner hsInner (hinner.trans hinner'.symm), ihNext htNext hsNext hnext]

/-- The links say what the forest shows: the roots name the parent, and what is directly inside an
executable names that one. -/
def Linked (parentId : Option String) : Hierarchy → Prop
  | nil => True
  | node e inner next =>
    e.parentId = parentId ∧ inner.Linked (some e.id) ∧ next.Linked parentId

theorem Linked.append {parentId : Option String} {t others : Hierarchy} (h : t.Linked parentId)
    (hothers : others.Linked parentId) : (t.append others).Linked parentId := by
  induction t with
  | nil => exact hothers
  | node e inner next _ ih =>
    obtain ⟨he, hinner, hnext⟩ := h
    exact ⟨he, hinner, ih hnext⟩

theorem Linked.parent_mem {parentId : Option String} {t : Hierarchy} (h : t.Linked parentId)
    {x : Executable} (hx : x ∈ t.list) :
    x.parentId = parentId ∨ ∃ y ∈ t.list, x.parentId = some y.id := by
  induction t generalizing parentId with
  | nil => cases hx
  | node e inner next ihInner ihNext =>
    obtain ⟨he, hinner, hnext⟩ := h
    obtain rfl | hx := List.mem_cons.mp hx
    · exact .inl he
    obtain hx | hx := List.mem_append.mp hx
    · obtain heq | ⟨y, hy, heq⟩ := ihInner hinner hx
      · exact .inr ⟨e, List.mem_cons_self, heq⟩
      · exact .inr ⟨y, by simp [list, hy], heq⟩
    · obtain heq | ⟨y, hy, heq⟩ := ihNext hnext hx
      · exact .inl heq
      · exact .inr ⟨y, by simp [list, hy], heq⟩

/-- A parent in the forest comes before its children. -/
theorem Linked.parent_before {parentId : Option String} {t : Hierarchy} (h : t.Linked parentId)
    {before after : List Executable} {e : Executable} (ht : t.list = before ++ e :: after) :
    e.parentId = parentId ∨ ∃ y ∈ before, e.parentId = some y.id := by
  induction t generalizing parentId before after with
  | nil => simp [list] at ht
  | node f inner next ihInner ihNext =>
    obtain ⟨hf, hinner, hnext⟩ := h
    cases before with
    | nil =>
      obtain ⟨rfl, -⟩ := List.cons.inj ht
      exact .inl hf
    | cons g before =>
      obtain ⟨rfl, hrest⟩ := List.cons.inj ht
      -- It is in the later part, or in the inner one, or it is the first of the later part.
      obtain ⟨between, rfl, hlist⟩ | ⟨between, hlist, hafter⟩ := List.append_eq_append_iff.mp hrest
      · obtain heq | ⟨y, hy, heq⟩ := ihNext hnext hlist
        · exact .inl heq
        · exact .inr ⟨y, by simp [hy], heq⟩
      · cases between with
        | nil =>
          have hfirst : next.list = [] ++ e :: after := hafter.symm
          obtain heq | ⟨y, hy, -⟩ := ihNext hnext hfirst
          · exact .inl heq
          · cases hy
        | cons g between =>
          obtain ⟨rfl, -⟩ := List.cons.inj hafter
          obtain heq | ⟨y, hy, heq⟩ := ihInner hinner hlist
          · exact .inr ⟨f, List.mem_cons_self, heq⟩
          · exact .inr ⟨y, .tail _ hy, heq⟩

/-- A linked forest under a parent from outside, in which no id comes twice. -/
structure Placed (parentId : Option String) (t : Hierarchy) : Prop where
  linked : t.Linked parentId
  nodup : (t.list.map (·.id)).Nodup
  outside : ∀ y ∈ t.list, parentId ≠ some y.id

theorem Placed.childrenIn_eq_nil {parentId other : Option String} {t : Hierarchy}
    (h : t.Placed parentId) (hparent : parentId ≠ other)
    (hother : ∀ y ∈ t.list, some y.id ≠ other) :
    childrenIn t.list other = [] := by
  refine List.filter_eq_nil_iff.mpr fun x hx => ?_
  rw [beq_iff_eq]
  obtain heq | ⟨y, hy, heq⟩ := h.linked.parent_mem hx
  · rw [heq]
    exact hparent
  · rw [heq]
    exact hother y hy

section Node

variable {parentId : Option String} {e : Executable} {inner next : Hierarchy}

/-- No two of the three parts of a forest share an id. -/
theorem Placed.parts (h : (node e inner next).Placed parentId) :
    (∀ y ∈ inner.list, y.id ≠ e.id) ∧ (∀ y ∈ next.list, y.id ≠ e.id) ∧
      ∀ y ∈ inner.list, ∀ z ∈ next.list, y.id ≠ z.id := by
  have hnodup := h.nodup
  rw [list, List.map_cons, List.map_append, List.nodup_cons, List.nodup_append] at hnodup
  obtain ⟨hnew, -, -, hapart⟩ := hnodup
  refine ⟨fun y hy heq => hnew ?_, fun y hy heq => hnew ?_, fun y hy z hz => ?_⟩
  · exact heq ▸ List.mem_append_left _ (List.mem_map_of_mem hy)
  · exact heq ▸ List.mem_append_right _ (List.mem_map_of_mem hy)
  · exact hapart _ (List.mem_map_of_mem hy) _ (List.mem_map_of_mem hz)

theorem Placed.of_inner (h : (node e inner next).Placed parentId) : inner.Placed (some e.id) where
  linked := h.linked.2.1
  nodup := h.nodup.sublist ((List.Sublist.cons _ (List.sublist_append_left _ _)).map _)
  outside y hy heq := h.parts.1 y hy (Option.some.inj heq).symm

theorem Placed.of_next (h : (node e inner next).Placed parentId) : next.Placed parentId where
  linked := h.linked.2.2
  nodup := h.nodup.sublist ((List.Sublist.cons _ (List.sublist_append_right _ _)).map _)
  outside y hy := h.outside y (by simp [list, hy])

/-- Children of the first executable, or of one inside it, are all inside it. -/
theorem Placed.childrenIn_inner (h : (node e inner next).Placed parentId) {y : Executable}
    (hy : y ∈ e :: inner.list) :
    childrenIn (node e inner next).list (some y.id) = childrenIn inner.list (some y.id) := by
  obtain ⟨-, hnextNew, hapart⟩ := h.parts
  have houtside : parentId ≠ some y.id := h.outside y (by
    rw [list, ← List.cons_append]
    exact List.mem_append_left _ hy)
  have hnext : childrenIn next.list (some y.id) = [] := by
    refine h.of_next.childrenIn_eq_nil houtside fun z hz heq => ?_
    obtain rfl | hy := List.mem_cons.mp hy
    · exact hnextNew z hz (Option.some.inj heq)
    · exact hapart y hy z hz (Option.some.inj heq).symm
  have he : e.parentId ≠ some y.id := by
    rw [h.linked.1]
    exact houtside
  rw [list, childrenIn_cons_of_ne he, childrenIn_append, hnext, List.append_nil]

/-- Children of one of the later executables are not inside the first one. -/
theorem Placed.childrenIn_next (h : (node e inner next).Placed parentId) {y : Executable}
    (hy : y ∈ next.list) :
    childrenIn (node e inner next).list (some y.id) = childrenIn next.list (some y.id) := by
  obtain ⟨-, hnextNew, hapart⟩ := h.parts
  have hinner : childrenIn inner.list (some y.id) = [] := by
    refine h.of_inner.childrenIn_eq_nil (fun heq => ?_) fun z hz heq => ?_
    · exact hnextNew y hy (Option.some.inj heq).symm
    · exact hapart z hz y hy (Option.some.inj heq)
  have he : e.parentId ≠ some y.id := by
    rw [h.linked.1]
    exact h.of_next.outside y hy
  rw [list, childrenIn_cons_of_ne he, childrenIn_append, hinner, List.nil_append]

end Node

theorem Placed.roots_eq {parentId : Option String} {t : Hierarchy} (h : t.Placed parentId) :
    t.roots = childrenIn t.list parentId := by
  induction t with
  | nil => rfl
  | node e inner next _ ih =>
    have hinner : childrenIn inner.list parentId = [] := by
      refine h.of_inner.childrenIn_eq_nil (Ne.symm (h.outside e List.mem_cons_self)) fun y hy => ?_
      exact Ne.symm (h.outside y (by simp [list, hy]))
    obtain rfl := h.linked.1
    rw [roots, list, childrenIn_cons_self, childrenIn_append, hinner, List.nil_append, ih h.of_next]

/-- A part of a list has all the children of its executables. -/
def Owns (es : List Executable) (t : Hierarchy) : Prop :=
  ∀ y ∈ t.list, childrenIn es (some y.id) = childrenIn t.list (some y.id)

section Owns

variable {es : List Executable} {parentId : Option String} {e : Executable}
  {inner next : Hierarchy}

theorem Owns.children_inner (h : Owns es (node e inner next))
    (hplaced : (node e inner next).Placed parentId) {y : Executable} (hy : y ∈ e :: inner.list) :
    childrenIn es (some y.id) = childrenIn inner.list (some y.id) := by
  rw [← hplaced.childrenIn_inner hy]
  refine h y ?_
  rw [list, ← List.cons_append]
  exact List.mem_append_left _ hy

theorem Owns.of_inner (h : Owns es (node e inner next))
    (hplaced : (node e inner next).Placed parentId) : Owns es inner :=
  fun _ hy => h.children_inner hplaced (.tail _ hy)

theorem Owns.of_next (h : Owns es (node e inner next))
    (hplaced : (node e inner next).Placed parentId) : Owns es next :=
  fun y hy => (h y (by simp [list, hy])).trans (hplaced.childrenIn_next hy)

end Owns

theorem Owns.grows {es : List Executable} {parentId : Option String} {t : Hierarchy}
    (h : Owns es t) (hplaced : t.Placed parentId) : t.Grows es := by
  induction t generalizing parentId with
  | nil => trivial
  | node e inner next ihInner ihNext =>
    refine ⟨?_, ihInner (h.of_inner hplaced) hplaced.of_inner,
      ihNext (h.of_next hplaced) hplaced.of_next⟩
    rw [hplaced.of_inner.roots_eq, h.children_inner hplaced List.mem_cons_self]

theorem Placed.describes {t : Hierarchy} (h : t.Placed none) : t.Describes t.list where
  roots := h.roots_eq
  grows := Owns.grows (fun _ _ => rfl) h

end Hierarchy

/-- The second executable is a child of the first. -/
def IsChild (es : List Executable) (e x : Executable) : Prop :=
  x ∈ es ∧ x.parentId = some e.id

/-- Descendants of an executable, along the parent links. -/
def IsInside (es : List Executable) : Executable → Executable → Prop :=
  Relation.TransGen (IsChild es)

namespace Hierarchy

theorem Linked.isInside {es : List Executable} {e x : Executable} {t : Hierarchy}
    (h : t.Linked (some e.id)) (hes : t.list ⊆ es) (hx : x ∈ t.list) : IsInside es e x := by
  induction t generalizing e with
  | nil => cases hx
  | node f inner next ihInner ihNext =>
    obtain ⟨hf, hinner, hnext⟩ := h
    obtain ⟨hfes, hrest⟩ := List.cons_subset.mp hes
    obtain ⟨hinnerEs, hnextEs⟩ := List.append_subset.mp hrest
    have hchild : IsChild es e f := ⟨hfes, hf⟩
    obtain rfl | hx := List.mem_cons.mp hx
    · exact .single hchild
    obtain hx | hx := List.mem_append.mp hx
    · exact .head hchild (ihInner hinner hinnerEs hx)
    · exact ihNext hnext hnextEs hx

theorem Owns.mem_inner {es : List Executable} {parentId : Option String} {e x : Executable}
    {inner next : Hierarchy} (h : Owns es (node e inner next))
    (hplaced : (node e inner next).Placed parentId) (hx : IsInside es e x) : x ∈ inner.list := by
  have hstep : ∀ {y x}, y ∈ e :: inner.list → IsChild es y x → x ∈ inner.list := by
    intro y x hy hchild
    have hmem := mem_childrenIn.mpr hchild
    rw [h.children_inner hplaced hy] at hmem
    exact (mem_childrenIn.mp hmem).1
  induction hx with
  | single hchild => exact hstep List.mem_cons_self hchild
  | tail _ hchild ih => exact hstep (.tail _ ih) hchild

/-- Right after an executable comes exactly what is inside it. -/
theorem Owns.block {es : List Executable} {parentId : Option String} {t : Hierarchy}
    (h : Owns es t) (hplaced : t.Placed parentId) (hes : t.list ⊆ es) {e : Executable}
    (he : e ∈ t.list) : ∃ before inside after,
      t.list = before ++ e :: (inside ++ after) ∧ ∀ x, x ∈ inside ↔ IsInside es e x := by
  induction t generalizing parentId with
  | nil => cases he
  | node f inner next ihInner ihNext =>
    obtain ⟨-, hrest⟩ := List.cons_subset.mp hes
    obtain ⟨hinnerEs, hnextEs⟩ := List.append_subset.mp hrest
    obtain rfl | he := List.mem_cons.mp he
    · refine ⟨[], inner.list, next.list, rfl, fun x => ⟨fun hx => ?_, h.mem_inner hplaced⟩⟩
      exact hplaced.linked.2.1.isInside hinnerEs hx
    obtain he | he := List.mem_append.mp he
    · obtain ⟨before, inside, after, hlist, hinside⟩ :=
        ihInner (h.of_inner hplaced) hplaced.of_inner hinnerEs he
      refine ⟨f :: before, inside, after ++ next.list, ?_, hinside⟩
      simp [list, hlist]
    · obtain ⟨before, inside, after, hlist, hinside⟩ :=
        ihNext (h.of_next hplaced) hplaced.of_next hnextEs he
      refine ⟨f :: (inner.list ++ before), inside, after, ?_, hinside⟩
      simp [list, hlist]

end Hierarchy

/-- A list of executables that is the pre-order listing of the forest of its parent links. -/
structure IsPreOrder (es : List Executable) : Prop where
  ids_nodup : (es.map (·.id)).Nodup
  parent_before : ∀ before e after, es = before ++ e :: after →
    ∀ parentId ∈ e.parentId, parentId ∈ before.map (·.id)
  rebuilt : ∃! t : Hierarchy, t.Describes es
  listing : ∀ t : Hierarchy, t.Describes es → t.list = es
  /-- The descendants of an executable stand together right after it. -/
  block : ∀ e ∈ es, ∃ before inside after,
    es = before ++ e :: (inside ++ after) ∧ ∀ x, x ∈ inside ↔ IsInside es e x

theorem Hierarchy.Placed.isPreOrder {t : Hierarchy} (h : t.Placed none) : IsPreOrder t.list where
  ids_nodup := h.nodup
  parent_before before e after ht parentId hparent := by
    obtain heq | ⟨y, hy, heq⟩ := h.linked.parent_before ht
    · rw [heq] at hparent
      cases hparent
    · rw [heq] at hparent
      obtain rfl := Option.some.inj hparent
      exact List.mem_map_of_mem hy
  rebuilt := ⟨t, h.describes, fun s hs =>
    hs.grows.unique h.describes.grows (hs.roots.trans h.describes.roots.symm)⟩
  listing s hs := by
    rw [hs.grows.unique h.describes.grows (hs.roots.trans h.describes.roots.symm)]
  block _ he := Owns.block (fun _ _ => rfl) h (List.Subset.refl _) he

/-- The records of the nodes that are kept, as a forest: what is inside a node that is left out
stands in its place. -/
theorem Nested.hierarchy {around : List (String × Bool)} {nodes : List OutlineNode}
    (h : Nested around nodes) (policy : RedactionPolicy) (retain : Bool) : ∃ t : Hierarchy,
      t.list = (nodes.filter (·.isKept retain)).map (recordOf policy retain) ∧
        t.Linked (nearestKept? retain around) := by
  induction h with
  | nil => exact ⟨.nil, rfl, trivial⟩
  | @node around n below after haround _ _ ihBelow ihAfter =>
    obtain ⟨inner, hinner, hinnerLinked⟩ := ihBelow
    obtain ⟨next, hnext, hnextLinked⟩ := ihAfter
    rw [nearestKept?, List.find?_cons] at hinnerLinked
    rw [List.filter_cons, List.filter_append]
    cases hkept : n.isKept retain with
    | true =>
      rw [OutlineNode.isKept] at hkept
      simp only [hkept] at hinnerLinked
      refine ⟨.node (recordOf policy retain n) inner next, ?_, ?_, ?_, hnextLinked⟩
      · simp [Hierarchy.list, hinner, hnext]
      · rw [recordOf_parentId, OutlineNode.parentId?, haround]
      · rw [recordOf_id]
        exact hinnerLinked
    | false =>
      rw [OutlineNode.isKept] at hkept
      simp only [hkept] at hinnerLinked
      refine ⟨inner.append next, ?_, hinnerLinked.append hnextLinked⟩
      simp [hinner, hnext]

/-- The list of executables is in pre-order, whether those of unknown kinds are in it or not. -/
theorem executables_isPreOrder (policy : RedactionPolicy) (retain : Bool) (root : Element) :
    IsPreOrder (readExecutables policy retain root).value.executables := by
  obtain ⟨t, hlist, hlinked⟩ := (nested_outline root).hierarchy policy retain
  rw [readExecutables_eq, ← hlist]
  refine Hierarchy.Placed.isPreOrder ⟨hlinked, ?_, fun _ _ => nofun⟩
  rw [hlist, List.map_map, id_comp_recordOf]
  exact (nodup_outline_ids root).sublist (List.filter_sublist.map _)

end EtlSurvey
