import EtlSurvey.Proofs.Markup.Arena
import EtlSurvey.Proofs.Markup.Scope

/-! # The arena of a document lists its elements in order

What events make of an arena has the places of the elements of the document that they describe. So
the children of an element are at the places that its slot lists, an iterator that starts with them
visits what is inside the element and nothing else, and that is what comes right behind it. -/

namespace EtlSurvey.Markup
open Text

namespace Forest

/-- Places of sibling elements, of which the first has the given place. -/
def places (place : Nat) : Forest → List Nat
  | .nil => []
  | .tree _ inner next => place :: next.places (place + 1 + inner.all.length)

/-- Places of the parents of the elements of a forest. -/
def parents (above : List Nat) (place : Nat) (f : Forest) : List (Option Nat) :=
  (f.nodes above place).map (·.above.head?)

theorem map_head_nodes (above : List Nat) (place : Nat) (f : Forest) :
    (f.nodes above place).map (·.head) = f.all.map (·.head) := by
  induction f generalizing above place with
  | nil => rfl
  | tree head inner next ihInner ihNext =>
    rw [nodes, all, List.map_cons, List.map_cons, List.map_append, List.map_append, ihInner, ihNext]

section Parents

variable {above : List Nat} {place i p : Nat} {f : Forest} {e : Element}

theorem parents_tree (above : List Nat) (place : Nat) (head : Head) (inner next : Forest) :
    (tree head inner next).parents above place =
      above.head? :: (inner.parents (place :: above) (place + 1) ++
        next.parents above (place + 1 + inner.all.length)) := by
  rw [parents, nodes, List.map_cons, List.map_append]
  rfl

@[simp] theorem length_parents (above : List Nat) (place : Nat) (f : Forest) :
    (f.parents above place).length = f.all.length := by
  rw [parents, List.length_map, length_nodes]

/-- A parent is the element around the forest, or in the forest. -/
theorem mem_parents {parent : Option Nat} (h : parent ∈ f.parents above place) :
    parent = above.head? ∨ ∃ p, parent = some p ∧ place ≤ p ∧ p < place + f.all.length := by
  induction f generalizing above place with
  | nil => cases h
  | tree head inner next ihInner ihNext =>
    rw [parents_tree] at h
    rw [all, List.length_cons, List.length_append]
    obtain rfl | h := List.mem_cons.mp h
    · exact .inl rfl
    obtain h | h := List.mem_append.mp h
    · obtain rfl | ⟨p, rfl, hlow, hhigh⟩ := ihInner h
      · exact .inr ⟨place, rfl, Nat.le_refl _, by omega⟩
      · exact .inr ⟨p, rfl, by omega, by omega⟩
    · obtain rfl | ⟨p, rfl, hlow, hhigh⟩ := ihNext h
      · exact .inl rfl
      · exact .inr ⟨p, rfl, by omega, by omega⟩

theorem idxsOf_parents_eq_nil (habove : above.head? ≠ some p)
    (hp : p < place ∨ place + f.all.length ≤ p) (start : Nat) :
    (f.parents above place).idxsOf (some p) start = [] := by
  refine List.idxsOf_eq_nil_iff.mpr fun parent hparent => beq_eq_false_iff_ne.mpr ?_
  rintro rfl
  obtain heq | ⟨q, hq, hlow, hhigh⟩ := mem_parents hparent
  · exact habove heq.symm
  · obtain rfl := Option.some.inj hq
    omega

/-- Right inside an element are the trees of the forest in it. -/
theorem idxsOf_parents_around (hp : p < place) :
    (f.parents (p :: above) place).idxsOf (some p) place = f.places place := by
  induction f generalizing place with
  | nil => rfl
  | tree head inner next ihInner ihNext =>
    have hdeeper : (inner.parents (place :: p :: above) (place + 1)).idxsOf (some p) (place + 1) =
        [] :=
      idxsOf_parents_eq_nil (by simp; omega) (.inl (by omega)) _
    rw [parents_tree, List.idxsOf_cons, if_pos (by simp), List.idxsOf_append, hdeeper,
      length_parents, ihNext (by omega), List.nil_append, places]

/-- Whose parent is at a place: the trees of the forest in the element there. -/
theorem idxsOf_parents (habove : ∀ q ∈ above.head?, q < place) (he : f.all[i]? = some e) :
    (f.parents above place).idxsOf (some (place + i)) place = e.inner.places (place + i + 1) := by
  induction f generalizing above place i with
  | nil => cases he
  | tree head inner next ihInner ihNext =>
    have hfirst : above.head? ≠ some (place + i) := fun hhead => by
      have := habove _ hhead
      omega
    rw [parents_tree, List.idxsOf_cons, if_neg (by simpa using hfirst), List.idxsOf_append,
      length_parents]
    rw [all] at he
    cases i with
    | zero =>
      obtain rfl := Option.some.inj he
      have hnext := idxsOf_parents_eq_nil (f := next) hfirst
        (.inl (by omega : place + 0 < place + 1 + inner.all.length))
      rw [hnext, List.append_nil]
      exact idxsOf_parents_around (Nat.lt_succ_self _)
    | succ i =>
      rw [List.getElem?_cons_succ] at he
      have hplace : place + (i + 1) = place + 1 + i := by omega
      by_cases hi : i < inner.all.length
      · rw [List.getElem?_append_left hi] at he
        have hnext := idxsOf_parents_eq_nil (f := next) hfirst
          (.inl (by omega : place + (i + 1) < place + 1 + inner.all.length))
        rw [hnext, hplace, ihInner (by simp) he, List.append_nil]
      · rw [List.getElem?_append_right (Nat.le_of_not_lt hi)] at he
        have hinner : (inner.parents (place :: above) (place + 1)).idxsOf
            (some (place + (i + 1))) (place + 1) = [] :=
          idxsOf_parents_eq_nil (by simp) (.inr (by omega)) _
        have hshift : place + (i + 1) =
            place + 1 + inner.all.length + (i - inner.all.length) := by
          omega
        have hlater : ∀ q ∈ above.head?, q < place + 1 + inner.all.length := fun q hq =>
          Nat.lt_of_lt_of_le (habove q hq) (by omega)
        rw [hinner, hshift, ihNext hlater he, List.nil_append]

end Parents

section Elements

variable {els : List Element} {place i : Nat} {f : Forest} {e : Element}

/-- What is inside an element comes right behind it. -/
theorem inner_prefix (h : f.all[i]? = some e) : e.inner.all <+: f.all.drop (i + 1) := by
  induction f generalizing i with
  | nil => cases h
  | tree head inner next ihInner ihNext =>
    rw [all] at h ⊢
    rw [List.drop_succ_cons]
    cases i with
    | zero =>
      obtain rfl := Option.some.inj h
      exact List.prefix_append _ _
    | succ i =>
      rw [List.getElem?_cons_succ] at h
      by_cases hi : i < inner.all.length
      · rw [List.getElem?_append_left hi] at h
        rw [List.drop_append_of_le_length hi]
        exact (ihInner h).trans (List.prefix_append _ _)
      · rw [List.getElem?_append_right (Nat.le_of_not_lt hi)] at h
        have hnext := ihNext h
        rw [List.drop_append, List.drop_eq_nil_of_le (by omega), List.nil_append,
          show i + 1 - inner.all.length = i - inner.all.length + 1 by omega]
        exact hnext

/-- A forest among elements in order: its first tree is at a place, with what is inside, and the
others follow. -/
theorem prefix_tree {head : Head} {inner next : Forest}
    (h : (tree head inner next).all <+: els.drop place) :
    els[place]? = some ⟨head, inner⟩ ∧ inner.all <+: els.drop (place + 1) ∧
      next.all <+: els.drop (place + 1 + inner.all.length) := by
  obtain ⟨after, hafter⟩ := h
  rw [all, List.cons_append, List.append_assoc] at hafter
  have hdrop : ∀ n, els.drop (place + 1 + n) = (inner.all ++ (next.all ++ after)).drop n := by
    intro n
    rw [Nat.add_assoc, ← List.drop_drop, ← hafter, Nat.add_comm 1 n, List.drop_succ_cons]
  refine ⟨?_, ?_, ?_⟩
  · rw [← Nat.add_zero place, ← List.getElem?_drop, ← hafter, List.getElem?_cons_zero]
  · rw [← Nat.add_zero (place + 1), hdrop, List.drop_zero]
    exact List.prefix_append _ _
  · rw [hdrop, List.drop_left]
    exact List.prefix_append _ _

theorem getElem?_places (h : f.all <+: els.drop place) :
    (f.places place).map (els[·]?) = f.elements.map some := by
  induction f generalizing place with
  | nil => rfl
  | tree head inner next _ ihNext =>
    obtain ⟨hfirst, -, hnext⟩ := prefix_tree h
    rw [places, elements, List.map_cons, List.map_cons, hfirst, ihNext hnext]

/-- An iterator with the trees of a forest on its stack visits all of the forest, then the rest. -/
theorem visits {a : Arena} {stack visited : List Nat}
    (hchildren : ∀ i e, els[i]? = some e → a.children i = e.inner.places (i + 1))
    (h : f.all <+: els.drop place) (hstack : a.Visits stack visited) :
    a.Visits (f.places place ++ stack) (List.range' place f.all.length ++ visited) := by
  induction f generalizing place stack visited with
  | nil => exact hstack
  | tree head inner next ihInner ihNext =>
    obtain ⟨hfirst, hinner, hnext⟩ := prefix_tree h
    have hrest := ihInner hinner (ihNext hnext hstack)
    rw [all, List.length_cons, List.length_append, List.range'_succ, ← List.range'_append_1,
      List.cons_append, List.append_assoc]
    refine .item ?_ hrest
    rw [places, List.cons_append, Arena.next?, hchildren place _ hfirst]

end Elements
end Forest
/-! ## Arenas of events -/

namespace Arena

/-- An arena has the places that the nodes of a skeleton have. -/
structure Follows (a : Arena) (s : Skeleton) : Prop where
  parents : a.parents = s.nodes.map (·.above.head?)
  opened : a.opened = s.places

namespace Follows

variable {a : Arena} {s : Skeleton}

theorem length_eq (h : a.Follows s) : a.slots.length = s.nodes.length := by
  have hlength := congrArg List.length h.parents
  rwa [Arena.parents, List.length_map, List.length_map] at hlength

theorem isClosed (h : a.Follows s) : a.isClosed = s.isClosed := by
  have hempty : a.slots.isEmpty = s.nodes.isEmpty := by
    rw [Bool.eq_iff_iff, List.isEmpty_iff, List.isEmpty_iff, ← List.length_eq_zero_iff, h.length_eq,
      List.length_eq_zero_iff]
  rw [Arena.isClosed, Skeleton.isClosed, h.opened, hempty]

theorem push (h : a.Follows s) (tag : Tag) : a.push.Follows (s.push tag) where
  parents := by
    rw [parents_push, h.parents, h.opened, Skeleton.push, List.map_append]
    rfl
  opened := by rw [Arena.push, Skeleton.push, h.length_eq, h.opened]

theorem close (h : a.Follows s) : a.close.Follows s.close :=
  ⟨h.parents, congrArg List.tail h.opened⟩

theorem append (h : a.Follows s) (text : String) : a.Follows (s.append text) where
  parents := by
    have habove := congrArg (List.map (·.2.head?)) (s.bare_append text)
    rw [List.map_map, List.map_map] at habove
    rw [h.parents]
    exact habove.symm
  opened := by
    rw [h.opened, Skeleton.append]
    split <;> rfl

theorem step (h : a.Follows s) (e : Event) : Option.Rel Follows (a.step e) (s.step e) := by
  cases e with
  | start tag =>
    rw [Arena.step, Skeleton.step, h.isClosed]
    split
    · exact .none
    · exact .some (h.push tag)
  | empty tag =>
    rw [Arena.step, Skeleton.step, h.isClosed]
    split
    · exact .none
    · exact .some (h.push tag).close
  | text text => exact .some (h.append text)
  | close => exact .some h.close

theorem run (h : a.Follows s) (es : List Event) : (a.run es).Follows (s.run es) := by
  induction es generalizing a s with
  | nil => exact h
  | cons e rest ih =>
    have hstep := h.step e
    rw [Arena.run, Skeleton.run]
    generalize a.step e = a', s.step e = s' at hstep
    cases hstep with
    | none => exact h
    | some hnext => exact ih hnext

end Follows

theorem ofEvents_follows (es : List Event) : (ofEvents es).Follows (Skeleton.initial.run es) :=
  Follows.run ⟨rfl, rfl⟩ es

end Arena

/-- Once there is a tag there is a node. -/
theorem Skeleton.run_nodes_ne_nil {s : Skeleton} {es : List Event}
    (h : s.nodes ≠ [] ∨ tagsOf es ≠ []) : (s.run es).nodes ≠ [] := by
  induction es generalizing s with
  | nil => exact h.resolve_right fun hne => hne rfl
  | cons e rest ih =>
    rw [run]
    split
    · next s' hs =>
      have htags := tags_step hs
      refine ih ?_
      by_cases hnil : s'.nodes = []
      · rw [hnil, List.map_nil, eq_comm, List.append_eq_nil_iff, List.map_eq_nil_iff] at htags
        refine .inr ?_
        have hrest := h.resolve_left (not_not_intro htags.1)
        rwa [tagsOf, List.filterMap_cons_none (Option.toList_eq_nil_iff.mp htags.2)] at hrest
      · exact .inl hnil
    · next hs =>
      -- an event ends the document only if there is one
      intro hnil
      cases e <;> simp [step, isClosed, hnil] at hs

/-- All elements of a document, in order. -/
def Document.elements (d : Document) : List Element := d.root :: d.root.descendants

section Documents

variable {es : List Event} {failure : Option Failure} {d : Document}

theorem elements_eq_all (d : Document) :
    d.elements = (Forest.tree d.root.head d.root.inner .nil).all := by
  rw [Forest.all, Forest.all, List.append_nil]
  rfl

theorem parents_ofEvents (h : Document.ofEvents es failure = .ok d) :
    (Arena.ofEvents es).parents =
      (Forest.tree d.root.head d.root.inner .nil).parents [] 0 := by
  have hresolved : ∀ s : Skeleton, (s.resolved (tagsOf es)).nodes.map (·.above.head?) =
      s.nodes.map (·.above.head?) := by
    intro s
    refine List.ext_getElem? fun i => ?_
    rw [Skeleton.resolved, List.getElem?_map, List.getElem?_mapIdx, Option.map_map,
      List.getElem?_map]
    rfl
  rw [(Arena.ofEvents_follows es).parents, ← hresolved, ← ofEvents_nodes h]
  rfl

theorem children_ofEvents (h : Document.ofEvents es failure = .ok d) {i : Nat} {e : Element}
    (he : d.elements[i]? = some e) : (Arena.ofEvents es).children i = e.inner.places (i + 1) := by
  rw [elements_eq_all] at he
  have hplaces : ((Forest.tree d.root.head d.root.inner .nil).parents [] 0).idxsOf
      (some (0 + i)) 0 = e.inner.places (0 + i + 1) :=
    Forest.idxsOf_parents (by simp) he
  rw [← parents_ofEvents h, Nat.zero_add] at hplaces
  rw [(Arena.ofEvents_isTree es).children_eq, hplaces]

theorem inner_prefix_elements {i : Nat} {e : Element} (he : d.elements[i]? = some e) :
    e.inner.all <+: d.elements.drop (i + 1) := by
  rw [elements_eq_all] at he ⊢
  exact Forest.inner_prefix he

/-- The element at a place has the local name of the tag that is there. -/
theorem name_of_ofEvents (h : Document.ofEvents es failure = .ok d) {i : Nat} {e : Element}
    (he : d.elements[i]? = some e) :
    ∃ tag, (tagsOf es)[i]? = some tag ∧ e.name = (splitName tag.name).2 := by
  have hheads : (d.root.nodes[i]?).map (·.head) = (d.elements[i]?).map (·.head) := by
    rw [← List.getElem?_map, ← List.getElem?_map, elements_eq_all]
    exact congrArg (·[i]?) (Forest.map_head_nodes [] 0 _)
  rw [he] at hheads
  obtain ⟨n, hn, hhead⟩ := Option.map_eq_some_iff.mp hheads
  obtain ⟨raw, -, htag, rfl⟩ := node_of_ofEvents h hn
  refine ⟨raw.tag, htag, ?_⟩
  have hname : ∀ space? unprefixed raw,
      (resolveName space? unprefixed raw).2 = (splitName raw).2 := by
    intro space? unprefixed raw
    rw [resolveName]
    split <;> next hsplit => rw [hsplit]
  exact (congrArg Head.name hhead).symm.trans (hname _ _ raw.tag.name)

end Documents

/-- Events with a tag make a document and an arena with a slot for each of its elements, in the
order of the tags. The slots are a tree: all but the first have a parent, which comes before them
and lists them once, and children ascend. Below an element is what comes right behind it, as much as
is inside of it, and that is what an iterator visits in this order before it stops. -/
theorem arena_in_document_order (es : List Event) (failure : Option Failure) (h : tagsOf es ≠ []) :
    ∃ d, Document.ofEvents es failure = .ok d ∧
      (Arena.ofEvents es).slots.length = d.elements.length ∧
      (∀ i < d.elements.length, (Arena.ofEvents es).parent? i = none ↔ i = 0) ∧
      (∀ i p, (Arena.ofEvents es).parent? i = some p →
        p < i ∧ ((Arena.ofEvents es).children p).count i = 1) ∧
      (∀ p, ((Arena.ofEvents es).children p).Pairwise (· < ·) ∧
        ∀ i ∈ (Arena.ofEvents es).children p, (Arena.ofEvents es).parent? i = some p) ∧
      ∀ i e, d.elements[i]? = some e →
        (∃ tag, (tagsOf es)[i]? = some tag ∧ e.name = (splitName tag.name).2) ∧
        ((Arena.ofEvents es).children i).map (d.elements[·]?) = e.children.map some ∧
        e.descendants = (d.elements.drop (i + 1)).take e.descendants.length ∧
        (∀ visited, (Arena.ofEvents es).Visits ((Arena.ofEvents es).children i) visited ↔
          visited = List.range' (i + 1) e.descendants.length) ∧
        ∀ j, (Arena.ofEvents es).IsAbove i j ↔ i < j ∧ j ≤ i + e.descendants.length := by
  have hnodes := Skeleton.run_nodes_ne_nil (s := .initial) (.inr h)
  obtain ⟨d, hd⟩ : ∃ d, Document.ofEvents es failure = .ok d := ofEvents_isOk_iff.mpr hnodes
  have htree := Arena.ofEvents_isTree es
  have hlength : (Arena.ofEvents es).slots.length = d.elements.length := by
    have hparents := congrArg List.length (parents_ofEvents hd)
    rwa [Arena.parents, List.length_map, Forest.length_parents, ← elements_eq_all] at hparents
  refine ⟨d, hd, hlength, fun i hi => htree.root_iff i (hlength ▸ hi),
    fun i p hp => ⟨htree.parent_lt i p hp, htree.count_children hp⟩,
    fun p => ⟨htree.children_ascending p, fun i => htree.mem_children_iff.mp⟩, fun i e he => ?_⟩
  have hinner := inner_prefix_elements he
  have hvisits : (Arena.ofEvents es).Visits ((Arena.ofEvents es).children i)
      (List.range' (i + 1) e.descendants.length) := by
    have hdone : (Arena.ofEvents es).Visits [] [] := .done rfl
    have hall := Forest.visits (fun j e' he' => children_ofEvents hd he') hinner hdone
    rwa [List.append_nil, List.append_nil, ← children_ofEvents hd he] at hall
  refine ⟨name_of_ofEvents hd he, ?children, ?descendants, ?visits, ?ancestors⟩
  case children =>
    rw [children_ofEvents hd he]
    exact Forest.getElem?_places hinner
  case descendants => exact List.prefix_iff_eq_take.mp hinner
  case visits =>
    intro visited
    constructor
    · exact hvisits.unique
    · rintro rfl
      exact hvisits
  case ancestors =>
    intro j
    rw [htree.isAbove_iff hvisits, List.mem_range'_1]
    omega

/-- An end too many, elements that are never closed, and a tag behind the root. -/
def unevenEvents : List Event :=
  [.close, .start ⟨"a", []⟩, .empty ⟨"b", []⟩, .text "t", .start ⟨"c", []⟩, .start ⟨"d", []⟩,
    .close, .close, .close, .close, .start ⟨"e", []⟩]

theorem arena_in_document_order_uneven :
    ∃ d, Document.ofEvents unevenEvents none = .ok d ∧ d.elements.length = 4 ∧
      (Arena.ofEvents unevenEvents).Visits [1, 2] [1, 2, 3] := by
  obtain ⟨d, hd, hlength, -, -, -, helements⟩ :=
    arena_in_document_order unevenEvents none (by decide)
  have hfour : d.elements.length = 4 := hlength.symm.trans (by decide)
  obtain ⟨-, -, hdescendants, hvisits, -⟩ := helements 0 d.root rfl
  have hthree : d.root.descendants.length = 3 := Nat.succ.inj hfour
  rw [hthree] at hvisits
  exact ⟨d, hd, hfour, (hvisits _).mpr rfl⟩

end EtlSurvey.Markup
