import EtlSurvey.Proofs.Dictionary
import EtlSurvey.Proofs.Graph.Cycle

/-! # The peeled order is complete exactly when the graph has no cycle

While nodes are taken off, the count of a node is the number of edges into it from the nodes that
are left, edge by edge, and the queue holds the nodes that are left with a count of zero. So a
count is never taken below zero. When the queue runs empty, each node that is left has an edge
into it from another one, which on a finite graph without cycles means that none is left. -/

namespace EtlSurvey.Graph

open Relation (TransGen ReflTransGen)

variable {α : Type} [BEq α]

/-- Edges into a node from the nodes of a list. -/
def pending (next : α → List α) (left : List α) (n : α) : Nat := (left.flatMap next).count n

/-- Counts as they stand for the nodes. -/
def table (nodes : List α) (f : α → Nat) : List (α × Nat) := nodes.map fun n => (n, f n)

/-- Takes one incoming edge from a node's count, unless the count is zero already. -/
def releaseChecked (state : List (α × Nat) × List α) (node : α) :
    Option (List (α × Nat) × List α) :=
  if state.1.lookup node = some 0 then none else some (release state node)

/-- Takes nodes off the graph as long as no count would go below zero. -/
def peelChecked (next : α → List α) : Nat → List α → List (α × Nat) → Option (List α)
  | 0, _, _ => some []
  | _, [], _ => some []
  | fuel + 1, node :: queue, counts => do
    let (counts, freed) ← (next node).foldlM releaseChecked (counts, [])
    return node :: (← peelChecked next fuel (queue ++ freed) counts)

/-- The order of all nodes, unless a count would go below zero on the way to it. -/
def topologicalOrderChecked (next : α → List α) (incoming : α → Nat) (nodes : List α) :
    Option (Option (List α)) := do
  let order ← peelChecked next nodes.length (nodes.filter (incoming · == 0))
    (nodes.map fun n => (n, incoming n))
  return if order.length == nodes.length then some order else none

/-- An order in which nodes come off a graph, each without incoming edges when its turn comes, and
the nodes that stay, each with an edge into it. -/
inductive PeelsTo (next : α → List α) : List α → List α → List α → Prop
  | stuck (left : List α) (h : ∀ n ∈ left, pending next left n ≠ 0) : PeelsTo next left [] left
  | take {left order rest : List α} (node : α) (hleft : node ∈ left)
      (hfree : pending next left node = 0) (h : PeelsTo next (left.erase node) order rest) :
      PeelsTo next left (node :: order) rest

variable [LawfulBEq α]

section Release

variable {nodes ms : List α} {f : α → Nat} {node : α}

theorem lookup_table (h : node ∈ nodes) : (table nodes f).lookup node = some (f node) :=
  lookup_map_pair f h

theorem release_table (freed : List α) (h : node ∈ nodes) :
    release (table nodes f, freed) node =
      (table nodes fun n => f n - [node].count n,
        if f node = 1 then freed ++ [node] else freed) := by
  rw [release]
  simp only [lookup_table h, beq_iff_eq]
  refine Prod.ext ?_ rfl
  rw [table, table, List.map_map]
  refine List.map_congr_left fun n _ => ?_
  by_cases hn : n = node
  · subst hn
    simp
  · simp [hn, Ne.symm hn]

/-- Edges out of one node are taken off one by one. Freed are the nodes all of whose edges were
among them. -/
theorem foldl_release (freed : List α) (hms : ms ⊆ nodes) (hle : ∀ n, ms.count n ≤ f n) :
    ∃ new, ms.foldl release (table nodes f, freed) =
        (table nodes fun n => f n - ms.count n, freed ++ new) ∧
      ms.foldlM releaseChecked (table nodes f, freed) =
        some (ms.foldl release (table nodes f, freed)) ∧
      new.Nodup ∧ ∀ n, n ∈ new ↔ n ∈ ms ∧ f n = ms.count n := by
  induction ms generalizing f freed with
  | nil => exact ⟨[], by simp, by simp, List.nodup_nil, by simp⟩
  | cons m rest ih =>
    obtain ⟨hm, hrest⟩ := List.cons_subset.mp hms
    have hsplit : ∀ n, (m :: rest).count n = [m].count n + rest.count n := by
      intro n
      rw [← List.singleton_append, List.count_append]
    have hle' : ∀ n, rest.count n ≤ f n - [m].count n := by
      intro n
      have := hle n
      rw [hsplit] at this
      omega
    have hpos : f m ≠ 0 := by
      have := hle m
      rw [List.count_cons_self] at this
      omega
    have hchecked : releaseChecked (table nodes f, freed) m =
        some (release (table nodes f, freed) m) := by
      rw [releaseChecked, lookup_table hm, if_neg (by simpa using hpos)]
    rw [List.foldl_cons, List.foldlM_cons, hchecked, release_table freed hm]
    obtain ⟨new, hfold, hfoldM, hnodup, hmem⟩ :=
      ih (if f m = 1 then freed ++ [m] else freed) hrest hle'
    have hcounts : (table nodes fun n => f n - [m].count n - rest.count n) =
        table nodes fun n => f n - (m :: rest).count n := by
      congr 1
      funext n
      rw [hsplit, Nat.sub_sub]
    by_cases hone : f m = 1
    · -- the last edge into `m`, which does not come again
      have hlast : m ∉ rest := by
        have := hle m
        rw [List.count_cons_self] at this
        exact List.count_eq_zero.mp (by omega)
      refine ⟨m :: new, ?_, hfoldM, ?_, ?_⟩
      · rw [hfold, hcounts, if_pos hone, List.append_assoc, List.singleton_append]
      · exact List.nodup_cons.mpr ⟨fun h => hlast ((hmem m).mp h).1, hnodup⟩
      · intro n
        rw [List.mem_cons, List.mem_cons, hmem, hsplit]
        by_cases hn : n = m
        · subst hn
          simp [hone, List.count_eq_zero.mpr hlast]
        · simp [hn, Ne.symm hn]
    · refine ⟨new, ?_, hfoldM, hnodup, ?_⟩
      · rw [hfold, hcounts, if_neg hone]
      · intro n
        rw [List.mem_cons, hmem, hsplit]
        by_cases hn : n = m
        · subst hn
          have := hle' n
          rw [List.count_singleton_self] at this ⊢
          have hcount := List.count_pos_iff (a := n) (l := rest)
          constructor
          · rintro ⟨-, h⟩
            exact ⟨.inl rfl, by omega⟩
          · rintro ⟨-, h⟩
            exact ⟨hcount.mp (by omega), by omega⟩
        · simp [hn, Ne.symm hn]

end Release

section Pending

variable {next : α → List α} {left : List α} {a b node n : α}

theorem pending_erase (h : node ∈ left) (n : α) :
    pending next left n = (next node).count n + pending next (left.erase node) n := by
  have hperm := (List.perm_cons_erase h).flatMap_right next
  rw [pending, hperm.count_eq, List.flatMap_cons, List.count_append, pending]

theorem pending_ne_zero_iff : pending next left n ≠ 0 ↔ ∃ a ∈ left, n ∈ next a := by
  rw [pending, ← Nat.pos_iff_ne_zero, List.count_pos_iff, List.mem_flatMap]

theorem count_le_pending (h : node ∈ left) (n : α) : (next node).count n ≤ pending next left n := by
  rw [pending_erase h]
  omega

/-- One more edge is one more for its target, wherever it leaves from. -/
theorem pending_add_edge {next' : α → List α} (hnodup : left.Nodup) (ha : a ∈ left)
    (hnext : next' a = b :: next a) (hother : ∀ n ≠ a, next' n = next n) (n : α) :
    pending next' left n = [b].count n + pending next left n := by
  have hrest : pending next' (left.erase a) n = pending next (left.erase a) n := by
    rw [pending, pending, List.flatMap, List.flatMap,
      List.map_congr_left fun m hm => hother m (hnodup.mem_erase_iff.mp hm).1]
  rw [pending_erase ha, pending_erase ha n, hnext, hrest, ← List.singleton_append,
    List.count_append, Nat.add_assoc]

end Pending

/-- The state of the peeling: `left` holds the nodes that are not taken yet. -/
structure Peeling (next : α → List α) (nodes left queue : List α) : Prop where
  within : left ⊆ nodes
  nodup : left.Nodup
  queue_nodup : queue.Nodup
  mem_queue : ∀ n, n ∈ queue ↔ n ∈ left ∧ pending next left n = 0
  mem_left : ∀ n, pending next left n ≠ 0 → n ∈ left

section Step

variable {next : α → List α} {nodes left queue : List α} {node : α}

/-- One node is taken: the queue gains the nodes whose last edges came from it. -/
theorem Peeling.take (h : Peeling next nodes left (node :: queue)) :
    ∃ new, (next node).foldl release (table nodes (pending next left), []) =
        (table nodes (pending next (left.erase node)), new) ∧
      (next node).foldlM releaseChecked (table nodes (pending next left), []) =
        some (table nodes (pending next (left.erase node)), new) ∧
      Peeling next nodes (left.erase node) (queue ++ new) := by
  obtain ⟨hleft, hfree⟩ := (h.mem_queue node).mp List.mem_cons_self
  obtain ⟨hnew, hqueue⟩ := List.nodup_cons.mp h.queue_nodup
  have hsplit : ∀ n, pending next left n =
      (next node).count n + pending next (left.erase node) n := pending_erase hleft
  have hnext : ∀ m ∈ next node, m ∈ left := by
    intro m hm
    exact h.mem_left m (pending_ne_zero_iff.mpr ⟨node, hleft, hm⟩)
  obtain ⟨new, hfold, hchecked, hnodup, hmem⟩ :=
    foldl_release [] (fun m hm => h.within (hnext m hm)) (count_le_pending hleft)
  have hcounts : (fun n => pending next left n - (next node).count n) =
      pending next (left.erase node) := by
    funext n
    have := hsplit n
    omega
  rw [hcounts, List.nil_append] at hfold
  rw [hfold] at hchecked
  refine ⟨new, hfold, hchecked, ?_, h.nodup.erase node, ?_, ?_, ?_⟩
  · exact fun n hn => h.within (List.mem_of_mem_erase hn)
  · rw [List.nodup_append]
    refine ⟨hqueue, hnodup, fun a ha b hb => ?_⟩
    rintro rfl
    have hzero := ((h.mem_queue a).mp (.tail _ ha)).2
    have hpos := List.count_pos_iff.mpr ((hmem a).mp hb).1
    have := hsplit a
    omega
  · intro n
    have hn := hsplit n
    rw [List.mem_append, h.nodup.mem_erase_iff, hmem]
    constructor
    · rintro (hq | ⟨hout, hall⟩)
      · obtain ⟨hl, hzero⟩ := (h.mem_queue n).mp (.tail _ hq)
        refine ⟨⟨fun heq => hnew (heq ▸ hq), hl⟩, by omega⟩
      · have hpos := List.count_pos_iff.mpr hout
        refine ⟨⟨?_, hnext n hout⟩, by omega⟩
        rintro rfl
        omega
    · rintro ⟨⟨hne, hl⟩, hzero⟩
      by_cases hout : n ∈ next node
      · exact .inr ⟨hout, by omega⟩
      · rw [List.count_eq_zero.mpr hout] at hn
        have hq := (h.mem_queue n).mpr ⟨hl, by omega⟩
        exact .inl ((List.mem_cons.mp hq).resolve_left hne)
  · intro n hn
    have hpending := hsplit n
    refine (h.nodup.mem_erase_iff).mpr ⟨?_, h.mem_left n (by omega)⟩
    rintro rfl
    omega

/-- The run takes no count below zero and stops only when nothing is free. -/
theorem peel_spec (fuel : Nat) (h : Peeling next nodes left queue) (hfuel : left.length ≤ fuel) :
    peelChecked next fuel queue (table nodes (pending next left)) =
        some (peel next fuel queue (table nodes (pending next left))) ∧
      ∃ rest, PeelsTo next left (peel next fuel queue (table nodes (pending next left))) rest := by
  induction fuel generalizing left queue with
  | zero =>
    obtain rfl : left = [] := List.eq_nil_of_length_eq_zero (by omega)
    exact ⟨rfl, [], .stuck [] (by simp)⟩
  | succ fuel ih =>
    cases queue with
    | nil =>
      refine ⟨rfl, left, .stuck left fun n hn hzero => ?_⟩
      exact List.not_mem_nil ((h.mem_queue n).mpr ⟨hn, hzero⟩)
    | cons node queue =>
      obtain ⟨hleft, hfree⟩ := (h.mem_queue node).mp List.mem_cons_self
      obtain ⟨new, hfold, hchecked, hnext⟩ := h.take
      have hlen := List.length_erase_of_mem hleft
      have hpos := List.length_pos_of_mem hleft
      obtain ⟨hrun, rest, hpeels⟩ := ih hnext (by omega)
      rw [peelChecked, hchecked, peel, hfold]
      refine ⟨?_, rest, .take node hleft hfree hpeels⟩
      show (peelChecked next fuel _ _).bind _ = _
      rw [hrun]
      rfl

end Step

section Order

variable {next : α → List α} {left order rest : List α}

theorem PeelsTo.stays (h : PeelsTo next left order rest) :
    ∀ n ∈ rest, ∃ a ∈ rest, Leads next a n := by
  induction h with
  | stuck left h =>
    intro n hn
    exact pending_ne_zero_iff.mp (h n hn)
  | take _ _ _ _ ih => exact ih

theorem PeelsTo.perm (h : PeelsTo next left order rest) : left.Perm (order ++ rest) := by
  induction h with
  | stuck left => exact .refl left
  | take node hleft _ _ ih => exact (List.perm_cons_erase hleft).trans (ih.cons node)

theorem PeelsTo.before (h : PeelsTo next left order rest) (hnodup : left.Nodup) {a b : α}
    (ha : a ∈ left) (hb : b ∈ order) (hab : Leads next a b) :
    a ∈ order ∧ order.idxOf a < order.idxOf b := by
  induction h with
  | stuck => cases hb
  | @take left order rest node hleft hfree _ ih =>
    have hne : b ≠ node := by
      rintro rfl
      exact pending_ne_zero_iff.mpr ⟨a, ha, hab⟩ hfree
    have hb := (List.mem_cons.mp hb).resolve_left hne
    rw [List.idxOf_cons_ne _ hne.symm]
    by_cases heq : a = node
    · subst heq
      exact ⟨List.mem_cons_self, by simp⟩
    · have ha' : a ∈ left.erase node := (List.mem_erase_of_ne heq).mpr ha
      obtain ⟨hin, hlt⟩ := ih (hnodup.erase node) ha' hb
      rw [List.idxOf_cons_ne _ (Ne.symm heq)]
      exact ⟨.tail _ hin, by omega⟩

theorem PeelsTo.rest_eq_nil (h : PeelsTo next left order rest) (hacyclic : Acyclic (Leads next)) :
    rest = [] := by
  by_cases hne : rest = []
  · exact hne
  · obtain ⟨n, hn, hsource⟩ := hacyclic.exists_source rest hne
    obtain ⟨a, ha, hedge⟩ := h.stays n hn
    exact absurd (.single hedge) (hsource a ha)

end Order

/-- Every edge joins two of the nodes. -/
structure Spans (next : α → List α) (nodes : List α) : Prop where
  nodup : nodes.Nodup
  sources : ∀ n, next n ≠ [] → n ∈ nodes
  targets : ∀ n, next n ⊆ nodes

theorem Spans.start {next : α → List α} {nodes : List α} (h : Spans next nodes) :
    Peeling next nodes nodes (nodes.filter (pending next nodes · == 0)) where
  within _ hn := hn
  nodup := h.nodup
  queue_nodup := h.nodup.filter _
  mem_queue n := by rw [List.mem_filter, beq_iff_eq]
  mem_left n hn := by
    obtain ⟨a, -, hedge⟩ := pending_ne_zero_iff.mp hn
    exact h.targets a hedge

section TopologicalOrder

variable {next : α → List α} {incoming : α → Nat} {nodes : List α}

omit [LawfulBEq α] in
theorem start_counts (hincoming : ∀ n ∈ nodes, incoming n = pending next nodes n) :
    nodes.filter (incoming · == 0) = nodes.filter (pending next nodes · == 0) ∧
      nodes.map (fun n => (n, incoming n)) = table nodes (pending next nodes) := by
  constructor
  · exact List.filter_congr fun n hn => by rw [hincoming n hn]
  · exact List.map_congr_left fun n hn => by rw [hincoming n hn]

theorem peel_from_start (h : Spans next nodes)
    (hincoming : ∀ n ∈ nodes, incoming n = pending next nodes n) :
    peelChecked next nodes.length (nodes.filter (incoming · == 0))
        (nodes.map fun n => (n, incoming n)) =
      some (peel next nodes.length (nodes.filter (incoming · == 0))
        (nodes.map fun n => (n, incoming n))) ∧
    ∃ rest, PeelsTo next nodes (peel next nodes.length (nodes.filter (incoming · == 0))
      (nodes.map fun n => (n, incoming n))) rest := by
  obtain ⟨hqueue, hcounts⟩ := start_counts hincoming
  rw [hqueue, hcounts]
  exact peel_spec nodes.length h.start (Nat.le_refl _)

theorem topologicalOrderChecked_eq (h : Spans next nodes)
    (hincoming : ∀ n ∈ nodes, incoming n = pending next nodes n) :
    topologicalOrderChecked next incoming nodes = some (topologicalOrder next incoming nodes) := by
  obtain ⟨hrun, -⟩ := peel_from_start h hincoming
  rw [topologicalOrderChecked, hrun]
  rfl

/-- An order that lists every node once, and an edge's source before its target. -/
structure IsTopological (next : α → List α) (nodes order : List α) : Prop where
  perm : order.Perm nodes
  forward : ∀ a b, Leads next a b → order.idxOf a < order.idxOf b

omit [LawfulBEq α] in
theorem IsTopological.acyclic {order : List α} (h : IsTopological next nodes order) :
    Acyclic (Leads next) := by
  intro n hcycle
  have hlt : ∀ {b}, TransGen (Leads next) n b → order.idxOf n < order.idxOf b := by
    intro b hb
    induction hb with
    | single hedge => exact h.forward _ _ hedge
    | tail _ hedge ih => exact ih.trans (h.forward _ _ hedge)
  exact Nat.lt_irrefl _ (hlt hcycle)

theorem topologicalOrder_isTopological (h : Spans next nodes)
    (hincoming : ∀ n ∈ nodes, incoming n = pending next nodes n) {order : List α}
    (horder : topologicalOrder next incoming nodes = some order) :
    IsTopological next nodes order := by
  obtain ⟨-, rest, hpeels⟩ := peel_from_start h hincoming
  rw [topologicalOrder] at horder
  split at horder
  next hlen =>
    obtain rfl := Option.some.inj horder
    -- all nodes are in the order, so none stays
    obtain rfl : rest = [] := by
      have := hpeels.perm.length_eq
      rw [List.length_append] at this
      have := eq_of_beq hlen
      exact List.eq_nil_of_length_eq_zero (by omega)
    have hperm := hpeels.perm
    rw [List.append_nil] at hperm
    refine ⟨hperm.symm, fun a b hab => ?_⟩
    have ha : a ∈ nodes := h.sources a (List.ne_nil_of_mem hab)
    have hb := hperm.mem_iff.mp (h.targets a hab)
    exact (hpeels.before h.nodup ha hb hab).2
  next => cases horder

theorem topologicalOrder_isSome_iff (h : Spans next nodes)
    (hincoming : ∀ n ∈ nodes, incoming n = pending next nodes n) :
    (topologicalOrder next incoming nodes).isSome ↔ Acyclic (Leads next) := by
  constructor
  · intro hsome
    obtain ⟨order, horder⟩ := Option.isSome_iff_exists.mp hsome
    exact (topologicalOrder_isTopological h hincoming horder).acyclic
  · intro hacyclic
    obtain ⟨-, rest, hpeels⟩ := peel_from_start h hincoming
    obtain rfl := hpeels.rest_eq_nil hacyclic
    have hlen := hpeels.perm.length_eq
    rw [List.append_nil] at hlen
    rw [topologicalOrder, if_pos (by rw [← hlen]; exact beq_self_eq_true _)]
    rfl

end TopologicalOrder

end EtlSurvey.Graph
