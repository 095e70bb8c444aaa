import EtlSurvey.Graph.ControlFlow
import EtlSurvey.Proofs.Graph.Descent
import EtlSurvey.Proofs.Graph.Peel
import EtlSurvey.Proofs.Survey.FirstOfKey

/-! # What the control flow says about cycles and order

The edges of a package join nodes of its control flow, whether or not they name executables, and
every edge counts once for its source and once for its target. So both walks apply, and they agree
on whether there is a cycle. -/

namespace EtlSurvey

namespace ControlFlow

open EtlSurvey.Graph

/-- An edge leads from one node to the other. -/
def Joins (edges : List Edge) (a b : String) : Prop := ∃ e ∈ edges, e.source = a ∧ e.target = b

theorem leads_children (g : ControlFlow) : Leads g.children = Joins g.edges := by
  funext a b
  rw [Leads, children, Joins, List.mem_map]
  simp only [List.mem_filter, beq_iff_eq, and_assoc]

theorem mem_nodes {g : ControlFlow} {n : String} :
    n ∈ g.nodes ↔ n ∈ g.known ∨ ∃ e ∈ g.edges, n = e.source ∨ n = e.target := by
  rw [nodes, List.mem_eraseDups, List.mem_append, List.mem_flatMap]
  simp

theorem nodes_span (g : ControlFlow) : Spans g.children g.nodes where
  nodup := nodup_eraseDups _
  sources n hn := by
    obtain ⟨m, hm⟩ := List.exists_mem_of_ne_nil _ hn
    obtain ⟨e, he, hsource, -⟩ : Joins g.edges n m := leads_children g ▸ hm
    exact mem_nodes.mpr (.inr ⟨e, he, .inl hsource.symm⟩)
  targets n m hm := by
    obtain ⟨e, he, -, htarget⟩ : Joins g.edges n m := leads_children g ▸ hm
    exact mem_nodes.mpr (.inr ⟨e, he, .inr htarget.symm⟩)

/-- Each edge into a node is counted once, at its source. -/
theorem pending_of_edges {nodes : List String} (hnodup : nodes.Nodup) (edges : List Edge)
    (h : ∀ e ∈ edges, e.source ∈ nodes) (n : String) :
    (edges.filter (·.target == n)).length =
      pending (fun a => (edges.filter (·.source == a)).map (·.target)) nodes n := by
  induction edges with
  | nil =>
    have hzero : pending (fun _ => []) nodes n = 0 := by
      rw [pending, List.count_eq_zero]
      simp
    exact hzero.symm
  | cons e rest ih =>
    obtain ⟨he, hrest⟩ := List.forall_mem_cons.mp h
    have hadd : pending (fun a => ((e :: rest).filter (·.source == a)).map (·.target)) nodes n =
        [e.target].count n +
          pending (fun a => (rest.filter (·.source == a)).map (·.target)) nodes n :=
      pending_add_edge hnodup he (by simp) (fun m hm => by simp [Ne.symm hm]) n
    rw [hadd, ← ih hrest, List.filter_cons]
    by_cases htarget : e.target = n
    · simp [htarget, Nat.add_comm]
    · simp [htarget]

theorem parents_length (g : ControlFlow) :
    ∀ n ∈ g.nodes, (g.parents n).length = pending g.children g.nodes n := by
  intro n _
  rw [parents, List.length_map]
  refine pending_of_edges (nodup_eraseDups _) g.edges (fun e he => ?_) n
  exact mem_nodes.mpr (.inr ⟨e, he, .inl rfl⟩)

theorem findCycle_eq (g : ControlFlow) :
    g.findCycle = Graph.findCycle g.children (g.nodes.length + 1) g.nodes :=
  Graph.firstCycle_eq_findCycle (fun n _ => g.nodes_span.targets n) (Nat.lt_succ_self _)
    (List.Subset.refl _)

theorem findCycle_eq_none_iff (g : ControlFlow) :
    g.findCycle = none ↔ Acyclic (Joins g.edges) := by
  have hspan := g.nodes_span
  rw [findCycle_eq, ← leads_children]
  exact Graph.findCycle_eq_none_iff (fun n _ => hspan.targets n) (Nat.lt_succ_self _)
    (fun _ hn => hn) hspan.sources

theorem findCycle_isCycle {g : ControlFlow} {cycle : List String}
    (h : g.findCycle = some cycle) : IsCycle (Joins g.edges) cycle := by
  rw [findCycle_eq] at h
  rw [← leads_children]
  exact Graph.findCycle_isCycle (fun n _ => g.nodes_span.targets n) (Nat.lt_succ_self _)
    (fun _ hn => hn) h

theorem topologicalOrder_isSome_iff (g : ControlFlow) :
    g.topologicalOrder.isSome ↔ g.findCycle = none := by
  rw [findCycle_eq_none_iff, ← leads_children]
  exact Graph.topologicalOrder_isSome_iff g.nodes_span g.parents_length

theorem problems_about_cycles (g : ControlFlow) :
    g.problems.filter (·.code == .precedenceCycle) =
      g.findCycle.toList.map Cause.precedenceCycle := by
  have hunresolved : (g.unresolved.map Cause.unresolvedReference).filter
      (·.code == .precedenceCycle) = [] := by
    rw [List.filter_map]
    exact List.map_eq_nil_iff.mpr (List.filter_eq_nil_iff.mpr fun _ _ => Bool.false_ne_true)
  have hcycle : (g.findCycle.toList.map Cause.precedenceCycle).filter
      (·.code == .precedenceCycle) = g.findCycle.toList.map Cause.precedenceCycle := by
    cases g.findCycle <;> rfl
  rw [problems, List.filter_append, List.filter_append, hunresolved, hcycle]
  split
  · exact List.append_nil _
  · exact List.append_nil _

/-- Diagnostics about cycles. -/
def cycleDiagnostics (config : Config) (source : String) (g : ControlFlow) : List Diagnostic :=
  (diagnosticsOf config source g.validate.remarks).filter (·.code == .precedenceCycle)

theorem cycleDiagnostics_related (config : Config) (source : String) (g : ControlFlow) :
    (cycleDiagnostics config source g).map (·.related) = g.findCycle.toList := by
  rw [cycleDiagnostics, diagnosticsOf, validate, notesOf_foundAll, List.map_map, List.filter_map]
  have hfilter := g.problems_about_cycles
  show (((g.problems.filter (·.code == .precedenceCycle)).map _).map _) = _
  rw [hfilter, List.map_map, List.map_map]
  exact List.map_id _

/-- The cycle, the order and the diagnostics of a control flow, for any executables and edges. -/
theorem control_flow_analyzed (ids : List String) (edges : List Edge) (config : Config)
    (source : String) :
    let g := ofEdges ids edges
    ((g.findCycle = none ↔ Acyclic (Joins edges)) ∧
      ∀ cycle, g.findCycle = some cycle → IsCycle (Joins edges) cycle) ∧
    ((g.topologicalOrder.isSome ↔ g.findCycle = none) ∧
      (∀ order, g.topologicalOrder = some order →
        order.Nodup ∧
        (∀ n, n ∈ order ↔ n ∈ ids ∨ ∃ e ∈ edges, n = e.source ∨ n = e.target) ∧
        ∀ e ∈ edges, order.idxOf e.source < order.idxOf e.target) ∧
      topologicalOrderChecked g.children (fun id => (g.parents id).length) g.nodes =
        some g.topologicalOrder) ∧
    (cycleDiagnostics config source g).map (·.related) = g.findCycle.toList := by
  intro g
  refine ⟨⟨findCycle_eq_none_iff g, fun _ h => findCycle_isCycle h⟩,
    ⟨topologicalOrder_isSome_iff g, fun order horder => ?_,
      topologicalOrderChecked_eq g.nodes_span g.parents_length⟩,
    cycleDiagnostics_related config source g⟩
  have h := topologicalOrder_isTopological g.nodes_span g.parents_length horder
  refine ⟨h.perm.nodup_iff.mpr g.nodes_span.nodup, fun n => ?_, fun e he => ?_⟩
  · rw [h.perm.mem_iff, mem_nodes]
    show n ∈ ids.eraseDups ∨ _ ↔ _
    rw [List.mem_eraseDups]
    exact Iff.rfl
  · refine h.forward _ _ ?_
    rw [leads_children]
    exact ⟨e, he, rfl, rfl⟩

end ControlFlow
end EtlSurvey
