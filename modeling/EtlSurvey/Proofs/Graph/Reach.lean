import EtlSurvey.Proofs.Graph.Breadth
import EtlSurvey.Proofs.Graph.ControlFlow
import EtlSurvey.Proofs.Graph.Invocation

/-! # What a package or an executable leads to

The packages below and above a package are listed nearest first and without the package itself.
Invocations are looked up by their parents on the way down and by their children on the way up, so
that one package is below another exactly if the other is above it. An executable is below itself
if it is on a cycle. The chain of a package follows every path of invocations that repeats no
package, so it comes to the same packages as the list, to each as often as there are paths. -/

namespace EtlSurvey

open EtlSurvey.Graph
open Relation (TransGen ReflTransGen)

theorem Graph.ListsByDistance.congr {α : Type} {r : α → α → Prop} {a : α} {p q : α → Prop}
    {items : List α} (h : ListsByDistance r a p items) (hpq : ∀ b, p b ↔ q b) :
    ListsByDistance r a q items :=
  ⟨h.nodup, fun b => (h.mem_iff b).trans (hpq b), h.nearest_first⟩

namespace ControlFlow

theorem allChildren_listed (g : ControlFlow) (id : String) :
    ListsByDistance (Joins g.edges) id (TransGen (Joins g.edges) id) (g.allChildren id) := by
  have hvisits : Visits g.children [] (g.children id) (g.allChildren id) := by
    refine spreadUnseen_visits g.edges (·.source) (fun _ => ?_) _ ?_
    · rw [children, List.length_map]
    · have hhere := List.length_filter_le (·.source == id) g.edges
      have hall := List.length_filter_le (fun e => !([] : List String).contains e.source) g.edges
      rw [children, List.length_map, unused]
      omega
  rw [← leads_children]
  exact (hvisits.listsReached (List.nil_subset _)).congr fun n => and_iff_right List.not_mem_nil

theorem mem_allChildren_self {g : ControlFlow} {id : String} : id ∈ g.allChildren id ↔
    ∃ cycle, IsCycle (Joins g.edges) cycle ∧ id ∈ cycle := by
  rw [(g.allChildren_listed id).mem_iff, ← leads_children]
  exact transGen_self_iff

end ControlFlow

namespace InvocationGraph

section Listed

variable (g : InvocationGraph) (n : String)

/-- Invocations of one side of a package get into the queue once each. -/
theorem visits_of_calls (next : String → List String) (source : String × String → String)
    (hnext : ∀ n, (next n).length = (g.calls.filter (source · == n)).length) :
    Visits next [n] (next n) (spread next g.bound [n] (next n)) := by
  refine spread_visits g.calls source hnext g.bound ?_
  have hunused := length_unused_cons g.calls source (List.not_mem_nil (a := n))
  have hall := List.length_filter_le (fun e => !([] : List String).contains (source e)) g.calls
  rw [hnext, hunused, unused, bound]
  omega

theorem allChildren_listed : ListsByDistance (Leads g.children) n
    (fun m => m ≠ n ∧ TransGen (Leads g.children) n m) (g.allChildren n) := by
  have hvisits := g.visits_of_calls n g.children (·.1) fun _ =>
    List.length_map ..
  exact (hvisits.listsReached (List.Subset.refl _)).congr fun m => by rw [List.mem_singleton]

theorem allParents_listed : ListsByDistance (Leads g.parents) n
    (fun m => m ≠ n ∧ TransGen (Leads g.parents) n m) (g.allParents n) := by
  have hvisits := g.visits_of_calls n g.parents (·.2) fun _ =>
    List.length_map ..
  exact (hvisits.listsReached (List.Subset.refl _)).congr fun m => by rw [List.mem_singleton]

end Listed

section OfDependencies

variable (names : List String) (dependencies : List Dependency)

theorem leads_children :
    Leads (ofDependencies names dependencies).children = Invokes names dependencies := by
  funext a b
  rw [Leads, mem_children, mem_calls]

theorem leads_parents : Leads (ofDependencies names dependencies).parents =
    Function.swap (Invokes names dependencies) := by
  funext a b
  show (b ∈ (ofDependencies names dependencies).parents a) = Invokes names dependencies b a
  rw [mem_parents, mem_calls]

end OfDependencies

/-- The packages below a package and those above it are listed by distance, without the package
itself, and each is above those that are below it. What an executable leads to is listed by
distance as well, with the executable itself exactly if it is on a cycle. -/
theorem reached_nodes_listed (names : List String) (dependencies : List Dependency) :
    let g := ofDependencies names dependencies
    let invokes := Invokes names dependencies
    (∀ a, ListsByDistance invokes a (fun b => b ≠ a ∧ TransGen invokes a b) (g.allChildren a)) ∧
    (∀ b, ListsByDistance (Function.swap invokes) b (fun a => a ≠ b ∧ TransGen invokes a b)
      (g.allParents b)) ∧
    (∀ a b, b ∈ g.allChildren a ↔ a ∈ g.allParents b) ∧
    ∀ (flow : ControlFlow) (id : String),
      ListsByDistance (ControlFlow.Joins flow.edges) id
        (TransGen (ControlFlow.Joins flow.edges) id) (flow.allChildren id) ∧
      (id ∈ flow.allChildren id ↔
        ∃ cycle, IsCycle (ControlFlow.Joins flow.edges) cycle ∧ id ∈ cycle) := by
  intro g invokes
  have hdown : ∀ a, ListsByDistance invokes a (fun b => b ≠ a ∧ TransGen invokes a b)
      (g.allChildren a) := by
    intro a
    have h := g.allChildren_listed a
    rwa [leads_children] at h
  have hup : ∀ b, ListsByDistance (Function.swap invokes) b
      (fun a => a ≠ b ∧ TransGen invokes a b) (g.allParents b) := by
    intro b
    have h := g.allParents_listed b
    rw [leads_parents] at h
    exact h.congr fun a => and_congr_right fun _ => Relation.transGen_swap
  refine ⟨hdown, hup, fun a b => ?_, fun flow id =>
    ⟨flow.allChildren_listed id, ControlFlow.mem_allChildren_self⟩⟩
  rw [(hdown a).mem_iff, (hup b).mem_iff, ne_comm]

section Chain

variable (g : InvocationGraph) (start : String)

theorem children_subset_from (n : String) : g.children n ⊆ start :: g.nodes :=
  fun _ hm => .tail _ (g.children_subset_nodes n hm)

/-- The walk may start from a name that no package has and nothing runs. -/
theorem length_from_lt_bound : (start :: g.nodes).length < g.bound := by
  rw [List.length_cons, nodes, List.length_append, List.length_map, bound]
  omega

theorem mem_executionChain_iff {n : String} :
    n ∈ g.executionChain start ↔ n = start ∨ n ∈ g.allChildren start := by
  have hreach : n ∈ g.executionChain start ↔ ReflTransGen (Leads g.children) start n :=
    ⟨reaches_of_mem_simplePathEnds, mem_simplePathEnds (fun n _ => g.children_subset_from start n)
      (g.length_from_lt_bound start).le List.mem_cons_self⟩
  rw [hreach, Relation.reflTransGen_iff_eq_or_transGen, (g.allChildren_listed start).mem_iff]
  by_cases heq : n = start
  · simp [heq]
  · simp [heq]

/-- The paths whose ends a chain lists. -/
def chainPaths : List (List String) := simplePaths g.children g.bound [] start

theorem mem_chainPaths {path : List String} :
    path ∈ g.chainPaths start ↔ IsSimplePath (Leads g.children) start path :=
  mem_simplePaths_iff (fun n _ => g.children_subset_from start n) (g.length_from_lt_bound start).le
    List.mem_cons_self

theorem executionChain_of_le {fuel : Nat} (h : g.bound ≤ fuel) :
    simplePathEnds g.children fuel [] start = g.executionChain start :=
  simplePathEnds_of_le (fun n _ => g.children_subset_from start n)
    (g.length_from_lt_bound start) h List.nodup_nil
    (List.nil_subset _) List.mem_cons_self

end Chain

/-- Tasks that run the same package count once. -/
theorem nodup_children (names : List String) (dependencies : List Dependency) (n : String) :
    ((ofDependencies names dependencies).children n).Nodup := by
  refine List.Nodup.map_on (fun a ha b hb heq => ?_) ((nodup_eraseDups _).filter _)
  have hparent : a.1 = n ∧ b.1 = n :=
    ⟨beq_iff_eq.mp (List.mem_filter.mp ha).2, beq_iff_eq.mp (List.mem_filter.mp hb).2⟩
  exact Prod.ext (hparent.1.trans hparent.2.symm) heq

/-- A chain lists the ends of all paths of invocations that begin at its start and repeat no
package, in depth-first order. So a package is in it as often as there are such paths to it, and
the packages in it are the start and those below it. The depth of the walk is bounded by the size
of the graph. -/
theorem chains_follow_simple_paths (names : List String) (dependencies : List Dependency)
    (start : String) :
    let g := ofDependencies names dependencies
    let invokes := Invokes names dependencies
    (∃ paths : List (List String),
      (g.executionChain start).map some = paths.map List.getLast? ∧
      (∀ path, path ∈ paths ↔ IsSimplePath invokes start path) ∧ paths.Nodup ∧
      paths.Pairwise (Earlier g.children)) ∧
    (∀ n, ((g.executionChain start).count n : ℕ∞) =
      {path | IsSimplePath invokes start path ∧ path.getLast? = some n}.encard) ∧
    (∀ n, n ∈ g.executionChain start ↔ n = start ∨ n ∈ g.allChildren start) ∧
    ∀ fuel, g.bound ≤ fuel → simplePathEnds g.children fuel [] start = g.executionChain start := by
  intro g invokes
  have hinvokes : Leads g.children = invokes := leads_children names dependencies
  have hnodup : ∀ n, (g.children n).Nodup := nodup_children names dependencies
  refine ⟨⟨g.chainPaths start, map_some_simplePathEnds, fun path => ?_,
    simplePaths_earlier.imp (Earlier.ne hnodup), simplePaths_earlier⟩, fun n => ?_,
    fun n => g.mem_executionChain_iff start, fun fuel => g.executionChain_of_le start⟩
  · rw [mem_chainPaths, hinvokes]
  · rw [← hinvokes]
    exact count_simplePathEnds_eq_encard (fun n _ => g.children_subset_from start n)
      (g.length_from_lt_bound start).le List.mem_cons_self hnodup

end InvocationGraph

end EtlSurvey
