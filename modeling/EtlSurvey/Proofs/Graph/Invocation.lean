import EtlSurvey.Graph.Invocation
import EtlSurvey.Proofs.Graph.SimplePaths
import EtlSurvey.Proofs.Lists

/-! # Execution chains and the packages in them

Calls leave packages of the project only, so that going back along them ends at an entry point
unless they run in a circle. From there the chain of the entry point comes to every package that it
runs, however far down. A package that is in no chain therefore stands on its own. -/

namespace EtlSurvey

namespace InvocationGraph

open EtlSurvey.Graph
open Relation (ReflTransGen)

/-- A package of the project has a task that runs the other package. -/
def Invokes (names : List String) (dependencies : List Dependency) (a b : String) : Prop :=
  a ∈ names ∧ ∃ d ∈ dependencies, d.parent = a ∧ d.child = b

/-- Calls leave only packages of the project. -/
def FromPackages (g : InvocationGraph) : Prop := ∀ a b, (a, b) ∈ g.calls → a ∈ g.packages

section Calls

variable {g : InvocationGraph} {a b n : String}

theorem mem_children : b ∈ g.children a ↔ (a, b) ∈ g.calls := by
  simp [children]

theorem mem_parents : a ∈ g.parents b ↔ (a, b) ∈ g.calls := by
  simp [parents]

theorem mem_entryPoints : n ∈ g.entryPoints ↔ n ∈ g.packages ∧ ∀ a, (a, n) ∉ g.calls := by
  rw [entryPoints, List.mem_filter, List.isEmpty_iff, List.eq_nil_iff_forall_not_mem]
  simp only [mem_parents]

theorem mem_isolated : n ∈ g.isolated ↔
    n ∈ g.packages ∧ (∀ a, (a, n) ∉ g.calls) ∧ ∀ b, (n, b) ∉ g.calls := by
  rw [isolated, List.mem_filter, Bool.and_eq_true, List.isEmpty_iff, List.isEmpty_iff,
    List.eq_nil_iff_forall_not_mem, List.eq_nil_iff_forall_not_mem]
  simp only [mem_parents, mem_children]

end Calls

section OfDependencies

variable {names : List String} {dependencies : List Dependency} {a b n : String}

theorem mem_packages : n ∈ (ofDependencies names dependencies).packages ↔ n ∈ names :=
  mem_sortedDistinct

theorem mem_calls :
    (a, b) ∈ (ofDependencies names dependencies).calls ↔ Invokes names dependencies a b := by
  show (a, b) ∈ (List.map _ _).eraseDups ↔ _
  rw [List.mem_eraseDups, List.mem_map]
  constructor
  · rintro ⟨d, hd, heq⟩
    obtain ⟨rfl, rfl⟩ := Prod.mk.inj heq
    obtain ⟨hd, hparent⟩ := List.mem_filter.mp hd
    exact ⟨List.contains_iff_mem.mp hparent, d, hd, rfl, rfl⟩
  · rintro ⟨hparent, d, hd, rfl, rfl⟩
    exact ⟨d, List.mem_filter.mpr ⟨hd, List.contains_iff_mem.mpr hparent⟩, rfl⟩

theorem ofDependencies_fromPackages (names : List String) (dependencies : List Dependency) :
    (ofDependencies names dependencies).FromPackages :=
  fun _ _ hcall => mem_packages.mpr (mem_calls.mp hcall).1

theorem packages_ascending (names : List String) (dependencies : List Dependency) :
    (ofDependencies names dependencies).packages.Pairwise (· < ·) :=
  sortedDistinct_ascending names

end OfDependencies

section Walks

variable {g : InvocationGraph}

/-- The packages and whatever they run. -/
def nodes (g : InvocationGraph) : List String := g.packages ++ g.calls.map (·.2)

theorem children_subset_nodes (g : InvocationGraph) (n : String) : g.children n ⊆ g.nodes :=
  fun _ hm => List.mem_append_right _ (List.mem_map_of_mem (mem_children.mp hm))

theorem length_nodes_lt_bound (g : InvocationGraph) : g.nodes.length < g.bound := by
  rw [nodes, List.length_append, List.length_map, bound]
  omega

theorem findCycle_eq_none_iff (h : g.FromPackages) :
    g.findCycle = none ↔ Acyclic (Leads g.children) := by
  refine Graph.findCycle_eq_none_iff (fun n _ => g.children_subset_nodes n)
    g.length_nodes_lt_bound (List.subset_append_left ..) fun n hn => ?_
  obtain ⟨m, hm⟩ := List.exists_mem_of_ne_nil _ hn
  exact h n m (mem_children.mp hm)

theorem head_executionChain (g : InvocationGraph) (start : String) :
    (g.executionChain start).head? = some start := by
  rw [executionChain, bound, simplePathEnds]
  rfl

theorem mem_executionChain {start n : String} (hstart : start ∈ g.packages)
    (h : ReflTransGen (Leads g.children) start n) : n ∈ g.executionChain start :=
  mem_simplePathEnds (fun n _ => g.children_subset_nodes n) (Nat.le_of_lt g.length_nodes_lt_bound)
    (List.mem_append_left _ hstart) h

theorem mem_executionChains {chain : ExecutionChain} : chain ∈ g.executionChains ↔
    chain.entryPoint ∈ g.entryPoints ∧ chain.packages = g.executionChain chain.entryPoint ∧
      1 < chain.packages.length := by
  rw [executionChains, List.mem_filter, List.mem_map, decide_eq_true_eq]
  constructor
  · rintro ⟨⟨start, hstart, rfl⟩, hlength⟩
    exact ⟨hstart, rfl, hlength⟩
  · rintro ⟨hstart, hpackages, hlength⟩
    refine ⟨⟨chain.entryPoint, hstart, ?_⟩, hlength⟩
    rw [← hpackages]

/-- The chain of an entry point that runs something has more in it than the entry point, as
nothing runs that one. -/
theorem one_lt_length_executionChain {start m : String} (hstart : start ∈ g.entryPoints)
    (hm : m ∈ g.children start) : 1 < (g.executionChain start).length := by
  obtain ⟨hpackage, hnone⟩ := mem_entryPoints.mp hstart
  have hmem : m ∈ g.executionChain start := mem_executionChain hpackage (.single hm)
  obtain ⟨rest, hchain⟩ := List.head?_eq_some_iff.mp (g.head_executionChain start)
  rw [hchain] at hmem ⊢
  obtain rfl | hrest := List.mem_cons.mp hmem
  · exact absurd (mem_children.mp hm) (hnone m)
  · exact Nat.succ_lt_succ (List.length_pos_of_mem hrest)

end Walks

/-- Where packages do not run each other in a circle, every one of them is in the chain of some
entry point or stands on its own. Chains start with their entry points and go on from there. -/
theorem packages_scheduled (names : List String) (dependencies : List Dependency) :
    let g := ofDependencies names dependencies
    (g.findCycle = none → ∀ n ∈ names,
      n ∈ g.isolated ∨ ∃ chain ∈ g.executionChains, n ∈ chain.packages) ∧
    ∀ chain ∈ g.executionChains, chain.entryPoint ∈ g.entryPoints ∧
      chain.packages.head? = some chain.entryPoint ∧ 2 ≤ chain.packages.length := by
  intro g
  have hfrom : g.FromPackages := ofDependencies_fromPackages names dependencies
  constructor
  · intro hacyclic n hn
    obtain ⟨root, hroot, hreach, hsource⟩ :=
      ((findCycle_eq_none_iff hfrom).mp hacyclic).exists_root
        (fun a b hab => hfrom a b (mem_children.mp hab)) (mem_packages.mpr hn)
    have hfirst : ∀ a, (a, root) ∉ g.calls := fun a hcall => hsource a (mem_children.mpr hcall)
    have hentry : root ∈ g.entryPoints := mem_entryPoints.mpr ⟨hroot, hfirst⟩
    by_cases hleaf : ∃ m, m ∈ g.children root
    · obtain ⟨m, hm⟩ := hleaf
      right
      exact ⟨⟨root, g.executionChain root⟩,
        mem_executionChains.mpr ⟨hentry, rfl, one_lt_length_executionChain hentry hm⟩,
        mem_executionChain hroot hreach⟩
    · have hlast : ∀ b, (root, b) ∉ g.calls := fun b hcall => hleaf ⟨b, mem_children.mpr hcall⟩
      left
      obtain rfl | ⟨m, hm, -⟩ := hreach.cases_head
      · exact mem_isolated.mpr ⟨hroot, hfirst, hlast⟩
      · exact absurd ⟨m, hm⟩ hleaf
  · intro chain hchain
    obtain ⟨hentry, hpackages, hlength⟩ := mem_executionChains.mp hchain
    refine ⟨hentry, ?_, hlength⟩
    rw [hpackages, head_executionChain]

/-- Tasks of a project: one package is run twice, one is elsewhere, and one package that runs
another is not there. -/
def nightlyCalls : List Dependency :=
  [("Load", "Clean"), ("Clean", "Report"), ("Load", "Clean"), ("Clean", "Mail"),
    ("Old", "Load")].map fun (parent, child) => ⟨parent, child, "Run", "Package\\Run", none⟩

theorem packages_scheduled_nightlyCalls :
    let g := ofDependencies ["Report", "Load", "Solo", "Clean"] nightlyCalls
    g.findCycle = none ∧ "Solo" ∈ g.isolated ∧
      ∃ chain ∈ g.executionChains, "Report" ∈ chain.packages := by
  have h := (packages_scheduled ["Report", "Load", "Solo", "Clean"] nightlyCalls).1
    (by decide +kernel)
  refine ⟨by decide +kernel, by decide +kernel, ?_⟩
  exact (h "Report" (by decide)).resolve_left (by decide +kernel)

end InvocationGraph

end EtlSurvey
