import EtlSurvey.Proofs.Graph.Reach
import EtlSurvey.Proofs.Survey.Findings
import EtlSurvey.Survey.Project

/-! # What is reported of the invocations of a project

The search for a cycle starts from every package, and only packages run others, so it finds a cycle
if there is one, be it that of a package that runs itself. Children that are no packages lead
nowhere. Each of them is reported with the first task that runs it. -/

namespace EtlSurvey

open EtlSurvey.Graph

namespace InvocationGraph

variable {names : List String} {dependencies : List Dependency}

theorem findCycle_isCycle {g : InvocationGraph} {cycle : List String}
    (h : g.findCycle = some cycle) : IsCycle (Leads g.children) cycle :=
  Graph.findCycle_isCycle (fun n _ => g.children_subset_nodes n) g.length_nodes_lt_bound
    (List.subset_append_left ..) h

theorem filter_unknown (names : List String) (dependencies : List Dependency) :
    (dependencies.filter fun d => !(ofDependencies names dependencies).contains d.child) =
      dependencies.filter (·.child ∉ names) := by
  refine List.filter_congr fun d _ => ?_
  rw [Bool.eq_iff_iff, Bool.not_eq_true', Bool.eq_false_iff, decide_eq_true_eq, contains,
    ne_eq, List.contains_iff_mem, mem_packages]

end InvocationGraph

open InvocationGraph

section Problems

variable (g : InvocationGraph) (dependencies : List Dependency)

/-- The finding that a task runs a package from elsewhere. -/
def unknownChildOf (d : Dependency) : Cause := .unknownChild d.parent d.child d.taskId

theorem problems_unknown :
    (invocationProblems g dependencies).filter (·.code == .unknownChildPackage) =
      ((dependencies.filter fun d => !g.contains d.child).eraseDupsBy fun a b =>
        a.child == b.child).map unknownChildOf := by
  have hcycle : (g.findCycle.toList.map Cause.packageCycle).filter
      (·.code == .unknownChildPackage) = [] := by
    rw [List.filter_map]
    exact List.map_eq_nil_iff.mpr (List.filter_eq_nil_iff.mpr fun _ _ => Bool.false_ne_true)
  rw [invocationProblems, List.filter_append, hcycle, List.append_nil, List.filter_map]
  exact congrArg _ (List.filter_eq_self.mpr fun _ _ => rfl)

theorem problems_cycle :
    (invocationProblems g dependencies).filter (·.code == .circularPackageDependency) =
      g.findCycle.toList.map .packageCycle := by
  have hcycle : (g.findCycle.toList.map Cause.packageCycle).filter
      (·.code == .circularPackageDependency) = g.findCycle.toList.map .packageCycle := by
    cases g.findCycle <;> rfl
  rw [invocationProblems, List.filter_append, hcycle, List.filter_map]
  refine List.append_left_eq_self.mpr (List.map_eq_nil_iff.mpr ?_)
  exact List.filter_eq_nil_iff.mpr fun _ _ => Bool.false_ne_true

theorem problem_code {c : Cause} (h : c ∈ invocationProblems g dependencies) :
    c.code = .circularPackageDependency ∨ c.code = .unknownChildPackage := by
  obtain h | h := List.mem_append.mp h
  · obtain ⟨d, -, rfl⟩ := List.mem_map.mp h
    exact .inr rfl
  · obtain ⟨cycle, -, rfl⟩ := List.mem_map.mp h
    exact .inl rfl

end Problems

/-- A cycle is found exactly if invocations run in a circle, and what is found is one. Each child
that is no package is reported once, with the first task that runs it, and a cycle with the
packages on it, if there is one. Nothing else is reported. -/
theorem invocation_problems_reported (names : List String) (dependencies : List Dependency)
    (config : Config) (source : String) :
    let g := ofDependencies names dependencies
    let findings :=
      diagnosticsOf config source (foundAll (invocationProblems g dependencies)).remarks
    ((g.findCycle = none ↔ Acyclic (Invokes names dependencies)) ∧
      ∀ cycle, g.findCycle = some cycle → IsCycle (Invokes names dependencies) cycle) ∧
    (findings.filter (·.code == .circularPackageDependency)).map (·.related) =
      g.findCycle.toList ∧
    (∃ firsts, FirstOfEach (·.child) (dependencies.filter (·.child ∉ names)) firsts ∧
      findings.filter (·.code == .unknownChildPackage) =
        firsts.map fun d => (unknownChildOf d).note.diagnostic config source) ∧
    ∀ d ∈ findings, d.code = .circularPackageDependency ∨ d.code = .unknownChildPackage := by
  intro g findings
  have hinvokes : Leads g.children = Invokes names dependencies := leads_children _ _
  refine ⟨⟨?acyclic, fun cycle h => ?cycle⟩, ?circular,
    ⟨_, firstOfEach_eraseDupsBy (·.child) (dependencies.filter (·.child ∉ names)), ?unknown⟩,
    fun d hd => ?codes⟩
  case acyclic =>
    rw [← hinvokes]
    exact findCycle_eq_none_iff (ofDependencies_fromPackages names dependencies)
  case cycle =>
    rw [← hinvokes]
    exact findCycle_isCycle h
  case circular =>
    rw [Noted.diagnosticsOf_filter, Noted.notesWith_foundAll, problems_cycle, List.map_map,
      List.map_map, List.map_map]
    exact List.map_id _
  case unknown =>
    rw [Noted.diagnosticsOf_filter, Noted.notesWith_foundAll, problems_unknown, filter_unknown,
      List.map_map, List.map_map]
    rfl
  case codes =>
    obtain ⟨n, hn, rfl⟩ := List.mem_map.mp hd
    rw [notesOf_foundAll] at hn
    obtain ⟨c, hc, rfl⟩ := List.mem_map.mp hn
    exact problem_code g dependencies hc

end EtlSurvey
