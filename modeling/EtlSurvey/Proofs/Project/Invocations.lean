import EtlSurvey.Proofs.Graph.Invocation
import EtlSurvey.Proofs.Project.Sources

/-! # Which packages of a project are run by others

Entry points and packages on their own are read off the dependencies: the former are the packages
that no task runs, the latter have no task that runs a package either. A package that runs itself
counts as one that is run, so it is no entry point even if no other package runs it. -/

namespace EtlSurvey
open Text Markup InvocationGraph

/-- Names of the packages of a project. -/
def Project.names (p : Project) : List String := p.packages.map (·.name)

theorem resolvePackage?_mem {names : List String} {reference n : String}
    (h : resolvePackage? names reference = some n) : n ∈ names := by
  obtain hexact | ⟨-, hloose⟩ := Option.or_eq_some_iff.mp h
  · exact List.mem_of_find?_eq_some hexact
  · exact List.mem_of_find?_eq_some hloose

theorem not_eqIgnoringCase_of_resolvePackage? {names : List String} {reference n : String}
    (h : resolvePackage? names reference = none) (hn : n ∈ names) :
    eqIgnoringCase n reference = false := by
  have hloose := (Option.or_eq_none_iff.mp h).2
  exact Bool.eq_false_iff.mpr (List.find?_eq_none.mp hloose n hn)

section Survey

variable {config : Config} {c : Container}

theorem surveyProject_graph : (outlineProject config c).value.graph =
    .ofDependencies (packageNames config c) (surveyProject config c).project.dependencies :=
  rfl

theorem mem_dependencies {d : Dependency} :
    d ∈ (surveyProject config c).project.dependencies ↔
      ∃ s ∈ (packageSources config c).value,
        d ∈ (sourceDependencies (packageNames config c) s).value := by
  rw [surveyProject_dependencies, List.mem_flatMap]

theorem parent_mem_packageNames {d : Dependency}
    (hd : d ∈ (surveyProject config c).project.dependencies) :
    d.parent ∈ packageNames config c := by
  obtain ⟨s, hs, hd⟩ := mem_dependencies.mp hd
  rw [sourceDependency_parent hd]
  exact List.mem_map_of_mem hs

theorem child_resolved {d : Dependency}
    (hd : d ∈ (surveyProject config c).project.dependencies) :
    d.child ∈ packageNames config c ∨
      ∀ n ∈ packageNames config c, eqIgnoringCase n d.child = false := by
  obtain ⟨s, -, hd⟩ := mem_dependencies.mp hd
  rw [sourceDependencies_value] at hd
  obtain ⟨scanned, -, rfl⟩ := List.mem_map.mp hd
  cases hresolve : resolvePackage? (packageNames config c) scanned.child with
  | some n => exact .inl (resolvePackage?_mem hresolve)
  | none => exact .inr fun n hn => not_eqIgnoringCase_of_resolvePackage? hresolve hn

theorem mem_surveyed_calls {a b : String} : (a, b) ∈ (outlineProject config c).value.graph.calls ↔
    ∃ d ∈ (surveyProject config c).project.dependencies, d.parent = a ∧ d.child = b := by
  rw [surveyProject_graph, mem_calls, Invokes, and_iff_right_iff_imp]
  rintro ⟨d, hd, rfl, -⟩
  exact parent_mem_packageNames hd

theorem entryPoints_listed : Lists (surveyProject config c).project.entryPoints fun n =>
    n ∈ (surveyProject config c).project.names ∧
      ∀ d ∈ (surveyProject config c).project.dependencies, d.child ≠ n where
  ascending := (packages_ascending _ _).filter _
  mem_iff n := by
    rw [Project.names, surveyProject_names]
    show n ∈ (outlineProject config c).value.graph.entryPoints ↔ _
    rw [mem_entryPoints, surveyProject_graph, mem_packages, ← surveyProject_graph]
    simp only [mem_surveyed_calls]
    refine and_congr_right fun _ => ⟨fun h d hd hchild => h d.parent ⟨d, hd, rfl, hchild⟩, ?_⟩
    rintro h a ⟨d, hd, -, hchild⟩
    exact h d hd hchild

theorem isolatedPackages_listed : Lists (surveyProject config c).project.isolatedPackages fun n =>
    n ∈ (surveyProject config c).project.names ∧
      ∀ d ∈ (surveyProject config c).project.dependencies, d.parent ≠ n ∧ d.child ≠ n where
  ascending := (packages_ascending _ _).filter _
  mem_iff n := by
    rw [Project.names, surveyProject_names]
    show n ∈ (outlineProject config c).value.graph.isolated ↔ _
    rw [mem_isolated, surveyProject_graph, mem_packages, ← surveyProject_graph]
    simp only [mem_surveyed_calls]
    refine and_congr_right fun _ => ⟨fun ⟨hnone, hnothing⟩ d hd => ⟨?_, ?_⟩, fun h => ⟨?_, ?_⟩⟩
    · exact fun hparent => hnothing d.child ⟨d, hd, hparent, rfl⟩
    · exact fun hchild => hnone d.parent ⟨d, hd, rfl, hchild⟩
    · rintro a ⟨d, hd, -, hchild⟩
      exact (h d hd).2 hchild
    · rintro b ⟨d, hd, hparent, -⟩
      exact (h d hd).1 hparent

/-- Leaving a package's own tasks out of account makes a difference for packages that only they
run. -/
theorem entryPoints_listed_iff :
    (Lists (surveyProject config c).project.entryPoints fun n =>
      n ∈ (surveyProject config c).project.names ∧
        ∀ d ∈ (surveyProject config c).project.dependencies, d.child = n → d.parent = n) ↔
    ∀ d ∈ (surveyProject config c).project.dependencies, d.parent = d.child →
      ∃ other ∈ (surveyProject config c).project.dependencies,
        other.child = d.child ∧ other.parent ≠ d.child := by
  rw [entryPoints_listed.same_iff]
  constructor
  · intro hsame d hd hself
    by_contra hnone
    have hname : d.child ∈ (surveyProject config c).project.names := by
      rw [Project.names, surveyProject_names, ← hself]
      exact parent_mem_packageNames hd
    have honly : ∀ other ∈ (surveyProject config c).project.dependencies,
        other.child = d.child → other.parent = d.child := by
      intro other hother hchild
      by_contra hparent
      exact hnone ⟨other, hother, hchild, hparent⟩
    exact ((hsame d.child).mpr ⟨hname, honly⟩).2 d hd rfl
  · intro hother n
    refine and_congr_right fun _ => ⟨fun h d hd hchild => absurd hchild (h d hd), ?_⟩
    rintro h d hd rfl
    obtain ⟨other, hmem, hchild, hparent⟩ := hother d hd (h d hd rfl)
    exact hparent (h other hmem hchild)

end Survey

/-- The entry points of a project are the packages that no task of the project runs, and the
packages on their own those that run nothing either. What a task runs goes by the name of a package
in the project, or is called like none of them. So the entry points are the packages that no other
package runs unless some package is run by its own tasks only. -/
theorem invocations_analyzed (config : Config) (c : Container) :
    let p := (surveyProject config c).project
    Lists p.entryPoints (fun n => n ∈ p.names ∧ ∀ d ∈ p.dependencies, d.child ≠ n) ∧
    (Lists p.entryPoints
        (fun n => n ∈ p.names ∧ ∀ d ∈ p.dependencies, d.child = n → d.parent = n) ↔
      ∀ d ∈ p.dependencies, d.parent = d.child →
        ∃ other ∈ p.dependencies, other.child = d.child ∧ other.parent ≠ d.child) ∧
    Lists p.isolatedPackages
      (fun n => n ∈ p.names ∧ ∀ d ∈ p.dependencies, d.parent ≠ n ∧ d.child ≠ n) ∧
    (∀ r ∈ p.packages, r.entryPoint = true ↔ r.name ∈ p.entryPoints) ∧
    ∀ d ∈ p.dependencies, d.parent ∈ p.names ∧
      (d.child ∈ p.names ∨ ∀ n ∈ p.names, eqIgnoringCase n d.child = false) := by
  intro p
  refine ⟨entryPoints_listed, entryPoints_listed_iff, isolatedPackages_listed, ?flags, ?ends⟩
  case flags =>
    intro r hr
    rw [surveyProject_references] at hr
    obtain ⟨s, -, rfl⟩ := List.mem_map.mp hr
    exact List.contains_iff_mem
  case ends =>
    intro d hd
    rw [Project.names, surveyProject_names]
    exact ⟨parent_mem_packageNames hd, child_resolved hd⟩

/-- A package that runs itself again. -/
def refillDocument : String :=
  "<DTS:Executable xmlns:DTS=\"www.microsoft.com/SqlServer/Dts\" DTS:refId=\"Package\"
    DTS:ObjectName=\"Refill\">
  <DTS:Executables>
    <DTS:Executable DTS:refId=\"Package\\Again\" DTS:ObjectName=\"Again\"
        DTS:ExecutableType=\"Microsoft.ExecutePackageTask\">
      <DTS:ObjectData><ExecutePackageTask>
        <PackageName>Refill.dtsx</PackageName>
      </ExecutePackageTask></DTS:ObjectData>
    </DTS:Executable>
  </DTS:Executables>
</DTS:Executable>"

def refillProject : Container := ⟨"Stock", [("Refill.dtsx", .ok (Utf8.encode refillDocument))]⟩

set_option maxRecDepth 4000 in
theorem refillProject_analyzed :
    let p := (surveyProject {} refillProject).project
    (p.names, p.dependencies, p.entryPoints) =
      (["Refill"], [⟨"Refill", "Refill", "Again", "Package\\Again", none⟩], []) := by
  rw [refillProject, show Utf8.encode refillDocument = _ from Utf8.encode_ofList _]
  decide +kernel

/-- No other package runs it, but it is no entry point. -/
theorem refill_not_entryPoint :
    let p := (surveyProject {} refillProject).project
    ¬ Lists p.entryPoints
      fun n => n ∈ p.names ∧ ∀ d ∈ p.dependencies, d.child = n → d.parent = n := by
  intro p h
  obtain ⟨hnames, hrest⟩ := Prod.mk.inj refillProject_analyzed
  obtain ⟨hdependencies, hentryPoints⟩ := Prod.mk.inj hrest
  have hmem := h.mem_iff "Refill"
  rw [hnames, hdependencies, hentryPoints] at hmem
  have hrefill : "Refill" ∈ ([] : List String) := hmem.mpr (by simp)
  cases hrefill

end EtlSurvey
