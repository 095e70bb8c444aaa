import EtlSurvey.Proofs.Dependencies.Condition
import EtlSurvey.Proofs.Secrecy.Log
import EtlSurvey.Proofs.Secrecy.LooseKeys

/-! # Tasks in the scan and in the survey

The survey hands the id of a container down to what is inside it; the scan for dependencies asks an
executable for its id by going up from it. Both give the executables that the survey keeps the same
ids. So where the task of a dependency is kept, the dependency has the id, the name and, unless it
is sensitive, the package of a record. -/

namespace EtlSurvey
open Text Markup
open scoped List

/-- The visits of the executables that have records. -/
def keptVisits (retain : Bool) (root : Element) : List Visit :=
  (visits root).filter (·.node.isKept retain)

section Records

variable {policy : RedactionPolicy} {retain : Bool} {root : Element}

theorem readExecutables_eq_keptVisits (policy : RedactionPolicy) (retain : Bool) (root : Element) :
    (readExecutables policy retain root).value.executables =
      (keptVisits retain root).map fun v => recordOf policy retain v.node := by
  have hrecord : (fun v : Visit => recordOf policy retain v.node) =
      recordOf policy retain ∘ (·.node) := rfl
  rw [readExecutables_eq, ← map_node_visits, List.filter_map, keptVisits, hrecord,
    ← List.map_map]
  rfl

/-- No executable has two records, and their order is that of the document. -/
theorem keptVisits_sites (retain : Bool) (hroot : root.isExecutable = true) :
    (keptVisits retain root).map (·.site) <+ root.sitesNamed Space.dts "Executable" := by
  have hexecutable : ((keptVisits retain root).map (·.site)).filter
      (·.element.isNamed Space.dts "Executable") = (keptVisits retain root).map (·.site) := by
    rw [List.filter_eq_self]
    intro s hs
    obtain ⟨v, hv, rfl⟩ := List.mem_map.mp hs
    exact (visits_right hroot v (List.mem_of_mem_filter hv)).executable
  rw [← hexecutable]
  exact List.Sublist.filter _ ((List.filter_sublist.map _).trans (visits_sites root))

theorem right_of_kept (hroot : root.isExecutable = true) {v : Visit}
    (hv : v ∈ keptVisits retain root) : v.Right :=
  visits_right hroot v (List.mem_of_mem_filter hv)

end Records

section Packages

/-- The package that a task runs is among its properties, whatever else is. -/
theorem get?_statedProperties {n : OutlineNode} (hkind : n.kind = .executePackage) {child : String}
    (hchild : executePackageTarget? n.element = some child) :
    (statedProperties n).get? "PackageName" = some child := by
  have hread : statedProperties n =
      (Draft.ofNamed none n.toNamedExecutable).executable.properties.insert "PackageName"
        child := by
    rw [statedProperties, Draft.readKind, Draft.kind_ofNamed, hkind]
    simp only [Draft.readPackageTask, hchild]
    rfl
  rw [hread, Dictionary.get?_insert, if_pos rfl]

/-- The key of the package is sensitive only if it is configured to be. -/
theorem isSensitive_packageName (policy : RedactionPolicy) :
    policy.isSensitive "PackageName" = policy.isExtra "PackageName" := by
  have hbuiltin : sensitiveKeys.contains (looseKey "PackageName") = false := by
    decide +kernel
  rw [RedactionPolicy.isSensitive_eq, hbuiltin, Bool.false_or]

/-- The record of a task that the scan finds a dependency of. -/
theorem record_of_dependency {package : String} {conditions : List (String × Option Condition)}
    {v : Visit} (hright : v.Right) {dep : Dependency}
    (hdep : dependencyOf? package conditions v.site = some dep) (policy : RedactionPolicy)
    (retain : Bool) :
    let x := recordOf policy retain v.node
    x.kind = .executePackage ∧ x.id = dep.taskId ∧ x.name = dep.taskName ∧
      x.properties.get? "PackageName" =
        some (if policy.isExtra "PackageName" then redactedText else dep.child) := by
  obtain ⟨htype, hchild, hname, hid, -⟩ := dependencyOf?_eq_some hdep
  have hkind : v.node.kind = .executePackage := by
    rw [NamedExecutable.kind, hright.typeName, htype]
  rw [← hright.element] at hchild
  refine ⟨?_, ?_, ?_, ?_⟩
  · rw [recordOf_kind, hkind]
  · rw [recordOf_id, hright.id_eq_executableId, hid]
  · rw [recordOf_name, hname, hright.name, Option.getD_some]
  · rw [recordOf_properties, get?_redact, get?_statedProperties hkind hchild, Option.map_some,
      isSensitive_packageName]

end Packages

/-- The records of a package are those of executables of the document, in its order and under the
ids that the scan gives them. Where the task of a dependency has a record in the survey, the
dependency has its id and its name, and the package that is run is a property of it, if the key is
not configured as sensitive. -/
theorem tasks_named_alike {bytes : Bytes} {d : Document}
    (hparse : Document.parsePackage bytes = .ok d) (package : String) :
    (∀ policy retain,
      (readExecutables policy retain d.root).value.executables =
        (keptVisits retain d.root).map (fun v => recordOf policy retain v.node) ∧
      (keptVisits retain d.root).map (·.site) <+ d.root.sitesNamed Space.dts "Executable" ∧
      ∀ v ∈ keptVisits retain d.root, v.node.element = v.site.element ∧
        executableId v.site = (recordOf policy retain v.node).id) ∧
    scanDependencies package bytes = .ok ((d.root.sitesNamed Space.dts "Executable").filterMap
      (dependencyOf? package (incomingConditions d.root))) ∧
    ∀ config source, (surveyPackage config source bytes).report.success = true →
      ∀ v ∈ keptVisits config.retainUnsupported d.root, ∀ dep,
        dependencyOf? package (incomingConditions d.root) v.site = some dep →
        ∃ x ∈ (surveyPackage config source bytes).package.executables,
          x.kind = .executePackage ∧ x.id = dep.taskId ∧ x.name = dep.taskName ∧
          x.properties.get? "PackageName" =
            some (if config.isExtraSensitive "PackageName" then redactedText else dep.child) := by
  have hroot := parsePackage_root hparse
  refine ⟨fun policy retain => ⟨readExecutables_eq_keptVisits policy retain d.root,
    keptVisits_sites retain hroot, fun v hv => ?_⟩, ?scan, ?survey⟩
  · have hright := right_of_kept hroot hv
    exact ⟨hright.element, by rw [recordOf_id, hright.id_eq_executableId]⟩
  case scan =>
    rw [scanDependencies, hparse]
    rfl
  case survey =>
    intro config source hsuccess v hv dep hdep
    have hrecords : (surveyPackage config source bytes).package.executables =
        (readExecutables (openPackage config source d).value.2.1 config.retainUnsupported
          d.root).value.executables := by
      rw [surveyPackage_eq_readSurvey hsuccess hparse]
      rfl
    rw [hrecords, readExecutables_eq_keptVisits]
    exact ⟨_, List.mem_map_of_mem hv,
      record_of_dependency (right_of_kept hroot hv) hdep _ config.retainUnsupported⟩

/-- A task inside a container, neither of which has a reference id. -/
def stagedDocument : String :=
  "<DTS:Executable xmlns:DTS=\"www.microsoft.com/SqlServer/Dts\" DTS:ObjectName=\"Master\">
  <DTS:Executables>
    <DTS:Executable DTS:ObjectName=\"Stage\" DTS:ExecutableType=\"STOCK:SEQUENCE\">
      <DTS:Executables>
        <DTS:Executable DTS:ObjectName=\"Run\" DTS:ExecutableType=\"Microsoft.ExecutePackageTask\">
          <DTS:ObjectData><ExecutePackageTask>
            <PackageName>Child.dtsx</PackageName>
          </ExecutePackageTask></DTS:ObjectData>
        </DTS:Executable>
      </DTS:Executables>
    </DTS:Executable>
  </DTS:Executables>
</DTS:Executable>"

/-- The dependencies of the tasks that are kept. -/
def keptDependencies (root : Element) : List Dependency :=
  (keptVisits true root).filterMap fun v =>
    dependencyOf? "Master" (incomingConditions root) v.site

set_option maxRecDepth 4000 in
theorem stagedDocument_dependencies :
    (surveyed? {} "p.dtsx" (Utf8.encode stagedDocument)).map (fun p => keptDependencies p.1.root) =
      some [⟨"Master", "Child", "Run", "Package\\Stage\\Run", none⟩] := by
  rw [show Utf8.encode stagedDocument = _ from Utf8.encode_ofList _]
  decide +kernel

theorem tasks_named_alike_stagedDocument :
    ∃ d, Document.parsePackage (Utf8.encode stagedDocument) = .ok d ∧
      (surveyPackage {} "p.dtsx" (Utf8.encode stagedDocument)).report.success = true ∧
      ∃ x ∈ (surveyPackage {} "p.dtsx" (Utf8.encode stagedDocument)).package.executables,
        x.kind = .executePackage ∧ x.id = "Package\\Stage\\Run" ∧ x.name = "Run" ∧
          x.properties.get? "PackageName" = some "Child" := by
  obtain ⟨d, hparse, hsuccess, hdependencies⟩ := exists_survey_of_map stagedDocument_dependencies
  dsimp only at hdependencies
  obtain ⟨v, hv, hdep⟩ := List.mem_filterMap.mp (hdependencies ▸ List.mem_cons_self)
  obtain ⟨-, -, hsurveyed⟩ := tasks_named_alike hparse "Master"
  exact ⟨d, hparse, hsuccess, hsurveyed {} "p.dtsx" hsuccess v hv _ hdep⟩

end EtlSurvey
