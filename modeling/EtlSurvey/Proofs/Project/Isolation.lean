import EtlSurvey.Proofs.Project.Sources

/-! # Packages of a project do not affect each other

What a project holds of a package is the survey of one member alone. Of the other members no more
than their names count, by which dependencies go: whatever happens to their contents, the package
and what it runs stay as they are. -/

namespace EtlSurvey
open Text Markup

/-- A project has, under a name, this survey of a package: the record is stored under the name, and
the reference of the name stands beside the report. -/
structure ProjectSurvey.Holds (p : ProjectSurvey) (name : String) (survey : PackageSurvey) :
    Prop where
  record : p.project.package? name = some survey.package
  listed : ∃ reference ∈ p.project.packages, reference.name = name
  beside : ∀ (i : Nat) (reference : PackageReference), p.project.packages[i]? = some reference →
    reference.name = name →
      p.report.packages[i]? = some survey.report ∧ reference.failed = !survey.report.success

section Members

variable {config : Config} {c : Container} {m : String}

theorem surveyProject_holds {s : PackageSource} (hs : s ∈ (packageSources config c).value) :
    (surveyProject config c).Holds s.name (surveySource config s) := by
  constructor
  case record => exact surveyProject_package? hs
  case listed =>
    rw [surveyProject_references]
    exact ⟨_, List.mem_map_of_mem hs, rfl⟩
  case beside =>
    intro i reference hreference hname
    rw [surveyProject_references, List.getElem?_map] at hreference
    obtain ⟨t, ht, rfl⟩ := Option.map_eq_some_iff.mp hreference
    -- no two sources have one name
    obtain rfl : t = s := List.inj_on_of_nodup_map packageSources_nodup
      (List.mem_of_getElem? ht) hs hname
    rw [surveyProject_reports, List.getElem?_map, ht]
    exact ⟨rfl, rfl⟩

theorem IsSource.of_members {c' : Container} (h : IsSource config c m)
    (hmembers : c'.members = c.members) : IsSource config c' m where
  first := by
    rw [Container.packageMembers, Container.membersWithExtension, hmembers]
    exact h.first
  kept := h.kept

/-- Dependencies follow from the content of the parent's document and the names of all packages. -/
theorem childrenOf_congr {config' : Config} {c' : Container} {m' : String}
    (h : IsSource config c m) (h' : IsSource config' c' m')
    (hname : packageNameOf m' = packageNameOf m)
    (hread : (c'.read m').toOption = (c.read m).toOption)
    (hnames : packageNames config' c' = packageNames config c) :
    (surveyProject config' c').project.childrenOf (packageNameOf m) =
      (surveyProject config c).project.childrenOf (packageNameOf m) := by
  calc (surveyProject config' c').project.childrenOf (packageNameOf m)
    _ = (surveyProject config' c').project.childrenOf (sourceOf c' m').name := by
      rw [sourceOf_name, hname]
    _ = (sourceDependencies (packageNames config c) (sourceOf c' m')).value := by
      rw [surveyProject_childrenOf (sourceOf_mem h'), hnames]
    _ = (sourceDependencies (packageNames config c) (sourceOf c m)).value := by
      rw [sourceDependencies_value, sourceDependencies_value, sourceOf_name, sourceOf_name,
        sourceOf_content, sourceOf_content, hname, hread]
    _ = (surveyProject config c).project.childrenOf (sourceOf c m).name := by
      rw [surveyProject_childrenOf (sourceOf_mem h)]
    _ = (surveyProject config c).project.childrenOf (packageNameOf m) := by
      rw [sourceOf_name]

end Members

/-- A project has of each package the survey of its member alone, and the dependencies of a package
follow from its document and the names of the packages. So it makes no difference what is in the
other members. -/
theorem packages_isolated {config : Config} {c : Container} {m : String}
    (h : IsSource config c m) : ∃ survey : PackageSurvey,
    (∀ bytes, c.read m = .ok bytes → survey = surveyPackage config m bytes) ∧
    (∀ e, c.read m = .error e →
      survey = unreadablePackage (sourceOf c m) e ∧ survey.package = .minimal (packageNameOf m)) ∧
    (surveyProject config c).Holds (packageNameOf m) survey ∧
    (∀ config' c' m', IsSource config' c' m' → packageNameOf m' = packageNameOf m →
      (c'.read m').toOption = (c.read m).toOption →
      (∀ name, name ∈ (surveyProject config' c').project.packages.map (·.name) ↔
        name ∈ (surveyProject config c).project.packages.map (·.name)) →
      (surveyProject config' c').project.childrenOf (packageNameOf m) =
        (surveyProject config c).project.childrenOf (packageNameOf m)) ∧
    ∀ c', c'.members = c.members → c'.read m = c.read m →
      (surveyProject config c').Holds (packageNameOf m) survey ∧
      (surveyProject config c').project.childrenOf (packageNameOf m) =
        (surveyProject config c).project.childrenOf (packageNameOf m) := by
  have hholds : ∀ c', IsSource config c' m →
      (surveyProject config c').Holds (packageNameOf m) (surveySource config (sourceOf c' m)) := by
    intro c' h'
    have hs := surveyProject_holds (sourceOf_mem h')
    rwa [sourceOf_name] at hs
  refine ⟨surveySource config (sourceOf c m), ?read, ?unreadable, hholds c h, ?determined, ?others⟩
  case read =>
    intro bytes hread
    rw [surveySource_of_ok ((sourceOf_content c m).trans hread), sourceOf_member]
  case unreadable =>
    intro e hread
    rw [surveySource_of_error ((sourceOf_content c m).trans hread)]
    exact ⟨rfl, congrArg Package.minimal (sourceOf_name c m)⟩
  case determined =>
    intro config' c' m' h' hname hread hnames
    rw [surveyProject_names, surveyProject_names] at hnames
    exact childrenOf_congr h h' hname hread (packageNames_ext hnames)
  case others =>
    intro c' hmembers hread
    have hsource : ∀ {m}, IsSource config c' m ↔ IsSource config c m :=
      ⟨fun h' => h'.of_members hmembers.symm, fun h => h.of_members hmembers⟩
    have hnames : packageNames config c' = packageNames config c := by
      refine packageNames_ext fun name => ?_
      rw [mem_packageNames, mem_packageNames]
      exact exists_congr fun m' => and_congr_left fun _ => hsource
    have hsame : sourceOf c' m = sourceOf c m := by rw [sourceOf, sourceOf, hread]
    constructor
    · rw [← hsame]
      exact hholds c' (hsource.mpr h)
    · exact childrenOf_congr h (hsource.mpr h) rfl (congrArg Except.toOption hread) hnames

/-- A package that runs another one. -/
def loadDocument : String :=
  "<DTS:Executable xmlns:DTS=\"www.microsoft.com/SqlServer/Dts\" DTS:refId=\"Package\"
    DTS:ObjectName=\"Nightly load\">
  <DTS:Executables>
    <DTS:Executable DTS:refId=\"Package\\Run\" DTS:ObjectName=\"Run\"
        DTS:ExecutableType=\"Microsoft.ExecutePackageTask\">
      <DTS:ObjectData><ExecutePackageTask>
        <PackageName>report.dtsx</PackageName>
      </ExecutePackageTask></DTS:ObjectData>
    </DTS:Executable>
  </DTS:Executables>
</DTS:Executable>"

/-- A project with the package, with another one in any state, and with an old copy. -/
def nightlyProject (other : MemberContent) : Container where
  name := "Nightly"
  contents := [
    ("Load.dtsx", .ok (Utf8.encode loadDocument)),
    ("Report.dtsx", other),
    ("old/Load.dtsx", .ok [])]

set_option maxRecDepth 4000 in
theorem nightlyProject_childrenOf :
    (surveyProject {} (nightlyProject (.ok []))).project.childrenOf "Load" =
      [⟨"Load", "Report", "Run", "Package\\Run", none⟩] := by
  rw [nightlyProject, show Utf8.encode loadDocument = _ from Utf8.encode_ofList _]
  decide +kernel

/-- Whether the other package is corrupt or locked does not matter. -/
theorem packages_isolated_nightlyProject :
    let corrupt := surveyProject {} (nightlyProject (.ok []))
    let locked := surveyProject {} (nightlyProject (.error (.unreadable "Report.dtsx" "denied")))
    let survey := surveyPackage {} "Load.dtsx" (Utf8.encode loadDocument)
    IsSource {} (nightlyProject (.ok [])) "Load.dtsx" ∧
      corrupt.Holds "Load" survey ∧ locked.Holds "Load" survey ∧
      corrupt.project.childrenOf "Load" = [⟨"Load", "Report", "Run", "Package\\Run", none⟩] ∧
      locked.project.childrenOf "Load" = corrupt.project.childrenOf "Load" := by
  have hsource : IsSource {} (nightlyProject (.ok [])) "Load.dtsx" :=
    ⟨by decide +kernel, by decide +kernel⟩
  obtain ⟨survey, hread, -, hcorrupt, -, hothers⟩ := packages_isolated hsource
  have hname : packageNameOf "Load.dtsx" = "Load" := by decide +kernel
  obtain ⟨hlocked, hchildren⟩ :=
    hothers (nightlyProject (.error (.unreadable "Report.dtsx" "denied"))) rfl rfl
  rw [hname, hread _ rfl] at hcorrupt hlocked
  rw [hname] at hchildren
  exact ⟨hsource, hcorrupt, hlocked, nightlyProject_childrenOf, hchildren⟩

end EtlSurvey
