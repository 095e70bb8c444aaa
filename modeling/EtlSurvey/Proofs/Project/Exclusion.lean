import EtlSurvey.Proofs.Executables.Coverage
import EtlSurvey.Proofs.Project.Sources
import EtlSurvey.Proofs.Survey.Configuration
import EtlSurvey.Proofs.Text.FileName

/-! # Excluded packages are as good as absent

A configuration that excludes packages has the same effect as a container without their documents.
The files of a project besides its packages are other members, and which packages are excluded is
asked only of package documents and of the names that the manifest lists: an excluded package that
is listed there is not missed. -/

namespace EtlSurvey
open Text Markup

/-- The member is the document of a package that is excluded. -/
def Config.excludesMember (config : Config) (member : String) : Bool :=
  FileName.hasExtension "dtsx" member && config.excludes (packageNameOf member)

/-- The container without the documents of excluded packages. -/
def Container.withoutExcluded (config : Config) (c : Container) : Container where
  name := c.name
  contents := c.contents.filter (!config.excludesMember ·.1)

/-- The configuration with all packages included. -/
def Config.includingAll (config : Config) : Config := { config with excludePackages := [] }

theorem lookup_filter_of_keeps [BEq α] [LawfulBEq α] (keeps : α → Bool) {key : α}
    (h : keeps key = true) (entries : List (α × β)) :
    (entries.filter (keeps ·.1)).lookup key = entries.lookup key := by
  induction entries with
  | nil => rfl
  | cons entry rest ih =>
    obtain ⟨k, value⟩ := entry
    by_cases hk : key = k
    · subst hk
      rw [List.filter_cons_of_pos (by exact h), List.lookup_cons, List.lookup_cons,
        beq_self_eq_true]
    · rw [List.lookup_cons, beq_eq_false_iff_ne.mpr hk, List.filter_cons]
      split
      · rw [List.lookup_cons, beq_eq_false_iff_ne.mpr hk]
        exact ih
      · exact ih

section Members

variable (config : Config) (c : Container)

theorem withoutExcluded_members : (c.withoutExcluded config).members =
    c.members.filter (!config.excludesMember ·) := by
  simp only [Container.members, Container.withoutExcluded, List.filter_map, Function.comp_def]

theorem withoutExcluded_read {member : String} (h : config.excludesMember member = false) :
    (c.withoutExcluded config).read member = c.read member := by
  have hkeeps : (!config.excludesMember member) = true := Bool.not_eq_true' _ |>.mpr h
  rw [Container.read, Container.read, Container.withoutExcluded,
    lookup_filter_of_keeps (!config.excludesMember ·) hkeeps]

theorem withoutExcluded_packageMembers : (c.withoutExcluded config).packageMembers =
    c.packageMembers.filter fun member => !config.excludes (packageNameOf member) := by
  rw [Container.packageMembers, Container.membersWithExtension, withoutExcluded_members,
    List.filter_comm, Container.packageMembers, Container.membersWithExtension]
  refine List.filter_congr fun member hmember => ?_
  rw [Config.excludesMember, (List.mem_filter.mp hmember).2, Bool.true_and]

/-- A member with another extension is not the document of a package. -/
theorem excludesMember_of_extension {extension member : String}
    (hextension : eqIgnoringCase extension "dtsx" = false)
    (h : FileName.hasExtension extension member = true) :
    config.excludesMember member = false := by
  rw [Config.excludesMember, Bool.and_eq_false_iff]
  refine .inl (Bool.eq_false_iff.mpr fun hdocument => ?_)
  rw [FileName.hasExtension, Option.any_eq_true] at h hdocument
  obtain ⟨found, hfound, heq⟩ := h
  obtain ⟨found', hfound', heq'⟩ := hdocument
  obtain rfl : found = found' := Option.some.inj (hfound.symm.trans hfound')
  refine Bool.eq_false_iff.mp hextension ?_
  exact beq_iff_eq.mpr ((eq_of_beq heq).symm.trans (eq_of_beq heq'))

/-- Nor is one whose file name ends otherwise. -/
theorem excludesMember_of_fileName {fileName member : String}
    (hfile : ¬ ['d', 't', 's', 'x'] <:+ fileName.toList.map Char.toLower)
    (h : eqIgnoringCase (FileName.ofMember member) fileName = true) :
    config.excludesMember member = false := by
  rw [Config.excludesMember, Bool.and_eq_false_iff]
  refine .inl (Bool.eq_false_iff.mpr fun hdocument => hfile ?_)
  have hsuffix := FileName.hasExtension_suffix hdocument
  rwa [eq_of_beq h] at hsuffix

theorem withoutExcluded_membersWithExtension {extension : String}
    (hextension : eqIgnoringCase extension "dtsx" = false) :
    (c.withoutExcluded config).membersWithExtension extension =
      c.membersWithExtension extension := by
  rw [Container.membersWithExtension, withoutExcluded_members, List.filter_filter,
    Container.membersWithExtension]
  refine List.filter_congr fun member _ => ?_
  cases h : FileName.hasExtension extension member with
  | false => simp
  | true => simp [excludesMember_of_extension config hextension h]

theorem withoutExcluded_find? {fileName : String}
    (hfile : ¬ ['d', 't', 's', 'x'] <:+ fileName.toList.map Char.toLower) :
    (c.withoutExcluded config).find? fileName = c.find? fileName := by
  rw [Container.find?, withoutExcluded_members, List.find?_filter, Container.find?]
  refine congrArg (List.find? · c.members) (funext fun member => ?_)
  cases h : eqIgnoringCase (FileName.ofMember member) fileName with
  | false => simp
  | true => simp [excludesMember_of_fileName config hfile h]

end Members

/-- What is remarked on the packages that run each other. -/
def invocationRemarks (sources : List PackageSource) : List Remark :=
  let names := sources.map (·.name)
  let scanned := sources.mapM (sourceDependencies names)
  let dependencies := scanned.value.flatten
  scanned.remarks ++
    (foundAll (invocationProblems (.ofDependencies names dependencies) dependencies)).remarks

theorem outlineProject_remarks (config : Config) (c : Container) :
    (outlineProject config c).remarks =
      (readProjectFiles config c).remarks ++ (packageSources config c).remarks ++
        (foundAll (undocumentedPackages config (readProjectFiles config c).value.manifest
          (packageNames config c))).remarks ++
        invocationRemarks (packageSources config c).value := by
  simp only [outlineProject, Noted.remarks_bind, Noted.remarks_pure, List.append_nil,
    List.append_assoc, invocationRemarks, packageNames]

/-- The diagnostics of a project stand in its report and nowhere else. -/
theorem ProjectOutline.survey_diagnostics (config : Config) (name : String) (o : ProjectOutline)
    (diagnostics others : List Diagnostic) :
    let survey := o.survey config name diagnostics
    let other := o.survey config name others
    survey.project = other.project ∧ survey.report.packages = other.report.packages ∧
      survey.report = { other.report with diagnostics := survey.report.diagnostics } :=
  ⟨rfl, rfl, rfl⟩

section Readers

variable (config : Config) (c : Container)

theorem readProjectFile_congr {c c' : Container} {member : String}
    (h : c'.read member = c.read member) (read : Bytes → Except LoadError (Noted α)) :
    readProjectFile c' read member = readProjectFile c read member := by
  rw [readProjectFile, readProjectFile, h]

theorem readProjectFile?_withoutExcluded (read : Bytes → Except LoadError (Noted α))
    {member? : Option String} (h : ∀ m ∈ member?, config.excludesMember m = false) :
    readProjectFile? (c.withoutExcluded config) read member? = readProjectFile? c read member? := by
  cases member? with
  | none => rfl
  | some m => exact readProjectFile_congr (withoutExcluded_read config c (h m rfl)) read

theorem fileName_of_find? {c : Container} {fileName member : String}
    (h : c.find? fileName = some member) :
    eqIgnoringCase (FileName.ofMember member) fileName = true := by
  rw [Container.find?, List.find?_eq_some_iff_append] at h
  exact h.1

/-- A project file that is found by its name is read alike. -/
theorem readProjectFile?_find? (read : Bytes → Except LoadError (Noted α)) {fileName : String}
    (hfile : ¬ ['d', 't', 's', 'x'] <:+ fileName.toList.map Char.toLower) :
    readProjectFile? (c.withoutExcluded config) read ((c.withoutExcluded config).find? fileName) =
      readProjectFile? c read (c.find? fileName) := by
  rw [withoutExcluded_find? config c hfile]
  refine readProjectFile?_withoutExcluded config c read fun m hm => ?_
  exact excludesMember_of_fileName config hfile (fileName_of_find? hm)

theorem readProjectManifest_withoutExcluded :
    readProjectManifest (c.withoutExcluded config) = readProjectManifest c := by
  have hextension : eqIgnoringCase "dtproj" "dtsx" = false := by decide
  have hbuild : ∀ m ∈ (c.membersWithExtension "dtproj").head?,
      config.excludesMember m = false := fun m hm =>
    excludesMember_of_extension config hextension
      (List.mem_filter.mp (List.mem_of_mem_head? hm)).2
  rw [readProjectManifest, readProjectManifest, readProjectFile?_find? config c _ (by decide),
    withoutExcluded_membersWithExtension config c hextension,
    readProjectFile?_withoutExcluded config c _ hbuild]

theorem readProjectConnections_withoutExcluded (policy : RedactionPolicy) :
    readProjectConnections policy (c.withoutExcluded config) = readProjectConnections policy c := by
  have hextension : eqIgnoringCase "conmgr" "dtsx" = false := by decide
  rw [readProjectConnections, readProjectConnections,
    withoutExcluded_membersWithExtension config c hextension]
  refine congrArg (keepFirst []) (List.map_congr_left fun member hmember => ?_)
  have hkept := excludesMember_of_extension config hextension (List.mem_filter.mp hmember).2
  rw [readProjectFile_congr (withoutExcluded_read config c hkept)]

/-- No project file is the document of a package. -/
theorem readProjectFiles_withoutExcluded :
    readProjectFiles config.includingAll (c.withoutExcluded config) =
      readProjectFiles config c := by
  have hfile : ¬ ['d', 't', 's', 'x'] <:+ parametersFile.toList.map Char.toLower := by decide
  rw [readProjectFiles, readProjectFiles, readProjectManifest_withoutExcluded]
  simp only [readProjectFile?_find? config c _ hfile, readProjectConnections_withoutExcluded]
  rfl

/-- The documents that are left are those whose packages are not excluded. -/
theorem packageSources_withoutExcluded :
    packageSources config.includingAll (c.withoutExcluded config) = packageSources config c := by
  have hincluded : ∀ members : List String,
      members.filter (fun m => !config.includingAll.excludes (packageNameOf m)) = members :=
    fun members => List.filter_eq_self.mpr fun _ _ => rfl
  rw [packageSources, packageSources, withoutExcluded_packageMembers, hincluded]
  refine congrArg (· >>= _) (congrArg (keepFirst []) (List.map_congr_left fun member hmember => ?_))
  have hkept : config.excludesMember member = false := by
    rw [Config.excludesMember, Bool.not_eq_true' _ |>.mp (List.mem_filter.mp hmember).2,
      Bool.and_false]
  rw [withoutExcluded_read config c hkept]

theorem packageNames_withoutExcluded :
    packageNames config.includingAll (c.withoutExcluded config) = packageNames config c := by
  rw [packageNames, packageSources_withoutExcluded, packageNames]

theorem surveySource_includingAll (s : PackageSource) :
    surveySource config.includingAll s = surveySource config s := by
  rw [surveySource, surveySource]
  rfl

theorem outlineProject_value_withoutExcluded :
    (outlineProject config.includingAll (c.withoutExcluded config)).value =
      (outlineProject config c).value := by
  simp only [outlineProject, readProjectFiles_withoutExcluded, packageSources_withoutExcluded,
    Noted.value_bind, Noted.value_pure]

theorem undocumentedPackages_eq (m : Manifest) (names : List String) :
    undocumentedPackages config m names =
      ((m.packages.filter fun entry => !names.any (eqIgnoringCase · entry.name)).filter
        (!config.excludes ·.name)).map fun entry => .unlistedDocument entry.name := by
  rw [undocumentedPackages, List.filter_filter]
  simp only [Bool.and_comm]

theorem undocumentedPackages_includingAll (m : Manifest) (names : List String) :
    undocumentedPackages config.includingAll m names =
      (m.packages.filter fun entry => !names.any (eqIgnoringCase · entry.name)).map
        fun entry => .unlistedDocument entry.name := by
  rw [undocumentedPackages_eq]
  exact congrArg (List.map _) (List.filter_eq_self.mpr fun _ _ => rfl)

theorem ProjectOutline.fill_includingAll (name : String) (o : ProjectOutline) :
    o.fill config.includingAll name = o.fill config name := by
  have hsurveys : surveySource config.includingAll = surveySource config :=
    funext (surveySource_includingAll config)
  rw [ProjectOutline.fill, ProjectOutline.fill, hsurveys]

/-- Apart from the project's diagnostics, nothing differs. -/
theorem surveyProject_withoutExcluded :
    surveyProject config.includingAll (c.withoutExcluded config) =
      (outlineProject config c).value.survey config c.name
        (surveyProject config.includingAll (c.withoutExcluded config)).report.diagnostics := by
  rw [surveyProject_outlined, outlineProject_value_withoutExcluded, ProjectOutline.survey,
    ProjectOutline.fill_includingAll]
  rfl

end Readers

/-- Surveying a project under exclusions gives the same project, and the same report but for the
project's own diagnostics, as surveying all that is left without the documents of the excluded
packages. And these diagnostics are the same but for the packages that the manifest lists and that
have no document: those of them that are excluded are not warned of. -/
theorem excluded_packages_absent (config : Config) (c : Container) :
    let excluding := surveyProject config c
    let without := surveyProject config.includingAll (c.withoutExcluded config)
    let missing := (readProjectFiles config c).value.manifest.packages.filter fun entry =>
      !(packageNames config c).any (eqIgnoringCase · entry.name)
    let warning := fun entry : ManifestEntry =>
      (Cause.unlistedDocument entry.name).note.diagnostic config c.name
    excluding.project = without.project ∧
      excluding.report.packages = without.report.packages ∧
      excluding.report = { without.report with diagnostics := excluding.report.diagnostics } ∧
      ∃ before after,
        without.report.diagnostics = before ++ missing.map warning ++ after ∧
        excluding.report.diagnostics =
          before ++ (missing.filter (!config.excludes ·.name)).map warning ++ after := by
  intro excluding without missing warning
  have hexcluding : excluding = (outlineProject config c).value.survey config c.name
    excluding.report.diagnostics := surveyProject_outlined config c
  have hwithout : without = (outlineProject config c).value.survey config c.name
    without.report.diagnostics := surveyProject_withoutExcluded config c
  obtain ⟨hproject, hpackages, hreport⟩ := ProjectOutline.survey_diagnostics config c.name
    (outlineProject config c).value excluding.report.diagnostics without.report.diagnostics
  rw [← hexcluding, ← hwithout] at hproject hpackages hreport
  refine ⟨hproject, hpackages, hreport,
    diagnosticsOf config c.name
      ((readProjectFiles config c).remarks ++ (packageSources config c).remarks),
    diagnosticsOf config c.name (invocationRemarks (packageSources config c).value),
    ?warned, ?notWarned⟩
  case warned =>
    show (surveyProject ..).report.diagnostics = _
    rw [surveyProject_diagnostics, outlineProject_remarks, readProjectFiles_withoutExcluded,
      packageSources_withoutExcluded, packageNames_withoutExcluded,
      undocumentedPackages_includingAll, diagnosticsOf_append, diagnosticsOf_append,
      diagnosticsOf_foundAll, List.map_map]
    rfl
  case notWarned =>
    show (surveyProject ..).report.diagnostics = _
    rw [surveyProject_diagnostics, outlineProject_remarks, undocumentedPackages_eq,
      diagnosticsOf_append, diagnosticsOf_append, diagnosticsOf_foundAll, List.map_map]
    rfl

/-- Lists a package that has a document, and one that has none and is excluded. -/
def trialManifest : String :=
  "<SSIS:Project xmlns:SSIS=\"www.microsoft.com/SqlServer/SSIS\"><SSIS:Packages>
    <SSIS:Package SSIS:Name=\"Load.dtsx\"/><SSIS:Package SSIS:Name=\"TestMail.dtsx\"/>
  </SSIS:Packages></SSIS:Project>"

def emptyPackage : String := "<DTS:Executable xmlns:DTS=\"www.microsoft.com/SqlServer/Dts\"/>"

/-- A project with a package of its own and one that is a trial. -/
def trialProject : Container where
  name := "Nightly"
  contents := [
    ("@Project.manifest", .ok (Utf8.encode trialManifest)),
    ("Load.dtsx", .ok (Utf8.encode emptyPackage)),
    ("trials/TestLoad.dtsx", .ok [])]

def withoutTrials : Config := { excludePackages := ["Test*"] }

/-- Names of the packages, sources of the reports, and codes of what concerns the project. -/
def ProjectSurvey.digest (s : ProjectSurvey) : List String × List String × List FindingCode :=
  (s.project.packages.map (·.name), s.report.packages.map (·.source),
    s.report.diagnostics.map (·.code))

set_option maxRecDepth 4000 in
theorem trialProject_digests :
    (surveyProject {} trialProject).digest =
        (["Load", "TestLoad"], ["Load.dtsx", "trials/TestLoad.dtsx"],
          [.warning, .dependencyScanFailed]) ∧
      (surveyProject withoutTrials trialProject).digest = (["Load"], ["Load.dtsx"], []) := by
  rw [trialProject, show Utf8.encode trialManifest = _ from Utf8.encode_ofList _,
    show Utf8.encode emptyPackage = _ from Utf8.encode_ofList _]
  decide +kernel

/-- The trial is surveyed unless it is excluded, and then it is as if it were not there. -/
theorem trialProject_excluded :
    (trialProject.withoutExcluded withoutTrials).members = ["@Project.manifest", "Load.dtsx"] ∧
      (surveyProject {} trialProject).digest =
        (["Load", "TestLoad"], ["Load.dtsx", "trials/TestLoad.dtsx"],
          [.warning, .dependencyScanFailed]) ∧
      (surveyProject withoutTrials trialProject).digest = (["Load"], ["Load.dtsx"], []) ∧
      let without := surveyProject withoutTrials.includingAll
        (trialProject.withoutExcluded withoutTrials)
      (surveyProject withoutTrials trialProject).project = without.project ∧
        (surveyProject withoutTrials trialProject).report.packages = without.report.packages := by
  obtain ⟨hproject, hpackages, -⟩ := excluded_packages_absent withoutTrials trialProject
  exact ⟨by decide +kernel, trialProject_digests.1, trialProject_digests.2, hproject, hpackages⟩

end EtlSurvey
