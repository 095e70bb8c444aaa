import EtlSurvey.Proofs.Project.Sources

/-! # Looking packages up by name

References and records of a project go by the names of the members, reports by the names that the
documents give themselves. So the record of a reference is found under its name in any case, but
its report only if the document agrees and no report before it has taken the name. -/

namespace EtlSurvey
open Text Markup

/-- The survey of the member that is referred to. -/
def surveyOf (config : Config) (c : Container) (reference : PackageReference) : PackageSurvey :=
  surveySource config (sourceOf c reference.path)

/-- Under the name of a reference, a project and its report have the same survey, which is of the
member that is referred to. -/
structure ProjectSurvey.LooksUp (p : ProjectSurvey) (reference : PackageReference)
    (survey : PackageSurvey) : Prop where
  record : p.project.package? reference.name = some survey.package
  report : p.report.package? reference.name = some survey.report
  source : survey.report.source = reference.path
  success : survey.report.success = !reference.failed

section Survey

variable {config : Config} {c : Container}

@[simp] theorem referenceOf_name (entryPoints : List String) (s : PackageSource)
    (survey : PackageSurvey) : (referenceOf entryPoints s survey).name = s.name := by
  rw [referenceOf]

@[simp] theorem referenceOf_path (entryPoints : List String) (s : PackageSource)
    (survey : PackageSurvey) : (referenceOf entryPoints s survey).path = s.member := by
  rw [referenceOf]

@[simp] theorem referenceOf_failed (entryPoints : List String) (s : PackageSource)
    (survey : PackageSurvey) :
    (referenceOf entryPoints s survey).failed = !survey.report.success := by
  rw [referenceOf]

/-- A reference is that of a source, which is made of the member at its path. -/
theorem source_of_reference {reference : PackageReference}
    (h : reference ∈ (surveyProject config c).project.packages) :
    sourceOf c reference.path ∈ (packageSources config c).value ∧
      packageNameOf reference.path = reference.name ∧
      reference.failed = !(surveyOf config c reference).report.success := by
  rw [surveyProject_references] at h
  obtain ⟨s, hs, rfl⟩ := List.mem_map.mp h
  obtain ⟨m, -, rfl⟩ := mem_packageSources.mp hs
  rw [surveyOf, referenceOf_path, referenceOf_name, referenceOf_failed, sourceOf_member,
    sourceOf_name]
  exact ⟨hs, rfl, rfl⟩

/-- What a project has of a reference in any case: the record under its name, and the report, which
says where it is from and whether it was read. -/
theorem survey_of_reference {reference : PackageReference}
    (h : reference ∈ (surveyProject config c).project.packages) :
    (surveyProject config c).project.package? reference.name =
        some (surveyOf config c reference).package ∧
      (surveyOf config c reference).report ∈ (surveyProject config c).report.packages ∧
      (surveyOf config c reference).report.source = reference.path ∧
      (surveyOf config c reference).report.success = !reference.failed := by
  obtain ⟨hs, hname, hfailed⟩ := source_of_reference h
  refine ⟨?record, ?report, ?source, ?success⟩
  case record =>
    have hrecord := surveyProject_package? hs
    rwa [sourceOf_name, hname] at hrecord
  case report =>
    rw [surveyProject_reports]
    exact List.mem_map_of_mem hs
  case source => rw [surveyOf, surveySource_source, sourceOf_member]
  case success => rw [hfailed, Bool.not_not]

theorem exists_reference {s : PackageSource} (hs : s ∈ (packageSources config c).value) :
    ∃ reference ∈ (surveyProject config c).project.packages, sourceOf c reference.path = s := by
  rw [surveyProject_references]
  refine ⟨_, List.mem_map_of_mem hs, ?_⟩
  obtain ⟨m, -, rfl⟩ := mem_packageSources.mp hs
  rw [referenceOf_path, sourceOf_member]

/-- The report that has a name is that of the first source whose record has the name. -/
theorem surveyProject_report? (name : String) :
    (surveyProject config c).report.package? name =
      ((packageSources config c).value.find? (fun s =>
        (surveySource config s).package.name == name)).map (surveySource config · |>.report) := by
  rw [ProjectReport.package?, surveyProject_reports, List.find?_map]
  simp only [Function.comp_def, surveySource_named]

theorem report?_eq_some_iff {s : PackageSource} (hs : s ∈ (packageSources config c).value) :
    (surveyProject config c).report.package? s.name = some (surveySource config s).report ↔
      (surveySource config s).package.name = s.name ∧
      ∀ t ∈ (packageSources config c).value, t.name < s.name →
        (surveySource config t).package.name ≠ s.name := by
  have hfirst := find?_eq_some_iff_of_ascending packageSources_ascending
    (fun t => (surveySource config t).package.name == s.name) hs
  simp only [beq_iff_eq] at hfirst
  rw [surveyProject_report?, ← hfirst, Option.map_eq_some_iff]
  constructor
  · rintro ⟨t, hfind, hreport⟩
    -- a report tells the member it is of, and with that the source
    obtain ⟨m, -, rfl⟩ := mem_packageSources.mp hs
    obtain ⟨m', -, rfl⟩ := mem_packageSources.mp (List.mem_of_find?_eq_some hfind)
    have hmember := congrArg (·.source) hreport
    simp only [surveySource_source, sourceOf_member] at hmember
    rwa [hmember] at hfind
  · intro hfind
    exact ⟨s, hfind, rfl⟩

theorem looksUp_iff {reference : PackageReference}
    (h : reference ∈ (surveyProject config c).project.packages) :
    (surveyProject config c).LooksUp reference (surveyOf config c reference) ↔
      (surveyOf config c reference).package.name = reference.name ∧
      ∀ other ∈ (surveyProject config c).project.packages, other.name < reference.name →
        (surveyOf config c other).package.name ≠ reference.name := by
  obtain ⟨hs, hname, -⟩ := source_of_reference h
  have hreport := report?_eq_some_iff hs
  rw [sourceOf_name, hname] at hreport
  constructor
  · intro hlooksUp
    obtain ⟨hown, hfirst⟩ := hreport.mp hlooksUp.report
    refine ⟨hown, fun other hother hlt => ?_⟩
    obtain ⟨ht, hother, -⟩ := source_of_reference hother
    exact hfirst _ ht (by rwa [sourceOf_name, hother])
  · rintro ⟨hown, hfirst⟩
    obtain ⟨hrecord, -, hsource, hsuccess⟩ := survey_of_reference h
    refine ⟨hrecord, hreport.mpr ⟨hown, fun t ht hlt => ?_⟩, hsource, hsuccess⟩
    obtain ⟨other, hother, rfl⟩ := exists_reference ht
    rw [sourceOf_name, (source_of_reference hother).2.1] at hlt
    exact hfirst other hother hlt

end Survey

/-- The record of a reference is found under its name, and there is a report with it. That report
is found under the name too exactly if the document has the name, and none of a package before it
has. So all look-ups agree exactly if every document is called like its file. -/
theorem lookups_agree_iff (config : Config) (c : Container) :
    let p := surveyProject config c
    (∀ reference ∈ p.project.packages,
      p.project.package? reference.name = some (surveyOf config c reference).package ∧
      (surveyOf config c reference).report ∈ p.report.packages ∧
      (surveyOf config c reference).report.source = reference.path ∧
      (surveyOf config c reference).report.success = (!reference.failed) ∧
      (p.LooksUp reference (surveyOf config c reference) ↔
        (surveyOf config c reference).package.name = reference.name ∧
        ∀ other ∈ p.project.packages, other.name < reference.name →
          (surveyOf config c other).package.name ≠ reference.name)) ∧
    ((∀ reference ∈ p.project.packages, p.LooksUp reference (surveyOf config c reference)) ↔
      ∀ reference ∈ p.project.packages,
        (surveyOf config c reference).package.name = reference.name) := by
  intro p
  constructor
  · intro reference h
    obtain ⟨hrecord, hreport, hsource, hsuccess⟩ := survey_of_reference h
    exact ⟨hrecord, hreport, hsource, hsuccess, looksUp_iff h⟩
  · constructor
    · exact fun hall reference h => ((looksUp_iff h).mp (hall reference h)).1
    · intro hnamed reference h
      refine (looksUp_iff h).mpr ⟨hnamed reference h, fun other hother hlt => ?_⟩
      rw [hnamed other hother]
      exact String.ne_of_lt hlt

/-- A package that is called like the file of another one. -/
def copiedDocument : String :=
  "<DTS:Executable xmlns:DTS=\"www.microsoft.com/SqlServer/Dts\" DTS:refId=\"Package\"
    DTS:ObjectName=\"Report\"/>"

/-- A project with such a package, where the document of the other one is broken. -/
def copiedProject : Container :=
  ⟨"Nightly", [("Load.dtsx", .ok (Utf8.encode copiedDocument)), ("Report.dtsx", .ok [])]⟩

theorem copiedProject_lookups :
    let p := surveyProject {} copiedProject
    p.project.packages.map (fun r => (r.name, r.path)) =
        [("Load", "Load.dtsx"), ("Report", "Report.dtsx")] ∧
      (p.report.package? "Report").map (·.source) = some "Load.dtsx" := by
  rw [copiedProject, show Utf8.encode copiedDocument = _ from Utf8.encode_ofList _]
  decide +kernel

/-- Under the name of the broken package stands the report on the other one. -/
theorem copied_report_not_own :
    ¬ ∀ reference ∈ (surveyProject {} copiedProject).project.packages,
      (surveyProject {} copiedProject).LooksUp reference (surveyOf {} copiedProject reference) := by
  intro h
  obtain ⟨hreferences, hfound⟩ := copiedProject_lookups
  have hmem : ("Report", "Report.dtsx") ∈ (surveyProject {} copiedProject).project.packages.map
      fun r => (r.name, r.path) := by
    rw [hreferences]
    decide
  obtain ⟨reference, hreference, heq⟩ := List.mem_map.mp hmem
  obtain ⟨hname, hpath⟩ := Prod.mk.inj heq
  have hlooksUp := h reference hreference
  rw [← hname, hlooksUp.report, Option.map_some, hlooksUp.source, hpath] at hfound
  exact absurd (Option.some.inj hfound) (by decide)

end EtlSurvey
