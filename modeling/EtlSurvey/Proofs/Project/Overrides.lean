import EtlSurvey.Proofs.Project.Sources

/-! # Configured severities

Notes and fatal failures of a survey have the severity that is configured for their code. One
finding of a project does not ask the configuration: that the document of a package cannot be read
is an error in any case. -/

namespace EtlSurvey
open Text Markup

/-- If a severity is configured for its code, the diagnostic has it. -/
def Diagnostic.Follows (config : Config) (d : Diagnostic) : Prop :=
  ∀ severity, config.severities.get? d.code.name = some severity → d.severity = severity

section Severities

variable {config : Config}

theorem Diagnostic.follows_of_severityOf {d : Diagnostic} {default : Severity}
    (h : d.severity = config.severityOf d.code default) : d.Follows config := by
  intro severity hconfigured
  rw [h, Config.severityOf, hconfigured, Option.getD_some]

theorem diagnosticsOf_follow (source : String) (remarks : List Remark) :
    ∀ d ∈ diagnosticsOf config source remarks, d.Follows config := by
  intro d hd
  obtain ⟨n, -, rfl⟩ := List.mem_map.mp hd
  exact Diagnostic.follows_of_severityOf rfl

theorem surveyPackage_follows (source : String) (bytes : Bytes) :
    ∀ d ∈ (surveyPackage config source bytes).report.diagnostics, d.Follows config := by
  intro d hd
  obtain ⟨name, remarks, e, h⟩ | ⟨package, total, supported, remarks, h⟩ :=
    surveyPackage_forms config source bytes
  · rw [h, failed_diagnostics] at hd
    obtain hbefore | hfailure := List.mem_append.mp hd
    · exact diagnosticsOf_follow source remarks d hbefore
    · obtain rfl := List.mem_singleton.mp hfailure
      exact Diagnostic.follows_of_severityOf rfl
  · rw [h, reportOf_diagnostics] at hd
    exact diagnosticsOf_follow source remarks d hd

/-- Reading failures count as errors, or nothing is configured for them. -/
def Config.KeepsLoadErrors (config : Config) : Prop :=
  ∀ severity, config.severities.get? FindingCode.documentLoadFailed.name = some severity →
    severity = .error

theorem unreadablePackage_follows_iff (s : PackageSource) (e : ContainerError) :
    (∀ d ∈ (unreadablePackage s e).report.diagnostics, d.Follows config) ↔
      config.KeepsLoadErrors := by
  constructor
  · intro h severity hconfigured
    exact (h _ List.mem_cons_self severity hconfigured).symm
  · intro h d hd severity hconfigured
    obtain rfl := List.mem_singleton.mp hd
    exact (h severity hconfigured).symm

end Severities

/-- All findings on the project itself have the severities that are configured for them. So have
those on a package whose document can be read; that it cannot be read is always an error. -/
theorem configured_severities_followed (config : Config) (c : Container) :
    (∀ d ∈ (surveyProject config c).report.diagnostics, d.Follows config) ∧
    ∀ r ∈ (surveyProject config c).report.packages,
      (∀ d ∈ r.diagnostics, d.Follows config) ↔
        (∃ bytes, c.read r.source = .ok bytes) ∨ config.KeepsLoadErrors := by
  constructor
  · rw [surveyProject_diagnostics]
    exact diagnosticsOf_follow c.name _
  · intro r hr
    rw [surveyProject_reports] at hr
    obtain ⟨s, hs, rfl⟩ := List.mem_map.mp hr
    obtain ⟨m, -, rfl⟩ := mem_packageSources.mp hs
    rw [surveySource_source, sourceOf_member]
    cases hread : c.read m with
    | ok bytes =>
      rw [surveySource_of_ok ((sourceOf_content c m).trans hread)]
      exact iff_of_true (surveyPackage_follows _ bytes) (.inl ⟨bytes, rfl⟩)
    | error e =>
      rw [surveySource_of_error ((sourceOf_content c m).trans hread),
        unreadablePackage_follows_iff]
      refine (or_iff_right ?_).symm
      rintro ⟨bytes, hbytes⟩
      cases hbytes

/-- A project whose only document is locked, where that is to be no more than a warning. -/
def lockedProject : Container :=
  ⟨"Sales", [("Load.dtsx", .error (.unreadable "Load.dtsx" "denied"))]⟩

/-- A configuration in which documents that cannot be loaded are warned of. -/
def lenientConfig : Config where
  severities := .ofList [("DOCUMENT_LOAD_FAILED", .warn)]

theorem lockedProject_reports : (surveyProject lenientConfig lockedProject).report.packages = [{
    package := "Load"
    source := "Load.dtsx"
    success := false
    summary := { total := 1, errors := 1 }
    diagnostics := [{
      code := .documentLoadFailed
      severity := .error
      message := "Failed to read package document: Failed to read Load.dtsx: denied"
      location := some ⟨"Load.dtsx", none⟩ }] }] := by
  decide +kernel

/-- The document that is locked is an error all the same. -/
theorem locked_package_not_warned :
    ¬ ∀ r ∈ (surveyProject lenientConfig lockedProject).report.packages,
      ∀ d ∈ r.diagnostics, d.Follows lenientConfig := by
  intro h
  rw [lockedProject_reports] at h
  have hsame := h _ List.mem_cons_self _ List.mem_cons_self .warn (by decide +kernel)
  cases hsame

end EtlSurvey
