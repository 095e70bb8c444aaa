import EtlSurvey.Proofs.Executables.Walk
import EtlSurvey.Survey.PackageFile

/-! # How a survey ends

A survey fails, or it reads the document. In the first case the report holds the failure, in the
second its counts are those of the outline and its diagnostics are all that was remarked on. -/

namespace EtlSurvey
open Text Markup

namespace PackageReport

theorem extend_keeps {f : PackageReport → β} (hf : ∀ r d, f (r.add d) = f r) (r : PackageReport)
    (ds : List Diagnostic) : f (r.extend ds) = f r := by
  induction ds generalizing r with
  | nil => rfl
  | cons d rest ih => exact (ih (r.add d)).trans (hf r d)

theorem extend_diagnostics (r : PackageReport) (ds : List Diagnostic) :
    (r.extend ds).diagnostics = r.diagnostics ++ ds := by
  induction ds generalizing r with
  | nil => exact (List.append_nil _).symm
  | cons d rest ih => exact (ih (r.add d)).trans (List.append_assoc r.diagnostics [d] rest)

end PackageReport

theorem ReportSummary.count_executables (s : ReportSummary) (severity : Severity) :
    (s.count severity).executablesTotal = s.executablesTotal ∧
      (s.count severity).executablesSupported = s.executablesSupported := by
  cases severity <;> exact ⟨rfl, rfl⟩

section Report

variable (config : Config) (source : String) (p : Package) (total supported : Nat)
  (remarks : List Remark)

theorem reportOf_success : (reportOf config source p total supported remarks).success = true :=
  PackageReport.extend_keeps (f := (·.success)) (fun _ _ => rfl) _ _

theorem reportOf_migrationMode :
    (reportOf config source p total supported remarks).migrationMode = some p.migrationMode :=
  PackageReport.extend_keeps (f := (·.migrationMode)) (fun _ _ => rfl) _ _

theorem reportOf_unsupported :
    (reportOf config source p total supported remarks).unsupportedExecutables =
      unsupportedOf remarks :=
  PackageReport.extend_keeps (f := (·.unsupportedExecutables)) (fun _ _ => rfl) _ _

theorem reportOf_total :
    (reportOf config source p total supported remarks).summary.executablesTotal = total :=
  PackageReport.extend_keeps (f := (·.summary.executablesTotal))
    (fun r d => (r.summary.count_executables d.severity).1) _ _

theorem reportOf_supported :
    (reportOf config source p total supported remarks).summary.executablesSupported = supported :=
  PackageReport.extend_keeps (f := (·.summary.executablesSupported))
    (fun r d => (r.summary.count_executables d.severity).2) _ _

theorem reportOf_diagnostics :
    (reportOf config source p total supported remarks).diagnostics =
      diagnosticsOf config source remarks :=
  PackageReport.extend_diagnostics _ _

end Report

/-- The survey of a document that may be read. -/
def readSurvey (config : Config) (source : String) (policy : RedactionPolicy)
    (metadata : Metadata) (d : Document) : PackageSurvey :=
  let ⟨(package, total, supported), remarks⟩ := readDocument config policy metadata d
  ⟨package, reportOf config source package total supported
    ((openPackage config source d).remarks ++ remarks)⟩

section Read

variable (config : Config) (source : String) (policy : RedactionPolicy) (metadata : Metadata)
  (d : Document)

/-- All remarks of a survey that reads the document. -/
def surveyRemarks : List Remark :=
  (openPackage config source d).remarks ++ (readDocument config policy metadata d).remarks

theorem readSurvey_package : (readSurvey config source policy metadata d).package =
    (readPackage policy config.retainUnsupported metadata d.root).value.1 :=
  rfl

theorem readSurvey_report : (readSurvey config source policy metadata d).report =
    reportOf config source (readSurvey config source policy metadata d).package
      (outlineNodes (outlineOf d.root)).length
      ((outlineNodes (outlineOf d.root)).filter (·.kind.isSupported)).length
      (surveyRemarks config source policy metadata d) := by
  rw [← readExecutables_total policy config.retainUnsupported,
    ← readExecutables_supported policy config.retainUnsupported]
  rfl

end Read

/-- A survey fails, or it reads the document; the configuration of unknown kinds has no part in
which of them it is. -/
theorem surveyPackage_cases (config : Config) (source : String) (bytes : Bytes) :
    (∃ name before e, ∀ retain, surveyPackage { config with retainUnsupported := retain } source
      bytes = .failed config source name before e) ∨
    ∃ d, Document.parsePackage bytes = .ok d ∧ ∃ policy metadata, ∀ retain,
      surveyPackage { config with retainUnsupported := retain } source bytes =
        readSurvey { config with retainUnsupported := retain } source policy metadata d := by
  cases hparse : Document.parsePackage bytes with
  | error e =>
    refine .inl ⟨fallbackName source, [], .load e, fun retain => ?_⟩
    rw [surveyPackage, surveyWithError, hparse]
    rfl
  | ok d =>
    let metadata := (readMetadata d.root (fallbackName source)).value
    let policy := RedactionPolicy.ofConfig config metadata.protectionLevel
    have hopened : ∀ retain,
        (openPackage { config with retainUnsupported := retain } source d).value =
          (metadata, policy, policy.refusal?) := fun _ => rfl
    cases hrefusal : policy.refusal? with
    | some refusal =>
      refine .inl ⟨metadata.name, diagnosticsOf config source (openPackage config source d).remarks,
        .encryption refusal, fun retain => ?_⟩
      rw [surveyPackage, surveyWithError, hparse]
      simp only [hopened, hrefusal]
      rfl
    | none =>
      refine .inr ⟨d, rfl, policy, metadata, fun retain => ?_⟩
      rw [surveyPackage, surveyWithError, hparse]
      simp only [hopened, hrefusal]
      rfl

theorem failed_success (config : Config) (source name : String) (before : List Diagnostic)
    (e : PackageError) :
    (PackageSurvey.failed config source name before e).report.success = false :=
  rfl

section Success

variable {config : Config} {source : String} {bytes : Bytes} {d : Document}
  (hparse : Document.parsePackage bytes = .ok d)

include hparse

/-- A document that may be read is read, under the policy that was opened for it. -/
theorem surveyPackage_of_opened (hopened : (openPackage config source d).value.2.2 = none) :
    surveyPackage config source bytes =
      readSurvey config source (openPackage config source d).value.2.1
        (openPackage config source d).value.1 d := by
  rcases hvalue : (openPackage config source d).value with ⟨metadata, policy, refusal⟩
  obtain rfl : refusal = none := by rw [← hopened, hvalue]
  rw [surveyPackage, surveyWithError, hparse]
  simp only [hvalue]
  rfl

/-- A document that may not be read fails with the reason and what was remarked on so far. -/
theorem surveyPackage_of_refused {refusal : EncryptionError}
    (hrefused : (openPackage config source d).value.2.2 = some refusal) :
    surveyPackage config source bytes =
      .failed config source (openPackage config source d).value.1.name
        (diagnosticsOf config source (openPackage config source d).remarks)
        (.encryption refusal) := by
  rcases hvalue : (openPackage config source d).value with ⟨metadata, policy, reason⟩
  obtain rfl : reason = some refusal := by rw [← hrefused, hvalue]
  rw [surveyPackage, surveyWithError, hparse]
  simp only [hvalue]

theorem surveyPackage_success_iff : (surveyPackage config source bytes).report.success = true ↔
    (openPackage config source d).value.2.2 = none := by
  constructor
  · intro hsuccess
    rcases hvalue : (openPackage config source d).value with ⟨metadata, policy, refusal⟩
    cases refusal with
    | none => rfl
    | some refusal =>
      rw [surveyPackage, surveyWithError, hparse] at hsuccess
      simp only [hvalue] at hsuccess
      exact absurd ((failed_success ..).symm.trans hsuccess) Bool.false_ne_true
  · intro hopened
    rw [surveyPackage_of_opened hparse hopened, readSurvey_report, reportOf_success]

omit hparse

theorem parsePackage_of_success
    (hsuccess : (surveyPackage config source bytes).report.success = true) :
    ∃ d, Document.parsePackage bytes = .ok d := by
  cases hparse : Document.parsePackage bytes with
  | ok d => exact ⟨d, rfl⟩
  | error e =>
    rw [surveyPackage, surveyWithError, hparse] at hsuccess
    exact absurd ((failed_success ..).symm.trans hsuccess) Bool.false_ne_true

/-- A survey that succeeds has read the document. -/
theorem surveyPackage_eq_readSurvey
    (hsuccess : (surveyPackage config source bytes).report.success = true)
    (hparse : Document.parsePackage bytes = .ok d) :
    surveyPackage config source bytes =
      readSurvey config source (openPackage config source d).value.2.1
        (openPackage config source d).value.1 d :=
  surveyPackage_of_opened hparse ((surveyPackage_success_iff hparse).mp hsuccess)

end Success

/-- A report is made of remarks, and of one failure if the document could not be read. -/
theorem surveyPackage_forms (config : Config) (source : String) (bytes : Bytes) :
    (∃ name remarks e, surveyPackage config source bytes =
      .failed config source name (diagnosticsOf config source remarks) e) ∨
    ∃ package total supported remarks, surveyPackage config source bytes =
      ⟨package, reportOf config source package total supported remarks⟩ := by
  cases hparse : Document.parsePackage bytes with
  | error e =>
    refine .inl ⟨fallbackName source, [], .load e, ?_⟩
    rw [surveyPackage, surveyWithError, hparse]
    rfl
  | ok d =>
    cases hopened : (openPackage config source d).value.2.2 with
    | some refusal => exact .inl ⟨_, _, _, surveyPackage_of_refused hparse hopened⟩
    | none => exact .inr ⟨_, _, _, _, surveyPackage_of_opened hparse hopened⟩

theorem failed_diagnostics (config : Config) (source name : String) (before : List Diagnostic)
    (e : PackageError) : (PackageSurvey.failed config source name before e).report.diagnostics =
      before ++
        [⟨e.code, config.severityOf e.code .error, e.message, some ⟨source, none⟩, []⟩] := by
  rw [PackageSurvey.failed, PackageReport.fail, PackageReport.add]
  exact congrArg (· ++ _) (PackageReport.extend_diagnostics _ before)

theorem surveyPackage_source (config : Config) (source : String) (bytes : Bytes) :
    (surveyPackage config source bytes).report.source = source := by
  obtain ⟨name, remarks, e, h⟩ | ⟨package, total, supported, remarks, h⟩ :=
    surveyPackage_forms config source bytes
  · rw [h]
    exact PackageReport.extend_keeps (f := (·.source)) (fun _ _ => rfl) _ _
  · rw [h]
    exact PackageReport.extend_keeps (f := (·.source)) (fun _ _ => rfl) _ _

/-- A report goes by the name in the record. -/
theorem surveyPackage_named (config : Config) (source : String) (bytes : Bytes) :
    (surveyPackage config source bytes).report.package =
      (surveyPackage config source bytes).package.name := by
  obtain ⟨name, remarks, e, h⟩ | ⟨package, total, supported, remarks, h⟩ :=
    surveyPackage_forms config source bytes
  · rw [h]
    exact PackageReport.extend_keeps (f := (·.package)) (fun _ _ => rfl) _ _
  · rw [h]
    exact PackageReport.extend_keeps (f := (·.package)) (fun _ _ => rfl) _ _

/-- A document that may be read, and its survey. -/
def surveyed? (config : Config) (source : String) (bytes : Bytes) :
    Option (Document × PackageSurvey) :=
  match Document.parsePackage bytes with
  | .error _ => none
  | .ok d =>
    match (openPackage config source d).value with
    | (metadata, policy, none) => some (d, readSurvey config source policy metadata d)
    | _ => none

/-- What is computed from there is of the survey; so a document can be evaluated without its
report. -/
theorem exists_survey_of_map {config : Config} {source : String} {bytes : Bytes}
    {f : Document × PackageSurvey → β} {b : β}
    (h : (surveyed? config source bytes).map f = some b) :
    ∃ d, Document.parsePackage bytes = .ok d ∧
      (surveyPackage config source bytes).report.success = true ∧
      f (d, surveyPackage config source bytes) = b := by
  obtain ⟨⟨d, s⟩, hsurveyed, hf⟩ := Option.map_eq_some_iff.mp h
  rw [surveyed?] at hsurveyed
  split at hsurveyed
  · cases hsurveyed
  · next d' hparse =>
    split at hsurveyed
    · next metadata policy hvalue =>
      obtain ⟨rfl, rfl⟩ := Prod.mk.inj (Option.some.inj hsurveyed)
      have hopened : (openPackage config source d').value.2.2 = none := by rw [hvalue]
      refine ⟨d', hparse, (surveyPackage_success_iff hparse).mpr hopened, ?_⟩
      rw [surveyPackage_of_opened hparse hopened, hvalue]
      exact hf
    · cases hsurveyed

theorem surveyPackage_of_success {config : Config} {source : String} {bytes : Bytes} {d : Document}
    (hparse : Document.parsePackage bytes = .ok d)
    (hsuccess : (surveyPackage config source bytes).report.success = true) :
    ∃ policy metadata,
      surveyPackage config source bytes = readSurvey config source policy metadata d :=
  ⟨_, _, surveyPackage_eq_readSurvey hsuccess hparse⟩

end EtlSurvey
