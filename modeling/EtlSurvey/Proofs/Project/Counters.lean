import EtlSurvey.Proofs.Executables.Retention
import EtlSurvey.Proofs.Project.Invocations
import EtlSurvey.Survey.PackageFile

/-! # The counters of reports recount what is reported

Counters stand beside the lists that they count. Adding a diagnostic to the report of a package
keeps the two in step, and so does adding the report of a package to that of a project. From there
they are in step after every run of additions, whether the survey behind it went well or not. -/

namespace EtlSurvey
open Text Markup

/-- A way of adding to the report of a package. -/
inductive ReportCall where
  | add (d : Diagnostic)
  | extend (ds : List Diagnostic)
  | fail (d : Diagnostic)

namespace ReportCall

def diagnostics : ReportCall → List Diagnostic
  | add d => [d]
  | extend ds => ds
  | fail d => [d]

def isFailure : ReportCall → Bool
  | fail _ => true
  | _ => false

end ReportCall

namespace PackageReport

def perform (r : PackageReport) : ReportCall → PackageReport
  | .add d => r.add d
  | .extend ds => r.extend ds
  | .fail d => r.fail d

/-- The counters of severities are those of the diagnostics. -/
structure Counted (r : PackageReport) : Prop where
  total : r.summary.total = r.diagnostics.length
  errors : r.summary.errors = r.diagnostics.countP (·.severity == .error)
  warnings : r.summary.warnings = r.diagnostics.countP (·.severity == .warn)
  info : r.summary.info = r.diagnostics.countP (·.severity == .info)

namespace Counted

variable {r : PackageReport}

theorem add (h : r.Counted) (d : Diagnostic) : (r.add d).Counted := by
  obtain ⟨htotal, herrors, hwarnings, hinfo⟩ := h
  -- the counter of the diagnostic's own severity grows with the list, the others stay
  cases hseverity : d.severity <;> constructor <;>
    simp [PackageReport.add, ReportSummary.count, hseverity, List.countP_append, htotal, herrors,
      hwarnings, hinfo]

theorem extend (h : r.Counted) (ds : List Diagnostic) : (r.extend ds).Counted := by
  induction ds generalizing r with
  | nil => exact h
  | cons d rest ih => exact ih (h.add d)

theorem fail (h : r.Counted) (d : Diagnostic) : (r.fail d).Counted := by
  obtain ⟨htotal, herrors, hwarnings, hinfo⟩ := h
  exact add (r := { r with success := false }) ⟨htotal, herrors, hwarnings, hinfo⟩ d

theorem perform (h : r.Counted) (call : ReportCall) : (r.perform call).Counted := by
  cases call with
  | add d => exact h.add d
  | extend ds => exact h.extend ds
  | fail d => exact h.fail d

theorem run (h : r.Counted) (calls : List ReportCall) : (calls.foldl .perform r).Counted := by
  induction calls generalizing r with
  | nil => exact h
  | cons call rest ih => exact ih (h.perform call)

end Counted

theorem perform_diagnostics (r : PackageReport) (call : ReportCall) :
    (r.perform call).diagnostics = r.diagnostics ++ call.diagnostics := by
  cases call with
  | add d => rfl
  | extend ds => exact extend_diagnostics r ds
  | fail d => rfl

theorem run_diagnostics (r : PackageReport) (calls : List ReportCall) :
    (calls.foldl perform r).diagnostics = r.diagnostics ++ calls.flatMap (·.diagnostics) := by
  induction calls generalizing r with
  | nil => simp
  | cons call rest ih =>
    rw [List.foldl_cons, ih, perform_diagnostics, List.flatMap_cons, List.append_assoc]

theorem perform_success (r : PackageReport) (call : ReportCall) :
    (r.perform call).success = (r.success && !call.isFailure) := by
  cases call with
  | add d => simp [perform, add, ReportCall.isFailure]
  | extend ds =>
    have hsuccess : (r.extend ds).success = r.success :=
      extend_keeps (f := (·.success)) (fun _ _ => rfl) r ds
    simp [perform, hsuccess, ReportCall.isFailure]
  | fail d => simp [perform, fail, add, ReportCall.isFailure]

/-- A report stays successful as long as no failure is added. -/
theorem run_success (r : PackageReport) (calls : List ReportCall) :
    (calls.foldl perform r).success = (r.success && !calls.any (·.isFailure)) := by
  induction calls generalizing r with
  | nil => simp
  | cons call rest ih =>
    rw [List.foldl_cons, ih, perform_success, List.any_cons, Bool.not_or, Bool.and_assoc]

end PackageReport

section Package

variable (config : Config) (source : String)

/-- The counters of a survey are those of its record and of its diagnostics. -/
structure PackageSurvey.Counted (retain : Bool) (s : PackageSurvey) : Prop where
  diagnostics : s.report.Counted
  edges : s.report.summary.edges = s.package.edges.length
  components : s.report.summary.components =
    (s.package.executables.flatMap (·.components)).length
  executables : s.package.executables.length =
    if retain then s.report.summary.executablesTotal else s.report.summary.executablesSupported
  supported : s.report.summary.executablesSupported =
    s.package.executables.countP (·.kind.isSupported)

/-- The counters of what the record holds. -/
def ReportSummary.contents (s : ReportSummary) : ReportSummary :=
  { s with total := 0, errors := 0, warnings := 0, info := 0 }

theorem ReportSummary.count_contents (s : ReportSummary) (severity : Severity) :
    (s.count severity).contents = s.contents := by
  cases severity <;> rfl

theorem PackageReport.extend_contents (r : PackageReport) (ds : List Diagnostic) :
    (r.extend ds).summary.contents = r.summary.contents :=
  extend_keeps (f := (·.summary.contents)) (fun r d => r.summary.count_contents d.severity) r ds

theorem reportOf_contents (p : Package) (total supported : Nat) (remarks : List Remark) :
    (reportOf config source p total supported remarks).summary.contents = {
      executablesTotal := total
      executablesSupported := supported
      components := (p.executables.flatMap (·.components)).length
      edges := p.edges.length } :=
  PackageReport.extend_contents _ _

theorem failed_contents (name : String) (before : List Diagnostic) (e : PackageError) :
    (PackageSurvey.failed config source name before e).report.summary.contents = {} :=
  (ReportSummary.count_contents _ _).trans (PackageReport.extend_contents _ _)

/-- What is kept of the outline has a record each, under the kind of its node. -/
theorem readExecutables_counts (policy : RedactionPolicy) (retain : Bool) (root : Element) :
    let nodes := outlineNodes (outlineOf root)
    let executables := (readExecutables policy retain root).value.executables
    executables.length =
        (if retain then nodes.length else (nodes.filter (·.kind.isSupported)).length) ∧
      (nodes.filter (·.kind.isSupported)).length = executables.countP (·.kind.isSupported) := by
  intro nodes executables
  have hexecutables : executables =
      (nodes.filter (·.isKept retain)).map (recordOf policy retain) :=
    readExecutables_eq policy retain root
  rw [hexecutables]
  constructor
  · cases retain with
    | true => simp [OutlineNode.isKept_true]
    | false => simp [OutlineNode.isKept_false]
  · -- every node of a known kind is kept
    have hkept : ∀ n : OutlineNode, (n.kind.isSupported && n.isKept retain) = n.kind.isSupported :=
      fun n => by cases hkind : n.kind.isSupported <;> simp [OutlineNode.isKept, hkind]
    rw [List.countP_map, List.countP_filter, List.countP_eq_length_filter]
    simp only [Function.comp_apply, recordOf_kind, hkept]

theorem readSurvey_counted (policy : RedactionPolicy) (metadata : Metadata) (d : Document) :
    (readSurvey config source policy metadata d).Counted config.retainUnsupported := by
  have hcontents := congrArg (·.summary.contents)
    (readSurvey_report config source policy metadata d)
  rw [reportOf_contents] at hcontents
  obtain ⟨hlength, hsupported⟩ :=
    readExecutables_counts policy config.retainUnsupported d.root
  constructor
  case diagnostics =>
    rw [readSurvey_report]
    exact PackageReport.Counted.extend ⟨rfl, rfl, rfl, rfl⟩ _
  case edges => exact congrArg ReportSummary.edges hcontents
  case components => exact congrArg ReportSummary.components hcontents
  case executables =>
    rw [readSurvey_report, reportOf_total, reportOf_supported]
    exact hlength
  case supported =>
    rw [readSurvey_report, reportOf_supported]
    exact hsupported

/-- A failed survey has nothing to count but its diagnostics. -/
theorem failed_counted (retain : Bool) (name : String) (before : List Diagnostic)
    (e : PackageError) : (PackageSurvey.failed config source name before e).Counted retain := by
  have hcontents := failed_contents config source name before e
  have htotal := congrArg ReportSummary.executablesTotal hcontents
  have hsupported := congrArg ReportSummary.executablesSupported hcontents
  constructor
  case diagnostics =>
    exact (PackageReport.Counted.extend ⟨rfl, rfl, rfl, rfl⟩ before).fail _
  case edges => exact congrArg ReportSummary.edges hcontents
  case components => exact congrArg ReportSummary.components hcontents
  case executables => cases retain <;> [exact hsupported.symm; exact htotal.symm]
  case supported => exact hsupported

theorem surveyPackage_counted (bytes : Bytes) :
    (surveyPackage config source bytes).Counted config.retainUnsupported := by
  obtain ⟨name, before, e, hfailed⟩ | ⟨d, -, policy, metadata, hread⟩ :=
    surveyPackage_cases config source bytes
  · have hfailed : surveyPackage config source bytes = .failed config source name before e :=
      hfailed config.retainUnsupported
    rw [hfailed]
    exact failed_counted ..
  · have hread : surveyPackage config source bytes = readSurvey config source policy metadata d :=
      hread config.retainUnsupported
    rw [hread]
    exact readSurvey_counted ..

theorem surveyPackageFile_counted (disk : Folder) (path : String) :
    (surveyPackageFile config disk path).Counted config.retainUnsupported := by
  rw [surveyPackageFile]
  split
  · exact surveyPackage_counted ..
  · exact failed_counted ..

end Package

section Project

variable {config : Config} {c : Container}

/-- The counters of packages are those of the package reports. -/
structure ProjectReport.Counted (r : ProjectReport) : Prop where
  total : r.summary.packagesTotal = r.packages.length
  parsed : r.summary.packagesParsed = r.packages.countP (·.success)
  failed : r.summary.packagesFailed = r.packages.countP (!·.success)

theorem ProjectReport.Counted.addPackage {r : ProjectReport} (h : r.Counted) (p : PackageReport) :
    (r.addPackage p).Counted := by
  obtain ⟨htotal, hparsed, hfailed⟩ := h
  cases hsuccess : p.success <;> constructor <;>
    simp [ProjectReport.addPackage, hsuccess, List.countP_append, htotal, hparsed, hfailed]

theorem ProjectReport.Counted.countTransformation {r : ProjectReport} (h : r.Counted) :
    r.countTransformation.Counted := by
  obtain ⟨htotal, hparsed, hfailed⟩ := h
  exact ⟨htotal, hparsed, hfailed⟩

/-- The counters that grow with each package are those of the packages so far. -/
structure ProjectSurvey.PackagesCounted (p : ProjectSurvey) : Prop where
  reports : p.report.Counted
  transformationOnly : p.report.summary.transformationOnly =
    p.project.packages.countP (·.transformationOnly)

namespace ProjectSurvey.PackagesCounted

variable {p : ProjectSurvey}

theorem addPackage (h : p.PackagesCounted) (entryPoints : List String) (s : PackageSource)
    (survey : PackageSurvey) : (p.addPackage entryPoints s survey).PackagesCounted := by
  obtain ⟨hreports, htransformation⟩ := h
  constructor
  case reports =>
    rw [ProjectSurvey.addPackage]
    split
    · exact hreports.countTransformation.addPackage _
    · exact hreports.addPackage _
  case transformationOnly =>
    -- the report of a package is added without a look at this counter
    have hadded : ∀ r : ProjectReport, (r.addPackage survey.report).summary.transformationOnly =
        r.summary.transformationOnly := by
      intro r
      cases hsuccess : survey.report.success <;> simp [ProjectReport.addPackage, hsuccess]
    rw [ProjectSurvey.addPackage, List.countP_append, ← htransformation, hadded]
    cases hreference : (referenceOf entryPoints s survey).transformationOnly <;>
      simp [ProjectReport.countTransformation, hreference]

theorem run (h : p.PackagesCounted) (entryPoints : List String)
    (surveys : List (PackageSource × PackageSurvey)) :
    (surveys.foldl (fun p (s, survey) => p.addPackage entryPoints s survey) p).PackagesCounted := by
  induction surveys generalizing p with
  | nil => exact h
  | cons first rest ih => exact ih (h.addPackage entryPoints first.1 first.2)

theorem fill (config : Config) (name : String) (o : ProjectOutline) :
    (o.fill config name).PackagesCounted := by
  rw [ProjectOutline.fill]
  exact run ⟨⟨rfl, rfl, rfl⟩, rfl⟩ _ _

/-- What a survey has beside its packages does not touch their counters. -/
theorem survey (config : Config) (name : String) (diagnostics : List Diagnostic)
    (o : ProjectOutline) : (o.survey config name diagnostics).PackagesCounted := by
  obtain ⟨⟨htotal, hparsed, hfailed⟩, htransformation⟩ :=
    fill config (o.files.manifest.name.getD name) o
  exact ⟨⟨htotal, hparsed, hfailed⟩, htransformation⟩

end ProjectSurvey.PackagesCounted

/-- The counters of a project are those of its record and of its package reports. -/
structure ProjectSurvey.Counted (s : ProjectSurvey) : Prop where
  packages : s.report.Counted
  total : s.report.summary.packagesTotal =
    s.report.summary.packagesParsed + s.report.summary.packagesFailed
  references : s.report.summary.packagesTotal = s.project.packages.length
  records : s.report.summary.packagesTotal = s.project.packageRecords.size
  failed : s.report.summary.packagesFailed = s.project.failedPackages.length
  dependencies : s.report.summary.dependencies = s.project.dependencies.length
  entryPoints : s.report.summary.entryPoints = s.project.entryPoints.length
  entryFlags : s.report.summary.entryPoints = s.project.packages.countP (·.entryPoint)
  transformationOnly : s.report.summary.transformationOnly =
    s.project.packages.countP (·.transformationOnly)
  diagnostics : ∀ r ∈ s.report.packages, r.Counted

/-- Records stand under the names of the sources, so there is one for each. -/
theorem surveyProject_records : (surveyProject config c).project.packageRecords.size =
    (packageSources config c).value.length := by
  have hnames : ((packageSources config c).value.map (·.name)).Pairwise (· < ·) :=
    packageSources_ascending
  have hascending := List.pairwise_map.mp hnames
  rw [surveyProject_packageRecords, Dictionary.size, Dictionary.ofList,
    Dictionary.entries_foldl_insert]
  · exact List.length_map _
  · exact List.pairwise_map.mpr hascending

/-- All entry points are packages of the project, so each of them is flagged at one reference. -/
theorem surveyProject_entryFlags :
    (surveyProject config c).project.packages.countP (·.entryPoint) =
      (surveyProject config c).project.entryPoints.length := by
  have hlisted : Lists (surveyProject config c).project.entryPoints _ := entryPoints_listed
  have hflagged : (packageNames config c).filter
      ((surveyProject config c).project.entryPoints.contains ·) =
        (surveyProject config c).project.entryPoints := by
    refine ascending_ext (packageSources_ascending.filter _) hlisted.ascending fun n => ?_
    rw [List.mem_filter, List.contains_iff_mem, and_iff_right_iff_imp]
    intro hn
    have hname := ((hlisted.mem_iff n).mp hn).1
    rwa [Project.names, surveyProject_names] at hname
  rw [← hflagged, surveyProject_references, List.countP_map, packageNames, List.filter_map,
    List.length_map, List.countP_eq_length_filter]
  rfl

theorem surveySource_counted (s : PackageSource) :
    (surveySource config s).report.Counted := by
  rw [surveySource]
  split
  · exact (surveyPackage_counted ..).diagnostics
  · exact PackageReport.Counted.fail ⟨rfl, rfl, rfl, rfl⟩ _

theorem surveyProject_counted : (surveyProject config c).Counted := by
  obtain ⟨hreports, htransformation⟩ : (surveyProject config c).PackagesCounted := by
    rw [surveyProject_outlined]
    exact .survey ..
  have htotal : (surveyProject config c).report.summary.packagesTotal =
      (packageSources config c).value.length := by
    rw [hreports.total, surveyProject_reports, List.length_map]
  constructor
  case packages => exact hreports
  case total =>
    rw [hreports.total, hreports.parsed, hreports.failed]
    simpa using List.length_eq_countP_add_countP (·.success)
      (l := (surveyProject config c).report.packages)
  case references => rw [htotal, surveyProject_references, List.length_map]
  case records => rw [htotal, surveyProject_records]
  case failed =>
    rw [hreports.failed, surveyProject_reports, Project.failedPackages, surveyProject_references,
      List.countP_map, ← List.countP_eq_length_filter, List.countP_map]
    rfl
  case dependencies => rfl
  case entryPoints => rfl
  case entryFlags => rw [surveyProject_entryFlags]; rfl
  case transformationOnly => exact htransformation
  case diagnostics =>
    intro r hr
    rw [surveyProject_reports] at hr
    obtain ⟨s, -, rfl⟩ := List.mem_map.mp hr
    exact surveySource_counted s

end Project

/-- The counters of a report recount what it holds: after every run of additions to a new report
they are those of the diagnostics that were added; the survey of every document, of a file or not,
counts the edges, components and executables of its record; and the survey of every project counts
its packages, failed ones among them, its dependencies and its entry points. -/
theorem report_counters_recount (config : Config) :
    (∀ (package source timestamp : String) (calls : List ReportCall),
      let r := calls.foldl PackageReport.perform { package, source, timestamp }
      r.Counted ∧ r.diagnostics = calls.flatMap (·.diagnostics) ∧
        r.success = !calls.any (·.isFailure)) ∧
    (∀ source bytes, (surveyPackage config source bytes).Counted config.retainUnsupported) ∧
    (∀ disk path, (surveyPackageFile config disk path).Counted config.retainUnsupported) ∧
    ∀ c, (surveyProject config c).Counted := by
  refine ⟨?report, surveyPackage_counted config, surveyPackageFile_counted config,
    fun c => surveyProject_counted⟩
  case report =>
    intro package source timestamp calls r
    have hnew : PackageReport.Counted { package, source, timestamp } := ⟨rfl, rfl, rfl, rfl⟩
    refine ⟨hnew.run calls, ?diagnostics, ?success⟩
    case diagnostics => exact PackageReport.run_diagnostics _ calls
    case success => exact (PackageReport.run_success _ calls).trans (Bool.true_and _)

end EtlSurvey
