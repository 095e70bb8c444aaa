import EtlSurvey.Json.Printer
import EtlSurvey.Json.Reader
import EtlSurvey.Report.Project

/-! JSON forms of reports. -/

namespace EtlSurvey
open Json

/-- A counter of 64 bits. -/
def counter? : Value → Option Nat := Value.natBelow? 0x10000000000000000

namespace ReportVersion

def toJson (v : ReportVersion) : Value := .record [
  ("major", some (.nat v.major)),
  ("minor", some (.nat v.minor))]

def ofJson? (v : Value) : Option ReportVersion := do
  match ← v.fields? ["major", "minor"] with
  | [major, minor] =>
    return {
      major := ← major.required (Value.natBelow? 0x100000000)
      minor := ← minor.required (Value.natBelow? 0x100000000) }
  | _ => none

end ReportVersion

namespace MigrationMode

def toJson (m : MigrationMode) : Value := .text m.name

def ofJson? : Value → Option MigrationMode :=
  caseOf? ([dbt, airflow, mixed].map fun m => (m.name, m))

end MigrationMode

namespace ReviewItem

def toJson (i : ReviewItem) : Value := .record [
  ("kind", some (.text i.kind)),
  ("element", some (.text i.element)),
  ("reason", some (.text i.reason))]

def ofJson? (v : Value) : Option ReviewItem := do
  match ← v.fields? ["kind", "element", "reason"] with
  | [kind, element, reason] =>
    return {
      kind := ← kind.required Value.text?
      element := ← element.required Value.text?
      reason := ← reason.required Value.text? }
  | _ => none

end ReviewItem

namespace ReportSummary

def toJson (s : ReportSummary) : Value := .record [
  ("total", some (.nat s.total)),
  ("errors", some (.nat s.errors)),
  ("warnings", some (.nat s.warnings)),
  ("info", some (.nat s.info)),
  ("executables_total", some (.nat s.executablesTotal)),
  ("executables_supported", some (.nat s.executablesSupported)),
  ("components", some (.nat s.components)),
  ("edges", some (.nat s.edges))]

def ofJson? (v : Value) : Option ReportSummary := do
  match ← v.fields? ["total", "errors", "warnings", "info", "executables_total",
      "executables_supported", "components", "edges"] with
  | [total, errors, warnings, info, executables, supported, components, edges] =>
    return {
      total := ← total.required counter?
      errors := ← errors.required counter?
      warnings := ← warnings.required counter?
      info := ← info.required counter?
      executablesTotal := ← executables.required counter?
      executablesSupported := ← supported.required counter?
      components := ← components.required counter?
      edges := ← edges.required counter? }
  | _ => none

end ReportSummary

namespace PackageReport

def toJson (r : PackageReport) : Value := .record [
  ("version", some r.version.toJson),
  ("timestamp", some (.text r.timestamp)),
  ("package", some (.text r.package)),
  ("source", some (.text r.source)),
  ("success", some (.bool r.success)),
  ("migration_mode", r.migrationMode.map MigrationMode.toJson),
  ("summary", some r.summary.toJson),
  ("unsupported_executables", some (.texts r.unsupportedExecutables)),
  ("redacted_properties", some (.texts r.redactedProperties)),
  ("manual_review", some (.list (r.manualReview.map ReviewItem.toJson))),
  ("diagnostics", some (.list (r.diagnostics.map Diagnostic.toJson)))]

def ofJson? (v : Value) : Option PackageReport := do
  match ← v.fields? ["version", "timestamp", "package", "source", "success", "migration_mode",
      "summary", "unsupported_executables", "redacted_properties", "manual_review",
      "diagnostics"] with
  | [version, timestamp, package, source, success, mode, summary, unsupported, redacted, review,
      diagnostics] =>
    return {
      version := ← version.required ReportVersion.ofJson?
      timestamp := ← timestamp.required Value.text?
      package := ← package.required Value.text?
      source := ← source.required Value.text?
      success := ← success.required Value.bool?
      migrationMode := ← mode.optional MigrationMode.ofJson?
      summary := ← summary.required ReportSummary.ofJson?
      unsupportedExecutables := ← unsupported.orElse [] (Value.listOf? Value.text?)
      redactedProperties := ← redacted.orElse [] (Value.listOf? Value.text?)
      manualReview := ← review.orElse [] (Value.listOf? ReviewItem.ofJson?)
      diagnostics := ← diagnostics.required (Value.listOf? Diagnostic.ofJson?) }
  | _ => none

end PackageReport

namespace ProjectSummary

def toJson (s : ProjectSummary) : Value := .record [
  ("packages_total", some (.nat s.packagesTotal)),
  ("packages_parsed", some (.nat s.packagesParsed)),
  ("packages_failed", some (.nat s.packagesFailed)),
  ("dependencies", some (.nat s.dependencies)),
  ("entry_points", some (.nat s.entryPoints)),
  ("transformation_only", some (.nat s.transformationOnly))]

def ofJson? (v : Value) : Option ProjectSummary := do
  match ← v.fields? ["packages_total", "packages_parsed", "packages_failed", "dependencies",
      "entry_points", "transformation_only"] with
  | [total, parsed, failed, dependencies, entryPoints, transformationOnly] =>
    return {
      packagesTotal := ← total.required counter?
      packagesParsed := ← parsed.required counter?
      packagesFailed := ← failed.required counter?
      dependencies := ← dependencies.required counter?
      entryPoints := ← entryPoints.required counter?
      transformationOnly := ← transformationOnly.required counter? }
  | _ => none

end ProjectSummary

namespace ProjectReport

def toJson (r : ProjectReport) : Value := .record [
  ("version", some r.version.toJson),
  ("timestamp", some (.text r.timestamp)),
  ("project", some (.text r.project)),
  ("summary", some r.summary.toJson),
  ("packages", some (.list (r.packages.map PackageReport.toJson))),
  ("diagnostics", some (.list (r.diagnostics.map Diagnostic.toJson))),
  ("recommendations", some (.texts r.recommendations))]

def ofJson? (v : Value) : Option ProjectReport := do
  match ← v.fields? ["version", "timestamp", "project", "summary", "packages", "diagnostics",
      "recommendations"] with
  | [version, timestamp, project, summary, packages, diagnostics, recommendations] =>
    return {
      version := ← version.required ReportVersion.ofJson?
      timestamp := ← timestamp.required Value.text?
      project := ← project.required Value.text?
      summary := ← summary.required ProjectSummary.ofJson?
      packages := ← packages.required (Value.listOf? PackageReport.ofJson?)
      diagnostics := ← diagnostics.required (Value.listOf? Diagnostic.ofJson?)
      recommendations := ← recommendations.orElse [] (Value.listOf? Value.text?) }
  | _ => none

end ProjectReport
end EtlSurvey
