import EtlSurvey.Finding.Diagnostic

/-! Reports on packages. The counters of a report follow its diagnostics. -/

namespace EtlSurvey

structure ReportVersion where
  major : Nat
  minor : Nat
  deriving DecidableEq, Repr

namespace ReportVersion

def current : ReportVersion := ⟨1, 0⟩

def name (v : ReportVersion) : String := toString v.major ++ "." ++ toString v.minor

end ReportVersion

/-- Target that a package should be moved to. -/
inductive MigrationMode where
  /-- Transformation inside the warehouse. -/
  | dbt
  /-- Orchestration of external data movement. -/
  | airflow
  /-- Data flows beside SQL tasks. -/
  | mixed
  deriving DecidableEq, Repr, Inhabited

def MigrationMode.name : MigrationMode → String
  | dbt => "dbt"
  | airflow => "airflow"
  | mixed => "mixed"

/-- Something a person should look at. -/
structure ReviewItem where
  kind : String
  element : String
  reason : String
  deriving DecidableEq, Repr

structure ReportSummary where
  total : Nat := 0
  errors : Nat := 0
  warnings : Nat := 0
  info : Nat := 0
  /-- Executables found, of known kind or not. -/
  executablesTotal : Nat := 0
  executablesSupported : Nat := 0
  components : Nat := 0
  edges : Nat := 0
  deriving DecidableEq, Repr

def ReportSummary.count (s : ReportSummary) : Severity → ReportSummary
  | .error => { s with errors := s.errors + 1, total := s.total + 1 }
  | .warn => { s with warnings := s.warnings + 1, total := s.total + 1 }
  | .info => { s with info := s.info + 1, total := s.total + 1 }

structure PackageReport where
  package : String
  source : String
  version : ReportVersion := .current
  /-- When the report was made; not part of what it says. -/
  timestamp : String := ""
  /-- A record of the package was made. -/
  success : Bool := true
  migrationMode : Option MigrationMode := none
  summary : ReportSummary := {}
  unsupportedExecutables : List String := []
  redactedProperties : List String := []
  manualReview : List ReviewItem := []
  diagnostics : List Diagnostic := []
  deriving DecidableEq, Repr

namespace PackageReport

/-- Adds a diagnostic and counts it. -/
def add (r : PackageReport) (d : Diagnostic) : PackageReport :=
  { r with summary := r.summary.count d.severity, diagnostics := r.diagnostics ++ [d] }

def extend (r : PackageReport) (ds : List Diagnostic) : PackageReport := ds.foldl add r

/-- Adds the diagnostic of a fatal failure. -/
def fail (r : PackageReport) (d : Diagnostic) : PackageReport :=
  { r with success := false }.add d

def hasErrors (r : PackageReport) : Bool := r.summary.errors != 0

def hasWarnings (r : PackageReport) : Bool := r.summary.warnings != 0

end PackageReport
end EtlSurvey
