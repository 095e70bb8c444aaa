import EtlSurvey.Report.Package

/-! Reports on projects: one report for each package, and what concerns the project itself. -/

namespace EtlSurvey

structure ProjectSummary where
  packagesTotal : Nat := 0
  packagesParsed : Nat := 0
  packagesFailed : Nat := 0
  dependencies : Nat := 0
  entryPoints : Nat := 0
  transformationOnly : Nat := 0
  deriving DecidableEq, Repr

structure ProjectReport where
  project : String
  version : ReportVersion := .current
  /-- When the report was made; not part of what it says. -/
  timestamp : String := ""
  summary : ProjectSummary := {}
  packages : List PackageReport := []
  diagnostics : List Diagnostic := []
  recommendations : List String := []
  deriving DecidableEq, Repr

namespace ProjectReport

def add (r : ProjectReport) (d : Diagnostic) : ProjectReport :=
  { r with diagnostics := r.diagnostics ++ [d] }

/-- Adds the report of a package and counts it. -/
def addPackage (r : ProjectReport) (p : PackageReport) : ProjectReport :=
  let s := { r.summary with packagesTotal := r.summary.packagesTotal + 1 }
  let s :=
    if p.success then { s with packagesParsed := s.packagesParsed + 1 }
    else { s with packagesFailed := s.packagesFailed + 1 }
  { r with summary := s, packages := r.packages ++ [p] }

/-- Counts a package that works inside the warehouse only. -/
def countTransformation (r : ProjectReport) : ProjectReport :=
  { r with summary.transformationOnly := r.summary.transformationOnly + 1 }

def package? (r : ProjectReport) (name : String) : Option PackageReport :=
  r.packages.find? (·.package == name)

/-- Some packages could be read and some could not. -/
def isPartial (r : ProjectReport) : Bool :=
  r.summary.packagesParsed != 0 && r.summary.packagesFailed != 0

def hasErrors (r : ProjectReport) : Bool :=
  r.diagnostics.any (·.severity == .error) || r.packages.any (·.hasErrors)

end ProjectReport
end EtlSurvey
