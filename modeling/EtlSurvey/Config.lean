import EtlSurvey.Dictionary
import EtlSurvey.Finding.Code
import EtlSurvey.Text.Glob

/-! What a user may configure, and what may be wrong with a stored configuration. -/

namespace EtlSurvey
open Text

structure Config where
  /-- Read from configuration files and never written to them. -/
  password : Option String := none
  /-- Wiring problems of data flows count as errors. -/
  strictWiring : Bool := false
  /-- Executables of unknown kinds are kept. -/
  retainUnsupported : Bool := true
  /-- Property names that are sensitive besides the known ones. -/
  extraSensitiveKeys : List String := []
  /-- Packages of a project may be surveyed side by side; the result is the same. -/
  parallelPackages : Bool := true
  /-- Patterns of package names that a project survey leaves out. -/
  excludePackages : List String := []
  /-- Severities by the names of finding codes. -/
  severities : Dictionary Severity := ∅
  deriving DecidableEq

inductive ConfigError where
  /-- The file cannot be read, or not written. -/
  | inaccessible
  /-- The text is no configuration. -/
  | malformed
  deriving DecidableEq, Repr

namespace Config

/-- The configured severity of a code, or its default. -/
def severityOf (c : Config) (code : FindingCode) (default : Severity) : Severity :=
  (c.severities.get? code.name).getD default

def excludes (c : Config) (package : String) : Bool :=
  c.excludePackages.any (Glob.isMatch · package)

def isExtraSensitive (c : Config) (key : String) : Bool :=
  c.extraSensitiveKeys.any (eqIgnoringCase · key)

end Config
end EtlSurvey
