import EtlSurvey.Graph.ControlFlow
import EtlSurvey.Markup.Document
import EtlSurvey.Survey.Constraints
import EtlSurvey.Survey.Executables
import EtlSurvey.Survey.Review
import EtlSurvey.Survey.Values
import EtlSurvey.Text.FileName

/-! What comes of the document of a package: its record and a report. A document that cannot be
loaded or may not be read gives a record of the name alone and a failed report. -/

namespace EtlSurvey
open Text Markup

inductive PackageError where
  | load (e : LoadError)
  | encryption (e : EncryptionError)
  deriving DecidableEq, Repr

def PackageError.message : PackageError → String
  | .load e => e.message
  | .encryption e => e.message

def PackageError.code : PackageError → FindingCode
  | .load _ => .documentLoadFailed
  | .encryption _ => .packageEncrypted

structure PackageSurvey where
  package : Package
  report : PackageReport
  deriving DecidableEq

/-- Name of a package whose document has none: the stem of the file's name. -/
def fallbackName (source : String) : String := (FileName.stem? source).getD source

/-- Record and report of a package that failed. -/
def PackageSurvey.failed (c : Config) (source name : String) (before : List Diagnostic)
    (e : PackageError) : PackageSurvey :=
  let d : Diagnostic := {
    code := e.code
    severity := c.severityOf e.code .error
    message := e.message
    location := some ⟨source, none⟩ }
  let r : PackageReport := { package := name, source }
  { package := .minimal name, report := (r.extend before).fail d }

/-- All records of a package, from the root of its document. Also counts the executables that the
document has, with and without those of unknown kinds. -/
def readPackage (policy : RedactionPolicy) (retain : Bool) (metadata : Metadata)
    (root : Element) : Noted (Package × Nat × Nat) := do
  let parameters ← readParameters policy root
  let vars ← readVariables root
  let connections ← readConnections policy root
  let tree ← readExecutables policy retain root
  let edges ← readConstraints root
  (ControlFlow.ofEdges (tree.executables.map (·.id)) edges).validate
  let expressions ← readExpressions policy root
  return ({ metadata, parameters, vars, connections, executables := tree.executables,
            edges, expressions }, tree.total, tree.supported)

def auditCauses (a : Audit) : List Cause :=
  a.credentialSuspects.map .credentialSuspect ++ a.notices.map .notice

/-- The report of a package that could be read. -/
def reportOf (c : Config) (source : String) (p : Package) (total supported : Nat)
    (remarks : List Remark) : PackageReport :=
  let r : PackageReport := {
    package := p.name
    source
    migrationMode := some p.migrationMode
    manualReview := p.reviewItems
    unsupportedExecutables := unsupportedOf remarks
    redactedProperties := redactedOf remarks
    summary := {
      executablesTotal := total
      executablesSupported := supported
      components := (p.executables.flatMap (·.components)).length
      edges := p.edges.length } }
  r.extend (diagnosticsOf c source remarks)

/-- Metadata of a document and the policy that its protection level asks for; fails if the
document may not be read. -/
def openPackage (c : Config) (source : String) (d : Document) :
    Noted (Metadata × RedactionPolicy × Option EncryptionError) := do
  let metadata ← readMetadata d.root (fallbackName source)
  let policy := RedactionPolicy.ofConfig c metadata.protectionLevel
  let refusal ← policy.resolve
  return (metadata, policy, refusal)

/-- The part of a survey that comes after the decision to read the document. -/
def readDocument (c : Config) (policy : RedactionPolicy) (metadata : Metadata) (d : Document) :
    Noted (Package × Nat × Nat) := do
  foundAll (d.recovered.toList.map fun failure => .recovered failure.describe)
  let (package, counts) ← readPackage policy c.retainUnsupported metadata d.root
  foundAll (auditCauses (Audit.ofPackage package))
  return (package, counts)

end EtlSurvey
