import EtlSurvey.Expression.Template
import EtlSurvey.Record.Package
import EtlSurvey.Report.Package
import EtlSurvey.Text.Glob
import EtlSurvey.Text.Utf8

/-! What a surveyed package is fit for, what a person should look at, and what its record shows of
secrets. -/

namespace EtlSurvey
open Text

/-- Inside the warehouse where nothing comes from outside; mixed where data flows stand beside SQL
tasks; otherwise orchestration. -/
def Package.migrationMode (p : Package) : MigrationMode :=
  if p.isTransformationOnly then .dbt
  else if !p.dataFlows.isEmpty && !p.sqlTasks.isEmpty then .mixed
  else .airflow

/-- Expressions of more bytes than this are worth a look. -/
def longExpression : Nat := 100

def reviewProtection (p : Package) : List ReviewItem :=
  let level := p.metadata.protectionLevel
  if level == .dontSaveSensitive then []
  else [⟨"package", p.name, "Protected with " ++ level.name ++
    "; verify sensitive values are supplied at the target"⟩]

def Executable.review? (e : Executable) : Option ReviewItem :=
  match e.kind with
  | .script => some ⟨"script_task", e.id, "Script task needs manual conversion"⟩
  | .forEachLoop | .forLoop =>
    some ⟨"loop", e.id, "Loop container; verify dynamic enumeration mapping"⟩
  | .unsupported _ => some ⟨"executable", e.id, "Unsupported executable type"⟩
  | _ => none

def PropertyExpression.review? (e : PropertyExpression) : Option ReviewItem :=
  if Text.Utf8.size e.text > longExpression || Expression.complexity e.text == .high then
    some ⟨"expression", e.scope ++ "." ++ e.property,
      "Complex expression; review the translation"⟩
  else none

def Connection.review? (c : Connection) : Option ReviewItem :=
  if c.kind.hasLimitedSupport then
    some ⟨"connection", c.id, "Connection type has limited support"⟩
  else none

def Package.reviewItems (p : Package) : List ReviewItem :=
  reviewProtection p ++ p.executables.filterMap Executable.review? ++
    p.expressions.filterMap PropertyExpression.review? ++ p.connections.filterMap Connection.review?

def credentialMarkers : List String := ["password=", "pwd=", "user id="]

structure Audit where
  /-- Connections with at least one value that was taken out. -/
  redactedConnections : List String
  /-- Executables whose SQL seems to contain credentials. -/
  credentialSuspects : List String
  notices : List String
  deriving DecidableEq, Repr

namespace Audit

def looksLikeCredentials (sql : String) : Bool := credentialMarkers.any (occursIn · (lower sql))

def ofPackage (p : Package) : Audit :=
  let redacted := (p.connections.filter fun c =>
    c.properties.entries.any fun (_, value) => occursIn redactedText value).map (·.id)
  let count := redacted.length
  { redactedConnections := redacted
    credentialSuspects := (p.executables.filter (·.sql.any looksLikeCredentials)).map (·.id)
    notices :=
      (if redacted.isEmpty then [] else
        [s!"{count} connection(s) have redacted sensitive data; configure them in the target environment"]) ++
      (if p.metadata.protectionLevel == .dontSaveSensitive then
        ["Package uses DontSaveSensitive; every connection must be configured in the target environment"]
      else []) }

def isClean (a : Audit) : Bool := a.redactedConnections.isEmpty && a.credentialSuspects.isEmpty

end Audit

end EtlSurvey
