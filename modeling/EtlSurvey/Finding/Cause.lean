import EtlSurvey.Finding.Note
import EtlSurvey.Kind.Protection

/-! What a survey can find, and the note that each finding makes. -/

namespace EtlSurvey

inductive Cause where
  | recovered (reason : String)
  | unknownLevel (raw : String)
  /-- Sensitive values are encrypted with a password, given or not. -/
  | passwordProtected (passwordGiven : Bool)
  | userKeyProtected
  | redactedConnection (count : Nat) (name id : String)
  | credentialSuspect (id : String)
  | notice (text : String)
  | namelessParameter
  | repeatedParameter (name : String)
  | namelessVariable
  | repeatedVariable (space name scope : String)
  | namelessConnection (id : Option String)
  | unsupportedConnection (raw name id : String)
  | repeatedConnection (id : String)
  | namelessExecutable (containerId : String)
  | repeatedExecutable (id : String)
  | unsupportedExecutable (raw name id : String)
  | missingStatement (name id : String)
  | missingPipeline (name id : String)
  | namelessComponent (taskId : String)
  | unsupportedComponent (id raw : String)
  | repeatedComponent (id : String)
  | namelessPath (taskId : String)
  | fanIn (pathId first second : String)
  | unresolvedStart (pathId : String) (written : Option String)
  | unresolvedEnd (pathId : String) (written : Option String)
  | unwiredInput (input componentId : String)
  | openConstraint (id : Option String)
  | unknownCondition (raw source target : String) (id : Option String)
  | missingExpression (source target : String) (id : Option String)
  | unresolvedReference (id : String)
  | precedenceCycle (cycle : List String)
  | isolatedExecutables (ids : List String)
  | expressionIssue (issue property scope : String)
  | complexExpression (property scope : String)
  | namelessManifestEntry
  | namelessProjectParameter
  | repeatedProjectParameter (name : String)
  | invalidProjectFile (member reason : String)
  | projectEncrypted (reason : String)
  | repeatedProjectConnection (id member : String)
  | unlistedDocument (name : String)
  | repeatedPackage (name member : String)
  | scanFailed (name member reason : String)
  | unknownChild (parent child taskId : String)
  | packageCycle (cycle : List String)
  deriving DecidableEq, Repr

namespace Cause

def code : Cause → FindingCode
  | recovered _ => .documentRecovered
  | unknownLevel _ => .unknownProtectionLevel
  | passwordProtected _ | userKeyProtected => .decryptionUnavailable
  | redactedConnection .. => .sensitiveDataRedacted
  | credentialSuspect _ => .hardcodedCredentials
  | notice _ => .info
  | namelessParameter | namelessVariable | namelessConnection _ | namelessExecutable _
  | missingStatement .. | namelessComponent _ | namelessPath _ | openConstraint _
  | namelessManifestEntry | namelessProjectParameter => .missingAttribute
  | repeatedParameter _ | repeatedVariable .. | repeatedConnection _ | repeatedExecutable _
  | repeatedComponent _ | repeatedProjectParameter _ | repeatedProjectConnection ..
  | repeatedPackage .. => .duplicateKey
  | unsupportedConnection .. => .unsupportedConnection
  | unsupportedExecutable .. => .unsupportedExecutable
  | unsupportedComponent .. => .unsupportedComponent
  | missingPipeline .. => .dataflowMissingPipeline
  | fanIn .. => .dataflowFanIn
  | unresolvedStart .. | unresolvedEnd .. => .dataflowUnresolvedPath
  | unwiredInput .. => .dataflowUnwiredInput
  | unknownCondition .. => .invalidPrecedenceCondition
  | missingExpression .. => .missingPrecedenceExpression
  | unresolvedReference _ => .unresolvedReference
  | precedenceCycle _ => .precedenceCycle
  | isolatedExecutables _ => .isolatedExecutable
  | expressionIssue .. => .expressionSyntax
  | complexExpression .. => .expressionComplex
  | invalidProjectFile .. => .projectFileInvalid
  | projectEncrypted _ => .packageEncrypted
  | unlistedDocument _ => .warning
  | scanFailed .. => .dependencyScanFailed
  | unknownChild .. => .unknownChildPackage
  | packageCycle _ => .circularPackageDependency

def weight : Cause → Weight
  | redactedConnection .. | notice _ | isolatedExecutables _ | complexExpression .. =>
    .fixed .info
  | fanIn .. | unresolvedStart .. | unresolvedEnd .. | unwiredInput .. => .wiring
  | _ => .fixed .warn

def message : Cause → String
  | recovered reason => s!"Document was malformed and parsed with recovery: {reason}"
  | unknownLevel raw => s!"Unknown protection level '{raw}', assuming DontSaveSensitive"
  | passwordProtected false => "Package password not supplied; sensitive values redacted"
  | passwordProtected true =>
    "Decryption of sensitive values is not implemented; sensitive values redacted"
  | userKeyProtected => "User key material is not available; sensitive values redacted"
  | redactedConnection count name _ =>
    s!"Redacted {count} sensitive value(s) on connection '{name}'"
  | credentialSuspect id => s!"SQL in '{id}' appears to embed credentials"
  | notice text => text
  | namelessParameter => "Package parameter without a name skipped"
  | repeatedParameter name => s!"Duplicate package parameter '{name}' ignored"
  | namelessVariable => "Variable without a name skipped"
  | repeatedVariable space name scope =>
    s!"Duplicate variable '{space}::{name}' in scope '{scope}' ignored"
  | namelessConnection _ => "Connection manager without a name skipped"
  | unsupportedConnection raw name _ => s!"Unsupported connection type '{raw}' on '{name}'"
  | repeatedConnection id => s!"Duplicate connection manager id '{id}' ignored"
  | namelessExecutable container => s!"Executable without a name under '{container}' skipped"
  | repeatedExecutable id => s!"Duplicate executable id '{id}' skipped"
  | unsupportedExecutable raw name _ => s!"Unsupported executable type '{raw}' on '{name}'"
  | missingStatement name _ => s!"SQL task '{name}' has no statement data"
  | missingPipeline name _ => s!"Data flow '{name}' has no pipeline"
  | namelessComponent task => s!"Component without an id skipped in '{task}'"
  | unsupportedComponent id raw => s!"Unsupported component '{id}' ({raw}) dropped"
  | repeatedComponent id => s!"Duplicate component id '{id}' ignored"
  | namelessPath task => s!"Path without an id skipped in '{task}'"
  | fanIn path first second => s!"Path '{path}' is produced by both '{first}' and '{second}'"
  | unresolvedStart path written =>
    let shown := written.getD "missing"
    s!"Start of path '{path}' ({shown}) does not resolve to a component"
  | unresolvedEnd path written =>
    let shown := written.getD "missing"
    s!"End of path '{path}' ({shown}) does not resolve to a component"
  | unwiredInput input component =>
    s!"Input '{input}' of '{component}' is not produced by any component"
  | openConstraint _ => "Precedence constraint without From or To skipped"
  | unknownCondition raw source target _ =>
    s!"Unknown precedence condition '{raw}' on {source} -> {target}; edge skipped"
  | missingExpression source target _ =>
    s!"Expression constraint {source} -> {target} has no expression; edge skipped"
  | unresolvedReference id => s!"Precedence constraint references unknown executable '{id}'"
  | precedenceCycle cycle => "Precedence cycle detected: " ++ " -> ".intercalate cycle
  | isolatedExecutables ids =>
    let count := ids.length
    s!"{count} executable(s) have no precedence constraints"
  | expressionIssue issue property scope =>
    s!"{issue} in expression for '{property}' on '{scope}'"
  | complexExpression property scope =>
    s!"Expression for '{property}' on '{scope}' is complex; review manually"
  | namelessManifestEntry => "Manifest package entry without a name skipped"
  | namelessProjectParameter => "Project parameter without a name skipped"
  | repeatedProjectParameter name => s!"Duplicate project parameter '{name}' ignored"
  | invalidProjectFile member reason => s!"Failed to read project file '{member}': {reason}"
  | projectEncrypted reason => s!"Project parameters and connections skipped: {reason}"
  | repeatedProjectConnection id _ => s!"Duplicate project connection manager '{id}' ignored"
  | unlistedDocument name =>
    s!"Manifest lists package '{name}' but the container has no document for it"
  | repeatedPackage name member =>
    s!"Package name '{name}' appears more than once; '{member}' ignored"
  | scanFailed name _ reason => s!"Dependency scan of '{name}' failed: {reason}"
  | unknownChild parent child _ =>
    s!"Package '{parent}' invokes '{child}', which is not part of the project"
  | packageCycle cycle =>
    "Packages invoke each other in a cycle: " ++ " -> ".intercalate cycle

/-- The element that a finding points at. -/
def element? : Cause → Option String
  | redactedConnection _ _ id | credentialSuspect id | repeatedParameter id
  | unsupportedConnection _ _ id | repeatedConnection id | namelessExecutable id
  | repeatedExecutable id | unsupportedExecutable _ _ id | missingStatement _ id
  | missingPipeline _ id | namelessComponent id | unsupportedComponent id _
  | repeatedComponent id | namelessPath id | fanIn id _ _ | unresolvedStart id _
  | unresolvedEnd id _ | unwiredInput _ id | unresolvedReference id
  | expressionIssue _ _ id | complexExpression _ id | repeatedProjectParameter id
  | invalidProjectFile id _ | repeatedProjectConnection _ id | unlistedDocument id
  | repeatedPackage _ id | scanFailed _ id _ | unknownChild _ _ id
  | repeatedVariable _ _ id => some id
  | namelessConnection id | openConstraint id | unknownCondition _ _ _ id
  | missingExpression _ _ id => id
  | precedenceCycle cycle => cycle.head?
  | recovered _ | unknownLevel _ | passwordProtected _ | userKeyProtected | notice _
  | namelessParameter | namelessVariable | isolatedExecutables _ | namelessManifestEntry
  | namelessProjectParameter | projectEncrypted _ | packageCycle _ => none

def related : Cause → List String
  | precedenceCycle ids | isolatedExecutables ids | packageCycle ids => ids
  | _ => []

def note (c : Cause) : Note where
  code := c.code
  weight := c.weight
  message := c.message
  element := c.element?
  related := c.related

end Cause

/-- Writes down a finding. -/
def found (c : Cause) : Noted Unit := Noted.note c.note

/-- Writes down findings in order. -/
def foundAll (causes : List Cause) : Noted Unit :=
  Noted.remarkAll (causes.map fun c => .note c.note)

theorem notesOf_foundAll (causes : List Cause) :
    notesOf (foundAll causes).remarks = causes.map Cause.note := by
  induction causes with
  | nil => rfl
  | cons c rest ih => exact congrArg (c.note :: ·) ih

end EtlSurvey
