/-! Codes of findings, by which configurations and readers refer to them, and severities. -/

namespace EtlSurvey

inductive FindingCode where
  | documentLoadFailed
  | documentRecovered
  | packageEncrypted
  | decryptionUnavailable
  | unknownProtectionLevel
  | sensitiveDataRedacted
  | hardcodedCredentials
  | unsupportedExecutable
  | unsupportedComponent
  | unsupportedConnection
  | missingAttribute
  | duplicateKey
  | unresolvedReference
  | invalidPrecedenceCondition
  | missingPrecedenceExpression
  | precedenceCycle
  | isolatedExecutable
  | dataflowMissingPipeline
  | dataflowUnresolvedPath
  | dataflowUnwiredInput
  | dataflowFanIn
  | expressionSyntax
  | expressionComplex
  | projectFileInvalid
  | dependencyScanFailed
  | unknownChildPackage
  | circularPackageDependency
  | info
  | warning
  deriving DecidableEq, Repr, Inhabited

namespace FindingCode

def name : FindingCode → String
  | documentLoadFailed => "DOCUMENT_LOAD_FAILED"
  | documentRecovered => "DOCUMENT_RECOVERED"
  | packageEncrypted => "PACKAGE_ENCRYPTED"
  | decryptionUnavailable => "DECRYPTION_UNAVAILABLE"
  | unknownProtectionLevel => "UNKNOWN_PROTECTION_LEVEL"
  | sensitiveDataRedacted => "SENSITIVE_DATA_REDACTED"
  | hardcodedCredentials => "HARDCODED_CREDENTIALS"
  | unsupportedExecutable => "UNSUPPORTED_EXECUTABLE"
  | unsupportedComponent => "UNSUPPORTED_COMPONENT"
  | unsupportedConnection => "UNSUPPORTED_CONNECTION"
  | missingAttribute => "MISSING_ATTRIBUTE"
  | duplicateKey => "DUPLICATE_KEY"
  | unresolvedReference => "UNRESOLVED_REFERENCE"
  | invalidPrecedenceCondition => "INVALID_PRECEDENCE_CONDITION"
  | missingPrecedenceExpression => "MISSING_PRECEDENCE_EXPRESSION"
  | precedenceCycle => "PRECEDENCE_CYCLE"
  | isolatedExecutable => "ISOLATED_EXECUTABLE"
  | dataflowMissingPipeline => "DATAFLOW_MISSING_PIPELINE"
  | dataflowUnresolvedPath => "DATAFLOW_UNRESOLVED_PATH"
  | dataflowUnwiredInput => "DATAFLOW_UNWIRED_INPUT"
  | dataflowFanIn => "DATAFLOW_FAN_IN"
  | expressionSyntax => "EXPRESSION_SYNTAX"
  | expressionComplex => "EXPRESSION_COMPLEX"
  | projectFileInvalid => "PROJECT_FILE_INVALID"
  | dependencyScanFailed => "DEPENDENCY_SCAN_FAILED"
  | unknownChildPackage => "UNKNOWN_CHILD_PACKAGE"
  | circularPackageDependency => "CIRCULAR_PACKAGE_DEPENDENCY"
  | info => "INFO"
  | warning => "WARNING"

def all : List FindingCode := [documentLoadFailed, documentRecovered, packageEncrypted,
  decryptionUnavailable, unknownProtectionLevel, sensitiveDataRedacted, hardcodedCredentials,
  unsupportedExecutable, unsupportedComponent, unsupportedConnection, missingAttribute,
  duplicateKey, unresolvedReference, invalidPrecedenceCondition, missingPrecedenceExpression,
  precedenceCycle, isolatedExecutable, dataflowMissingPipeline, dataflowUnresolvedPath,
  dataflowUnwiredInput, dataflowFanIn, expressionSyntax, expressionComplex, projectFileInvalid,
  dependencyScanFailed, unknownChildPackage, circularPackageDependency, info, warning]

def ofName? (s : String) : Option FindingCode := all.find? (·.name == s)

end FindingCode

inductive Severity where
  | info
  | warn
  | error
  deriving DecidableEq, Repr, Inhabited

namespace Severity

def name : Severity → String
  | info => "info"
  | warn => "warn"
  | error => "error"

def all : List Severity := [info, warn, error]

def ofName? (s : String) : Option Severity := all.find? (·.name == s)

/-- Position in ascending order. -/
def rank : Severity → Nat
  | info => 0
  | warn => 1
  | error => 2

end Severity
end EtlSurvey
