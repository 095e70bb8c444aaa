import EtlSurvey.Finding.Cause
import EtlSurvey.Record.Package
import EtlSurvey.Text.Case

/-! What may not be stored in the clear. Nothing is ever decrypted: where only sensitive values
are encrypted they are left out, and a document that is encrypted as a whole is refused. -/

namespace EtlSurvey
open Text

/-- Keys that are always sensitive, in their loose spelling. -/
def sensitiveKeys : List String := [
  "password", "pwd", "connectionstring", "userpassword", "servername", "userid", "username",
  "initialcatalog", "database", "sqlstatement", "commandtext"]

/-- Loose spelling of a key: lower case, without spaces, underscores and dashes. -/
def looseKey (key : String) : String :=
  String.ofList ((key.toList.filter fun c => !(c == ' ' || c == '_' || c == '-')).flatMap lowerChar)

def isSensitiveKey (key : String) : Bool := sensitiveKeys.contains (looseKey key)

/-- A document that cannot be read because of its protection level. -/
structure EncryptionError where
  level : ProtectionLevel
  reason : String
  deriving DecidableEq, Repr

def EncryptionError.message (e : EncryptionError) : String :=
  "Package protected with " ++ e.level.name ++ " cannot be read: " ++ e.reason

structure RedactionPolicy where
  level : ProtectionLevel
  passwordGiven : Bool
  extraKeys : List String
  deriving DecidableEq, Repr

namespace RedactionPolicy

/-- An empty password is none. -/
def ofConfig (c : Config) (level : ProtectionLevel) : RedactionPolicy :=
  ⟨level, (c.password.bind nonEmpty?).isSome, c.extraSensitiveKeys⟩

/-- Why the document is refused, if it is. -/
def refusal? (p : RedactionPolicy) : Option EncryptionError :=
  match p.level with
  | .encryptAllWithPassword =>
    some ⟨p.level, if p.passwordGiven then "full package decryption is not implemented"
      else "package password required"⟩
  | .encryptAllWithUserKey => some ⟨p.level, "full package decryption is not implemented"⟩
  | _ => none

/-- The warning that comes with a document whose sensitive values are encrypted. -/
def warning? (p : RedactionPolicy) : Option Cause :=
  match p.level with
  | .encryptSensitiveWithPassword => some (.passwordProtected p.passwordGiven)
  | .encryptSensitiveWithUserKey => some .userKeyProtected
  | _ => none

/-- Decides whether the document is read, with the warning that goes with it. -/
def resolve (p : RedactionPolicy) : Noted (Option EncryptionError) :=
  ⟨p.refusal?, p.warning?.toList.map fun c => .note c.note⟩

def isSensitive (p : RedactionPolicy) (key : String) : Bool :=
  isSensitiveKey key || p.extraKeys.any (eqIgnoringCase · key)

/-- Keys whose values have to be taken out. -/
def exposedKeys (p : RedactionPolicy) (properties : Properties) : List String :=
  (properties.entries.filter fun (key, value) =>
    p.isSensitive key && value != redactedText).map (·.1)

/-- Properties without the values of sensitive keys. -/
def redact (p : RedactionPolicy) (properties : Properties) : Properties :=
  properties.mapValues fun key value => if p.isSensitive key then redactedText else value

/-- Takes sensitive values out and writes down which; also counts them. -/
def redactOwned (p : RedactionPolicy) (owner : String) (properties : Properties) :
    Noted (Properties × Nat) :=
  let keys := p.exposedKeys properties
  ⟨(p.redact properties, keys.length), keys.map (.redacted owner ·)⟩

/-- Text of an expression for a property. -/
def redactText (p : RedactionPolicy) (property text : String) : String :=
  if p.isSensitive property then redactedText else text

end RedactionPolicy
end EtlSurvey
