import EtlSurvey.Config
import EtlSurvey.Storage
import EtlSurvey.Toml.Document
import EtlSurvey.Toml.Printer

/-! Configurations as TOML, and in files. Unknown keys are skipped. The password is read but never
written. -/

namespace EtlSurvey
open Text Toml

namespace Toml.Value

def text? : Value → Option String
  | .text s => some s
  | _ => none

def bool? : Value → Option Bool
  | .bool b => some b
  | _ => none

def texts? : Value → Option (List String)
  | .list items => items.mapM text?
  | _ => none

def isEmptyCollection : Value → Bool
  | .list [] | .table [] => true
  | _ => false

/-- A severity by its name. -/
def severity? : Value → Option Severity
  | .text s => Severity.ofName? s
  | .table [(name, argument)] =>
    if argument.isEmptyCollection then Severity.ofName? name else none
  | _ => none

def overrides? : Value → Option (Dictionary Severity)
  | .table entries => do
    let entries ← entries.mapM fun (key, v) => v.severity?.map (key, ·)
    return Dictionary.ofList entries
  | _ => none

/-- The overrides are the only field of their section. -/
def severitySection? : Value → Option (Dictionary Severity)
  | .table entries => (entries.lookup "overrides").bind overrides?
  | .list (first :: _) => overrides? first
  | _ => none

end Toml.Value

/-- A field that may be missing. -/
def settingOr? (entries : List (String × Toml.Value)) (key : String) (default : α)
    (f : Toml.Value → Option α) : Option α :=
  match entries.lookup key with
  | none => some default
  | some v => f v

def Config.ofToml? (s : String) : Option Config := do
  let entries ← Toml.read? s
  let d : Config := {}
  return {
    password := ← settingOr? entries "password" d.password fun v => v.text?.map some
    strictWiring := ← settingOr? entries "strict_wiring" d.strictWiring Value.bool?
    retainUnsupported :=
      ← settingOr? entries "retain_unsupported_executables" d.retainUnsupported Value.bool?
    extraSensitiveKeys :=
      ← settingOr? entries "extra_sensitive_keys" d.extraSensitiveKeys Value.texts?
    parallelPackages := ← settingOr? entries "parallel_packages" d.parallelPackages Value.bool?
    excludePackages := ← settingOr? entries "exclude_packages" d.excludePackages Value.texts?
    severities := ← settingOr? entries "severity" d.severities Value.severitySection? }

/-- All of a configuration but the password. -/
def Config.toToml (c : Config) : String :=
  "strict_wiring = " ++ printBool c.strictWiring ++ "\n" ++
  "retain_unsupported_executables = " ++ printBool c.retainUnsupported ++ "\n" ++
  "extra_sensitive_keys = " ++ printTexts c.extraSensitiveKeys ++ "\n" ++
  "parallel_packages = " ++ printBool c.parallelPackages ++ "\n" ++
  "exclude_packages = " ++ printTexts c.excludePackages ++ "\n\n" ++
  "[severity.overrides]\n" ++
  String.join (c.severities.entries.map fun (key, severity) =>
    printKey key ++ " = " ++ printText severity.name ++ "\n")

namespace Config

def parse (text : String) : Except ConfigError Config :=
  match ofToml? text with
  | some c => .ok c
  | none => .error .malformed

def load (disk : Folder) (path : String) : Except ConfigError Config :=
  match (disk.read path).toOption.bind Utf8.decode? with
  | some text => parse text
  | none => .error .inaccessible

/-- The folder after the configuration has been written. -/
def save (c : Config) (disk : Folder) (path : String) : Except ConfigError Folder :=
  match disk.write? path (Utf8.encode c.toToml) with
  | some disk => .ok disk
  | none => .error .inaccessible

end Config

end EtlSurvey
