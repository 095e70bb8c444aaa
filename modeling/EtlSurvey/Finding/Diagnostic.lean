import EtlSurvey.Finding.Code
import EtlSurvey.Json.Record

/-! Diagnostics as reports show them, and their JSON form. -/

namespace EtlSurvey
open Json

/-- A file, and an element in it if one is meant. -/
structure Location where
  file : String
  element : Option String
  deriving DecidableEq, Repr

structure Diagnostic where
  code : FindingCode
  severity : Severity
  message : String
  location : Option Location := none
  /-- Ids involved in the finding. -/
  related : List String := []
  deriving DecidableEq, Repr

def FindingCode.toJson (c : FindingCode) : Value := .text c.name

def FindingCode.ofJson? : Value → Option FindingCode :=
  caseOf? (FindingCode.all.map fun c => (c.name, c))

def Severity.toJson (s : Severity) : Value := .text s.name

def Severity.ofJson? : Value → Option Severity :=
  caseOf? (Severity.all.map fun s => (s.name, s))

namespace Location

def toJson (l : Location) : Value := .record [
  ("file", some (.text l.file)),
  ("element", some (Value.orNull .text l.element))]

def ofJson? (v : Value) : Option Location := do
  match ← v.fields? ["file", "element"] with
  | [file, element] =>
    return { file := ← file.required Value.text?, element := ← element.optional Value.text? }
  | _ => none

end Location

namespace Diagnostic

def toJson (d : Diagnostic) : Value := .record [
  ("code", some d.code.toJson),
  ("severity", some d.severity.toJson),
  ("message", some (.text d.message)),
  ("location", some (Value.orNull Location.toJson d.location)),
  ("related", some (.texts d.related))]

def ofJson? (v : Value) : Option Diagnostic := do
  match ← v.fields? ["code", "severity", "message", "location", "related"] with
  | [code, severity, message, location, related] =>
    return {
      code := ← code.required FindingCode.ofJson?
      severity := ← severity.required Severity.ofJson?
      message := ← message.required Value.text?
      location := ← location.optional Location.ofJson?
      related := ← related.required (Value.listOf? Value.text?) }
  | _ => none

end Diagnostic
end EtlSurvey
