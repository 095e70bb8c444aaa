import EtlSurvey.Finding.Cause
import EtlSurvey.Markup.Element
import EtlSurvey.Record.Package

/-! What a package document says of the package as a whole. -/

namespace EtlSurvey
open Text Markup

/-- Name of a data type code; other names stay as they are. -/
def dataTypeName (raw : String) : String :=
  match trim raw with
  | "2" => "Int16"
  | "3" => "Int32"
  | "4" => "Single"
  | "5" => "Double"
  | "6" => "Currency"
  | "7" => "DateTime"
  | "8" => "String"
  | "11" => "Boolean"
  | "13" => "Object"
  | "14" => "Decimal"
  | "16" => "SByte"
  | "17" => "Byte"
  | "18" => "String"
  | "19" => "UInt32"
  | "20" => "Int64"
  | "21" => "UInt64"
  | "" => "String"
  | other => other

/-- Reads a protection level; an unknown one counts as the default and is reported. -/
def readProtectionLevel (raw : Option String) : Noted ProtectionLevel :=
  match raw.bind trimmed? with
  | none => pure .dontSaveSensitive
  | some raw =>
    match ProtectionLevel.parse? raw with
    | some level => pure level
    | none => do
      found (.unknownLevel raw)
      return .dontSaveSensitive

/-- Id of the executable that an element stands in, or the package scope. The root executable is
the package itself. -/
def owningScope (s : Site) : String :=
  match s.above.dropWhile (!·.isExecutable) with
  | owner :: _ :: _ => (owner.attrText? "refId").getD packageScope
  | _ => packageScope

/-- Version from its major, minor and build parts. A build alone is a version too. -/
def versionOf (root : Element) : Option String :=
  match root.attrText? "VersionMajor", root.attrText? "VersionBuild" with
  | some major, build =>
    some (major ++ "." ++ (root.attrText? "VersionMinor").getD "0" ++ "." ++ build.getD "0")
  | none, build => build

/-- The package's name falls back to the given one. -/
def readMetadata (root : Element) (fallback : String) : Noted Metadata := do
  let raw := (root.attr? "ProtectionLevel").or
    ((root.property? "ProtectionLevel").bind Element.text?)
  let level ← readProtectionLevel raw
  return {
    name := (root.attrText? "ObjectName").getD fallback
    protectionLevel := level
    version := versionOf root
    creator := root.attrText? "CreatorName"
    creationDate := root.attrText? "CreationDate"
    description := root.attrText? "Description" }

end EtlSurvey
