import EtlSurvey.Markup.Document
import EtlSurvey.Record.Project
import EtlSurvey.Survey.Connections
import EtlSurvey.Survey.Metadata
import EtlSurvey.Text.FileName

/-! The files of a project besides its packages: manifest, build file, parameters, connections. -/

namespace EtlSurvey
open Text Markup

/-- A field of an element: an attribute, or the first property element of that name that has a
text. Properties in a list of their own come before those directly inside the element. -/
def fieldText? (e : Element) (name : String) : Option String :=
  let listed := (e.children.filter (·.hasLocalName "Properties")).flatMap (·.children)
  (e.attrText? name).or <| ((listed ++ e.children).filter fun p =>
    p.hasLocalName "Property" && p.attr? "Name" == some name).findSome? Element.text?

def hasFlag (e : Element) (name : String) : Bool := isTrue (fieldText? e name)

/-- The version as one field, or its parts up to the first that is missing. -/
def manifestVersion? (e : Element) : Option String :=
  (fieldText? e "Version").or <|
    match (["VersionMajor", "VersionMinor", "VersionBuild"].map (fieldText? e)).takeWhile
        Option.isSome with
    | [] => none
    | parts => some (".".intercalate (parts.filterMap id))

def readManifestEntry (e : Element) : Noted (Option ManifestEntry) :=
  match fieldText? e "Name" with
  | some name =>
    pure (some ⟨FileName.dropPackageExtension name, hasFlag e "EntryPoint"⟩)
  | none => do
    found .namelessManifestEntry
    return none

/-- Elements of the packages that a project lists. -/
def manifestEntryElements (project : Element) : List Element :=
  (project.sites.filter fun s => s.element.hasLocalName "Package" &&
    s.parent?.any (·.element.hasLocalName "Packages")).map (·.element)

/-- The protection level of a field that may be missing. -/
def readLevel? : Option String → Noted (Option ProtectionLevel)
  | none => pure none
  | some raw => do
    let level ← readProtectionLevel (some raw)
    return some level

/-- The manifest that a project element holds. -/
def readProjectElement (project : Element) : Noted Manifest := do
  let protectionLevel ← readLevel? (fieldText? project "ProtectionLevel")
  let packages ← (manifestEntryElements project).filterMapM readManifestEntry
  return {
    name := fieldText? project "Name"
    version := manifestVersion? project
    protectionLevel
    targetServerVersion := fieldText? project "TargetServerVersion"
    packages }

def readManifest (bytes : Bytes) : Except LoadError (Noted Manifest) := do
  let document ← Document.parse bytes
  if document.root.hasLocalName "Project" then return readProjectElement document.root
  else throw (.rootMismatch ("\x7b" ++ Space.ssis ++ "\x7dProject") document.root.qualifiedName)

/-- Text of the first descendant without children whose local name has the ending. -/
def textOfEnding? (root : Element) (ending : String) : Option String :=
  (root.descendants.find? fun e =>
    ending.toList.isSuffixOf e.name.toList && e.children.isEmpty).bind Element.text?

/-- A build file: build properties, and an embedded manifest for the rest. -/
def readBuildFile (bytes : Bytes) : Except LoadError (Noted Manifest) := do
  let root := (← Document.parse bytes).root
  return do
    let protectionLevel ← readLevel? (textOfEnding? root "ProtectionLevel")
    let built : Manifest :=
      { targetServerVersion := textOfEnding? root "TargetServerVersion", protectionLevel }
    match (root.descendantsNamed Space.ssis "Project").head? with
    | none => return built
    | some project =>
      let embedded ← readProjectElement project
      return built.merge embedded

def projectParameterValue? (e : Element) : Option String :=
  ((fieldText? e "Value").or (fieldText? e "ParameterValue")).or
    ((e.descendantsLocal "ParameterValue").findSome? Element.text?)

def readProjectParameter (policy : RedactionPolicy) (name : String) (e : Element) :
    Noted Parameter :=
  let sensitive := hasFlag e "Sensitive"
  let hidden := sensitive || policy.isSensitive name
  let value := projectParameterValue? e
  { value := {
      name
      dataType := ((fieldText? e "DataType").map dataTypeName).getD "String"
      defaultValue := if hidden then value.map fun _ => redactedText else value
      description := fieldText? e "Description"
      required := hasFlag e "Required"
      sensitive }
    remarks := if hidden && value.isSome then [.redacted "$Project" name] else [] }

/-- Parameters of a project; sensitive values are taken out. -/
def readProjectParameters (policy : RedactionPolicy) (bytes : Bytes) :
    Except LoadError (Noted (List Parameter)) := do
  let root := (← Document.parse bytes).root
  return keepFirst [] <| (root.descendantsLocal "Parameter").map fun e =>
    match (fieldText? e "Name").or (e.attrText? "ObjectName") with
    | none => do
      found .namelessProjectParameter
      return .dropped
    | some name => pure (.keyed name (Cause.repeatedProjectParameter name).note
        (readProjectParameter policy name e))

/-- A connection manager in a file of its own. -/
def readProjectConnection (policy : RedactionPolicy) (bytes : Bytes) :
    Except LoadError (Noted (Option Connection)) := do
  let document ← Document.parseWithRoot Space.dts "ConnectionManager" bytes
  return readConnection policy "Project.ConnectionManagers" document.root

end EtlSurvey
