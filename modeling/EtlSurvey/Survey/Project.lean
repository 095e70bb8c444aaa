import EtlSurvey.Graph.Invocation
import EtlSurvey.Report.Project
import EtlSurvey.Survey.Dependencies
import EtlSurvey.Survey.PackageFile
import EtlSurvey.Survey.ProjectFile

/-! Surveying a project: its own files, then all of its packages, then how these run each other.
What cannot be read is noted and never stops the rest. -/

namespace EtlSurvey
open Text Markup

structure ProjectSurvey where
  project : Project
  report : ProjectReport
  deriving DecidableEq

namespace ProjectSurvey

/-- No package failed. -/
def isSuccess (s : ProjectSurvey) : Bool := s.report.summary.packagesFailed == 0

def isPartial (s : ProjectSurvey) : Bool := s.report.isPartial

end ProjectSurvey

def manifestFile : String := "@Project.manifest"

def parametersFile : String := "Project.params"

/-- What the files of a project say, apart from the packages. -/
structure ProjectFiles where
  manifest : Manifest := {}
  parameters : List Parameter := []
  connections : List Connection := []

/-- Reads a member as a project file of some sort; a failure is noted. -/
def readProjectFile (c : Container) (read : Bytes → Except LoadError (Noted α))
    (member : String) : Noted (Option α) :=
  match c.read member with
  | .error e => do
    found (.invalidProjectFile member e.message)
    return none
  | .ok bytes =>
    match read bytes with
    | .error e => do
      found (.invalidProjectFile member e.message)
      return none
    | .ok result => some <$> result

/-- The same for a member that may not be there. -/
def readProjectFile? (c : Container) (read : Bytes → Except LoadError (Noted α)) :
    Option String → Noted (Option α)
  | none => pure none
  | some member => readProjectFile c read member

/-- The manifest, completed by the build file. -/
def readProjectManifest (c : Container) : Noted Manifest := do
  let manifest ← readProjectFile? c readManifest (c.find? manifestFile)
  let built ← readProjectFile? c readBuildFile (c.membersWithExtension "dtproj").head?
  return (manifest.getD {}).merge (built.getD {})

def readProjectConnections (policy : RedactionPolicy) (c : Container) : Noted (List Connection) :=
  keepFirst [] <| (c.membersWithExtension "conmgr").map fun member => do
    match (← readProjectFile c (readProjectConnection policy) member).join with
    | none => return .dropped
    | some connection =>
      return .keyed connection.id (Cause.repeatedProjectConnection connection.id member).note
        (pure connection)

/-- Parameters and connections stay out if the project may not be read. -/
def readProjectFiles (config : Config) (c : Container) : Noted ProjectFiles := do
  let manifest ← readProjectManifest c
  let policy := RedactionPolicy.ofConfig config (manifest.protectionLevel.getD .dontSaveSensitive)
  match ← policy.resolve with
  | some refusal =>
    found (.projectEncrypted refusal.message)
    return { manifest }
  | none =>
    let parameters ←
      readProjectFile? c (readProjectParameters policy) (c.find? parametersFile)
    let connections ← readProjectConnections policy c
    return { manifest, parameters := parameters.getD [], connections }

/-- The document of a package under the name of the package. -/
structure PackageSource where
  name : String
  member : String
  content : MemberContent

/-- Name of the package in a member. -/
def packageNameOf (member : String) : String := fallbackName (FileName.ofMember member)

/-- Documents of the packages that are not excluded, ascending by name; of those with one name the
first counts. -/
def packageSources (config : Config) (c : Container) : Noted (List PackageSource) := do
  let candidates := c.packageMembers.filter fun member => !config.excludes (packageNameOf member)
  let sources ← keepFirst [] <| candidates.map fun member =>
    let name := packageNameOf member
    pure (.keyed name (Cause.repeatedPackage name member).note
      (pure ⟨name, member, c.read member⟩))
  return sortByKey (·.name) sources

/-- Listed packages that have no document and are not excluded. -/
def undocumentedPackages (config : Config) (m : Manifest) (names : List String) : List Cause :=
  (m.packages.filter fun entry =>
    !names.any (eqIgnoringCase · entry.name) && !config.excludes entry.name).map
      fun entry => .unlistedDocument entry.name

/-- The package that a reference means: one of exactly that name, else one whose name differs in
the case of ASCII letters only. -/
def resolvePackage? (names : List String) (reference : String) : Option String :=
  (names.find? (· == reference)).or (names.find? (eqIgnoringCase · reference))

/-- Dependencies of one package; those on packages of the project go by their names. -/
def sourceDependencies (names : List String) (s : PackageSource) : Noted (List Dependency) :=
  match s.content with
  | .error _ => pure []
  | .ok bytes =>
    match scanDependencies s.name bytes with
    | .error e => do
      found (.scanFailed s.name s.member e.message)
      return []
    | .ok dependencies => pure <| dependencies.map fun d =>
      { d with child := (resolvePackage? names d.child).getD d.child }

/-- Invoked packages that are not part of the project, each once, and a cycle. -/
def invocationProblems (g : InvocationGraph) (dependencies : List Dependency) : List Cause :=
  (((dependencies.filter fun d => !g.contains d.child).eraseDupsBy fun a b =>
    a.child == b.child).map fun d => .unknownChild d.parent d.child d.taskId) ++
  g.findCycle.toList.map .packageCycle

/-- Survey of a package whose document cannot be read. -/
def unreadablePackage (s : PackageSource) (e : ContainerError) : PackageSurvey :=
  let d : Diagnostic := {
    code := .documentLoadFailed
    severity := .error
    message := "Failed to read package document: " ++ e.message
    location := some ⟨s.member, none⟩ }
  let r : PackageReport := { package := s.name, source := s.member }
  ⟨.minimal s.name, r.fail d⟩

def surveySource (config : Config) (s : PackageSource) : PackageSurvey :=
  match s.content with
  | .ok bytes => surveyPackage config s.member bytes
  | .error e => unreadablePackage s e

def referenceOf (entryPoints : List String) (s : PackageSource) (survey : PackageSurvey) :
    PackageReference where
  name := s.name
  path := s.member
  entryPoint := entryPoints.contains s.name
  transformationOnly := survey.report.success && survey.package.isTransformationOnly
  failed := !survey.report.success

/-- Adds a package that has been surveyed to the record of the project and to its report. -/
def ProjectSurvey.addPackage (entryPoints : List String) (p : ProjectSurvey)
    (s : PackageSource) (survey : PackageSurvey) : ProjectSurvey :=
  let reference := referenceOf entryPoints s survey
  let counted :=
    if reference.transformationOnly then p.report.countTransformation else p.report
  { project := { p.project with
      packages := p.project.packages ++ [reference]
      packageRecords := p.project.packageRecords.insert s.name survey.package }
    report := counted.addPackage survey.report }

/-- Everything that is read of a project before its packages are surveyed. -/
structure ProjectOutline where
  files : ProjectFiles
  sources : List PackageSource
  dependencies : List Dependency
  graph : InvocationGraph

def outlineProject (config : Config) (c : Container) : Noted ProjectOutline := do
  let files ← readProjectFiles config c
  let sources ← packageSources config c
  let names := sources.map (·.name)
  foundAll (undocumentedPackages config files.manifest names)
  let dependencies := (← sources.mapM (sourceDependencies names)).flatten
  let graph := InvocationGraph.ofDependencies names dependencies
  foundAll (invocationProblems graph dependencies)
  return { files, sources, dependencies, graph }

/-- A project that has its packages, surveyed and added one after another. -/
def ProjectOutline.fill (config : Config) (name : String) (o : ProjectOutline) : ProjectSurvey :=
  let surveys := o.sources.map fun s => (s, surveySource config s)
  let empty : ProjectSurvey := {
    project := {
      name
      version := o.files.manifest.version
      protectionLevel := o.files.manifest.protectionLevel.getD .dontSaveSensitive
      targetServerVersion := o.files.manifest.targetServerVersion
      parameters := o.files.parameters
      connections := o.files.connections }
    report := { project := name } }
  surveys.foldl (fun p (s, survey) => p.addPackage o.graph.entryPoints s survey) empty

/-- The survey of a project that is outlined, with the diagnostics of the project itself. -/
def ProjectOutline.survey (config : Config) (name : String) (diagnostics : List Diagnostic)
    (o : ProjectOutline) : ProjectSurvey :=
  let filled := o.fill config (o.files.manifest.name.getD name)
  let project := { filled.project with
    dependencies := o.dependencies
    entryPoints := o.graph.entryPoints
    executionChains := o.graph.executionChains
    isolatedPackages := o.graph.isolated }
  { project
    report := { filled.report with
      summary := { filled.report.summary with
        dependencies := project.dependencies.length
        entryPoints := project.entryPoints.length }
      recommendations := o.graph.recommendations
      diagnostics } }

def surveyProject (config : Config) (c : Container) : ProjectSurvey :=
  let ⟨o, remarks⟩ := outlineProject config c
  o.survey config c.name (diagnosticsOf config c.name remarks)

end EtlSurvey
