import EtlSurvey.Record.Package

/-! The record of a project: what its files say about itself, its packages, what they share, and how
they invoke each other. -/

namespace EtlSurvey

/-- A package that a manifest lists, by its name without extension. -/
structure ManifestEntry where
  name : String
  entryPoint : Bool
  deriving DecidableEq, Repr

structure Manifest where
  name : Option String := none
  version : Option String := none
  protectionLevel : Option ProtectionLevel := none
  targetServerVersion : Option String := none
  packages : List ManifestEntry := []
  deriving DecidableEq, Repr

/-- Fills what is missing from another manifest. -/
def Manifest.merge (m other : Manifest) : Manifest where
  name := m.name.or other.name
  version := m.version.or other.version
  protectionLevel := m.protectionLevel.or other.protectionLevel
  targetServerVersion := m.targetServerVersion.or other.targetServerVersion
  packages := if m.packages.isEmpty then other.packages else m.packages

/-- A task of one package that runs another one. -/
structure Dependency where
  parent : String
  child : String
  taskName : String
  taskId : String
  condition : Option Condition
  deriving DecidableEq

structure PackageReference where
  name : String
  path : String
  entryPoint : Bool := false
  transformationOnly : Bool := false
  failed : Bool := false
  deriving DecidableEq

/-- An entry point and the packages that run after it. -/
structure ExecutionChain where
  entryPoint : String
  packages : List String
  deriving DecidableEq

structure Project where
  name : String
  version : Option String := none
  protectionLevel : ProtectionLevel := .dontSaveSensitive
  targetServerVersion : Option String := none
  parameters : List Parameter := []
  connections : List Connection := []
  packages : List PackageReference := []
  packageRecords : Dictionary Package := ∅
  dependencies : List Dependency := []
  entryPoints : List String := []
  executionChains : List ExecutionChain := []
  isolatedPackages : List String := []
  deriving DecidableEq

namespace Project

def package? (p : Project) (name : String) : Option Package := p.packageRecords.get? name

def reference? (p : Project) (name : String) : Option PackageReference :=
  p.packages.find? (·.name == name)

def childrenOf (p : Project) (parent : String) : List Dependency :=
  p.dependencies.filter (·.parent == parent)

def parentsOf (p : Project) (child : String) : List Dependency :=
  p.dependencies.filter (·.child == child)

def failedPackages (p : Project) : List PackageReference := p.packages.filter (·.failed)

end Project

end EtlSurvey
