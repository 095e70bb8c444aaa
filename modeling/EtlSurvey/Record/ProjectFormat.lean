import EtlSurvey.Record.PackageFormat
import EtlSurvey.Record.Project

/-! JSON forms of a project and its parts. -/

namespace EtlSurvey
open Json

namespace Dependency

def toJson (d : Dependency) : Value := .record [
  ("parent", some (.text d.parent)),
  ("child", some (.text d.child)),
  ("task_name", some (.text d.taskName)),
  ("task_id", some (.text d.taskId)),
  ("condition", d.condition.map Condition.toJson)]

def ofJson? (v : Value) : Option Dependency := do
  match ← v.fields? ["parent", "child", "task_name", "task_id", "condition"] with
  | [parent, child, taskName, taskId, condition] =>
    return {
      parent := ← parent.required Value.text?
      child := ← child.required Value.text?
      taskName := ← taskName.required Value.text?
      taskId := ← taskId.required Value.text?
      condition := ← condition.optional Condition.ofJson? }
  | _ => none

end Dependency

namespace PackageReference

def toJson (r : PackageReference) : Value := .record [
  ("name", some (.text r.name)),
  ("path", some (.text r.path)),
  ("entry_point", some (.bool r.entryPoint)),
  ("transformation_only", some (.bool r.transformationOnly)),
  ("failed", some (.bool r.failed))]

def ofJson? (v : Value) : Option PackageReference := do
  match ← v.fields? ["name", "path", "entry_point", "transformation_only", "failed"] with
  | [name, path, entryPoint, transformationOnly, failed] =>
    return {
      name := ← name.required Value.text?
      path := ← path.required Value.text?
      entryPoint := ← entryPoint.orElse false Value.bool?
      transformationOnly := ← transformationOnly.orElse false Value.bool?
      failed := ← failed.orElse false Value.bool? }
  | _ => none

end PackageReference

namespace ExecutionChain

def toJson (c : ExecutionChain) : Value := .record [
  ("entry_point", some (.text c.entryPoint)),
  ("packages", some (.texts c.packages))]

def ofJson? (v : Value) : Option ExecutionChain := do
  match ← v.fields? ["entry_point", "packages"] with
  | [entryPoint, packages] =>
    return {
      entryPoint := ← entryPoint.required Value.text?
      packages := ← packages.required textList? }
  | _ => none

end ExecutionChain

namespace Project

def toJson (p : Project) : Value := .record [
  ("name", some (.text p.name)),
  textMember "version" p.version,
  ("protection_level", some p.protectionLevel.toJson),
  textMember "target_server_version" p.targetServerVersion,
  ("parameters", some (.list (p.parameters.map Parameter.toJson))),
  ("connections", some (.list (p.connections.map Connection.toJson))),
  ("packages", some (.list (p.packages.map PackageReference.toJson))),
  ("package_irs", some (p.packageRecords.toJson Package.toJson)),
  ("dependencies", some (.list (p.dependencies.map Dependency.toJson))),
  ("entry_points", some (.texts p.entryPoints)),
  ("execution_chains", some (.list (p.executionChains.map ExecutionChain.toJson))),
  ("isolated_packages", some (.texts p.isolatedPackages))]

def ofJson? (v : Value) : Option Project := do
  match ← v.fields? ["name", "version", "protection_level", "target_server_version",
      "parameters", "connections", "packages", "package_irs", "dependencies", "entry_points",
      "execution_chains", "isolated_packages"] with
  | [name, version, level, target, parameters, connections, packages, records, dependencies,
      entryPoints, chains, isolated] =>
    return {
      name := ← name.required Value.text?
      version := ← optionalText? version
      protectionLevel := ← level.required ProtectionLevel.ofJson?
      targetServerVersion := ← optionalText? target
      parameters := ← parameters.required (Value.listOf? Parameter.ofJson?)
      connections := ← connections.required (Value.listOf? Connection.ofJson?)
      packages := ← packages.required (Value.listOf? PackageReference.ofJson?)
      packageRecords := ← records.required (Dictionary.ofJson? Package.ofJson?)
      dependencies := ← dependencies.required (Value.listOf? Dependency.ofJson?)
      entryPoints := ← entryPoints.required textList?
      executionChains := ← chains.required (Value.listOf? ExecutionChain.ofJson?)
      isolatedPackages := ← isolated.required textList? }
  | _ => none

def print (p : Project) : String := p.toJson.printIndented

def read? (s : String) : Option Project := (Value.read? s).bind ofJson?

end Project
end EtlSurvey
