import EtlSurvey.Digest.Sha256
import EtlSurvey.Json.Printer
import EtlSurvey.Json.Reader
import EtlSurvey.Record.Package

/-! JSON forms of a package and its parts. Members stand in a fixed order. An absent value is left
out where the record says so and null elsewhere; some empty lists are left out as well. -/

namespace EtlSurvey
open Json

/-- A member that is left out when it is absent. -/
def textMember (key : String) (s : Option String) : String × Option Value := (key, s.map .text)

/-- A list that is left out when it is empty. -/
def listMember (key : String) (items : List Value) : String × Option Value :=
  (key, if items.isEmpty then none else some (.list items))

def textList? : Value → Option (List String) := Value.listOf? Value.text?

def optionalText? : Slot → Option (Option String) := Slot.optional Value.text?

def Dictionary.toJson (f : α → Value) (d : Dictionary α) : Value :=
  .object (d.entries.map fun (key, value) => (some key, f value))

/-- Of members with one key the last counts. -/
def Dictionary.ofJson? (f : Value → Option α) (v : Value) : Option (Dictionary α) := do
  let members ← v.members?
  let entries ← members.mapM fun (key, value) => (f value).map (key, ·)
  return Dictionary.ofList entries

def Properties.toJson (p : Properties) : Value := Dictionary.toJson .text p

def Properties.ofJson? : Value → Option Properties := Dictionary.ofJson? Value.text?

namespace Metadata

def toJson (m : Metadata) : Value := .record [
  ("name", some (.text m.name)),
  ("protection_level", some m.protectionLevel.toJson),
  textMember "version" m.version,
  textMember "creator" m.creator,
  textMember "creation_date" m.creationDate,
  textMember "description" m.description]

def ofJson? (v : Value) : Option Metadata := do
  match ← v.fields? ["name", "protection_level", "version", "creator", "creation_date",
      "description"] with
  | [name, level, version, creator, date, description] =>
    return {
      name := ← name.required Value.text?
      protectionLevel := ← level.required ProtectionLevel.ofJson?
      version := ← optionalText? version
      creator := ← optionalText? creator
      creationDate := ← optionalText? date
      description := ← optionalText? description }
  | _ => none

end Metadata

namespace Parameter

def toJson (p : Parameter) : Value := .record [
  ("name", some (.text p.name)),
  ("data_type", some (.text p.dataType)),
  textMember "default_value" p.defaultValue,
  textMember "description" p.description,
  ("required", some (.bool p.required)),
  ("sensitive", some (.bool p.sensitive))]

def ofJson? (v : Value) : Option Parameter := do
  match ← v.fields? ["name", "data_type", "default_value", "description", "required",
      "sensitive"] with
  | [name, dataType, value, description, required, sensitive] =>
    return {
      name := ← name.required Value.text?
      dataType := ← dataType.required Value.text?
      defaultValue := ← optionalText? value
      description := ← optionalText? description
      required := ← required.orElse false Value.bool?
      sensitive := ← sensitive.orElse false Value.bool? }
  | _ => none

end Parameter

namespace Variable

def toJson (x : Variable) : Value := .record [
  ("name", some (.text x.name)),
  ("namespace", some (.text x.space)),
  ("scope", some (.text x.scope)),
  ("data_type", some (.text x.dataType)),
  textMember "value" x.value,
  textMember "expression" x.expression,
  textMember "description" x.description]

def ofJson? (v : Value) : Option Variable := do
  match ← v.fields? ["name", "namespace", "scope", "data_type", "value", "expression",
      "description"] with
  | [name, space, scope, dataType, value, expression, description] =>
    return {
      name := ← name.required Value.text?
      space := ← space.required Value.text?
      scope := ← scope.required Value.text?
      dataType := ← dataType.required Value.text?
      value := ← optionalText? value
      expression := ← optionalText? expression
      description := ← optionalText? description }
  | _ => none

end Variable

namespace Connection

def toJson (c : Connection) : Value := .record [
  ("id", some (.text c.id)),
  ("name", some (.text c.name)),
  ("connection_type", some c.kind.toJson),
  ("properties", some c.properties.toJson),
  ("sensitive", some (.bool c.sensitive)),
  textMember "description" c.description]

def ofJson? (v : Value) : Option Connection := do
  match ← v.fields? ["id", "name", "connection_type", "properties", "sensitive",
      "description"] with
  | [id, name, kind, properties, sensitive, description] =>
    return {
      id := ← id.required Value.text?
      name := ← name.required Value.text?
      kind := ← kind.required ConnectionKind.ofJson?
      properties := ← properties.required Properties.ofJson?
      sensitive := ← sensitive.required Value.bool?
      description := ← optionalText? description }
  | _ => none

end Connection

namespace Component

def toJson (c : Component) : Value := .record [
  ("id", some (.text c.id)),
  ("name", some (.text c.name)),
  ("component_type", some c.kind.toJson),
  ("class_id", some (.text c.classId)),
  textMember "sql" c.sql,
  textMember "table" c.table,
  textMember "expression" c.expression,
  textMember "connection_ref" c.connectionRef,
  ("properties", some c.properties.toJson),
  ("inputs", some (.texts c.inputs)),
  ("outputs", some (.texts c.outputs)),
  ("join_keys", c.joinKeys.map .texts),
  textMember "lookup_table" c.lookupTable,
  ("write_mode", c.writeMode.map WriteMode.toJson)]

def ofJson? (v : Value) : Option Component := do
  match ← v.fields? ["id", "name", "component_type", "class_id", "sql", "table", "expression",
      "connection_ref", "properties", "inputs", "outputs", "join_keys", "lookup_table",
      "write_mode"] with
  | [id, name, kind, classId, sql, table, expression, connection, properties, inputs, outputs,
      joinKeys, lookupTable, writeMode] =>
    return {
      id := ← id.required Value.text?
      name := ← name.required Value.text?
      kind := ← kind.required ComponentKind.ofJson?
      classId := ← classId.required Value.text?
      sql := ← optionalText? sql
      table := ← optionalText? table
      expression := ← optionalText? expression
      connectionRef := ← optionalText? connection
      properties := ← properties.required Properties.ofJson?
      inputs := ← inputs.required textList?
      outputs := ← outputs.required textList?
      joinKeys := ← joinKeys.optional textList?
      lookupTable := ← optionalText? lookupTable
      writeMode := ← writeMode.optional WriteMode.ofJson? }
  | _ => none

end Component

namespace Executable

def toJson (e : Executable) : Value := .record [
  ("id", some (.text e.id)),
  textMember "parent_id" e.parentId,
  ("executable_type", some e.kind.toJson),
  ("name", some (.text e.name)),
  textMember "description" e.description,
  textMember "sql" e.sql,
  ("sql_dialect", e.sqlDialect.map SqlDialect.toJson),
  textMember "connection_ref" e.connectionRef,
  listMember "components" (e.components.map Component.toJson),
  ("properties", some e.properties.toJson),
  ("disabled", some (.bool e.disabled)),
  ("delay_validation", some (.bool e.delayValidation)),
  listMember "variable_refs" (e.variableRefs.map .text),
  listMember "parameter_refs" (e.parameterRefs.map .text)]

def ofJson? (v : Value) : Option Executable := do
  match ← v.fields? ["id", "parent_id", "executable_type", "name", "description", "sql",
      "sql_dialect", "connection_ref", "components", "properties", "disabled",
      "delay_validation", "variable_refs", "parameter_refs"] with
  | [id, parentId, kind, name, description, sql, dialect, connection, components, properties,
      disabled, delayValidation, variableRefs, parameterRefs] =>
    return {
      id := ← id.required Value.text?
      parentId := ← optionalText? parentId
      kind := ← kind.required ExecutableKind.ofJson?
      name := ← name.required Value.text?
      description := ← optionalText? description
      sql := ← optionalText? sql
      sqlDialect := ← dialect.optional SqlDialect.ofJson?
      connectionRef := ← optionalText? connection
      components := ← components.orElse [] (Value.listOf? Component.ofJson?)
      properties := ← properties.required Properties.ofJson?
      disabled := ← disabled.required Value.bool?
      delayValidation := ← delayValidation.required Value.bool?
      variableRefs := ← variableRefs.orElse [] textList?
      parameterRefs := ← parameterRefs.orElse [] textList? }
  | _ => none

end Executable

namespace Edge

def toJson (e : Edge) : Value := .record [
  ("from", some (.text e.source)),
  ("to", some (.text e.target)),
  ("condition", some e.condition.toJson),
  textMember "expression" e.expression,
  ("logical_and", some (.bool e.logicalAnd))]

def ofJson? (v : Value) : Option Edge := do
  match ← v.fields? ["from", "to", "condition", "expression", "logical_and"] with
  | [source, target, condition, expression, logicalAnd] =>
    return {
      source := ← source.required Value.text?
      target := ← target.required Value.text?
      condition := ← condition.required Condition.ofJson?
      expression := ← optionalText? expression
      logicalAnd := ← logicalAnd.required Value.bool? }
  | _ => none

end Edge

namespace PropertyExpression

def toJson (e : PropertyExpression) : Value := .record [
  ("scope", some (.text e.scope)),
  ("property", some (.text e.property)),
  ("text", some (.text e.text)),
  listMember "variable_refs" (e.variableRefs.map .text),
  listMember "parameter_refs" (e.parameterRefs.map .text)]

def ofJson? (v : Value) : Option PropertyExpression := do
  match ← v.fields? ["scope", "property", "text", "variable_refs", "parameter_refs"] with
  | [scope, property, text, variableRefs, parameterRefs] =>
    return {
      scope := ← scope.required Value.text?
      property := ← property.required Value.text?
      text := ← text.required Value.text?
      variableRefs := ← variableRefs.orElse [] textList?
      parameterRefs := ← parameterRefs.orElse [] textList? }
  | _ => none

end PropertyExpression

namespace Package

def toJson (p : Package) : Value := .record [
  ("metadata", some p.metadata.toJson),
  ("parameters", some (.list (p.parameters.map Parameter.toJson))),
  ("variables", some (.list (p.vars.map Variable.toJson))),
  ("connections", some (.list (p.connections.map Connection.toJson))),
  ("executables", some (.list (p.executables.map Executable.toJson))),
  ("edges", some (.list (p.edges.map Edge.toJson))),
  ("expressions", some (.list (p.expressions.map PropertyExpression.toJson)))]

def ofJson? (v : Value) : Option Package := do
  match ← v.fields? ["metadata", "parameters", "variables", "connections", "executables",
      "edges", "expressions"] with
  | [metadata, parameters, vars, connections, executables, edges, expressions] =>
    return {
      metadata := ← metadata.required Metadata.ofJson?
      parameters := ← parameters.required (Value.listOf? Parameter.ofJson?)
      vars := ← vars.required (Value.listOf? Variable.ofJson?)
      connections := ← connections.required (Value.listOf? Connection.ofJson?)
      executables := ← executables.required (Value.listOf? Executable.ofJson?)
      edges := ← edges.required (Value.listOf? Edge.ofJson?)
      expressions := ← expressions.required (Value.listOf? PropertyExpression.ofJson?) }
  | _ => none

def print (p : Package) : String := p.toJson.printIndented

def read? (s : String) : Option Package := (Value.read? s).bind ofJson?

/-- Bytes of the compact text. -/
def canonicalBytes (p : Package) : Text.Bytes := Text.Utf8.encode p.toJson.print

def fingerprint (p : Package) : String := Sha256.hex p.canonicalBytes

end Package
end EtlSurvey
