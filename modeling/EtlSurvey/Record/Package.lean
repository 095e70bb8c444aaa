import EtlSurvey.Dictionary
import EtlSurvey.Kind.Component
import EtlSurvey.Kind.Condition
import EtlSurvey.Kind.Connection
import EtlSurvey.Kind.Protection
import EtlSurvey.Kind.Sql
import EtlSurvey.Text.Basic

/-! The record of one package. Its lists keep the order of the document. Properties of connections,
executables and components are texts by name, kept as they were written and interpreted only when
asked for. -/

namespace EtlSurvey
open Text

abbrev Properties := Dictionary String

/-- What stands in a record in the place of a value that must not be stored. -/
def redactedText : String := "[REDACTED]"

namespace Properties

/-- The value unless it is empty. -/
def text? (p : Properties) (key : String) : Option String := (p.get? key).bind nonEmpty?

/-- The value read as yes or no. -/
def flag? (p : Properties) (key : String) : Option Bool :=
  (p.get? key).bind fun raw =>
    match asciiLower (trim raw) with
    | "true" | "-1" | "1" => some true
    | "false" | "0" => some false
    | _ => none

def flagOr (p : Properties) (key : String) (default : Bool) : Bool := (p.flag? key).getD default

def integer? (p : Properties) (key : String) : Option Int :=
  (p.get? key).bind fun raw => int64? (trim raw)

/-- The nonempty value of the first key that is equal up to the case of ASCII letters. -/
def textIgnoringCase? (p : Properties) (key : String) : Option String :=
  (p.entries.find? fun (k, _) => eqIgnoringCase k key).bind fun (_, v) => nonEmpty? v

end Properties

/-- Scope of what belongs to the package as a whole. -/
def packageScope : String := "Package"

structure Metadata where
  name : String
  protectionLevel : ProtectionLevel := .dontSaveSensitive
  version : Option String := none
  creator : Option String := none
  creationDate : Option String := none
  description : Option String := none
  deriving DecidableEq

structure Parameter where
  name : String
  dataType : String
  defaultValue : Option String
  description : Option String
  required : Bool
  sensitive : Bool
  deriving DecidableEq

structure Variable where
  name : String
  space : String
  /-- Id of the executable that owns it, or the package scope. -/
  scope : String
  dataType : String
  value : Option String
  expression : Option String
  description : Option String
  deriving DecidableEq

def Variable.qualifiedName (v : Variable) : String := v.space ++ "::" ++ v.name

structure Connection where
  id : String
  name : String
  kind : ConnectionKind
  properties : Properties
  sensitive : Bool
  description : Option String
  deriving DecidableEq

/-- A component of a data flow. Inputs and outputs are ids of paths. -/
structure Component where
  id : String
  name : String
  kind : ComponentKind
  classId : String
  sql : Option String := none
  table : Option String := none
  expression : Option String := none
  connectionRef : Option String := none
  properties : Properties := ∅
  inputs : List String := []
  outputs : List String := []
  joinKeys : Option (List String) := none
  lookupTable : Option String := none
  writeMode : Option WriteMode := none
  deriving DecidableEq

/-- A task or container of the control flow. -/
structure Executable where
  id : String
  parentId : Option String := none
  kind : ExecutableKind
  name : String
  description : Option String := none
  sql : Option String := none
  sqlDialect : Option SqlDialect := none
  connectionRef : Option String := none
  components : List Component := []
  properties : Properties := ∅
  disabled : Bool := false
  delayValidation : Bool := false
  variableRefs : List String := []
  parameterRefs : List String := []
  deriving DecidableEq

def Executable.component? (e : Executable) (id : String) : Option Component :=
  e.components.find? (·.id == id)

/-- A precedence constraint between two executables, given by id. -/
structure Edge where
  source : String
  target : String
  condition : Condition
  expression : Option String := none
  logicalAnd : Bool := true
  deriving DecidableEq

/-- An expression and the property that it sets. -/
structure PropertyExpression where
  scope : String
  property : String
  text : String
  variableRefs : List String
  parameterRefs : List String
  deriving DecidableEq

structure Package where
  metadata : Metadata
  parameters : List Parameter := []
  vars : List Variable := []
  connections : List Connection := []
  executables : List Executable := []
  edges : List Edge := []
  expressions : List PropertyExpression := []
  deriving DecidableEq

namespace Package

/-- A package of which only the name is known. -/
def minimal (name : String) : Package := { metadata := { name } }

def name (p : Package) : String := p.metadata.name

def isEmpty (p : Package) : Bool :=
  p.parameters.isEmpty && p.vars.isEmpty && p.connections.isEmpty &&
    p.executables.isEmpty && p.edges.isEmpty && p.expressions.isEmpty

def executable? (p : Package) (id : String) : Option Executable :=
  p.executables.find? (·.id == id)

def connection? (p : Package) (id : String) : Option Connection :=
  p.connections.find? (·.id == id)

def dataFlows (p : Package) : List Executable := p.executables.filter (·.kind == .dataFlow)

def sqlTasks (p : Package) : List Executable := p.executables.filter (·.kind == .executeSql)

def childrenOf (p : Package) (id : String) : List Executable :=
  p.executables.filter (·.parentId == some id)

/-- Nothing in the package moves data in from outside the warehouse or through flat files. -/
def isTransformationOnly (p : Package) : Bool :=
  !p.executables.any (·.kind.isIngestion) &&
    !p.dataFlows.any fun e => e.components.any (·.kind.isFlatFile)

end Package

end EtlSurvey
