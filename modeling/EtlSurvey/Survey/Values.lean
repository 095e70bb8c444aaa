import EtlSurvey.Expression.Template
import EtlSurvey.Secrecy.Policy
import EtlSurvey.Survey.Metadata

/-! Parameters and variables of a package, and its expressions: those that set properties, and
statements that contain references. -/

namespace EtlSurvey
open Text Markup

/-- Parameter elements, those of the current layout before those of the legacy one. -/
def parameterElements (root : Element) : List Element :=
  (root.childrenNamed Space.dts "PackageParameters").flatMap
    (·.childrenNamed Space.dts "PackageParameter") ++
  (root.children.filter fun c => c.isProperty && c.attr? "Name" == some "Parameters").flatMap
    (·.descendantsNamed Space.dts "Parameter")

/-- Text of the expression that sets an element's value. -/
def valueExpression? (e : Element) : Option String :=
  ((e.descendantsNamed Space.dts "PropertyExpression").find?
    (·.attr? "Name" == some "Value")).bind Element.text?

def parameterValue? (e : Element) : Option String :=
  (((e.property? "ParameterValue").or (e.property? "Value")).bind Element.text?).or
    (valueExpression? e)

def readParameter (policy : RedactionPolicy) (name : String) (e : Element) : Noted Parameter :=
  let sensitive := isTrue (e.attr? "Sensitive")
  let hidden := sensitive || policy.isSensitive name
  let value := parameterValue? e
  { value := {
      name
      dataType := dataTypeName ((e.attr? "DataType").getD "")
      defaultValue := if hidden then value.map fun _ => redactedText else value
      description := e.attrText? "Description"
      required := isTrue (e.attr? "Required")
      sensitive }
    remarks := if hidden && value.isSome then [.redacted "$Package" name] else [] }

def readParameters (policy : RedactionPolicy) (root : Element) : Noted (List Parameter) :=
  keepFirst [] <| (parameterElements root).map fun e =>
    match e.attrText? "ObjectName" with
    | none => do
      found .namelessParameter
      return .dropped
    | some name =>
      pure (.keyed name (Cause.repeatedParameter name).note (readParameter policy name e))

/-- The expression of a variable: its own if it is switched on, else one that sets its value. -/
def variableExpression? (e : Element) : Option String :=
  (if isTrue (e.attr? "EvaluateAsExpression") then e.attrText? "Expression" else none).or
    (valueExpression? e)

def readVariable (space name scope : String) (e : Element) : Variable :=
  let held := e.child? Space.dts "VariableValue"
  { name, space, scope
    dataType := (((held.bind (·.attr? "DataType")).or (e.attr? "DataType")).map
      dataTypeName).getD "String"
    value := (held.bind Element.text?).or ((e.property? "Value").bind Element.text?)
    expression := variableExpression? e
    description := e.attrText? "Description" }

/-- Variables of all scopes. -/
def readVariables (root : Element) : Noted (List Variable) :=
  keepFirst [] <| (root.sitesNamed Space.dts "Variable").map fun s =>
    match s.element.attrText? "ObjectName" with
    | none => do
      found .namelessVariable
      return .dropped
    | some name =>
      let space := (s.element.attrText? "Namespace").getD "User"
      let scope := owningScope s
      pure (.keyed (scope, space, name) (Cause.repeatedVariable space name scope).note
        (pure (readVariable space name scope s.element)))

def expressionCauses (scope property text : String) : List Cause :=
  (Expression.syntaxIssues text).map (fun i => .expressionIssue i.message property scope) ++
  (if Expression.complexity text == .high then [.complexExpression property scope] else [])

def readExpression (policy : RedactionPolicy) (scope property text : String) :
    Noted PropertyExpression :=
  let text := policy.redactText property (trim text)
  { value := {
      scope, property, text
      variableRefs := Expression.variableRefs text
      parameterRefs := Expression.parameterRefs text }
    remarks := (expressionCauses scope property text).map fun c => .note c.note }

/-- Property and text of an element that sets a property. -/
def propertyExpression? (s : Site) : Option (String × String) := do
  return (← s.element.attrText? "Name", ← s.element.text?)

/-- A statement that is given directly or by a variable and has references. -/
def statementExpression? (s : Site) : Option (String × String) := do
  let sourceType := (s.element.attrText? "SqlStatementSourceType").getD "DirectInput"
  if sourceType != "DirectInput" && sourceType != "Variable" then none
  let sql ← s.element.attrText? "SqlStatementSource"
  if Expression.hasReferences sql then some ("SqlStatementSource", sql) else none

def expressionSites (root : Element) : List (String × String × String) :=
  (root.sitesNamed Space.dts "PropertyExpression").filterMap (fun s =>
    (propertyExpression? s).map fun (property, text) => (owningScope s, property, text)) ++
  (root.sitesNamed Space.sqlTask "SqlTaskData").filterMap fun s =>
    (statementExpression? s).map fun (property, text) => (owningScope s, property, text)

def readExpressions (policy : RedactionPolicy) (root : Element) : Noted (List PropertyExpression) :=
  (expressionSites root).mapM fun (scope, property, text) =>
    readExpression policy scope property text

end EtlSurvey
