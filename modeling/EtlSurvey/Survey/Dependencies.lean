import EtlSurvey.Markup.Document
import EtlSurvey.Record.Project
import EtlSurvey.Survey.Executables

/-! Which packages a package runs. This is read straight from the document, so that a package that
cannot be surveyed still has its place among the packages of the project. -/

namespace EtlSurvey
open Text Markup

/-- Id of the nearest executable in a list of elements, each of which is inside the next: its own
one, or that of the executable around it joined with its name. -/
def nearestExecutableId? : List Element → Option String
  | [] => none
  | e :: above =>
    if !e.isExecutable then nearestExecutableId? above
    else some <| (e.attrText? "refId").getD <|
      match nearestExecutableId? above with
      | some container => container ++ "\\" ++ (e.attrText? "ObjectName").getD ""
      | none => packageScope

def executableId (s : Site) : String :=
  (nearestExecutableId? (s.element :: s.above)).getD packageScope

/-- Condition of a constraint, if it is a known one. -/
def constraintCondition? (c : Element) : Option Condition :=
  if (c.attr? "EvalOp").map trim == some "0" then some .expression
  else Condition.ofValue? (c.attr? "Value")

/-- Ends of the constraints with their conditions, in document order. -/
def incomingConditions (root : Element) : List (String × Option Condition) :=
  (root.descendantsNamed Space.dts "PrecedenceConstraint").filterMap fun c =>
    (c.attrText? "To").map (·, constraintCondition? c)

/-- The dependency of a task that runs a package, given the constraints around it. -/
def dependencyOf? (package : String) (conditions : List (String × Option Condition)) (s : Site) :
    Option Dependency :=
  let typeName := (s.element.attr? "ExecutableType").getD ""
  if ExecutableKind.ofTypeName typeName != .executePackage then none
  else do
    let child ← executePackageTarget? s.element
    let taskId := executableId s
    return {
      parent := package
      child
      taskName := (s.element.attrText? "ObjectName").getD "Execute Package Task"
      taskId
      condition := (conditions.lookup taskId).join }

/-- Dependencies that the document of a package declares, in document order. -/
def scanDependencies (package : String) (bytes : Bytes) : Except LoadError (List Dependency) := do
  let root := (← Document.parsePackage bytes).root
  return (root.sitesNamed Space.dts "Executable").filterMap
    (dependencyOf? package (incomingConditions root))

end EtlSurvey
