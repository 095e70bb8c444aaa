import EtlSurvey.Expression.Reference
import EtlSurvey.Secrecy.Policy
import EtlSurvey.Survey.Connections
import EtlSurvey.Survey.Pipeline

/-! The executables of a package as a flat list. A walk over the tree of containers visits each of
them, reads it, and goes on with what is inside it. -/

namespace EtlSurvey
open Text Markup

/-- An executable that has a name, under its id. -/
structure NamedExecutable where
  id : String
  name : String
  typeName : String
  element : Element
  deriving DecidableEq, Repr

def NamedExecutable.kind (n : NamedExecutable) : ExecutableKind := .ofTypeName n.typeName

/-- Package that a task runs: named by an element or a property, without folder and extension. -/
def executePackageTarget? (task : Element) : Option String :=
  let named := (task.descendantsLocal "PackageName").findSome? Element.text?
  let property := ((task.descendantsLocal "Property").filter
    (·.attr? "Name" == some "PackageName")).findSome? Element.text?
  (named.or property).bind fun raw =>
    nonEmpty? (FileName.dropPackageExtension (FileName.ofMember raw))

/-- A variable's name in the bracketed form of references. -/
def bracketVariable (name : String) : String :=
  if occursIn "::" name then "@[" ++ name ++ "]" else "@[User::" ++ name ++ "]"

/-- An executable that is being read, and the texts in which it refers to variables. -/
structure Draft where
  executable : Executable
  texts : List String

def Draft.insert (d : Draft) (key value : String) : Draft :=
  { d with executable.properties := d.executable.properties.insert key value }

def Draft.insertMissing (d : Draft) (key value : String) : Draft :=
  { d with executable.properties := d.executable.properties.insertMissing key value }

def Draft.insertSome (d : Draft) (key : String) (value : Option String) : Draft :=
  match value with
  | some value => d.insert key value
  | none => d

def Draft.mention (d : Draft) (texts : List String) : Draft := { d with texts := d.texts ++ texts }

/-- An attribute of a statement: the statement, its connection, or a property. -/
def Draft.addStatementAttribute (d : Draft) (key value : String) : Draft :=
  if key == "SqlStatementSource" then
    match trimmed? value with
    | none => d
    | some sql =>
      { executable := { d.executable with sql := some sql, sqlDialect := some (.ofText sql) }
        texts := d.texts ++ [sql] }
  else if key == "Connection" then { d with executable.connectionRef := some value }
  else d.insertMissing key value

def Draft.readSqlTask (d : Draft) (e : Element) : Noted Draft :=
  match (e.descendantsNamed Space.sqlTask "SqlTaskData").head? with
  | none => do
    found (.missingStatement d.executable.name d.executable.id)
    return d
  | some data =>
    pure (data.attributes.foldl (fun d (key, value) => d.addStatementAttribute key value) d)

def Draft.readDataFlow (d : Draft) (e : Element) : Noted Draft :=
  match pipelineOf? e with
  | none => do
    found (.missingPipeline d.executable.name d.executable.id)
    return d
  | some pipeline => do
    let components ← readPipeline d.executable.id pipeline
    return { d with executable.components := components }

/-- A list of variables that a script may use. -/
def Draft.addScriptVariables (d : Draft) (project : Element) (key : String) : Draft :=
  match project.attrText? key with
  | none => d
  | some list =>
    (d.insert key list).mention
      (((FileName.split (· == ',') list).filterMap trimmed?).map bracketVariable)

def Draft.readScript (d : Draft) (e : Element) : Draft :=
  match ((e.descendantsLocal "ScriptProject").head?).or
      (e.descendantsNamed Space.scriptTask "ScriptTaskData").head? with
  | none => d
  | some project =>
    let first := fun a b => (project.attrText? a).or (project.attrText? b)
    let d := d.insertSome "ScriptLanguage" (first "Language" "ScriptLanguage")
    let d := d.insertSome "ScriptProjectName" (first "Name" "ScriptProjectName")
    let d := d.insertSome "EntryPoint" (project.attrText? "EntryPoint")
    ["ReadOnlyVariables", "ReadWriteVariables"].foldl (·.addScriptVariables project ·) d

def Draft.addLoopExpression (d : Draft) (e : Element) (key : String) : Draft :=
  match (e.attrText? key).or ((e.property? key).bind Element.text?) with
  | none => d
  | some value => (d.insert key value).mention [value]

def Draft.readForLoop (d : Draft) (e : Element) : Draft :=
  ["InitExpression", "EvalExpression", "AssignExpression"].foldl (·.addLoopExpression e ·) d

def Draft.readForEach (d : Draft) (e : Element) : Draft :=
  let d := match e.child? Space.dts "ForEachEnumerator" with
    | none => d
    | some enumerator =>
      let d := d.insertSome "EnumeratorType" (enumerator.attrText? "CreationName")
      match innerObject? enumerator with
      | none => d
      | some inner =>
        inner.attributes.foldl (fun d (key, value) => d.insert ("Enumerator." ++ key) value) d
  let mappings := (e.childrenNamed Space.dts "ForEachVariableMappings").flatMap
    (·.childrenNamed Space.dts "ForEachVariableMapping")
  d.mention ((mappings.filterMap (·.attrText? "VariableName")).map bracketVariable)

def Draft.readPackageTask (d : Draft) (e : Element) : Draft :=
  let d := d.insertSome "PackageName" (executePackageTarget? e)
  { d with
    executable.connectionRef := (e.descendantsLocal "Connection").findSome? Element.text? }

/-- Other tasks keep the attributes of the object that they configure. -/
def Draft.readOther (d : Draft) (e : Element) : Draft :=
  match innerObject? e with
  | none => d
  | some inner => inner.attributes.foldl (fun d (key, value) => d.insertMissing key value) d

/-- Reads what belongs to the kind of the executable. -/
def Draft.readKind (d : Draft) (e : Element) : Noted Draft :=
  match d.executable.kind with
  | .executeSql => d.readSqlTask e
  | .dataFlow => d.readDataFlow e
  | .script => pure (d.readScript e)
  | .forLoop => pure (d.readForLoop e)
  | .forEachLoop => pure (d.readForEach e)
  | .executePackage => pure (d.readPackageTask e)
  | _ => pure (d.readOther e)

/-- What all executables say of themselves. -/
def Draft.ofNamed (parentId : Option String) (n : NamedExecutable) : Draft where
  executable := {
    id := n.id
    parentId
    kind := n.kind
    name := n.name
    description := n.element.attrText? "Description"
    disabled := isTrue (n.element.attr? "Disabled")
    delayValidation := isTrue (n.element.attr? "DelayValidation")
    properties := insertAll ∅ (propertyTexts n.element) }
  texts := (n.element.childrenNamed Space.dts "PropertyExpression").filterMap Element.text?

/-- Takes sensitive properties out and lists the references. -/
def Draft.finish (policy : RedactionPolicy) (d : Draft) : Noted Executable := do
  let (properties, _) ← policy.redactOwned d.executable.id d.executable.properties
  return { d.executable with
    properties
    variableRefs := sortedDistinct (d.texts.flatMap Expression.variableRefs)
    parameterRefs := sortedDistinct (d.texts.flatMap Expression.parameterRefs) }

def readExecutable (policy : RedactionPolicy) (parentId : Option String) (n : NamedExecutable) :
    Noted Executable := do
  let d ← (Draft.ofNamed parentId n).readKind n.element
  d.finish policy

structure ExecutableList where
  executables : List Executable := []
  /-- Executables that were visited, whether they are in the list or not. -/
  total : Nat := 0
  supported : Nat := 0

/-- A walk over the containers: the list so far, and the ids of all that was visited. -/
structure Walker extends ExecutableList where
  seen : List String := []

/-- Reads an executable into the list and goes on with what is inside it, whose parent it becomes.
One of an unknown kind is reported, and left out unless such ones are retained; then what is inside
it goes to the nearest parent that is in the list. -/
def Walker.enter (policy : RedactionPolicy) (retain : Bool)
    (walkInside : (containerId : String) → (parentId : Option String) → Walker → Noted Walker)
    (parentId : Option String) (w : Walker) (n : NamedExecutable) : Noted Walker := do
  let w := { w with seen := n.id :: w.seen, total := w.total + 1 }
  let (keep, w) ←
    if n.kind.isSupported then
      pure (true, { w with supported := w.supported + 1 })
    else do
      found (.unsupportedExecutable n.typeName n.name n.id)
      Noted.remark (.unsupported n.typeName)
      pure (retain, w)
  if keep then
    let executable ← readExecutable policy parentId n
    walkInside n.id (some n.id) { w with executables := w.executables ++ [executable] }
  else walkInside n.id parentId w

/-- Visits an executable, unless it has no name or another one has its id. -/
def Walker.visit (policy : RedactionPolicy) (retain : Bool)
    (walkInside : (containerId : String) → (parentId : Option String) → Walker → Noted Walker)
    (containerId : String) (parentId : Option String) (w : Walker) (e : Element) :
    Noted Walker := do
  let some name := e.attrText? "ObjectName" | do
    found (.namelessExecutable containerId)
    return w
  let id := (e.attrText? "refId").getD (containerId ++ "\\" ++ name)
  if w.seen.contains id then
    found (.repeatedExecutable id)
    return w
  w.enter policy retain walkInside parentId {
    id, name, typeName := (e.attr? "ExecutableType").getD "", element := e }

mutual

/-- Visits the executables that are listed in a container, in order. -/
def walkContainer (policy : RedactionPolicy) (retain : Bool) (containerId : String)
    (parentId : Option String) (w : Walker) : Forest → Noted Walker
  | .nil => pure w
  | .tree head inner next => do
    let w ←
      if Element.isNamed Space.dts "Executables" ⟨head, inner⟩ then
        walkList policy retain containerId parentId w inner
      else pure w
    walkContainer policy retain containerId parentId w next

/-- Visits the executables of one list. -/
def walkList (policy : RedactionPolicy) (retain : Bool) (containerId : String)
    (parentId : Option String) (w : Walker) : Forest → Noted Walker
  | .nil => pure w
  | .tree head inner next => do
    let w ←
      if Element.isExecutable ⟨head, inner⟩ then
        w.visit policy retain
          (fun id parentId w => walkContainer policy retain id parentId w inner)
          containerId parentId ⟨head, inner⟩
      else pure w
    walkList policy retain containerId parentId w next

end

/-- All executables below the root, containers before their content. -/
def readExecutables (policy : RedactionPolicy) (retain : Bool) (root : Element) :
    Noted ExecutableList := do
  let id := (root.attrText? "refId").getD packageScope
  let w ← walkContainer policy retain id none {} root.inner
  return w.toExecutableList

end EtlSurvey
