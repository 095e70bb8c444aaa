import EtlSurvey.Finding.Cause
import EtlSurvey.Kind.Sql
import EtlSurvey.Markup.Element
import EtlSurvey.Record.Package

/-! Data flows: the components of a pipeline and the paths between them. -/

namespace EtlSurvey
open Text Markup

/-- Properties of a component, with what its columns say. -/
structure ComponentFacts where
  properties : Properties := ∅
  columnExpressions : List String := []
  referenceColumns : List String := []

/-- Adds a property element that stands in a component, given its ancestors up to the component.
Properties of the component keep their name, those of a column have the column's name in front;
properties outside a property list do not count. -/
def ComponentFacts.add (f : ComponentFacts) (s : Site) : ComponentFacts :=
  match s.element.attrText? "name", s.element.text?, s.above with
  | some name, some value, holder :: owner :: rest =>
    if !holder.hasLocalName "properties" then f
    else if rest.isEmpty then { f with properties := f.properties.insertMissing name value }
    else
      let column := (owner.attrText? "name").getD owner.name
      let f := { f with properties := f.properties.insertMissing (column ++ "." ++ name) value }
      if name == "Expression" then
        { f with columnExpressions := f.columnExpressions ++ [value] }
      else if name == "JoinToReferenceColumn" then
        { f with referenceColumns := f.referenceColumns ++ [value] }
      else f
  | _, _, _ => f

def ComponentFacts.ofElement (e : Element) : ComponentFacts :=
  (e.sites.filter (·.element.hasLocalName "property")).foldl ComponentFacts.add {}

def isFastLoad (accessMode : String) : Bool :=
  let mode := trim accessMode
  occursIn "fastload" (asciiLower mode) || mode == "3" || mode == "4"

def trimmedText? (p : Properties) (key : String) : Option String := (p.text? key).map trim

def boolText (b : Bool) : String := if b then "true" else "false"

/-- Loading options of a destination under their plain names. -/
def loadOptions (p : Properties) : List (String × String) :=
  ((trimmedText? p "FastLoadOptions").map fun v => ("load_options", v)).toList ++
  ((p.flag? "FastLoadKeepIdentity").map fun f => ("keep_identity", boolText f)).toList ++
  ((p.flag? "FastLoadKeepNulls").map fun f => ("keep_nulls", boolText f)).toList

def destinationMode (kind : ComponentKind) (p : Properties) : Option WriteMode :=
  if kind == .flatFileDestination then none
  else if (p.text? "AccessMode").any isFastLoad || p.flagOr "UseBulkInsertWhenPossible" false then
    some .append
  else some .insert

/-- The component's own expression and those of its columns, one to a line. -/
def derivedExpression? (f : ComponentFacts) : Option String :=
  let all := (f.properties.text? "Expression").toList ++ f.columnExpressions
  if all.isEmpty then none else some ("\n".intercalate (all.map trim))

/-- Key columns of a lookup, from its list of keys or else from its columns. -/
def lookupKeys? (f : ComponentFacts) : Option (List String) :=
  let keys := match f.properties.text? "JoinKeys" with
    | some raw => (FileName.split (· == ',') raw).filterMap trimmed?
    | none => f.referenceColumns
  if keys.isEmpty then none else some keys

/-- Fills in what a component of this kind is asked for. -/
def Component.describe (c : Component) (f : ComponentFacts) : Component :=
  let p := f.properties
  match c.kind.role with
  | .source =>
    { c with sql := trimmedText? p "SqlCommand", table := trimmedText? p "TableOrViewName" }
  | .destination =>
    { c with
      table := ((p.text? "TableOrViewName").or (p.text? "OpenRowset")).map trim
      writeMode := destinationMode c.kind p
      properties := (loadOptions p).foldl (fun p (key, value) => p.insert key value) p }
  | .transform =>
    match c.kind with
    | .derivedColumn => { c with expression := derivedExpression? f }
    | .lookup =>
      let sql := trimmedText? p "SqlCommand"
      { c with
        sql
        joinKeys := lookupKeys? f
        lookupTable := (sql.bind lookupTable?).or (p.text? "TableOrViewName") }
    | _ => c
  | .unsupported => c

/-- First connection that a component refers to. -/
def connectionRef? (e : Element) : Option String :=
  ((e.children.filter (·.hasLocalName "connections")).flatMap Element.children).findSome? fun c =>
    (c.attrText? "connectionManagerRefId").or (c.attrText? "connectionManagerID")

def readComponent (id classId : String) (kind : ComponentKind) (e : Element) : Component :=
  let f := ComponentFacts.ofElement e
  Component.describe {
    id, kind, classId
    name := (e.attrText? "name").getD id
    connectionRef := connectionRef? e
    properties := f.properties } f

def elementId? (e : Element) : Option String := (e.attrText? "refId").or (e.attrText? "id")

/-- Components of known kinds, the first of each id. -/
def readComponents (taskId : String) (elements : List Element) : Noted (List Component) :=
  keepFirst [] <| elements.map fun e =>
    match elementId? e with
    | none => do
      found (.namelessComponent taskId)
      return .dropped
    | some id =>
      let classId := (e.attr? "componentClassID").getD ""
      match ComponentKind.ofClassId classId with
      | .unsupported raw => do
        found (.unsupportedComponent id raw)
        return .dropped
      | kind =>
        pure (.keyed id (Cause.repeatedComponent id).note (pure (readComponent id classId kind e)))

/-- The longer of two texts, the first of two of one length. -/
def longer (best : Option String) (s : String) : Option String :=
  match best with
  | some b => if b.length < s.length then some s else some b
  | none => some s

/-- Id of the component that an end of a path belongs to: the end itself, or the longest id that
is followed by a dot at its start. -/
def resolveEnd (ids : List String) (pathEnd : String) : Option String :=
  if ids.contains pathEnd then some pathEnd
  else (ids.filter fun id => (id ++ ".").toList.isPrefixOf pathEnd.toList).foldl longer none

/-- A path with its ends as they are written and the components that these belong to. -/
structure FlowPath where
  id : String
  startWritten : Option String
  endWritten : Option String
  start : Option String
  finish : Option String
  deriving DecidableEq, Repr

def FlowPath.ofElement (ids : List String) (id : String) (e : Element) : FlowPath where
  id := id
  startWritten := e.attr? "startId"
  endWritten := e.attr? "endId"
  start := (e.attrText? "startId").bind (resolveEnd ids)
  finish := (e.attrText? "endId").bind (resolveEnd ids)

/-- The start of a path against those of earlier paths of its id. `producers` holds the first
component for each path id. -/
def startCauses (producers : List (String × String)) (p : FlowPath) : List Cause :=
  match p.start with
  | none => [.unresolvedStart p.id p.startWritten]
  | some start =>
    match producers.lookup p.id with
    | some first => if first != start then [.fanIn p.id first start] else []
    | none => []

def endCauses (p : FlowPath) : List Cause :=
  match p.finish with
  | none => [.unresolvedEnd p.id p.endWritten]
  | some _ => []

/-- The producers after a path: its start counts if it is the first for the id. -/
def addProducer (producers : List (String × String)) (p : FlowPath) : List (String × String) :=
  match p.start with
  | some start => if (producers.lookup p.id).isSome then producers else (p.id, start) :: producers
  | none => producers

/-- Checks paths in order; nameless ones are left out. -/
def readPaths (taskId : String) (ids : List String) (producers : List (String × String)) :
    List Element → Noted (List FlowPath)
  | [] => pure []
  | e :: rest => do
    match elementId? e with
    | none =>
      found (.namelessPath taskId)
      readPaths taskId ids producers rest
    | some id =>
      let p := FlowPath.ofElement ids id e
      foundAll (startCauses producers p ++ endCauses p)
      let others ← readPaths taskId ids (addProducer producers p) rest
      return p :: others

/-- Gives a component the paths that start and end at it. -/
def Component.wire (paths : List FlowPath) (c : Component) : Component :=
  { c with
    outputs := ((paths.filter (·.start == some c.id)).map (·.id)).eraseDups
    inputs := ((paths.filter (·.finish == some c.id)).map (·.id)).eraseDups }

/-- Inputs that no component produces. -/
def unwiredInputs (components : List Component) : List Cause :=
  let produced := components.flatMap (·.outputs)
  components.flatMap fun c =>
    (c.inputs.filter fun input => !produced.contains input).map fun input =>
      .unwiredInput input c.id

/-- The pipeline inside a data flow task. -/
def pipelineOf? (task : Element) : Option Element :=
  (task.child? Space.dts "ObjectData").bind fun data => (data.descendantsLocal "pipeline").head?

def componentElements (pipeline : Element) : List Element :=
  ((pipeline.children.filter (·.hasLocalName "components")).flatMap Element.children).filter
    (·.hasLocalName "component")

def readPipeline (taskId : String) (pipeline : Element) : Noted (List Component) := do
  let components ← readComponents taskId (componentElements pipeline)
  let paths ← readPaths taskId (components.map (·.id)) [] (pipeline.descendantsLocal "path")
  let wired := components.map (Component.wire paths)
  foundAll (unwiredInputs wired)
  return wired

end EtlSurvey
