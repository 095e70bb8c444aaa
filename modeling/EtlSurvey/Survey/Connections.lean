import EtlSurvey.Secrecy.Policy
import EtlSurvey.Survey.Metadata

/-! Connection managers of packages and projects. -/

namespace EtlSurvey
open Text Markup

/-- The object that a manager configures. -/
def innerObject? (e : Element) : Option Element :=
  (e.child? Space.dts "ObjectData").bind (·.children.head?)

/-- Names and texts of the property children. -/
def propertyTexts (e : Element) : List (String × String) :=
  (e.childrenNamed Space.dts "Property").filterMap fun p => do
    return (← p.attrText? "Name", ← p.text?)

/-- Key under which a part of the inner object is kept. -/
def partKey (e : Element) : String := (e.attrText? "Name").getD e.name

def isMarkedSensitive (e : Element) : Bool := isTrue (e.attr? "Sensitive")

/-- Adds a part of the inner object; a part that is marked sensitive overrides what is there. -/
def addPart (p : Properties) (e : Element) : Properties :=
  if isMarkedSensitive e then p.insert (partKey e) redactedText
  else match e.text? with
    | some text => p.insertMissing (partKey e) text
    | none => p

def insertAll (p : Properties) (entries : List (String × String)) : Properties :=
  entries.foldl (fun p (key, value) => p.insert key value) p

/-- All properties of a manager, before sensitive keys are looked at. -/
def connectionProperties (e : Element) : Properties :=
  let p := insertAll ∅ (propertyTexts e)
  match innerObject? e with
  | none => p
  | some inner => inner.descendants.foldl addPart (insertAll p inner.attributes)

/-- Keys of the parts that are marked sensitive, one for each part. -/
def markedKeys (e : Element) : List String :=
  match innerObject? e with
  | none => []
  | some inner => (inner.descendants.filter isMarkedSensitive).map partKey

/-- Reads one manager. Without an id of its own it has one made of the owner's and its name. -/
def readConnection (policy : RedactionPolicy) (owner : String) (e : Element) :
    Noted (Option Connection) := do
  match e.attrText? "ObjectName" with
  | none =>
    found (.namelessConnection (e.attr? "refId"))
    return none
  | some name =>
    let id := (e.attrText? "refId").getD (owner ++ "[" ++ name ++ "]")
    let kind := ConnectionKind.ofCreationName (e.attrText? "CreationName")
    match kind with
    | .unsupported raw => found (.unsupportedConnection raw name id)
    | _ => pure ()
    let marked := markedKeys e
    Noted.remarkAll (marked.map (.redacted id ·))
    let (properties, hidden) ← policy.redactOwned id (connectionProperties e)
    let count := hidden + marked.length
    if count > 0 then
      found (.redactedConnection count name id)
    return some {
      id, name, kind, properties
      sensitive := kind.isRelational || count > 0
      description := e.attrText? "Description" }

def readConnections (policy : RedactionPolicy) (root : Element) : Noted (List Connection) :=
  let elements := (root.childrenNamed Space.dts "ConnectionManagers").flatMap
    (·.childrenNamed Space.dts "ConnectionManager")
  keepFirst [] <| elements.map fun e => do
    match ← readConnection policy "Package.ConnectionManagers" e with
    | none => return .dropped
    | some c => return .keyed c.id (Cause.repeatedConnection c.id).note (pure c)

end EtlSurvey
