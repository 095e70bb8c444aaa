import EtlSurvey.Text.Basic

/-! Elements of a document as trees, and questions about them. Names are known by their namespaces,
and by the prefixes that stand for these where a document does not declare them. -/

namespace EtlSurvey.Markup
open Text

namespace Space

def dts : String := "www.microsoft.com/SqlServer/Dts"
def sqlTask : String := "www.microsoft.com/sqlserver/dts/tasks/sqltask"
def pipeline : String := "www.microsoft.com/sqlserver/dts/pipeline"
def scriptTask : String := "www.microsoft.com/sqlserver/dts/tasks/scripttask"
def forEach : String := "www.microsoft.com/sqlserver/dts/tasks/foreachloop"
def sequence : String := "www.microsoft.com/sqlserver/dts/tasks/sequence"
def executePackage : String := "www.microsoft.com/SqlServer/Dts/Tasks/ExecutePackageTask"
def ssis : String := "www.microsoft.com/SqlServer/SSIS"

/-- Namespace of namespace declarations themselves. -/
def declarations : String := "http://www.w3.org/2000/xmlns/"

def wellKnown : List (String × String) := [
  ("DTS", dts), ("SQLTask", sqlTask), ("Pipeline", pipeline), ("ScriptTask", scriptTask),
  ("ForEach", forEach), ("Sequence", sequence), ("ExecutePackageTask", executePackage),
  ("SSIS", ssis)]

/-- Namespace of a prefix that a document uses without declaring it. -/
def ofPrefix? (name : String) : Option String :=
  (wellKnown.find? fun (known, _) => Text.eqIgnoringCase known name).map (·.2)

end Space

structure Attribute where
  space : Option String
  name : String
  value : String
  deriving DecidableEq, Repr

/-- What an element says of itself, apart from its children. The text is all character data
directly inside it. -/
structure Head where
  space : Option String
  name : String
  attributes : List Attribute
  text : String
  deriving DecidableEq, Repr

/-- Sibling elements in order, each with the elements inside it. -/
inductive Forest where
  | nil
  | tree (head : Head) (inner : Forest) (next : Forest)
  deriving DecidableEq, Repr

structure Element where
  head : Head
  inner : Forest
  deriving DecidableEq, Repr

namespace Forest

def elements : Forest → List Element
  | nil => []
  | tree head inner next => ⟨head, inner⟩ :: next.elements

def ofElements : List Element → Forest
  | [] => nil
  | e :: rest => tree e.head e.inner (ofElements rest)

@[simp] theorem elements_ofElements (es : List Element) : (ofElements es).elements = es := by
  induction es with
  | nil => rfl
  | cons e rest ih => simp [ofElements, elements, ih]

/-- All elements in document order. -/
def all : Forest → List Element
  | nil => []
  | tree head inner next => ⟨head, inner⟩ :: (inner.all ++ next.all)

end Forest

/-- An element with its ancestors up to some starting point, nearest first. -/
structure Site where
  element : Element
  above : List Element
  deriving DecidableEq, Repr

/-- All elements in document order, with the ancestors that `above` and the forest give them. -/
def Forest.sites (above : List Element) : Forest → List Site
  | .nil => []
  | .tree head inner next =>
    ⟨⟨head, inner⟩, above⟩ :: (inner.sites (⟨head, inner⟩ :: above) ++ next.sites above)

@[simp] theorem Forest.map_element_sites (above : List Element) (f : Forest) :
    (f.sites above).map (·.element) = f.all := by
  induction f generalizing above with
  | nil => rfl
  | tree head inner next ihInner ihNext => simp [sites, all, ihInner, ihNext]

def Site.parent? (s : Site) : Option Site :=
  match s.above with
  | [] => none
  | e :: above => some ⟨e, above⟩

namespace Element

def name (e : Element) : String := e.head.name

/-- Namespace in braces and local name. -/
def qualifiedName (e : Element) : String :=
  match e.head.space with
  | some space => "\x7b" ++ space ++ "\x7d" ++ e.name
  | none => e.name

/-- The local name is exactly this one; the namespace is compared up to the case of ASCII
letters. -/
def isNamed (space name : String) (e : Element) : Bool :=
  e.name == name && e.head.space.any (eqIgnoringCase · space)

/-- The local name up to the case of ASCII letters, in any namespace. -/
def hasLocalName (name : String) (e : Element) : Bool := eqIgnoringCase e.name name

/-- First attribute with the local name, in any namespace. -/
def attr? (e : Element) (name : String) : Option String :=
  (e.head.attributes.find? (·.name == name)).map (·.value)

def attrIn? (e : Element) (space name : String) : Option String :=
  (e.head.attributes.find? fun a =>
    a.name == name && a.space.any (eqIgnoringCase · space)).map (·.value)

/-- The attribute's value without blanks around it, if something is left. -/
def attrText? (e : Element) (name : String) : Option String := (e.attr? name).bind trimmed?

/-- Names and values of the attributes that are no namespace declarations. -/
def attributes (e : Element) : List (String × String) :=
  (e.head.attributes.filter (·.space != some Space.declarations)).map fun a => (a.name, a.value)

/-- The text without blanks around it, if something is left. -/
def text? (e : Element) : Option String := trimmed? e.head.text

def children (e : Element) : List Element := e.inner.elements

def childrenNamed (e : Element) (space name : String) : List Element :=
  e.children.filter (isNamed space name)

def child? (e : Element) (space name : String) : Option Element :=
  e.children.find? (isNamed space name)

def childLocal? (e : Element) (name : String) : Option Element :=
  e.children.find? (hasLocalName name)

/-- Descendants in document order, without the element itself. -/
def descendants (e : Element) : List Element := e.inner.all

def descendantsNamed (e : Element) (space name : String) : List Element :=
  e.descendants.filter (isNamed space name)

def descendantsLocal (e : Element) (name : String) : List Element :=
  e.descendants.filter (hasLocalName name)

/-- Descendants with their ancestors up to the element itself. -/
def sites (e : Element) : List Site := e.inner.sites [e]

@[simp] theorem map_element_sites (e : Element) : e.sites.map (·.element) = e.descendants :=
  Forest.map_element_sites [e] e.inner

/-- The child element that holds a named package property. -/
def property? (e : Element) (name : String) : Option Element :=
  e.children.find? fun c => c.isNamed Space.dts "Property" && c.attr? "Name" == some name

def isProperty (e : Element) : Bool := e.isNamed Space.dts "Property"

def isExecutable (e : Element) : Bool := e.isNamed Space.dts "Executable"

end Element

/-- Descendants of a document's root with the given name, each with all its ancestors. -/
def Element.sitesNamed (root : Element) (space name : String) : List Site :=
  root.sites.filter (·.element.isNamed space name)

/-- The texts that mean yes: `true` in any case, `1` and `-1`. -/
def isTrue (raw : Option String) : Bool :=
  raw.any fun r =>
    let r := asciiLower (trim r)
    r == "true" || r == "1" || r == "-1"

end EtlSurvey.Markup
