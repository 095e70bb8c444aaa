import EtlSurvey.Markup.Element
import EtlSurvey.Markup.Tag

/-! Building a tree from events. End events close the innermost open element whatever their name;
after the root has closed only a further start ends the building, and elements still open at the
end are closed there. Prefixes are resolved in the scope of the element that uses them. -/

namespace EtlSurvey.Markup
open Text

inductive Event where
  | start (tag : Tag)
  | empty (tag : Tag)
  | text (s : String)
  | close
  deriving DecidableEq, Repr

def Event.ofToken : Token → Event
  | .text bytes => .text (textOf bytes)
  | .cdata bytes => .text (Utf8.decodeLossy bytes)
  | .opening content => .start (Tag.ofContent content)
  | .empty content => .empty (Tag.ofContent content)
  | .closing => .close

/-- Prefix that an attribute key declares; the default namespace has the empty one. -/
def declaredPrefix? (key : String) : Option String :=
  if key == "xmlns" then some ""
  else if "xmlns:".toList.isPrefixOf key.toList then some (String.ofList (key.toList.drop 6))
  else none

/-- Namespaces that a tag declares, in order. -/
def Tag.declarations (tag : Tag) : List (String × String) :=
  tag.attributes.filterMap fun (key, value) => (declaredPrefix? key).map (·, value)

/-- A name cut at its first colon. -/
def splitName (raw : String) : Option String × String :=
  let chars := raw.toList
  let before := chars.takeWhile (· != ':')
  match chars.drop before.length with
  | _ :: after => (some (String.ofList before), String.ofList after)
  | [] => (none, raw)

/-- Namespace of a prefix: its nearest declaration if that is not empty, else the well-known one.
The declarations in scope come innermost first. -/
def resolvePrefix (scope : List (String × String)) (name : String) : Option String :=
  match (scope.lookup name).bind nonEmpty? with
  | some space => some space
  | none => if name.isEmpty then none else Space.ofPrefix? name

/-- Namespace and local name of an element: without a prefix the default namespace applies. -/
def resolveElement (scope : List (String × String)) (raw : String) : Option String × String :=
  match splitName raw with
  | (some before, name) => (resolvePrefix scope before, name)
  | (none, name) => (resolvePrefix scope "", name)

/-- Attributes without a prefix have no namespace; declarations have one of their own. -/
def resolveAttribute (scope : List (String × String)) (raw value : String) : Attribute :=
  match declaredPrefix? raw with
  | some declared => ⟨some Space.declarations, declared, value⟩
  | none =>
    match splitName raw with
    | (some before, name) => ⟨resolvePrefix scope before, name, value⟩
    | (none, name) => ⟨none, name, value⟩

/-- An element that is still open: what is known of it, its finished children, last first, and
the declarations in scope, innermost first. -/
structure Frame where
  head : Head
  finished : List Element
  scope : List (String × String)
  deriving DecidableEq, Repr

def Frame.close (f : Frame) : Element := ⟨f.head, .ofElements f.finished.reverse⟩

/-- A new frame inside open ones, which come innermost first. -/
def Frame.ofTag (outer : List Frame) (tag : Tag) : Frame :=
  let around := (outer.head?.map (·.scope)).getD []
  let scope := tag.declarations ++ around
  let (space, name) := resolveElement scope tag.name
  { head := ⟨space, name, tag.attributes.map fun (key, value) => resolveAttribute scope key value, ""⟩
    finished := []
    scope }

structure Builder where
  /-- Open elements, innermost first. -/
  frames : List Frame
  root : Option Element
  deriving DecidableEq, Repr

namespace Builder

def initial : Builder := ⟨[], none⟩

/-- Hands a finished element to the one it stands in. -/
def add (e : Element) (b : Builder) : Builder :=
  match b.frames with
  | [] => { b with root := some e }
  | f :: outer => { b with frames := { f with finished := e :: f.finished } :: outer }

def close (b : Builder) : Builder :=
  match b.frames with
  | [] => b
  | f :: outer => add f.close { b with frames := outer }

def append (s : String) (b : Builder) : Builder :=
  match b.frames with
  | [] => b
  | f :: outer =>
    { b with frames := { f with head := { f.head with text := f.head.text ++ s } } :: outer }

/-- One event; none if it ends the document. -/
def step (b : Builder) : Event → Option Builder
  | .start tag =>
    if b.root.isSome then none else some { b with frames := .ofTag b.frames tag :: b.frames }
  | .empty tag =>
    if b.root.isSome then none else some (add (Frame.ofTag b.frames tag).close b)
  | .text s => some (b.append s)
  | .close => some b.close

/-- The state after the events, and whether all of them were taken. -/
def run (b : Builder) : List Event → Builder × Bool
  | [] => (b, true)
  | e :: rest =>
    match b.step e with
    | some b => b.run rest
    | none => (b, false)

/-- Closes what is open. -/
def finishFrom : List Frame → Option Element → Option Element
  | [], last => last
  | f :: outer, last =>
    finishFrom outer (some { f with finished := last.toList ++ f.finished }.close)

def finish (b : Builder) : Option Element :=
  match b.frames with
  | [] => b.root
  | frames => finishFrom frames none

end Builder
end EtlSurvey.Markup
