import EtlSurvey.Markup.Event

/-! Documents. A fault after the root has opened keeps what was read so far; before that there is
no document. -/

namespace EtlSurvey.Markup
open Text

structure Document where
  root : Element
  /-- The fault at which reading stopped. -/
  recovered : Option Failure
  deriving DecidableEq, Repr

def Failure.describe (f : Failure) : String :=
  f.fault.message ++ " (at byte " ++ toString f.position ++ ")"

inductive LoadError where
  | notFound (path : String)
  | unreadable (path reason : String)
  | malformed (failure : Failure)
  | noRootElement
  | rootMismatch (expected found : String)
  deriving DecidableEq, Repr

def LoadError.message : LoadError → String
  | .notFound path => "Document not found: " ++ path
  | .unreadable path reason => "Failed to read document " ++ path ++ ": " ++ reason
  | .malformed f =>
    "Malformed document at byte " ++ toString f.position ++ ": " ++ f.fault.message
  | .noRootElement => "Document has no root element"
  | .rootMismatch expected found =>
    "Expected root element " ++ expected ++ ", found " ++ found

/-- The document that events describe, given the fault that ended them. -/
def Document.ofEvents (events : List Event) (failure : Option Failure) :
    Except LoadError Document :=
  let (builder, complete) := Builder.initial.run events
  let failure := if complete then failure else none
  match builder.finish, failure with
  | some root, _ => .ok ⟨root, failure⟩
  | none, some f => .error (.malformed f)
  | none, none => .error .noRootElement

def Document.parse (bytes : Bytes) : Except LoadError Document :=
  let (tokens, failure) := scan bytes
  Document.ofEvents (tokens.map Event.ofToken) failure

/-- Requires a root element of this name. -/
def Document.parseWithRoot (space name : String) (bytes : Bytes) : Except LoadError Document := do
  let document ← Document.parse bytes
  if document.root.isNamed space name then return document
  else throw (.rootMismatch ("\x7b" ++ space ++ "\x7d" ++ name) document.root.qualifiedName)

def Document.parsePackage : Bytes → Except LoadError Document :=
  Document.parseWithRoot Space.dts "Executable"

end EtlSurvey.Markup
