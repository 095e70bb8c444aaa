import EtlSurvey.Dictionary
import EtlSurvey.Text.FileName
import EtlSurvey.Text.Utf8

/-! Containers of project members, whatever they come from. -/

namespace EtlSurvey
open Text

inductive ContainerError where
  | notFound (path : String)
  | unreadable (path reason : String)
  /-- The bytes are no archive that can be read. -/
  | brokenArchive
  | notContainer (path : String)
  | missingMember (member : String)
  deriving DecidableEq, Repr

def ContainerError.message : ContainerError → String
  | notFound path => "Project not found: " ++ path
  | unreadable path reason => "Failed to read " ++ path ++ ": " ++ reason
  | brokenArchive => "Archive error"
  | notContainer path => "Not a project container: " ++ path
  | missingMember member => "Member not found in project: " ++ member

abbrev MemberContent := Except ContainerError Bytes

structure Container where
  /-- Name of the project unless a manifest gives one. -/
  name : String
  /-- Paths of the members in ascending order, and what reading them gives. -/
  contents : List (String × MemberContent)

namespace Container

/-- A container whose members can all be read. -/
def ofMembers (name : String) (members : Dictionary Bytes) : Container :=
  ⟨name, members.entries.map fun (member, bytes) => (member, .ok bytes)⟩

def members (c : Container) : List String := c.contents.map (·.1)

def read (c : Container) (member : String) : MemberContent :=
  (c.contents.lookup member).getD (.error (.missingMember member))

def membersWithExtension (c : Container) (extension : String) : List String :=
  c.members.filter (FileName.hasExtension extension)

/-- Documents of packages. -/
def packageMembers (c : Container) : List String := c.membersWithExtension "dtsx"

/-- First member of that file name, up to the case of ASCII letters. -/
def find? (c : Container) (fileName : String) : Option String :=
  c.members.find? fun m => eqIgnoringCase (FileName.ofMember m) fileName

/-- The container in which reading some members fails. -/
def withFailures (c : Container) (failures : List (String × ContainerError)) : Container where
  name := c.name
  contents := c.contents.map fun (member, content) =>
    match failures.lookup member with
    | some e => (member, .error e)
    | none => (member, content)

end Container
end EtlSurvey
