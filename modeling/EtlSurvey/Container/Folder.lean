import EtlSurvey.Container.Basic
import EtlSurvey.Storage
import EtlSurvey.Text.Basic
import EtlSurvey.Text.Percent
import EtlSurvey.Zip.Archive

/-! Projects in archives and in folders. A deployed project is a zip archive whose entries have
percent-encoded names. Opening a project in a folder indexes the files of the folder; reading a
member looks at the folder again. -/

namespace EtlSurvey
open Text

/-- Members of an archive; of entries whose names mean the same member the last counts. -/
def archiveMembers? (bytes : Bytes) : Option (Dictionary Bytes) :=
  (Zip.files? bytes).map fun files =>
    .ofList (files.map fun (name, content) => (Percent.decode name, content))

def Container.ofArchive (name : String) (bytes : Bytes) : Except ContainerError Container :=
  match archiveMembers? bytes with
  | some members => .ok (.ofMembers name members)
  | none => .error .brokenArchive

namespace Folder

/-- Folders that hold no sources. -/
def skippedFolders : List String := ["bin", "obj", "node_modules"]

def isHidden (name : String) : Bool := name.toList.head? == some '.'

/-- Paths of the files below, except for hidden ones and those in skipped folders. -/
def filePaths (around : String) : Folder → List String
  | nil => []
  | file name _ next =>
    (if isHidden name then [] else [around ++ name]) ++ next.filePaths around
  | folder name inner next =>
    (if isHidden name || skippedFolders.contains name then []
      else inner.filePaths (around ++ name ++ "/")) ++ next.filePaths around

/-- Paths of the folders below in which files count. -/
def folderPaths (around : String) : Folder → List String
  | nil => []
  | file _ _ next => next.folderPaths around
  | folder name inner next =>
    (if isHidden name || skippedFolders.contains name then []
      else (around ++ name) :: inner.folderPaths (around ++ name ++ "/")) ++ next.folderPaths around

end Folder

/-- A path that goes on from another. -/
def joinPath (root path : String) : String :=
  if path.toList.head? == some '/' then path
  else if root.toList.getLast? == some '/' then root ++ path
  else root ++ "/" ++ path

/-- Name of a member by the path of its file: slashes are forward. Since file names are texts here,
this is the one place where a listed name may differ from the name of its file. -/
def memberOfPath (path : String) : String :=
  String.ofList (path.toList.map fun c => if c == '\\' then '/' else c)

/-- The folder of a project and its members. -/
structure FolderIndex where
  root : String
  members : List String
  deriving DecidableEq, Repr

namespace FolderIndex

/-- The index of a folder. A folder in it whose path has a fault cannot be indexed. -/
def build (disk : Folder) (root : String) : Except ContainerError FolderIndex :=
  match disk.locate root with
  | .ok (.folder f) =>
    match ((f.folderPaths "").map (joinPath root)).findSome? fun path =>
        (pathFault? path).map (path, ·) with
    | some (path, e) =>
      .error (.unreadable root ("IO error for operation on " ++ path ++ ": " ++ e.message))
    | none => .ok ⟨root, sortByKey id ((f.filePaths "").map memberOfPath)⟩
  | _ => .error (.notFound root)

def name (i : FolderIndex) : String := (FileName.last? i.root).getD "Project"

/-- Path of a member from where the root is given. -/
def path (i : FolderIndex) (member : String) : String := joinPath i.root member

def read (disk : Folder) (i : FolderIndex) (member : String) : MemberContent :=
  if !i.members.contains member then .error (.missingMember member)
  else match disk.read (i.path member) with
    | .ok bytes => .ok bytes
    | .error e => .error (.unreadable (i.path member) e.message)

def container (disk : Folder) (i : FolderIndex) : Container where
  name := i.name
  contents := i.members.map fun m => (m, i.read disk m)

end FolderIndex

namespace Container

/-- An archive in a file, named like the file. -/
def openArchive (disk : Folder) (path : String) : Except ContainerError Container :=
  if !disk.contains path then .error (.notFound path)
  else match disk.read path with
    | .error e => .error (.unreadable path e.message)
    | .ok bytes => ofArchive ((FileName.stem? path).getD "Project") bytes

def openFolder (disk : Folder) (path : String) : Except ContainerError Container :=
  (FolderIndex.build disk path).map (·.container disk)

/-- A project by the path of its folder, of its archive or of the build file in its folder. -/
def openPath (disk : Folder) (path : String) : Except ContainerError Container :=
  match disk.locate path with
  | .error _ => .error (.notFound path)
  | .ok (.folder _) => openFolder disk path
  | .ok (.file _) =>
    match (FileName.extension? path).map asciiLower with
    | some "ispac" | some "zip" => openArchive disk path
    | some "dtproj" => openFolder disk (FileName.parent path)
    | _ => .error (.notContainer path)

end Container

end EtlSurvey
