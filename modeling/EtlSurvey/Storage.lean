import EtlSurvey.Text.FileName
import EtlSurvey.Text.Utf8

/-! Folders with everything in them, and paths that lead through them. Reading and writing files
are functions of a folder. -/

namespace EtlSurvey
open Text

/-- What a folder holds. Names are Unicode texts: a name of other bytes is outside the model, since
it has no text of its own, and what stands for it in a listing is the name of no file. -/
inductive Folder where
  | nil
  | file (name : String) (bytes : Bytes) (next : Folder)
  | folder (name : String) (inner : Folder) (next : Folder)
  deriving DecidableEq, Repr

/-- What stands under a path. -/
inductive Place where
  | file (bytes : Bytes)
  | folder (inner : Folder)
  deriving DecidableEq, Repr

inductive AccessError where
  | missing
  | notFolder
  | isFolder
  /-- A path, or a name in it, has too many bytes. -/
  | tooLong
  /-- No path has the character zero. -/
  | holdsZero
  deriving DecidableEq, Repr

def AccessError.message : AccessError → String
  | missing => "No such file or directory (os error 2)"
  | notFolder => "Not a directory (os error 20)"
  | isFolder => "Is a directory (os error 21)"
  | tooLong => "File name too long (os error 36)"
  | holdsZero => "file name contained an unexpected NUL byte"

/-- Most bytes of a path. -/
def longestPath : Nat := 4095

/-- Most bytes of a name in a path. -/
def longestName : Nat := 255

/-- What is wrong with a path wherever it is used. -/
def pathFault? (path : String) : Option AccessError :=
  if path.toList.contains '\x00' then some .holdsZero
  else if Utf8.size path > longestPath then some .tooLong
  else none

namespace Folder

def child? (name : String) : Folder → Option Place
  | nil => none
  | file n bytes next => if n = name then some (.file bytes) else next.child? name
  | folder n inner next => if n = name then some (.folder inner) else next.child? name

/-- Puts a file or folder under a name, in place of what is there. -/
def put (name : String) (p : Place) : Folder → Folder
  | nil =>
    match p with
    | .file bytes => file name bytes nil
    | .folder inner => folder name inner nil
  | file n bytes next =>
    if n = name then
      match p with
      | .file bytes => file name bytes next
      | .folder inner => folder name inner next
    else file n bytes (next.put name p)
  | folder n inner next =>
    if n = name then
      match p with
      | .file bytes => file name bytes next
      | .folder inner => folder name inner next
    else folder n inner (next.put name p)

def remove (name : String) : Folder → Folder
  | nil => nil
  | file n bytes next => if n = name then next else file n bytes (next.remove name)
  | folder n inner next => if n = name then next else folder n inner (next.remove name)

/-- Follows the parts of a path. Two dots lead to the folder around; empty parts and single dots
stay, but only a folder has any part. `above` holds the name of the current folder and the folder
around it, and so on outwards; the same is returned for the place that is reached. -/
def follow (above : List (String × Folder)) :
    Place → List String → Except AccessError (List (String × Folder) × Place)
  | p, [] => .ok (above, p)
  | .file _, _ :: _ => .error .notFolder
  | .folder f, part :: parts =>
    if part == "" || part == "." then follow above (.folder f) parts
    else if part == ".." then
      match above with
      | [] => .error .missing
      | (_, outer) :: above => follow above (.folder outer) parts
    else if Utf8.size part > longestName then .error .tooLong
    else
      match f.child? part with
      | none => .error .missing
      | some p => follow ((part, f) :: above) p parts

/-- What a path leads to from this folder, with the names on the direct way to it. There is
nothing outside of the folder. -/
def resolve (f : Folder) (path : String) : Except AccessError (List String × Place) :=
  match pathFault? path with
  | some e => .error e
  | none =>
    if path.isEmpty || path.toList.head? == some '/' then .error .missing
    else (follow [] (.folder f) (FileName.split (· == '/') path)).map fun (above, p) =>
      ((above.map (·.1)).reverse, p)

def locate (f : Folder) (path : String) : Except AccessError Place :=
  (f.resolve path).map (·.2)

def contains (f : Folder) (path : String) : Bool := (f.locate path).toOption.isSome

def read (f : Folder) (path : String) : Except AccessError Bytes :=
  match f.locate path with
  | .error e => .error e
  | .ok (.folder _) => .error .isFolder
  | .ok (.file bytes) => .ok bytes

/-- Changes the folder that names lead to; missing folders on the way are added. -/
def changeAt (change : Folder → Folder) : List String → Folder → Folder
  | [], f => change f
  | name :: names, f =>
    let inner := match f.child? name with
      | some (.folder inner) => inner
      | _ => nil
    f.put name (.folder (changeAt change names inner))

/-- Adds a folder and those around it. -/
def addFolder (f : Folder) (names : List String) : Folder := f.changeAt id names

/-- Adds a file and the folders around it. -/
def addFile (f : Folder) (names : List String) (bytes : Bytes) : Folder :=
  match names.getLast? with
  | none => f
  | some name => f.changeAt (put name (.file bytes)) names.dropLast

/-- Removes the file that a path leads to. -/
def removeFile (f : Folder) (path : String) : Folder :=
  match f.resolve path with
  | .ok (names, .file _) =>
    match names.getLast? with
    | none => f
    | some name => f.changeAt (remove name) names.dropLast
  | _ => f

/-- Path of the folder in which a path's last part is, and that part. -/
def splitLast (path : String) : String × String :=
  match (FileName.split (· == '/') path).reverse with
  | [] => (".", "")
  | [name] => (".", name)
  | name :: parts => ("/".intercalate parts.reverse, name)

/-- A file can be created under the name. -/
def canName (name : String) : Bool :=
  name != "" && name != "." && name != ".." && Utf8.size name ≤ longestName

/-- Writes a file, if its folder is there and the path is not that of a folder. -/
def write? (f : Folder) (path : String) (bytes : Bytes) : Option Folder :=
  let (around, name) := splitLast path
  match f.resolve around with
  | .ok (names, .folder inner) =>
    if !canName name || (pathFault? path).isSome then none
    else match inner.child? name with
      | some (.folder _) => none
      | _ => some (f.addFile (names ++ [name]) bytes)
  | _ => none

end Folder
end EtlSurvey
