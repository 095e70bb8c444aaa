import EtlSurvey.Text.Basic

/-! Names of files: components of a path, the stem and the extension of a name. -/

namespace EtlSurvey.Text.FileName

/-- Pieces between occurrences of a separator; always at least one. -/
def splitList (sep : Char → Bool) : List Char → List (List Char)
  | [] => [[]]
  | c :: rest =>
    if sep c then [] :: splitList sep rest
    else match splitList sep rest with
      | piece :: more => (c :: piece) :: more
      | [] => [[c]]

def split (sep : Char → Bool) (s : String) : List String := (splitList sep s.toList).map String.ofList

/-- Components of a path; empty ones and single dots do not count. -/
def components (path : String) : List String :=
  (split (· == '/') path).filter fun c => !c.isEmpty && c != "."

/-- Last component, unless it leads upwards. -/
def last? (path : String) : Option String :=
  match (components path).getLast? with
  | some ".." => none
  | name => name

/-- A path without its last component, or a dot if nothing is left. -/
def parent (path : String) : String :=
  let isEmptyPart := fun part : String => part == "" || part == "."
  let back := (split (· == '/') path).reverse.dropWhile isEmptyPart
  match (back.drop 1).dropWhile isEmptyPart with
  | [] => "."
  | parts => "/".intercalate parts.reverse

/-- A name cut at its last dot: what stands before and after it. A dot in front is part of the
name. -/
def cut (name : String) : String × Option String :=
  let back := name.toList.reverse
  match back.dropWhile (· != '.') with
  | [] | [_] => (name, none)
  | _ :: before =>
    (String.ofList before.reverse, some (String.ofList (back.takeWhile (· != '.')).reverse))

def stem? (path : String) : Option String := (last? path).map fun name => (cut name).1

def extension? (path : String) : Option String := (last? path).bind fun name => (cut name).2

/-- Name of an archive or folder member: what follows the last slash of either kind. -/
def ofMember (member : String) : String :=
  String.ofList (member.toList.reverse.takeWhile fun c => c != '/' && c != '\\').reverse

/-- The member's name has the extension, up to the case of ASCII letters. -/
def hasExtension (extension member : String) : Bool :=
  (extension? (ofMember member)).any (eqIgnoringCase · extension)

/-- The name without a final `.dtsx` of any case. -/
def dropPackageExtension (name : String) : String :=
  let back := name.toList.reverse
  if (back.take 5).map Char.toLower == "xstd.".toList then String.ofList (back.drop 5).reverse
  else name

end EtlSurvey.Text.FileName
