import EtlSurvey.Json.Record
import EtlSurvey.Text.Basic
import EtlSurvey.Text.Case
import EtlSurvey.Text.Glob
import EtlSurvey.Text.Word

/-! SQL text: its dialect, and the table that a lookup query reads from, which is the name after the
first word `from`. -/

namespace EtlSurvey
open Text Json

inductive SqlDialect where
  | tsql
  | ansi
  deriving DecidableEq, Repr, Inhabited

namespace SqlDialect

/-- Words that occur in no other dialect. -/
def tsqlMarkers : List String :=
  ["GETDATE()", "ISNULL(", "TOP ", "NOLOCK", "@@ROWCOUNT", "SCOPE_IDENTITY("]

def ofText (sql : String) : SqlDialect :=
  if tsqlMarkers.any (occursIn · (upper sql)) then tsql else ansi

def name : SqlDialect → String
  | tsql => "tsql"
  | ansi => "ansi"

def toJson (d : SqlDialect) : Value := .text d.name

def ofJson? : Value → Option SqlDialect := caseOf? ([tsql, ansi].map fun d => (d.name, d))

end SqlDialect

/-- Characters of table names: word characters, dots and square brackets. -/
def isTableChar (c : Char) : Bool := c == '[' || c == ']' || c == '.' || isWord c

/-- The name after a `from` that the text begins with. -/
def tableAfterFrom? (s : List Char) : Option (List Char) :=
  if (s.take 4).map Char.toLower != ['f', 'r', 'o', 'm'] then none
  else
    let rest := s.drop 4
    let name := (trimStartList rest).takeWhile isTableChar
    if (rest.takeWhile isBlank).isEmpty || name.isEmpty then none else some name

/-- `before` is the character in front of the text; inside a word no `from` counts. -/
def findTable (before : Option Char) : List Char → Option (List Char)
  | [] => none
  | c :: rest =>
    match if before.any isWord then none else tableAfterFrom? (c :: rest) with
    | some name => some name
    | none => findTable (some c) rest

def lookupTable? (sql : String) : Option String := (findTable none sql.toList).map String.ofList

end EtlSurvey
