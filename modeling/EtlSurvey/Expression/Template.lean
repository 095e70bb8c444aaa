import EtlSurvey.Expression.Reference
import EtlSurvey.Text.Case

/-! Expressions on the way to another language: how hard they are to move, what looks wrong with
them, and their form in a template language, where references become template calls and all other
characters stay. -/

namespace EtlSurvey.Expression
open Text

inductive Complexity where
  | simple
  | medium
  | high
  deriving DecidableEq, Repr

def Complexity.name : Complexity → String
  | simple => "simple"
  | medium => "medium"
  | high => "high"

def functionNames : List String := [
  "DATEADD", "DATEDIFF", "DATEPART", "GETDATE", "YEAR", "MONTH", "DAY", "LEN", "SUBSTRING",
  "UPPER", "LOWER", "LTRIM", "RTRIM", "REPLACE", "ISNULL", "FINDSTRING", "TOKEN", "TOKENCOUNT"]

def operators : List String := ["&&", "||", "==", "!=", ">=", "<="]

/-- More than three references of one family are hard; functions and comparisons are harder than
nothing. Function names count in any case and also inside other words. -/
def complexity (text : String) : Complexity :=
  if (references .variable text).length > 3 || (references .parameter text).length > 3 then .high
  else
    let shouted := upper text
    if functionNames.any (occursIn · shouted) || operators.any (occursIn · text) then .medium
    else .simple

inductive SyntaxIssue where
  | unmatchedBrackets
  | incompleteReference
  | unmatchedQuotes
  deriving DecidableEq, Repr

def SyntaxIssue.message : SyntaxIssue → String
  | unmatchedBrackets => "Unmatched brackets"
  | incompleteReference => "Incomplete variable reference"
  | unmatchedQuotes => "Unmatched quotes"

def syntaxIssues (text : String) : List SyntaxIssue :=
  let chars := text.toList
  (if chars.count '[' != chars.count ']' then [.unmatchedBrackets] else []) ++
  (if occursIn "@[" text && !hasReferences text then [.incompleteReference] else []) ++
  (if chars.count '"' % 2 != 0 then [.unmatchedQuotes] else [])

inductive TemplateStyle where
  | airflow
  | dbt
  deriving DecidableEq, Repr

def braced (call : String) : String := "\x7b\x7b " ++ call ++ " \x7d\x7d"

/-- Template call of a reference. -/
def TemplateStyle.render : TemplateStyle → Family → Reference → String
  | .dbt, _, r => braced ("var('" ++ lower r.name ++ "')")
  | .airflow, .parameter, r => braced ("params." ++ r.name)
  | .airflow, .variable, r =>
    if r.scope == "User" then braced ("dag_run.conf.get('" ++ r.name ++ "', '')")
    else braced ("var.value." ++ lower r.name)

def TemplateStyle.renderPiece (style : TemplateStyle) (family : Family) : Piece → List Char
  | .plain c => [c]
  | .reference r => (style.render family r).toList

/-- Replaces the references of one family. -/
def substitute (style : TemplateStyle) (family : Family) (text : String) : String :=
  String.ofList ((pieces family text).flatMap (style.renderPiece family))

/-- Replaces variables first and parameters in the result. -/
def toTemplate (style : TemplateStyle) (text : String) : String :=
  substitute style .parameter (substitute style .variable text)

end EtlSurvey.Expression
