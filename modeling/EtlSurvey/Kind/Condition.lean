import EtlSurvey.Json.Record
import EtlSurvey.Text.Basic

/-! Conditions under which one executable follows another. -/

namespace EtlSurvey
open Text Json

inductive Condition where
  | success
  | failure
  | completion
  | expression
  deriving DecidableEq, Repr, Inhabited

namespace Condition

def name : Condition → String
  | success => "success"
  | failure => "failure"
  | completion => "completion"
  | expression => "expression"

/-- Reads a name of any case or a code from 0 to 3; a missing value means success. -/
def ofValue? (raw : Option String) : Option Condition :=
  match raw.bind trimmed? with
  | none => some success
  | some raw =>
    match asciiLower raw with
    | "success" | "0" => some success
    | "failure" | "1" => some failure
    | "completion" | "2" => some completion
    | "expression" | "3" => some expression
    | _ => none

def toJson (c : Condition) : Value := .text c.name

def ofJson? : Value → Option Condition :=
  caseOf? ([success, failure, completion, expression].map fun c => (c.name, c))

end Condition
end EtlSurvey
