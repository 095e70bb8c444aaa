import EtlSurvey.Json.Value

/-! Reading records out of JSON values. A record is an object whose known members occur at most
once, or a list of its fields in order; unknown members are skipped.
A choice is a name in snake case, or an object that keeps an unknown name. -/

namespace EtlSurvey.Json

namespace Value

def text? : Value → Option String
  | .text s => some s
  | _ => none

def bool? : Value → Option Bool
  | .bool b => some b
  | _ => none

/-- A natural number below the bound. -/
def natBelow? (bound : Nat) : Value → Option Nat
  | .int n => if 0 ≤ n && n < bound then some n.toNat else none
  | _ => none

def listOf? (f : Value → Option α) : Value → Option (List α)
  | .list items => items.mapM f
  | _ => none

/-- Null or a value. -/
def nullable? (f : Value → Option α) : Value → Option (Option α)
  | .null => some none
  | v => (f v).map some

/-- The members of an object whose keys are all texts. -/
def members? : Value → Option (List (String × Value))
  | .object members => members.mapM fun (key, value) => key.map (·, value)
  | _ => none

/-- A case of a closed or open choice: its name alone, or its name with one argument. -/
def variant? : Value → Option (String × Option Value)
  | .text name => some (name, none)
  | .object [(some name, value)] => some (name, some value)
  | _ => none

/-- A case without argument; null in the argument's place is let pass. -/
def plainVariant? (v : Value) : Option String :=
  match v.variant? with
  | some (name, none) | some (name, some .null) => some name
  | _ => none

end Value

/-- What stands in a field's place. -/
inductive Slot where
  | given (v : Value)
  /-- The object has no such member. -/
  | absent
  /-- The list of fields ends before it. -/
  | beyond

namespace Slot

def required (f : Value → Option α) : Slot → Option α
  | .given v => f v
  | _ => none

/-- A field that may be null, or missing from an object. -/
def optional (f : Value → Option α) : Slot → Option (Option α)
  | .given v => v.nullable? f
  | .absent => some none
  | .beyond => none

/-- A field that has a default. -/
def orElse (default : α) (f : Value → Option α) : Slot → Option α
  | .given v => f v
  | _ => some default

end Slot

def slotOfMember (members : List (String × Value)) (name : String) : Option Slot :=
  match members.filter (·.1 == name) with
  | [] => some .absent
  | [(_, v)] => some (.given v)
  | _ => none

/-- Fields of a list by position; none if there are more items than fields. -/
def slotsOfItems : List String → List Value → Option (List Slot)
  | [], [] => some []
  | [], _ :: _ => none
  | _ :: names, [] => (slotsOfItems names []).map (.beyond :: ·)
  | _ :: names, v :: items => (slotsOfItems names items).map (.given v :: ·)

/-- The fields with the given names, in this order. -/
def Value.fields? (names : List String) : Value → Option (List Slot)
  | .list items => slotsOfItems names items
  | .object members => do
    let members ← (Value.object members).members?
    names.mapM (slotOfMember members)
  | _ => none

end EtlSurvey.Json

namespace EtlSurvey
open Json

/-- Reads a closed choice by the names of its cases. -/
def caseOf? (cases : List (String × α)) (v : Value) : Option α :=
  v.plainVariant?.bind fun name => cases.lookup name

/-- Reads a choice that keeps unknown names. -/
def openCaseOf? (cases : List (String × α)) (unsupported : String → α) (v : Value) : Option α :=
  match v.variant? with
  | some ("unsupported", some raw) => raw.text?.map unsupported
  | _ => caseOf? cases v

def unsupportedJson (raw : String) : Value := .record [("unsupported", some (.text raw))]

end EtlSurvey
