import EtlSurvey.Toml.Reader

/-! TOML documents as one table. A header opens a table, which is closed and put in its place when
the next one comes. -/

namespace EtlSurvey.Toml
open Reader

/-- A document in the making: the finished part, and the table that is open. -/
structure Draft where
  root : Entries
  path : List String
  isListItem : Bool
  current : Entries

namespace Draft

def initial : Draft := ⟨[], [], false, []⟩

/-- Puts a table in its place. One that is there already may only be an implicit one. -/
def placeTable (path : List String) (table root : Entries) : Option Entries := do
  let key ← path.getLast?
  descend false (fun _ entries =>
    match entries.lookup key with
    | none | some (.table true _ _) => some (putNode key (.table false false table) entries)
    | _ => none) path.dropLast false root

/-- Adds a table to those of a header in double brackets. -/
def placeItem (path : List String) (table root : Entries) : Option Entries := do
  let key ← path.getLast?
  descend false (fun _ entries =>
    match entries.lookup key with
    | none => some (putNode key (.tables [table]) entries)
    | some (.tables items) => some (putNode key (.tables (table :: items)) entries)
    | _ => none) path.dropLast false root

/-- Closes the open table. -/
def close (d : Draft) : Option Entries :=
  if d.path.isEmpty then some d.current
  else if d.isListItem then placeItem d.path d.current d.root
  else placeTable d.path d.current d.root

/-- The table that is there under a path, of which the last key is looked up in the table that the
others lead to. -/
def findFrom : List String → Entries → Option (Option Node)
  | [], _ => none
  | [key], entries => some (entries.lookup key)
  | key :: path, entries =>
    match entries.lookup key with
    | none => some none
    | some (.leaf _) | some (.tables []) => none
    | some (.table _ _ inner) => findFrom path inner
    | some (.tables (last :: _)) => findFrom path last

def step (d : Draft) : Statement → Option Draft
  | .assignment path v => do
    let key ← path.getLast?
    let current ← assign path.dropLast key (.leaf v) d.current
    return { d with current }
  | .header path => do
    let root ← d.close
    match ← findFrom path root with
    | none => return ⟨root, path, false, []⟩
    | some (.table true false entries) => return ⟨root, path, false, entries⟩
    | some _ => none
  | .listHeader path => do
    let root ← d.close
    match ← findFrom path root with
    | none | some (.tables _) => return ⟨root, path, true, []⟩
    | some _ => none

end Draft

/-- The entries of a document; a byte order mark in front does not count. -/
def read? (s : String) : Option (List (String × Value)) := do
  let chars := match s.toList with
    | '\uFEFF' :: rest => rest
    | chars => chars
  let statements ← statements? (2 * chars.length + 2) chars
  let draft ← statements.foldlM Draft.step Draft.initial
  return entriesToValues (← draft.close)

end EtlSurvey.Toml
