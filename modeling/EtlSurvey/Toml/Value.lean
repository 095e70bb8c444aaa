/-! Values of TOML documents, and tables under construction. Numbers and times are kept as they are
written. A table remembers how it came about, because that decides what may still be added to it: an
implicit one is only known as the parent of others, a dotted one comes from a dotted key. -/

namespace EtlSurvey.Toml

inductive Value where
  | text (s : String)
  | bool (b : Bool)
  /-- An integer, a float, a date or a time. -/
  | literal (s : String)
  | list (items : List Value)
  | table (entries : List (String × Value))
  deriving Inhabited

inductive Node where
  | leaf (v : Value)
  | table (implicit dotted : Bool) (entries : List (String × Node))
  /-- Tables of one header in double brackets, the last one first. -/
  | tables (items : List (List (String × Node)))
  deriving Inhabited

abbrev Entries := List (String × Node)

/-- Replaces an entry or adds it at the end. -/
def putNode (key : String) (n : Node) : Entries → Entries
  | [] => [(key, n)]
  | (k, m) :: rest => if k == key then (k, n) :: rest else (k, m) :: putNode key n rest

/-- Applies a change to the table that a path leads to. Missing tables on the way are added; of
tables in double brackets the last one is meant. A dotted path passes only through implicit
tables. The change is told whether the table is a dotted one. -/
def descend (dotted : Bool) (change : Bool → Entries → Option Entries) :
    List String → Bool → Entries → Option Entries
  | [], isDotted, entries => change isDotted entries
  | key :: path, _, entries =>
    match entries.lookup key with
    | none => do
      let inner ← descend dotted change path dotted []
      return putNode key (.table true dotted inner) entries
    | some (.leaf _) => none
    | some (.table implicit wasDotted inner) =>
      if dotted && !implicit then none
      else do
        let inner ← descend dotted change path wasDotted inner
        return putNode key (.table implicit wasDotted inner) entries
    | some (.tables []) => none
    | some (.tables (last :: others)) => do
      let last ← descend dotted change path false last
      return putNode key (.tables (last :: others)) entries

/-- Sets a key that may be dotted. A key that ends in a table from a header may not add to it. -/
def assign (path : List String) (key : String) (v : Node) (entries : Entries) : Option Entries :=
  descend true (fun isDotted entries =>
    if isDotted == path.isEmpty || (entries.lookup key).isSome then none
    else some (putNode key v entries)) path false entries

mutual

def Node.toValue : Node → Value
  | .leaf v => v
  | .table _ _ entries => .table (entriesToValues entries)
  | .tables items => .list (tablesToValues items).reverse

def entriesToValues : Entries → List (String × Value)
  | [] => []
  | (key, n) :: rest => (key, n.toValue) :: entriesToValues rest

def tablesToValues : List Entries → List Value
  | [] => []
  | entries :: rest => .table (entriesToValues entries) :: tablesToValues rest

end

end EtlSurvey.Toml
