import EtlSurvey.Kind.Executable

/-! Kinds of data flow components, and how destinations write. -/

namespace EtlSurvey
open Text Json

inductive ComponentRole where
  | source
  | destination
  | transform
  | unsupported
  deriving DecidableEq, Repr

def ComponentRole.name : ComponentRole → String
  | source => "source"
  | destination => "destination"
  | transform => "transform"
  | unsupported => "unsupported"

inductive ComponentKind where
  | oledbSource
  | adoNetSource
  | flatFileSource
  | scriptSource
  | oledbDestination
  | adoNetDestination
  | flatFileDestination
  | warehouseDestination
  | derivedColumn
  | lookup
  | conditionalSplit
  | unionAll
  | sort
  | aggregate
  | mergeJoin
  | multicast
  | rowCount
  | scriptComponent
  /-- A class outside the table. -/
  | unsupported (raw : String)
  deriving DecidableEq, Repr, Inhabited

namespace ComponentKind

def vendors : List String :=
  ["microsoft", "dtsadapter", "dtstransform", "microsoft.sqlserver.dts.pipeline"]

/-- Kind named by the last part of a class, whose vendor must be known. -/
def ofVendorName? (vendor name : String) : Option ComponentKind :=
  if !vendors.contains vendor then none
  else match name with
    | "oledbsource" => some oledbSource
    | "adonetsource" | "datareadersourceadapter" => some adoNetSource
    | "flatfilesource" => some flatFileSource
    | "scriptsource" => some scriptSource
    | "oledbdestination" => some oledbDestination
    | "adonetdestination" | "adonetdestinationadapter" => some adoNetDestination
    | "flatfiledestination" => some flatFileDestination
    | "snowflakedestination" => some warehouseDestination
    | "derivedcolumn" => some derivedColumn
    | "lookup" => some lookup
    | "conditionalsplit" => some conditionalSplit
    | "unionall" => some unionAll
    | "sort" => some sort
    | "aggregate" => some aggregate
    | "mergejoin" => some mergeJoin
    | "multicast" => some multicast
    | "rowcount" => some rowCount
    | "scriptcomponent" | "managedcomponenthost" => some scriptComponent
    | _ => none

/-- Kind of a class id: vendor and name around the last dot. -/
def ofClassId (classId : String) : ComponentKind :=
  let back := (typeMoniker classId).toList.reverse
  let name := back.takeWhile (· != '.')
  match back.drop name.length with
  | _ :: vendor =>
    (ofVendorName? (String.ofList vendor.reverse) (String.ofList name.reverse)).getD
      (unsupported classId)
  | [] => unsupported classId

def role : ComponentKind → ComponentRole
  | oledbSource | adoNetSource | flatFileSource | scriptSource => .source
  | oledbDestination | adoNetDestination | flatFileDestination | warehouseDestination =>
    .destination
  | derivedColumn | lookup | conditionalSplit | unionAll | sort | aggregate | mergeJoin
  | multicast | rowCount | scriptComponent => .transform
  | unsupported _ => .unsupported

/-- Flat files lie outside the warehouse. -/
def isFlatFile : ComponentKind → Bool
  | flatFileSource | flatFileDestination => true
  | _ => false

/-- Name for readers. -/
def name : ComponentKind → String
  | oledbSource => "OLEDBSource"
  | adoNetSource => "ADONETSource"
  | flatFileSource => "FlatFileSource"
  | scriptSource => "ScriptSource"
  | oledbDestination => "OLEDBDestination"
  | adoNetDestination => "ADONETDestination"
  | flatFileDestination => "FlatFileDestination"
  | warehouseDestination => "WarehouseDestination"
  | derivedColumn => "DerivedColumn"
  | lookup => "Lookup"
  | conditionalSplit => "ConditionalSplit"
  | unionAll => "UnionAll"
  | sort => "Sort"
  | aggregate => "Aggregate"
  | mergeJoin => "MergeJoin"
  | multicast => "Multicast"
  | rowCount => "RowCount"
  | scriptComponent => "ScriptComponent"
  | unsupported raw => raw

def cases : List (String × ComponentKind) := [
  ("oledb_source", oledbSource), ("ado_net_source", adoNetSource),
  ("flat_file_source", flatFileSource), ("script_source", scriptSource),
  ("oledb_destination", oledbDestination), ("ado_net_destination", adoNetDestination),
  ("flat_file_destination", flatFileDestination),
  ("warehouse_destination", warehouseDestination), ("derived_column", derivedColumn),
  ("lookup", lookup), ("conditional_split", conditionalSplit), ("union_all", unionAll),
  ("sort", sort), ("aggregate", aggregate), ("merge_join", mergeJoin),
  ("multicast", multicast), ("row_count", rowCount), ("script_component", scriptComponent)]

def toJson : ComponentKind → Value
  | oledbSource => .text "oledb_source"
  | adoNetSource => .text "ado_net_source"
  | flatFileSource => .text "flat_file_source"
  | scriptSource => .text "script_source"
  | oledbDestination => .text "oledb_destination"
  | adoNetDestination => .text "ado_net_destination"
  | flatFileDestination => .text "flat_file_destination"
  | warehouseDestination => .text "warehouse_destination"
  | derivedColumn => .text "derived_column"
  | lookup => .text "lookup"
  | conditionalSplit => .text "conditional_split"
  | unionAll => .text "union_all"
  | sort => .text "sort"
  | aggregate => .text "aggregate"
  | mergeJoin => .text "merge_join"
  | multicast => .text "multicast"
  | rowCount => .text "row_count"
  | scriptComponent => .text "script_component"
  | unsupported raw => unsupportedJson raw

def ofJson? : Value → Option ComponentKind := openCaseOf? cases unsupported

end ComponentKind

/-- How a destination writes its rows. -/
inductive WriteMode where
  /-- Bulk load. -/
  | append
  /-- Row by row. -/
  | insert
  | merge
  | truncate
  deriving DecidableEq, Repr, Inhabited

namespace WriteMode

def name : WriteMode → String
  | append => "append"
  | insert => "insert"
  | merge => "merge"
  | truncate => "truncate"

def toJson (m : WriteMode) : Value := .text m.name

def ofJson? : Value → Option WriteMode :=
  caseOf? ([append, insert, merge, truncate].map fun m => (m.name, m))

end WriteMode

end EtlSurvey
