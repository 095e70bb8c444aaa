import EtlSurvey.Graph.Traversal
import EtlSurvey.Record.Project
import EtlSurvey.Text.Basic
import EtlSurvey.Text.Quoted

/-! The packages of a project and the invocations between them. Invoked packages outside the
project stay in the graph. -/

namespace EtlSurvey
open Text

structure InvocationGraph where
  /-- Packages of the project, ascending. -/
  packages : List String
  /-- Invoking and invoked package, without repetition, in the order of the tasks. -/
  calls : List (String × String)
  deriving DecidableEq, Repr

namespace InvocationGraph

/-- Dependencies whose parent is no package of the project do not count. -/
def ofDependencies (names : List String) (dependencies : List Dependency) : InvocationGraph :=
  ⟨sortedDistinct names,
    ((dependencies.filter fun d => names.contains d.parent).map fun d =>
      (d.parent, d.child)).eraseDups⟩

def contains (g : InvocationGraph) (name : String) : Bool := g.packages.contains name

def children (g : InvocationGraph) (name : String) : List String :=
  (g.calls.filter (·.1 == name)).map (·.2)

def parents (g : InvocationGraph) (name : String) : List String :=
  (g.calls.filter (·.2 == name)).map (·.1)

def edgeCount (g : InvocationGraph) : Nat := g.calls.length

/-- More than the number of nodes, inside and outside the project. -/
def bound (g : InvocationGraph) : Nat := g.packages.length + g.calls.length + 2

/-- Packages that nothing invokes. -/
def entryPoints (g : InvocationGraph) : List String :=
  g.packages.filter fun n => (g.parents n).isEmpty

/-- Packages that invoke nothing and that nothing invokes. -/
def isolated (g : InvocationGraph) : List String :=
  g.packages.filter fun n => (g.parents n).isEmpty && (g.children n).isEmpty

/-- Invocations from a package on, depth first; one that is already on the way is not entered
again. -/
def executionChain (g : InvocationGraph) (start : String) : List String :=
  Graph.simplePathEnds g.children g.bound [] start

/-- Chains of the entry points that invoke something. -/
def executionChains (g : InvocationGraph) : List ExecutionChain :=
  (g.entryPoints.map fun e => ⟨e, g.executionChain e⟩).filter (·.packages.length > 1)

/-- Other packages that run because of this one, nearest first. -/
def allChildren (g : InvocationGraph) (name : String) : List String :=
  Graph.spread g.children g.bound [name] (g.children name)

/-- Other packages that this one runs because of, nearest first. -/
def allParents (g : InvocationGraph) (name : String) : List String :=
  Graph.spread g.parents g.bound [name] (g.parents name)

/-- First cycle of invocations, closed on its first package. -/
def findCycle (g : InvocationGraph) : Option (List String) :=
  Graph.findCycle g.children g.bound g.packages

/-- Advice on running the project. -/
def recommendations (g : InvocationGraph) : List String :=
  (if g.entryPoints.length > 1 then
    ["Multiple entry points detected - consider creating a master DAG for orchestration"]
  else []) ++
  (if g.isolated.isEmpty then [] else
    ["Isolated packages found: " ++ Quoted.encodeList g.isolated ++
      " - these can be independent DAGs"]) ++
  (if g.edgeCount == 0 then
    ["No package dependencies found - all packages can run independently"]
  else [])

end InvocationGraph
end EtlSurvey
