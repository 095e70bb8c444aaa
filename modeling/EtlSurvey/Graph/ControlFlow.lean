import EtlSurvey.Finding.Cause
import EtlSurvey.Graph.Traversal
import EtlSurvey.Record.Package

/-! The control flow of a package: executables joined by precedence constraints. -/

namespace EtlSurvey

structure ControlFlow where
  /-- Ids of the executables that exist, without repetition. -/
  known : List String
  edges : List Edge
  deriving DecidableEq

namespace ControlFlow

def ofEdges (ids : List String) (edges : List Edge) : ControlFlow := ⟨ids.eraseDups, edges⟩

/-- The executables, and after them the other ends of edges as they come. -/
def nodes (g : ControlFlow) : List String :=
  (g.known ++ g.edges.flatMap fun e => [e.source, e.target]).eraseDups

/-- Targets of the edges that leave a node, one for each edge. -/
def children (g : ControlFlow) (id : String) : List String :=
  (g.edges.filter (·.source == id)).map (·.target)

def parents (g : ControlFlow) (id : String) : List String :=
  (g.edges.filter (·.target == id)).map (·.source)

def roots (g : ControlFlow) : List String := g.known.filter fun id => (g.parents id).isEmpty

def leaves (g : ControlFlow) : List String := g.known.filter fun id => (g.children id).isEmpty

/-- Executables that no edge touches. -/
def isolated (g : ControlFlow) : List String :=
  g.known.filter fun id => (g.parents id).isEmpty && (g.children id).isEmpty

/-- Nodes that more than one success edge leaves, with the targets of these. -/
def parallelGroups (g : ControlFlow) : List (String × List String) :=
  (g.nodes.map fun id =>
    (id, (g.edges.filter fun e => e.source == id && e.condition == .success).map (·.target))).filter
      fun (_, targets) => targets.length > 1

/-- Ends of edges that name no executable. -/
def unresolved (g : ControlFlow) : List String := g.nodes.filter fun id => !g.known.contains id

/-- First cycle of a depth-first search, closed on its first node. -/
def findCycle (g : ControlFlow) : Option (List String) :=
  Graph.firstCycle g.children (g.nodes.length + 1) g.nodes

/-- Nodes reached by one edge or more, nearest first. -/
def allChildren (g : ControlFlow) (id : String) : List String :=
  Graph.spreadUnseen g.children (2 * g.edges.length) [] (g.children id)

def topologicalOrder (g : ControlFlow) : Option (List String) :=
  Graph.topologicalOrder g.children (fun id => (g.parents id).length) g.nodes

/-- What is wrong with the graph: ends that name nothing, a cycle, executables on their own. -/
def problems (g : ControlFlow) : List Cause :=
  g.unresolved.map Cause.unresolvedReference ++
  g.findCycle.toList.map Cause.precedenceCycle ++
  (if !g.isolated.isEmpty && g.known.length > 1 then [.isolatedExecutables g.isolated] else [])

def validate (g : ControlFlow) : Noted Unit := foundAll g.problems

end ControlFlow
end EtlSurvey
