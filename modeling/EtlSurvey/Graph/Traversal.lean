/-! Walks over a directed graph that is given by the successors of each node. The depth of a walk
without repetition is bounded by the number of nodes, and the run of a queue by the number of edges
that can get into it. Callers pass these bounds as fuel. -/

namespace EtlSurvey.Graph

variable {α : Type} [BEq α]

/-- The part of a path from a node to its end, closed on that node. The path comes last node
first. -/
def closeCycle (path : List α) (node : α) : List α :=
  (node :: (path.takeWhile (· != node)).reverse) ++ [node]

/-- Depth-first search below a node: fails with the first cycle that it closes, or returns the
nodes that are finished, which are on no cycle. -/
def search (next : α → List α) : Nat → List α → List α → α → Except (List α) (List α)
  | 0, _, done, _ => .ok done
  | fuel + 1, path, done, node =>
    if done.contains node then .ok done
    else if path.contains node then .error (closeCycle path node)
    else do
      let done ← (next node).foldlM (search next fuel (node :: path)) done
      return node :: done

/-- First cycle that a search from the given nodes in order closes. -/
def findCycle (next : α → List α) (fuel : Nat) (nodes : List α) : Option (List α) :=
  match nodes.foldlM (search next fuel []) [] with
  | .error cycle => some cycle
  | .ok _ => none

/-- Where a depth-first search has been, and the way to where it is. -/
structure Descent (α : Type) where
  visited : List α := []
  stack : List α := []

/-- Depth-first search from a node: fails with the cycle that the first edge back to the way closes,
or goes back up when all below the node has been visited. -/
def cycleFrom (next : α → List α) : Nat → Descent α → α → Except (List α) (Descent α)
  | 0, d, _ => .ok d
  | fuel + 1, d, node => do
    let d : Descent α := { visited := node :: d.visited, stack := d.stack ++ [node] }
    let d ← (next node).foldlM (fun d n =>
      match d.stack.idxOf? n with
      | some start => .error (d.stack.drop start ++ [n])
      | none => if d.visited.contains n then .ok d else cycleFrom next fuel d n) d
    return { d with stack := d.stack.dropLast }

/-- Searches from a node unless it has been visited. -/
def descend (next : α → List α) (fuel : Nat) (d : Descent α) (node : α) :
    Except (List α) (Descent α) :=
  if d.visited.contains node then .ok d else cycleFrom next fuel d node

/-- First cycle below the given nodes in order. -/
def firstCycle (next : α → List α) (fuel : Nat) (nodes : List α) : Option (List α) :=
  match nodes.foldlM (descend next fuel) {} with
  | .error cycle => some cycle
  | .ok _ => none

/-- Nodes that a queue comes to, nearest first. A node that has been seen is passed over when its
turn comes; the successors of any other one queue up behind the rest. -/
def spread (next : α → List α) : Nat → List α → List α → List α
  | 0, _, _ => []
  | _, _, [] => []
  | fuel + 1, seen, node :: queue =>
    if seen.contains node then spread next fuel seen queue
    else node :: spread next fuel (node :: seen) (queue ++ next node)

/-- The same with a queue in which nodes that have been seen do not stand again. -/
def spreadUnseen (next : α → List α) : Nat → List α → List α → List α
  | 0, _, _ => []
  | _, _, [] => []
  | fuel + 1, seen, node :: queue =>
    if seen.contains node then spreadUnseen next fuel seen queue
    else
      let seen := node :: seen
      let fresh := (next node).filter fun n => !seen.contains n
      node :: spreadUnseen next fuel seen (queue ++ fresh)

/-- End nodes of all paths without repetition that start at a node, depth first. `path` holds the
nodes before it. -/
def simplePathEnds (next : α → List α) : Nat → List α → α → List α
  | 0, _, _ => []
  | fuel + 1, path, node =>
    if path.contains node then []
    else node :: (next node).flatMap (simplePathEnds next fuel (node :: path))

/-- Takes one incoming edge from a node's count; the node is freed when none is left. -/
def release (state : List (α × Nat) × List α) (node : α) : List (α × Nat) × List α :=
  let (counts, freed) := state
  match counts.lookup node with
  | none => (counts, freed)
  | some count =>
    (counts.map fun (n, c) => if n == node then (n, c - 1) else (n, c),
      if count == 1 then freed ++ [node] else freed)

/-- Takes nodes without incoming edges off the graph, in the order in which they become free. -/
def peel (next : α → List α) : Nat → List α → List (α × Nat) → List α
  | 0, _, _ => []
  | _, [], _ => []
  | fuel + 1, node :: queue, counts =>
    let (counts, freed) := (next node).foldl release (counts, [])
    node :: peel next fuel (queue ++ freed) counts

/-- An order of all nodes in which every edge points forward. -/
def topologicalOrder (next : α → List α) (incoming : α → Nat) (nodes : List α) :
    Option (List α) :=
  let order := peel next nodes.length (nodes.filter (incoming · == 0))
    (nodes.map fun n => (n, incoming n))
  if order.length == nodes.length then some order else none

end EtlSurvey.Graph
