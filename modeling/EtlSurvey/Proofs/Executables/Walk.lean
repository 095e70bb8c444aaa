import EtlSurvey.Proofs.Executables.Outline

/-! # The walk over the containers reads their outline

The walk reads each executable when it visits it, hands the parent down, and counts as it goes. The
outline does none of this: its nodes are read afterwards, one after another, and each finds its
parent among the executables around it. Both come to the same list, the same counters and the same
remarks. -/

namespace EtlSurvey
open Text Markup

/-- Nearest executable that is in the list: any, or the nearest supported one if the others are
left out. -/
def nearestKept? (retain : Bool) (around : List (String × Bool)) : Option String :=
  (around.find? fun (_, supported) => retain || supported).map (·.1)

/-- Parent of a node in the list. -/
def OutlineNode.parentId? (retain : Bool) (n : OutlineNode) : Option String :=
  nearestKept? retain n.around

/-- Reads a node, or reports that its kind is unknown and leaves it out unless such ones are
retained. -/
def readNode (policy : RedactionPolicy) (retain : Bool) (n : OutlineNode) :
    Noted (List Executable) := do
  if !n.kind.isSupported then
    found (.unsupportedExecutable n.typeName n.name n.id)
    Noted.remark (.unsupported n.typeName)
    if !retain then return []
  let e ← readExecutable policy (n.parentId? retain) n.toNamedExecutable
  return [e]

def readSteps (policy : RedactionPolicy) (retain : Bool) :
    List OutlineStep → Noted (List Executable)
  | [] => pure []
  | .note c :: rest => do
    found c
    readSteps policy retain rest
  | .node n :: rest => do
    let here ← readNode policy retain n
    let others ← readSteps policy retain rest
    return here ++ others

section Steps

variable (policy : RedactionPolicy) (retain : Bool)

theorem readSteps_append (steps others : List OutlineStep) :
    readSteps policy retain (steps ++ others) = do
      let executables ← readSteps policy retain steps
      let after ← readSteps policy retain others
      return executables ++ after := by
  induction steps with
  | nil => simp [readSteps]
  | cons step rest ih =>
    cases step with
    | note c => simp only [List.cons_append, readSteps, ih, bind_assoc]
    | node n =>
      simp only [List.cons_append, readSteps, ih, bind_assoc, pure_bind, List.append_assoc]

end Steps

namespace Walker

variable (policy : RedactionPolicy) (retain : Bool)

/-- The walker after steps of an outline: their executables are added to the list, and their nodes
are counted. -/
def follow (w : Walker) (steps : List OutlineStep) (seen : List String) : Noted Walker := do
  let executables ← readSteps policy retain steps
  let nodes := outlineNodes steps
  return {
    executables := w.executables ++ executables
    total := w.total + nodes.length
    supported := w.supported + (nodes.filter (·.kind.isSupported)).length
    seen }

theorem follow_nil (w : Walker) : w.follow policy retain [] w.seen = pure w := by
  simp [follow, readSteps, outlineNodes]

/-- Further steps begin with what the outline has seen after those before them. -/
theorem follow_append {x : Noted Walker} {w : Walker} {next : Walker → Noted Walker}
    {steps others : List OutlineStep} {seen after : List String}
    (hx : x = w.follow policy retain steps seen)
    (hnext : ∀ w : Walker, w.seen = seen → next w = w.follow policy retain others after) :
    x >>= next = w.follow policy retain (steps ++ others) after := by
  subst hx
  simp only [follow, readSteps_append, bind_assoc, pure_bind, hnext, outlineNodes_append,
    List.append_assoc, List.length_append, List.filter_append, Nat.add_assoc]

theorem follow_note (w : Walker) (c : Cause) (steps : List OutlineStep) (seen : List String) :
    w.follow policy retain (.note c :: steps) seen =
      (do found c; w.follow policy retain steps seen) := by
  simp only [follow, readSteps, bind_assoc, outlineNodes, List.filterMap_cons]

/-- The walker with a node that has been read: the node is counted, whether it is kept or not. -/
def count (w : Walker) (n : OutlineNode) (here : List Executable) : Walker where
  executables := w.executables ++ here
  total := w.total + 1
  supported := w.supported + if n.kind.isSupported then 1 else 0
  seen := n.id :: w.seen

theorem follow_node (w : Walker) (n : OutlineNode) (steps : List OutlineStep)
    (seen : List String) : w.follow policy retain (.node n :: steps) seen = (do
      let here ← readNode policy retain n
      (w.count n here).follow policy retain steps seen) := by
  have hsupported : ((n :: outlineNodes steps).filter (·.kind.isSupported)).length =
      (if n.kind.isSupported then 1 else 0) +
        ((outlineNodes steps).filter (·.kind.isSupported)).length := by
    rw [List.filter_cons]
    split <;> simp [Nat.add_comm]
  simp only [follow, readSteps, bind_assoc, pure_bind, outlineNodes_node, hsupported, count,
    List.append_assoc, List.length_cons, Nat.add_assoc, Nat.add_comm 1]

variable (walkInside : String → Option String → Walker → Noted Walker)

/-- What is inside a node goes to the nearest executable that is kept: the node itself, or the one
that its own parent is. -/
theorem enter_node (w : Walker) (n : OutlineNode) :
    w.enter policy retain walkInside (n.parentId? retain) n.toNamedExecutable = (do
      let here ← readNode policy retain n
      walkInside n.id (nearestKept? retain ((n.id, n.kind.isSupported) :: n.around))
        (w.count n here)) := by
  rw [enter, readNode, nearestKept?, List.find?_cons]
  cases hkind : n.kind.isSupported <;> cases retain <;>
    simp [count, hkind, OutlineNode.parentId?, nearestKept?]

section Visit

variable {walkInside} {p : Position} {w : Walker} {e : Element} {name : String}

theorem visit_repeated (hname : e.attrText? "ObjectName" = some name)
    (hold : (p.node e name).id ∈ w.seen) (parentId : Option String) :
    w.visit policy retain walkInside p.containerId parentId e =
      (do found (.repeatedExecutable (p.node e name).id); return w) := by
  have hcontains : w.seen.contains ((e.attrText? "refId").getD (p.containerId ++ "\\" ++ name)) :=
    List.contains_iff_mem.mpr hold
  simp only [visit, hname, hcontains, if_true, Position.node]

theorem visit_node (hname : e.attrText? "ObjectName" = some name)
    (hnew : (p.node e name).id ∉ w.seen) (parentId : Option String) :
    w.visit policy retain walkInside p.containerId parentId e =
      w.enter policy retain walkInside parentId (p.node e name).toNamedExecutable := by
  have hcontains : w.seen.contains ((e.attrText? "refId").getD (p.containerId ++ "\\" ++ name)) =
      false := Bool.eq_false_iff.mpr fun h => hnew (List.contains_iff_mem.mp h)
  simp only [visit, hname, hcontains, Bool.false_eq_true, if_false, Position.node]

end Visit

end Walker

/-- Where executables are listed the walk goes through a list, and elsewhere it looks for one. -/
def walkSiblings (policy : RedactionPolicy) (retain : Bool) :
    (listed : Bool) → (containerId : String) → (parentId : Option String) → Walker → Forest →
      Noted Walker
  | true => walkList policy retain
  | false => walkContainer policy retain

theorem Walks.walkSiblings_eq (policy : RedactionPolicy) (retain : Bool) {p : Position}
    {listed : Bool} {seen seen' : List String} {f : Forest} {steps : List OutlineStep}
    (h : Walks p listed seen f steps seen') {w : Walker} (hw : w.seen = seen) :
    walkSiblings policy retain listed p.containerId (nearestKept? retain p.around) w f =
      w.follow policy retain steps seen' := by
  induction h generalizing w with
  | @done p listed seen =>
    subst hw
    rw [Walker.follow_nil]
    cases listed <;> rfl
  | @pass p listed seen head inner next after seen' hexecutable hlist _ ih =>
    rw [← ih hw]
    cases listed with
    | true => simp only [walkSiblings, walkList, hexecutable rfl, Bool.false_eq_true, if_false,
        pure_bind]
    | false => simp only [walkSiblings, walkContainer, hlist rfl, Bool.false_eq_true, if_false,
        pure_bind]
  | nameless hexecutable hname _ ih =>
    rw [Walker.follow_note, ← ih hw]
    simp only [walkSiblings, walkList, hexecutable, if_true, Walker.visit, hname, bind_assoc,
      pure_bind]
  | @repeated p seen head inner next after seen' name hexecutable hname hold _ ih =>
    subst hw
    rw [Walker.follow_note, ← ih rfl]
    simp only [walkSiblings, walkList, hexecutable, if_true,
      Walker.visit_repeated policy retain hname hold, bind_assoc, pure_bind]
  | @visited p seen head inner next below seen₁ after seen₂ name hexecutable hname hnew _ _ ihBelow
      ihNext =>
    subst hw
    have hparent : nearestKept? retain p.around =
        (p.node ⟨head, inner⟩ name).parentId? retain := rfl
    rw [hparent, Walker.follow_node]
    simp only [walkSiblings, walkList, hexecutable, if_true,
      Walker.visit_node policy retain hname hnew, Walker.enter_node, bind_assoc]
    refine bind_congr fun here => ?_
    exact Walker.follow_append policy retain (ihBelow (w := w.count _ here) rfl) fun w hw =>
      ihNext hw
  | @list p seen head inner next below seen₁ after seen₂ hlist _ _ ihBelow ihNext =>
    simp only [walkSiblings, walkContainer, hlist, if_true]
    exact Walker.follow_append policy retain (ihBelow hw) fun w hw => ihNext hw

section Package

variable (policy : RedactionPolicy) (retain : Bool) (root : Element)

/-- What the walk makes of a package is what is read of its outline. -/
theorem readExecutables_eq_readSteps : readExecutables policy retain root = (do
      let executables ← readSteps policy retain (outlineOf root)
      return {
        executables
        total := (outlineNodes (outlineOf root)).length
        supported := ((outlineNodes (outlineOf root)).filter (·.kind.isSupported)).length }) := by
  obtain ⟨seen, hwalks⟩ := walks_outlineOf root
  have hwalk : walkContainer policy retain ((root.attrText? "refId").getD packageScope) none {}
      root.inner = Walker.follow policy retain {} (outlineOf root) seen :=
    hwalks.walkSiblings_eq policy retain rfl
  rw [readExecutables, hwalk]
  simp [Walker.follow]

theorem readExecutables_total : (readExecutables policy retain root).value.total =
    (outlineNodes (outlineOf root)).length := by
  rw [readExecutables_eq_readSteps]
  rfl

theorem readExecutables_supported : (readExecutables policy retain root).value.supported =
    ((outlineNodes (outlineOf root)).filter (·.kind.isSupported)).length := by
  rw [readExecutables_eq_readSteps]
  rfl

end Package

end EtlSurvey
