import EtlSurvey.Survey.Executables
import Mathlib.Data.List.Nodup

/-! # What the outline of a package holds

The outline of a package says which elements are executables, under which id, and inside which
others. One relation says what the walk over the containers does at each element; what is known of
the outline follows from it by induction. Ids are distinct, since each one is checked against those
before it, and the nodes come in pre-order, each with the executables around it. -/

namespace EtlSurvey
open Text Markup

/-- An executable of the outline. -/
structure OutlineNode extends NamedExecutable where
  /-- Ids of the executables around it, nearest first, and whether their kinds are supported. -/
  around : List (String × Bool)
  deriving DecidableEq, Repr

inductive OutlineStep where
  | note (c : Cause)
  | node (n : OutlineNode)
  deriving DecidableEq, Repr

/-- Outlines sibling elements in order. With `listed` they are the content of a list of
executables, else that of an executable, in which lists are looked for. `seen` holds the ids so
far, which are returned with those that come in addition. -/
def outline (listed : Bool) (seen : List String) (containerId : String)
    (around : List (String × Bool)) : Forest → List OutlineStep × List String
  | .nil => ([], seen)
  | .tree head inner next =>
    let e : Element := ⟨head, inner⟩
    if listed then
      if !e.isExecutable then outline true seen containerId around next
      else match e.attrText? "ObjectName" with
        | none =>
          let (after, seen) := outline true seen containerId around next
          (.note (.namelessExecutable containerId) :: after, seen)
        | some name =>
          let id := (e.attrText? "refId").getD (containerId ++ "\\" ++ name)
          if seen.contains id then
            let (after, seen) := outline true seen containerId around next
            (.note (.repeatedExecutable id) :: after, seen)
          else
            let n : OutlineNode := {
              id, name, typeName := (e.attr? "ExecutableType").getD "", element := e, around }
            let (below, seen) :=
              outline false (id :: seen) id ((id, n.kind.isSupported) :: around) inner
            let (after, seen) := outline true seen containerId around next
            (.node n :: below ++ after, seen)
    else if e.isNamed Space.dts "Executables" then
      let (below, seen) := outline true seen containerId around inner
      let (after, seen) := outline false seen containerId around next
      (below ++ after, seen)
    else outline false seen containerId around next

def outlineOf (root : Element) : List OutlineStep :=
  (outline false [] ((root.attrText? "refId").getD packageScope) [] root.inner).1

def outlineNodes (steps : List OutlineStep) : List OutlineNode :=
  steps.filterMap fun | .node n => some n | .note _ => none

@[simp] theorem outlineNodes_node (n : OutlineNode) (steps : List OutlineStep) :
    outlineNodes (.node n :: steps) = n :: outlineNodes steps := rfl

@[simp] theorem outlineNodes_append (steps others : List OutlineStep) :
    outlineNodes (steps ++ others) = outlineNodes steps ++ outlineNodes others :=
  List.filterMap_append

/-- Where the walk is: the container, the executables around, and all elements above. -/
structure Position where
  containerId : String
  around : List (String × Bool)
  above : List Element

namespace Position

/-- Inside an element that lists executables. -/
def inList (p : Position) (e : Element) : Position := { p with above := e :: p.above }

/-- The node of an executable with a name. -/
def node (p : Position) (e : Element) (name : String) : OutlineNode where
  id := (e.attrText? "refId").getD (p.containerId ++ "\\" ++ name)
  name := name
  typeName := (e.attr? "ExecutableType").getD ""
  element := e
  around := p.around

/-- Inside the executable of a node. -/
def inNode (p : Position) (n : OutlineNode) : Position where
  containerId := n.id
  around := (n.id, n.kind.isSupported) :: p.around
  above := n.element :: p.above

end Position

/-- What a walk over sibling elements notes and which ids it has seen in the end. Where
executables are listed the other elements are passed by, and outside of lists everything else is. -/
inductive Walks : Position → Bool → List String → Forest → List OutlineStep → List String → Prop
  | done {p listed seen} : Walks p listed seen .nil [] seen
  | pass {p listed seen head inner next after seen'}
      (hexecutable : listed = true → Element.isExecutable ⟨head, inner⟩ = false)
      (hlist : listed = false → Element.isNamed Space.dts "Executables" ⟨head, inner⟩ = false)
      (hnext : Walks p listed seen next after seen') :
      Walks p listed seen (.tree head inner next) after seen'
  | nameless {p seen head inner next after seen'}
      (hexecutable : Element.isExecutable ⟨head, inner⟩ = true)
      (hname : Element.attrText? ⟨head, inner⟩ "ObjectName" = none)
      (hnext : Walks p true seen next after seen') :
      Walks p true seen (.tree head inner next)
        (.note (.namelessExecutable p.containerId) :: after) seen'
  | repeated {p seen head inner next after seen' name}
      (hexecutable : Element.isExecutable ⟨head, inner⟩ = true)
      (hname : Element.attrText? ⟨head, inner⟩ "ObjectName" = some name)
      (hold : (p.node ⟨head, inner⟩ name).id ∈ seen)
      (hnext : Walks p true seen next after seen') :
      Walks p true seen (.tree head inner next)
        (.note (.repeatedExecutable (p.node ⟨head, inner⟩ name).id) :: after) seen'
  | visited {p seen head inner next below seen₁ after seen₂ name}
      (hexecutable : Element.isExecutable ⟨head, inner⟩ = true)
      (hname : Element.attrText? ⟨head, inner⟩ "ObjectName" = some name)
      (hnew : (p.node ⟨head, inner⟩ name).id ∉ seen)
      (hbelow : Walks (p.inNode (p.node ⟨head, inner⟩ name)) false
        ((p.node ⟨head, inner⟩ name).id :: seen) inner below seen₁)
      (hnext : Walks p true seen₁ next after seen₂) :
      Walks p true seen (.tree head inner next)
        (.node (p.node ⟨head, inner⟩ name) :: (below ++ after)) seen₂
  | list {p seen head inner next below seen₁ after seen₂}
      (hlist : Element.isNamed Space.dts "Executables" ⟨head, inner⟩ = true)
      (hbelow : Walks (p.inList ⟨head, inner⟩) true seen inner below seen₁)
      (hnext : Walks p false seen₁ next after seen₂) :
      Walks p false seen (.tree head inner next) (below ++ after) seen₂

theorem walks_outline (listed : Bool) (seen : List String) (containerId : String)
    (around : List (String × Bool)) (above : List Element) (f : Forest) :
    Walks ⟨containerId, around, above⟩ listed seen f (outline listed seen containerId around f).1
      (outline listed seen containerId around f).2 := by
  fun_induction outline listed seen containerId around f generalizing above with
  | case1 => exact .done
  | case2 seen containerId around head inner next e hother ih =>
    exact .pass (fun _ => by simpa using hother) (by simp) (ih above)
  | case3 seen containerId around head inner next e hexecutable hname after seen' hafter ih =>
    rw [hafter] at ih
    exact .nameless (by simpa using hexecutable) hname (ih above)
  | case4 seen containerId around head inner next e hexecutable name hname id hold after seen'
      hafter ih =>
    rw [hafter] at ih
    exact .repeated (by simpa using hexecutable) hname (List.contains_iff_mem.mp hold) (ih above)
  | case5 seen containerId around head inner next e hexecutable name hname id hnew n below seen₁
      hbelow after seen₂ hafter ihBelow ihAfter =>
    rw [hbelow] at ihBelow
    rw [hafter] at ihAfter
    refine .visited (by simpa using hexecutable) hname ?_ (ihBelow (e :: above)) (ihAfter above)
    exact fun hold => hnew (List.contains_iff_mem.mpr hold)
  | case6 listed seen containerId around head inner next e hunlisted hlist below seen₁ hbelow after
      seen₂ hafter ihBelow ihAfter =>
    obtain rfl : listed = false := by simpa using hunlisted
    rw [hbelow] at ihBelow
    rw [hafter] at ihAfter
    exact .list hlist (ihBelow (e :: above)) (ihAfter above)
  | case7 listed seen containerId around head inner next e hunlisted hother ih =>
    obtain rfl : listed = false := by simpa using hunlisted
    exact .pass (by simp) (fun _ => by simpa using hother) (ih above)

/-- Where the walk over a package begins. -/
def Position.ofRoot (root : Element) : Position where
  containerId := (root.attrText? "refId").getD packageScope
  around := []
  above := [root]

theorem walks_outlineOf (root : Element) :
    ∃ seen, Walks (.ofRoot root) false [] root.inner (outlineOf root) seen :=
  ⟨_, walks_outline ..⟩

section Ids

variable {p : Position} {listed : Bool} {seen seen' : List String} {f : Forest}
  {steps : List OutlineStep}

theorem Walks.seen_eq (h : Walks p listed seen f steps seen') :
    seen' = ((outlineNodes steps).map (·.id)).reverse ++ seen := by
  induction h with
  | done => rfl
  | pass _ _ _ ih => exact ih
  | nameless _ _ _ ih => exact ih
  | repeated _ _ _ _ ih => exact ih
  | visited _ _ _ _ _ ihBelow ihNext => simp [ihNext, ihBelow]
  | list _ _ _ ihBelow ihNext => simp [ihNext, ihBelow]

theorem Walks.seen_nodup (h : Walks p listed seen f steps seen') (hseen : seen.Nodup) :
    seen'.Nodup := by
  induction h with
  | done => exact hseen
  | pass _ _ _ ih => exact ih hseen
  | nameless _ _ _ ih => exact ih hseen
  | repeated _ _ _ _ ih => exact ih hseen
  | visited _ _ hnew _ _ ihBelow ihNext =>
    exact ihNext (ihBelow (List.nodup_cons.mpr ⟨hnew, hseen⟩))
  | list _ _ _ ihBelow ihNext => exact ihNext (ihBelow hseen)

end Ids

theorem nodup_outline_ids (root : Element) :
    ((outlineNodes (outlineOf root)).map (·.id)).Nodup := by
  obtain ⟨seen, h⟩ := walks_outlineOf root
  have hseen := h.seen_nodup List.nodup_nil
  rw [h.seen_eq, List.append_nil] at hseen
  exact List.nodup_reverse.mp hseen

/-- Nodes in pre-order: after each one come those inside it, and each has the same executables
around it as its siblings have. -/
inductive Nested : List (String × Bool) → List OutlineNode → Prop
  | nil {around} : Nested around []
  | node {around n below after} (haround : n.around = around)
      (hbelow : Nested ((n.id, n.kind.isSupported) :: around) below)
      (hafter : Nested around after) :
      Nested around (n :: (below ++ after))

theorem Nested.append {around : List (String × Bool)} {nodes others : List OutlineNode}
    (h : Nested around nodes) (hothers : Nested around others) :
    Nested around (nodes ++ others) := by
  induction h with
  | nil => exact hothers
  | node haround hbelow _ _ ih =>
    rw [List.cons_append, List.append_assoc]
    exact .node haround hbelow (ih hothers)

theorem Walks.nested {p : Position} {listed : Bool} {seen seen' : List String} {f : Forest}
    {steps : List OutlineStep} (h : Walks p listed seen f steps seen') :
    Nested p.around (outlineNodes steps) := by
  induction h with
  | done => exact .nil
  | pass _ _ _ ih => exact ih
  | nameless _ _ _ ih => exact ih
  | repeated _ _ _ _ ih => exact ih
  | visited _ _ _ _ _ ihBelow ihNext =>
    rw [outlineNodes_node, outlineNodes_append]
    exact .node rfl ihBelow ihNext
  | list _ _ _ ihBelow ihNext =>
    rw [outlineNodes_append]
    exact ihBelow.append ihNext

theorem nested_outline (root : Element) : Nested [] (outlineNodes (outlineOf root)) := by
  obtain ⟨seen, h⟩ := walks_outlineOf root
  exact h.nested

/-- Around a node is nothing but what is around all, or a node and what is around that one. -/
theorem Nested.around_eq {around : List (String × Bool)} {nodes : List OutlineNode}
    (h : Nested around nodes) {n : OutlineNode} (hn : n ∈ nodes) :
    n.around = around ∨ ∃ m ∈ nodes, n.around = (m.id, m.kind.isSupported) :: m.around := by
  induction h with
  | nil => cases hn
  | @node around m below after haround _ _ ihBelow ihAfter =>
    obtain rfl | hn := List.mem_cons.mp hn
    · exact .inl haround
    obtain hn | hn := List.mem_append.mp hn
    · obtain heq | ⟨k, hk, heq⟩ := ihBelow hn
      · exact .inr ⟨m, List.mem_cons_self, by rw [heq, haround]⟩
      · exact .inr ⟨k, by simp [hk], heq⟩
    · obtain heq | ⟨k, hk, heq⟩ := ihAfter hn
      · exact .inl heq
      · exact .inr ⟨k, by simp [hk], heq⟩

end EtlSurvey
