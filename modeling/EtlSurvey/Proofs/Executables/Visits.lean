import EtlSurvey.Proofs.Executables.Coverage

/-! # Where the executables of an outline stand

An outline keeps the element of each executable, but equal elements may stand in different places.
The walk below keeps the places too. Without them it is the outline, and at each place it gives the
id that the scan for dependencies gives there. -/

namespace EtlSurvey
open Text Markup
open scoped List

/-- An executable of a document with its node in the outline. -/
structure Visit where
  site : Site
  node : OutlineNode
  deriving DecidableEq, Repr

/-- The visits of a walk over sibling elements, and the ids that it has seen in the end. -/
def visitsIn (listed : Bool) (seen : List String) (p : Position) :
    Forest → List Visit × List String
  | .nil => ([], seen)
  | .tree head inner next =>
    let e : Element := ⟨head, inner⟩
    if listed then
      match if e.isExecutable then e.attrText? "ObjectName" else none with
      | none => visitsIn true seen p next
      | some name =>
        let n := p.node e name
        if seen.contains n.id then visitsIn true seen p next
        else
          let (below, seen) := visitsIn false (n.id :: seen) (p.inNode n) inner
          let (after, seen) := visitsIn true seen p next
          (⟨⟨e, p.above⟩, n⟩ :: (below ++ after), seen)
    else if e.isNamed Space.dts "Executables" then
      let (below, seen) := visitsIn true seen (p.inList e) inner
      let (after, seen) := visitsIn false seen p next
      (below ++ after, seen)
    else visitsIn false seen p next

/-- The executables that the walk over a package visits. -/
def visits (root : Element) : List Visit := (visitsIn false [] (.ofRoot root) root.inner).1

section Equations

variable {p : Position} {seen : List String} {head : Head} {inner next : Forest} {name : String}

theorem visitsIn_pass {listed : Bool}
    (hexecutable : listed = true → Element.isExecutable ⟨head, inner⟩ = false)
    (hlist : listed = false → Element.isNamed Space.dts "Executables" ⟨head, inner⟩ = false) :
    visitsIn listed seen p (.tree head inner next) = visitsIn listed seen p next := by
  rw [visitsIn]
  cases listed with
  | true => simp only [if_true, hexecutable rfl, Bool.false_eq_true, if_false]
  | false => simp only [hlist rfl, Bool.false_eq_true, if_false]

theorem visitsIn_nameless (hexecutable : Element.isExecutable ⟨head, inner⟩ = true)
    (hname : Element.attrText? ⟨head, inner⟩ "ObjectName" = none) :
    visitsIn true seen p (.tree head inner next) = visitsIn true seen p next := by
  rw [visitsIn]
  simp only [if_true, hexecutable, hname]

theorem visitsIn_repeated (hexecutable : Element.isExecutable ⟨head, inner⟩ = true)
    (hname : Element.attrText? ⟨head, inner⟩ "ObjectName" = some name)
    (hold : (p.node ⟨head, inner⟩ name).id ∈ seen) :
    visitsIn true seen p (.tree head inner next) = visitsIn true seen p next := by
  rw [visitsIn]
  simp only [if_true, hexecutable, hname, List.contains_iff_mem.mpr hold]

theorem visitsIn_visited (hexecutable : Element.isExecutable ⟨head, inner⟩ = true)
    (hname : Element.attrText? ⟨head, inner⟩ "ObjectName" = some name)
    (hnew : (p.node ⟨head, inner⟩ name).id ∉ seen) :
    visitsIn true seen p (.tree head inner next) =
      let n := p.node ⟨head, inner⟩ name
      let below := visitsIn false (n.id :: seen) (p.inNode n) inner
      let after := visitsIn true below.2 p next
      (⟨⟨⟨head, inner⟩, p.above⟩, n⟩ :: (below.1 ++ after.1), after.2) := by
  have hfresh : seen.contains (p.node ⟨head, inner⟩ name).id = false :=
    (List.contains_eq_mem _ _).trans (decide_eq_false hnew)
  rw [visitsIn]
  simp only [if_true, hexecutable, hname, hfresh, Bool.false_eq_true, if_false]

theorem visitsIn_list (hlist : Element.isNamed Space.dts "Executables" ⟨head, inner⟩ = true) :
    visitsIn false seen p (.tree head inner next) =
      let below := visitsIn true seen (p.inList ⟨head, inner⟩) inner
      let after := visitsIn false below.2 p next
      (below.1 ++ after.1, after.2) := by
  rw [visitsIn]
  simp only [hlist, Bool.false_eq_true, if_true, if_false]

end Equations

/-- Walks see the same ids and visit the nodes that they note. -/
theorem Walks.visitsIn_eq {p : Position} {listed : Bool} {seen seen' : List String} {f : Forest}
    {steps : List OutlineStep} (h : Walks p listed seen f steps seen') :
    (visitsIn listed seen p f).1.map (·.node) = outlineNodes steps ∧
      (visitsIn listed seen p f).2 = seen' := by
  induction h with
  | done => exact ⟨rfl, rfl⟩
  | pass hexecutable hlist _ ih =>
    rw [visitsIn_pass hexecutable hlist]
    exact ih
  | nameless hexecutable hname _ ih =>
    rw [visitsIn_nameless hexecutable hname]
    exact ih
  | repeated hexecutable hname hold _ ih =>
    rw [visitsIn_repeated hexecutable hname hold]
    exact ih
  | visited hexecutable hname hnew _ _ ihBelow ihNext =>
    rw [visitsIn_visited hexecutable hname hnew]
    simp only [ihBelow.2, List.map_cons, List.map_append, ihBelow.1, ihNext.1, ihNext.2,
      outlineNodes_node, outlineNodes_append, and_self]
  | list hlist _ _ ihBelow ihNext =>
    rw [visitsIn_list hlist]
    simp only [ihBelow.2, List.map_append, ihBelow.1, ihNext.1, ihNext.2, outlineNodes_append,
      and_self]

theorem map_node_visits (root : Element) :
    (visits root).map (·.node) = outlineNodes (outlineOf root) := by
  obtain ⟨seen, hwalk⟩ := walks_outlineOf root
  exact hwalk.visitsIn_eq.1

/-- A visit is one of an executable, whose node has its element and name. Its id is the one that
it is given, or its name inside the executable around it. -/
structure Visit.Right (v : Visit) : Prop where
  executable : v.site.element.isExecutable = true
  element : v.node.element = v.site.element
  name : v.site.element.attrText? "ObjectName" = some v.node.name
  typeName : v.node.typeName = (v.site.element.attr? "ExecutableType").getD ""
  nested : v.site.above ≠ []
  id : ∃ container, nearestExecutableId? v.site.above = some container ∧
    v.node.id = (v.site.element.attrText? "refId").getD (container ++ "\\" ++ v.node.name)

theorem Visit.Right.id_eq_executableId {v : Visit} (h : v.Right) :
    v.node.id = executableId v.site := by
  obtain ⟨container, hcontainer, hid⟩ := h.id
  rw [hid, executableId, nearestExecutableId?, h.executable, hcontainer, h.name]
  rfl

theorem Walks.visitsIn_right {p : Position} {listed : Bool} {seen seen' : List String} {f : Forest}
    {steps : List OutlineStep} (h : Walks p listed seen f steps seen') (hp : p.OnWay listed) :
    ∀ v ∈ (visitsIn listed seen p f).1, v.Right := by
  induction h with
  | done => exact List.forall_mem_nil _
  | pass hexecutable hlist _ ih =>
    rw [visitsIn_pass hexecutable hlist]
    exact ih hp
  | nameless hexecutable hname _ ih =>
    rw [visitsIn_nameless hexecutable hname]
    exact ih hp
  | repeated hexecutable hname hold _ ih =>
    rw [visitsIn_repeated hexecutable hname hold]
    exact ih hp
  | @visited p seen head inner next below seen₁ after seen₂ name hexecutable hname hnew hbelow _
      ihBelow ihNext =>
    rw [visitsIn_visited hexecutable hname hnew]
    simp only [hbelow.visitsIn_eq.2, List.forall_mem_cons, List.forall_mem_append]
    refine ⟨⟨hexecutable, rfl, hname, rfl, hp.nonempty, p.containerId, hp.id, rfl⟩, ?_, ?_⟩
    · exact ihBelow (hp.inNode hexecutable hname)
    · exact ihNext hp
  | list hlist hbelow _ ihBelow ihNext =>
    rw [visitsIn_list hlist]
    simp only [hbelow.visitsIn_eq.2, List.forall_mem_append]
    exact ⟨ihBelow (hp.inList hlist), ihNext hp⟩

/-- Visits are made in the order of the document, each element at most once. -/
theorem Walks.visitsIn_sites {p : Position} {listed : Bool} {seen seen' : List String} {f : Forest}
    {steps : List OutlineStep} (h : Walks p listed seen f steps seen') :
    (visitsIn listed seen p f).1.map (·.site) <+ f.sites p.above := by
  induction h with
  | done => exact List.Sublist.slnil
  | pass hexecutable hlist _ ih =>
    rw [visitsIn_pass hexecutable hlist]
    exact (ih.trans (List.sublist_append_right ..)).cons _
  | nameless hexecutable hname _ ih =>
    rw [visitsIn_nameless hexecutable hname]
    exact (ih.trans (List.sublist_append_right ..)).cons _
  | repeated hexecutable hname hold _ ih =>
    rw [visitsIn_repeated hexecutable hname hold]
    exact (ih.trans (List.sublist_append_right ..)).cons _
  | visited hexecutable hname hnew hbelow _ ihBelow ihNext =>
    rw [visitsIn_visited hexecutable hname hnew]
    simp only [hbelow.visitsIn_eq.2, List.map_cons, List.map_append]
    exact (ihBelow.append ihNext).cons_cons _
  | list hlist hbelow _ ihBelow ihNext =>
    rw [visitsIn_list hlist]
    simp only [hbelow.visitsIn_eq.2, List.map_append]
    exact (ihBelow.append ihNext).cons _

section Package

variable {root : Element}

theorem visits_right (hroot : root.isExecutable = true) : ∀ v ∈ visits root, v.Right := by
  obtain ⟨seen, hwalk⟩ := walks_outlineOf root
  exact hwalk.visitsIn_right (Position.onWay_ofRoot hroot)

theorem visits_sites (root : Element) : (visits root).map (·.site) <+ root.sites := by
  obtain ⟨seen, hwalk⟩ := walks_outlineOf root
  exact hwalk.visitsIn_sites

/-- Visits with one id are the same. -/
theorem eq_of_visit_id_eq {v w : Visit} (hv : v ∈ visits root) (hw : w ∈ visits root)
    (hid : v.node.id = w.node.id) : v = w := by
  have hids : ((visits root).map fun v => v.node.id).Nodup := by
    have hnodup := nodup_outline_ids root
    rwa [← map_node_visits, List.map_map] at hnodup
  exact List.inj_on_of_nodup_map hids hv hw hid

end Package

end EtlSurvey
