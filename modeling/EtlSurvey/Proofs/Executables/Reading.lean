import EtlSurvey.Proofs.Executables.Walk

/-! # The record of an outline node

Whatever is read for the kind of an executable, its id, kind and name stay those of the node, and
the parent is never looked at: under another parent the same record comes out. So the list of
executables is a map over the nodes that are kept. -/

namespace EtlSurvey
open Text Markup

/-- Drafts of an executable under two parents, which differ in nothing else. -/
structure Draft.Twins (n : NamedExecutable) (parent other : Option String) (d d' : Draft) :
    Prop where
  id : d.executable.id = n.id
  kind : d.executable.kind = n.kind
  name : d.executable.name = n.name
  parentId : d.executable.parentId = parent
  twin : d' = { d with executable.parentId := other }

namespace Draft.Twins

variable {n : NamedExecutable} {parent other : Option String} {d d' : Draft}

theorem insert (h : Twins n parent other d d') (key value : String) :
    Twins n parent other (d.insert key value) (d'.insert key value) := by
  obtain ⟨hid, hkind, hname, hparent, rfl⟩ := h
  exact ⟨hid, hkind, hname, hparent, rfl⟩

theorem insertMissing (h : Twins n parent other d d') (key value : String) :
    Twins n parent other (d.insertMissing key value) (d'.insertMissing key value) := by
  obtain ⟨hid, hkind, hname, hparent, rfl⟩ := h
  exact ⟨hid, hkind, hname, hparent, rfl⟩

theorem insertSome (h : Twins n parent other d d') (key : String) (value : Option String) :
    Twins n parent other (d.insertSome key value) (d'.insertSome key value) := by
  cases value with
  | none => exact h
  | some value => exact h.insert key value

theorem mention (h : Twins n parent other d d') (texts : List String) :
    Twins n parent other (d.mention texts) (d'.mention texts) := by
  obtain ⟨hid, hkind, hname, hparent, rfl⟩ := h
  exact ⟨hid, hkind, hname, hparent, rfl⟩

theorem foldl {step : Draft → α → Draft}
    (hstep : ∀ a {d d'}, Twins n parent other d d' → Twins n parent other (step d a) (step d' a))
    (as : List α) (h : Twins n parent other d d') :
    Twins n parent other (as.foldl step d) (as.foldl step d') := by
  induction as generalizing d d' with
  | nil => exact h
  | cons a rest ih => exact ih (hstep a h)

theorem addStatementAttribute (h : Twins n parent other d d') (key value : String) :
    Twins n parent other (d.addStatementAttribute key value)
      (d'.addStatementAttribute key value) := by
  rw [Draft.addStatementAttribute, Draft.addStatementAttribute]
  split
  · cases trimmed? value with
    | none => exact h
    | some sql =>
      obtain ⟨hid, hkind, hname, hparent, rfl⟩ := h
      exact ⟨hid, hkind, hname, hparent, rfl⟩
  · split
    · obtain ⟨hid, hkind, hname, hparent, rfl⟩ := h
      exact ⟨hid, hkind, hname, hparent, rfl⟩
    · exact h.insertMissing key value

theorem readSqlTask (h : Twins n parent other d d') (e : Element) :
    Twins n parent other (d.readSqlTask e).value (d'.readSqlTask e).value := by
  rw [Draft.readSqlTask, Draft.readSqlTask]
  cases (e.descendantsNamed Space.sqlTask "SqlTaskData").head? with
  | none => exact h
  | some data => exact h.foldl (fun a _ _ h => h.addStatementAttribute a.1 a.2) data.attributes

theorem readDataFlow (h : Twins n parent other d d') (e : Element) :
    Twins n parent other (d.readDataFlow e).value (d'.readDataFlow e).value := by
  rw [Draft.readDataFlow, Draft.readDataFlow]
  cases pipelineOf? e with
  | none => exact h
  | some pipeline =>
    obtain ⟨hid, hkind, hname, hparent, rfl⟩ := h
    exact ⟨hid, hkind, hname, hparent, rfl⟩

theorem addScriptVariables (h : Twins n parent other d d') (project : Element) (key : String) :
    Twins n parent other (d.addScriptVariables project key)
      (d'.addScriptVariables project key) := by
  rw [Draft.addScriptVariables, Draft.addScriptVariables]
  cases project.attrText? key with
  | none => exact h
  | some list => exact (h.insert key list).mention _

theorem readScript (h : Twins n parent other d d') (e : Element) :
    Twins n parent other (d.readScript e) (d'.readScript e) := by
  rw [Draft.readScript, Draft.readScript]
  split
  · exact h
  · next project _ =>
    refine foldl (fun key _ _ h => h.addScriptVariables project key) _ ?_
    exact ((h.insertSome _ _).insertSome _ _).insertSome _ _

theorem addLoopExpression (h : Twins n parent other d d') (e : Element) (key : String) :
    Twins n parent other (d.addLoopExpression e key) (d'.addLoopExpression e key) := by
  rw [Draft.addLoopExpression, Draft.addLoopExpression]
  split
  · exact h
  · exact (h.insert key _).mention _

theorem readForEach (h : Twins n parent other d d') (e : Element) :
    Twins n parent other (d.readForEach e) (d'.readForEach e) := by
  rw [Draft.readForEach, Draft.readForEach]
  refine mention ?_ _
  cases e.child? Space.dts "ForEachEnumerator" with
  | none => exact h
  | some enumerator =>
    have hkind := h.insertSome "EnumeratorType" (enumerator.attrText? "CreationName")
    cases hinner : innerObject? enumerator with
    | none => simpa only [hinner] using hkind
    | some inner =>
      simp only [hinner]
      exact hkind.foldl (fun a _ _ h => h.insert ("Enumerator." ++ a.1) a.2) inner.attributes

theorem readPackageTask (h : Twins n parent other d d') (e : Element) :
    Twins n parent other (d.readPackageTask e) (d'.readPackageTask e) := by
  obtain ⟨hid, hkind, hname, hparent, htwin⟩ :=
    h.insertSome "PackageName" (executePackageTarget? e)
  refine ⟨hid, hkind, hname, hparent, ?_⟩
  rw [Draft.readPackageTask, htwin]
  rfl

theorem readOther (h : Twins n parent other d d') (e : Element) :
    Twins n parent other (d.readOther e) (d'.readOther e) := by
  rw [Draft.readOther, Draft.readOther]
  cases innerObject? e with
  | none => exact h
  | some inner => exact h.foldl (fun a _ _ h => h.insertMissing a.1 a.2) inner.attributes

theorem readKind (h : Twins n parent other d d') (e : Element) :
    Twins n parent other (d.readKind e).value (d'.readKind e).value := by
  have hkind : d'.executable.kind = d.executable.kind := by rw [h.twin]
  rw [Draft.readKind, Draft.readKind, hkind]
  cases d.executable.kind with
  | executeSql => exact h.readSqlTask e
  | dataFlow => exact h.readDataFlow e
  | script => exact h.readScript e
  | forLoop => exact h.foldl (fun key _ _ h => h.addLoopExpression e key) _
  | forEachLoop => exact h.readForEach e
  | executePackage => exact h.readPackageTask e
  | _ => exact h.readOther e

theorem finish (h : Twins n parent other d d') (policy : RedactionPolicy) :
    (d'.finish policy).value = { (d.finish policy).value with parentId := other } := by
  obtain ⟨-, -, -, -, rfl⟩ := h
  rfl

end Draft.Twins

@[simp] theorem Draft.finish_id (policy : RedactionPolicy) (d : Draft) :
    (d.finish policy).value.id = d.executable.id := rfl

@[simp] theorem Draft.finish_kind (policy : RedactionPolicy) (d : Draft) :
    (d.finish policy).value.kind = d.executable.kind := rfl

@[simp] theorem Draft.finish_name (policy : RedactionPolicy) (d : Draft) :
    (d.finish policy).value.name = d.executable.name := rfl

@[simp] theorem Draft.finish_parentId (policy : RedactionPolicy) (d : Draft) :
    (d.finish policy).value.parentId = d.executable.parentId := rfl

theorem Draft.twins_ofNamed (parent other : Option String) (n : NamedExecutable) :
    Twins n parent other (.ofNamed parent n) (.ofNamed other n) := by
  constructor <;> simp only [Draft.ofNamed]

section Record

variable (policy : RedactionPolicy) (parent other : Option String) (n : NamedExecutable)

theorem readExecutable_value : (readExecutable policy parent n).value =
    (((Draft.ofNamed parent n).readKind n.element).value.finish policy).value := by
  rw [readExecutable, Noted.value_bind]

theorem twins_readKind :
    Draft.Twins n parent other ((Draft.ofNamed parent n).readKind n.element).value
      ((Draft.ofNamed other n).readKind n.element).value :=
  (Draft.twins_ofNamed parent other n).readKind n.element

@[simp] theorem readExecutable_id : (readExecutable policy parent n).value.id = n.id := by
  rw [readExecutable_value, Draft.finish_id]
  exact (twins_readKind parent parent n).id

@[simp] theorem readExecutable_kind : (readExecutable policy parent n).value.kind = n.kind := by
  rw [readExecutable_value, Draft.finish_kind]
  exact (twins_readKind parent parent n).kind

@[simp] theorem readExecutable_name : (readExecutable policy parent n).value.name = n.name := by
  rw [readExecutable_value, Draft.finish_name]
  exact (twins_readKind parent parent n).name

@[simp] theorem readExecutable_parentId :
    (readExecutable policy parent n).value.parentId = parent := by
  rw [readExecutable_value, Draft.finish_parentId]
  exact (twins_readKind parent parent n).parentId

/-- The parent decides nothing but itself. -/
theorem readExecutable_reparent : (readExecutable policy other n).value =
    { (readExecutable policy parent n).value with parentId := other } := by
  rw [readExecutable_value, readExecutable_value]
  exact (twins_readKind parent other n).finish policy

end Record

/-- Whether a node has a record of its own. -/
def OutlineNode.isKept (retain : Bool) (n : OutlineNode) : Bool := retain || n.kind.isSupported

theorem OutlineNode.isKept_true (n : OutlineNode) : n.isKept true = true := Bool.true_or _

theorem OutlineNode.isKept_false (n : OutlineNode) : n.isKept false = n.kind.isSupported :=
  Bool.false_or _

/-- The record of a node that is kept. -/
def recordOf (policy : RedactionPolicy) (retain : Bool) (n : OutlineNode) : Executable :=
  (readExecutable policy (n.parentId? retain) n.toNamedExecutable).value

section RecordOf

variable (policy : RedactionPolicy) (retain : Bool) (n : OutlineNode)

@[simp] theorem recordOf_id : (recordOf policy retain n).id = n.id := by
  rw [recordOf, readExecutable_id]

@[simp] theorem recordOf_kind : (recordOf policy retain n).kind = n.kind := by
  rw [recordOf, readExecutable_kind]

@[simp] theorem recordOf_name : (recordOf policy retain n).name = n.name := by
  rw [recordOf, readExecutable_name]

@[simp] theorem recordOf_parentId : (recordOf policy retain n).parentId = n.parentId? retain := by
  rw [recordOf, readExecutable_parentId]

theorem id_comp_recordOf : (·.id) ∘ recordOf policy retain = (·.id) :=
  funext fun n => recordOf_id policy retain n

end RecordOf

theorem readNode_value (policy : RedactionPolicy) (retain : Bool) (n : OutlineNode) :
    (readNode policy retain n).value =
      if n.isKept retain then [recordOf policy retain n] else [] := by
  rw [readNode, OutlineNode.isKept]
  cases n.kind.isSupported <;> cases retain <;> rfl

theorem readSteps_value (policy : RedactionPolicy) (retain : Bool) (steps : List OutlineStep) :
    (readSteps policy retain steps).value =
      ((outlineNodes steps).filter (·.isKept retain)).map (recordOf policy retain) := by
  induction steps with
  | nil => rfl
  | cons step rest ih =>
    cases step with
    | note c => exact ih
    | node n =>
      rw [readSteps, Noted.value_bind, Noted.value_bind, readNode_value, ih, outlineNodes_node,
        List.filter_cons]
      split <;> rfl

/-- The executables of a package are the records of the nodes that are kept. -/
theorem readExecutables_eq (policy : RedactionPolicy) (retain : Bool) (root : Element) :
    (readExecutables policy retain root).value.executables =
      ((outlineNodes (outlineOf root)).filter (·.isKept retain)).map (recordOf policy retain) := by
  rw [readExecutables_eq_readSteps]
  exact readSteps_value policy retain (outlineOf root)

end EtlSurvey
