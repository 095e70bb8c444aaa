import EtlSurvey.Proofs.Executables.Walk
import EtlSurvey.Proofs.Survey.Masked
import Mathlib.Data.List.Basic
import Mathlib.Data.Option.Basic
import Mathlib.Tactic.Simps.Basic

/-! # Surveys without the names of declarations

Each reader gives the same for a document in which the names of declarations that it does not look
for are left out, and where it gives elements, it gives the same ones without those names. -/

namespace EtlSurvey
open Text Markup

/-! ## The package as a whole -/

@[simp] theorem owningScope_masked (s : Site) : owningScope s.masked = owningScope s := by
  have hrest : s.masked.above.dropWhile (!·.isExecutable) =
      (s.above.dropWhile (!·.isExecutable)).map Element.masked := by
    rw [Site.masked, List.dropWhile_map]
    rfl
  rw [owningScope, owningScope, hrest]
  generalize s.above.dropWhile (!·.isExecutable) = around
  match around with
  | [] => rfl
  | [_] => rfl
  | owner :: _ :: _ => simp [lookedUp]

@[simp] theorem versionOf_masked (root : Element) : versionOf root.masked = versionOf root := by
  simp [versionOf, lookedUp]

@[simp] theorem readMetadata_masked (root : Element) (fallback : String) :
    readMetadata root.masked fallback = readMetadata root fallback := by
  simp [readMetadata, lookedUp, Option.bind_map, Function.comp_def]

/-! ## Parameters and variables -/

@[simp] theorem parameterElements_masked (root : Element) :
    parameterElements root.masked = (parameterElements root).map Element.masked := by
  simp [parameterElements, List.flatMap_map, List.map_flatMap, List.filter_map, Function.comp_def,
    lookedUp]

@[simp] theorem valueExpression?_masked (e : Element) :
    valueExpression? e.masked = valueExpression? e := by
  simp [valueExpression?, List.find?_map, Function.comp_def, lookedUp, Option.bind_map]

@[simp] theorem parameterValue?_masked (e : Element) :
    parameterValue? e.masked = parameterValue? e := by
  simp [parameterValue?, ← Option.map_or, Option.bind_map, Function.comp_def]

@[simp] theorem readParameter_masked (policy : RedactionPolicy) (name : String) (e : Element) :
    readParameter policy name e.masked = readParameter policy name e := by
  simp [readParameter, lookedUp]

@[simp] theorem readParameters_masked (policy : RedactionPolicy) (root : Element) :
    readParameters policy root.masked = readParameters policy root := by
  simp [readParameters, lookedUp, Function.comp_def]

@[simp] theorem variableExpression?_masked (e : Element) :
    variableExpression? e.masked = variableExpression? e := by
  simp [variableExpression?, lookedUp]

@[simp] theorem readVariable_masked (space name scope : String) (e : Element) :
    readVariable space name scope e.masked = readVariable space name scope e := by
  simp [readVariable, lookedUp, Option.bind_map, Function.comp_def]

@[simp] theorem readVariables_masked (root : Element) :
    readVariables root.masked = readVariables root := by
  simp [readVariables, lookedUp, Function.comp_def]

/-! ## Connections -/

@[simp] theorem innerObject?_masked (e : Element) :
    innerObject? e.masked = (innerObject? e).map Element.masked := by
  simp [innerObject?, Option.bind_map, Option.map_bind]

@[simp] theorem propertyTexts_masked (e : Element) : propertyTexts e.masked = propertyTexts e := by
  simp [propertyTexts, lookedUp, List.filterMap_map, Function.comp_def]

@[simp] theorem partKey_masked (e : Element) : partKey e.masked = partKey e := by
  simp [partKey, lookedUp]

@[simp] theorem isMarkedSensitive_masked (e : Element) :
    isMarkedSensitive e.masked = isMarkedSensitive e := by
  simp [isMarkedSensitive, lookedUp]

@[simp] theorem addPart_masked (p : Properties) (e : Element) :
    addPart p e.masked = addPart p e := by
  simp [addPart]

@[simp] theorem connectionProperties_masked (e : Element) :
    connectionProperties e.masked = connectionProperties e := by
  rw [connectionProperties, connectionProperties, innerObject?_masked, propertyTexts_masked]
  cases innerObject? e with
  | none => rfl
  | some inner => simp [List.foldl_map]

@[simp] theorem markedKeys_masked (e : Element) : markedKeys e.masked = markedKeys e := by
  rw [markedKeys, markedKeys, innerObject?_masked]
  cases innerObject? e with
  | none => rfl
  | some inner => simp [List.filter_map, Function.comp_def]

@[simp] theorem readConnection_masked (policy : RedactionPolicy) (owner : String) (e : Element) :
    readConnection policy owner e.masked = readConnection policy owner e := by
  simp [readConnection, lookedUp]

@[simp] theorem readConnections_masked (policy : RedactionPolicy) (root : Element) :
    readConnections policy root.masked = readConnections policy root := by
  simp [readConnections, List.flatMap_map, List.map_flatMap, Function.comp_def]

/-! ## Pipelines -/

@[simp] theorem ComponentFacts.add_masked (f : ComponentFacts) (s : Site) :
    f.add s.masked = f.add s := by
  obtain ⟨e, above⟩ := s
  cases hname : e.attrText? "name" with
  | none => simp [ComponentFacts.add, hname, lookedUp]
  | some name =>
    cases htext : e.text? with
    | none => simp [ComponentFacts.add, htext]
    | some value =>
      obtain _ | ⟨holder, _ | ⟨owner, rest⟩⟩ := above
      · simp [ComponentFacts.add, Site.masked]
      · simp [ComponentFacts.add, Site.masked]
      · simp [ComponentFacts.add, Site.masked, hname, htext, lookedUp]

@[simp] theorem ComponentFacts.ofElement_masked (e : Element) :
    ComponentFacts.ofElement e.masked = ComponentFacts.ofElement e := by
  simp [ComponentFacts.ofElement, List.filter_map, List.foldl_map, Function.comp_def]

@[simp] theorem connectionRef?_masked (e : Element) :
    connectionRef? e.masked = connectionRef? e := by
  simp [connectionRef?, List.filter_map, List.flatMap_map, ← List.map_flatMap, List.findSome?_map,
    Function.comp_def, lookedUp]

@[simp] theorem readComponent_masked (id classId : String) (kind : ComponentKind) (e : Element) :
    readComponent id classId kind e.masked = readComponent id classId kind e := by
  simp [readComponent, lookedUp]

@[simp] theorem elementId?_masked (e : Element) : elementId? e.masked = elementId? e := by
  simp [elementId?, lookedUp]

@[simp] theorem readComponents_masked (taskId : String) (elements : List Element) :
    readComponents taskId (elements.map Element.masked) = readComponents taskId elements := by
  simp [readComponents, Function.comp_def, lookedUp]

@[simp] theorem FlowPath.ofElement_masked (ids : List String) (id : String) (e : Element) :
    FlowPath.ofElement ids id e.masked = FlowPath.ofElement ids id e := by
  simp [FlowPath.ofElement, lookedUp]

@[simp] theorem readPaths_masked (taskId : String) (ids : List String)
    (producers : List (String × String)) (elements : List Element) :
    readPaths taskId ids producers (elements.map Element.masked) =
      readPaths taskId ids producers elements := by
  induction elements generalizing producers with
  | nil => rfl
  | cons e rest ih => simp [readPaths, ih]

@[simp] theorem pipelineOf?_masked (task : Element) :
    pipelineOf? task.masked = (pipelineOf? task).map Element.masked := by
  simp [pipelineOf?, Option.bind_map, Option.map_bind]

@[simp] theorem componentElements_masked (pipeline : Element) :
    componentElements pipeline.masked = (componentElements pipeline).map Element.masked := by
  simp [componentElements, List.filter_map, List.flatMap_map, ← List.map_flatMap,
    Function.comp_def]

@[simp] theorem readPipeline_masked (taskId : String) (pipeline : Element) :
    readPipeline taskId pipeline.masked = readPipeline taskId pipeline := by
  simp [readPipeline]

/-! ## Executables -/

@[simps] def NamedExecutable.masked (n : NamedExecutable) : NamedExecutable :=
  { n with element := n.element.masked }

@[simp] theorem NamedExecutable.kind_masked (n : NamedExecutable) : n.masked.kind = n.kind := rfl

@[simps toNamedExecutable] def OutlineNode.masked (n : OutlineNode) : OutlineNode where
  toNamedExecutable := n.toNamedExecutable.masked
  around := n.around

@[simp] theorem OutlineNode.parentId?_masked (retain : Bool) (n : OutlineNode) :
    n.masked.parentId? retain = n.parentId? retain := rfl

def OutlineStep.masked : OutlineStep → OutlineStep
  | .note c => .note c
  | .node n => .node n.masked

/-- The outline of a list or of a container has the same nodes and takes the same ids. -/
theorem outline_masked (listed : Bool) (seen : List String) (containerId : String)
    (around : List (String × Bool)) (f : Forest) :
    outline listed seen containerId around f.masked =
      Prod.map (List.map OutlineStep.masked) id (outline listed seen containerId around f) := by
  induction f generalizing listed seen containerId around with
  | nil => rfl
  | tree head inner next ihInner ihNext =>
    have hmasked : (⟨head.masked, inner.masked⟩ : Element) = Element.masked ⟨head, inner⟩ := rfl
    rw [Forest.masked, outline, outline, hmasked]
    generalize he : (⟨head, inner⟩ : Element) = e
    cases listed with
    | false =>
      by_cases hlist : e.isNamed Space.dts "Executables" = true
      · simp [hlist, ihInner, ihNext]
      · simp [hlist, ihNext]
    | true =>
      cases hexecutable : e.isExecutable with
      | false => simp [hexecutable, ihNext]
      | true =>
        cases hname : e.attrText? "ObjectName" with
        | none => simp [hexecutable, hname, ihNext, lookedUp, OutlineStep.masked]
        | some name =>
          by_cases hold : (e.attrText? "refId").getD (containerId ++ "\\" ++ name) ∈ seen
          · simp [hexecutable, hname, hold, ihNext, lookedUp, OutlineStep.masked]
          · simp [hexecutable, hname, hold, ihInner, ihNext, lookedUp, OutlineStep.masked,
              OutlineNode.masked, NamedExecutable.masked, NamedExecutable.kind]

@[simp] theorem outlineOf_masked (root : Element) :
    outlineOf root.masked = (outlineOf root).map OutlineStep.masked := by
  have hid : root.masked.attrText? "refId" = root.attrText? "refId" := by simp [lookedUp]
  rw [outlineOf, outlineOf, hid]
  exact congrArg Prod.fst (outline_masked _ _ _ _ root.inner)

@[simp] theorem executePackageTarget?_masked (task : Element) :
    executePackageTarget? task.masked = executePackageTarget? task := by
  simp [executePackageTarget?, List.findSome?_map, List.filter_map, Function.comp_def, lookedUp]

section Drafts

variable (d : Draft) (e : Element)

@[simp] theorem Draft.readSqlTask_masked : d.readSqlTask e.masked = d.readSqlTask e := by
  rw [Draft.readSqlTask, Draft.readSqlTask, Element.descendantsNamed_masked, List.head?_map]
  cases (e.descendantsNamed Space.sqlTask "SqlTaskData").head? with
  | none => rfl
  | some data => simp

@[simp] theorem Draft.readDataFlow_masked : d.readDataFlow e.masked = d.readDataFlow e := by
  rw [Draft.readDataFlow, Draft.readDataFlow, pipelineOf?_masked]
  cases pipelineOf? e with
  | none => rfl
  | some pipeline => simp

@[simp] theorem Draft.addScriptVariables_masked {key : String} (h : lookedUp.contains key = true) :
    d.addScriptVariables e.masked key = d.addScriptVariables e key := by
  rw [Draft.addScriptVariables, Draft.addScriptVariables, Element.attrText?_masked e h]

@[simp] theorem Draft.readScript_masked : d.readScript e.masked = d.readScript e := by
  rw [Draft.readScript, Draft.readScript, Element.descendantsLocal_masked,
    Element.descendantsNamed_masked, List.head?_map, List.head?_map, ← Option.map_or]
  cases (e.descendantsLocal "ScriptProject").head?.or
      (e.descendantsNamed Space.scriptTask "ScriptTaskData").head? with
  | none => rfl
  | some project => simp [lookedUp]

@[simp] theorem Draft.addLoopExpression_masked {key : String} (h : lookedUp.contains key = true) :
    d.addLoopExpression e.masked key = d.addLoopExpression e key := by
  rw [Draft.addLoopExpression, Draft.addLoopExpression, Element.attrText?_masked e h]
  simp [Option.bind_map, Function.comp_def]

@[simp] theorem Draft.readForLoop_masked : d.readForLoop e.masked = d.readForLoop e := by
  simp [Draft.readForLoop, lookedUp]

@[simp] theorem Draft.readForEach_masked : d.readForEach e.masked = d.readForEach e := by
  have hmappings : ((e.masked.childrenNamed Space.dts "ForEachVariableMappings").flatMap
        (·.childrenNamed Space.dts "ForEachVariableMapping")).filterMap
          (·.attrText? "VariableName") =
      ((e.childrenNamed Space.dts "ForEachVariableMappings").flatMap
        (·.childrenNamed Space.dts "ForEachVariableMapping")).filterMap
          (·.attrText? "VariableName") := by
    simp [List.flatMap_map, ← List.map_flatMap, List.filterMap_map, lookedUp]
  rw [Draft.readForEach, Draft.readForEach, Element.child?_masked, hmappings]
  cases e.child? Space.dts "ForEachEnumerator" with
  | none => rfl
  | some enumerator =>
    cases hinner : innerObject? enumerator with
    | none => simp [hinner, lookedUp]
    | some inner => simp [hinner, lookedUp]

@[simp] theorem Draft.readPackageTask_masked :
    d.readPackageTask e.masked = d.readPackageTask e := by
  simp [Draft.readPackageTask, List.findSome?_map, Function.comp_def]

@[simp] theorem Draft.readOther_masked : d.readOther e.masked = d.readOther e := by
  rw [Draft.readOther, Draft.readOther, innerObject?_masked]
  cases innerObject? e with
  | none => rfl
  | some inner => simp

@[simp] theorem Draft.readKind_masked : d.readKind e.masked = d.readKind e := by
  simp [Draft.readKind]

end Drafts

@[simp] theorem Draft.ofNamed_masked (parentId : Option String) (n : NamedExecutable) :
    Draft.ofNamed parentId n.masked = Draft.ofNamed parentId n := by
  simp [Draft.ofNamed, List.filterMap_map, Function.comp_def, lookedUp]

@[simp] theorem readNode_masked (policy : RedactionPolicy) (retain : Bool) (n : OutlineNode) :
    readNode policy retain n.masked = readNode policy retain n := by
  simp [readNode, readExecutable]

@[simp] theorem readSteps_masked (policy : RedactionPolicy) (retain : Bool)
    (steps : List OutlineStep) :
    readSteps policy retain (steps.map OutlineStep.masked) = readSteps policy retain steps := by
  induction steps with
  | nil => rfl
  | cons step rest ih =>
    cases step with
    | note c => simp [OutlineStep.masked, readSteps, ih]
    | node n => simp [OutlineStep.masked, readSteps, ih]

@[simp] theorem outlineNodes_masked (steps : List OutlineStep) :
    outlineNodes (steps.map OutlineStep.masked) = (outlineNodes steps).map OutlineNode.masked := by
  induction steps with
  | nil => rfl
  | cons step rest ih => cases step <;> simp_all [outlineNodes, OutlineStep.masked]

@[simp] theorem readExecutables_masked (policy : RedactionPolicy) (retain : Bool) (root : Element) :
    readExecutables policy retain root.masked = readExecutables policy retain root := by
  simp [readExecutables_eq_readSteps, List.filter_map, Function.comp_def]

/-! ## Constraints and expressions -/

@[simp] theorem constraintExpression?_masked (c : Element) :
    constraintExpression? c.masked = constraintExpression? c := by
  simp [constraintExpression?, List.find?_map, List.findSome?_map, Option.bind_map,
    Function.comp_def, lookedUp]

@[simp] theorem readConstraint_masked (c : Element) :
    readConstraint c.masked = readConstraint c := by
  simp [readConstraint, conditionOf, lookedUp]

@[simp] theorem readConstraints_masked (root : Element) :
    readConstraints root.masked = readConstraints root := by
  simp [readConstraints, Function.comp_def]

@[simp] theorem expressionSites_masked (root : Element) :
    expressionSites root.masked = expressionSites root := by
  simp [expressionSites, propertyExpression?, statementExpression?, List.filterMap_map, lookedUp]

@[simp] theorem readExpressions_masked (policy : RedactionPolicy) (root : Element) :
    readExpressions policy root.masked = readExpressions policy root := by
  simp [readExpressions]

/-- A package is read without the names of declarations that nobody looks for. -/
@[simp] theorem readPackage_masked (policy : RedactionPolicy) (retain : Bool) (metadata : Metadata)
    (root : Element) :
    readPackage policy retain metadata root.masked = readPackage policy retain metadata root := by
  simp [readPackage]

end EtlSurvey
