import EtlSurvey.Survey.Constraints
import EtlSurvey.Survey.Dependencies

/-! # The condition of a dependency and the edges of its package

Two readers look at the constraints of a package. The survey makes edges of them and skips those it
cannot read as one; the scan for dependencies keeps the condition of the first constraint into each
task. On a constraint that gives an edge both read the same condition. So they agree on a task
unless the first constraint into it is one of the skipped. -/

namespace EtlSurvey
open Text Markup

/-- The constraints of a document that lead into a task, in document order. -/
def constraintsInto (root : Element) (taskId : String) : List Element :=
  (root.descendantsNamed Space.dts "PrecedenceConstraint").filter
    (·.attrText? "To" == some taskId)

/-- The condition of the first edge into a task. -/
def edgeCondition? (root : Element) (taskId : String) : Option Condition :=
  ((readConstraints root).value.find? (·.target == taskId)).map (·.condition)

def edge? (c : Element) : Option Edge := (readConstraint c).value

section Edges

theorem eq_ok_of_toOption {result : Except ε α} {a : α} (h : result.toOption = some a) :
    result = .ok a := by
  cases result with
  | error e => cases h
  | ok b => exact congrArg Except.ok (Option.some.inj h)

theorem readConstraints_value (root : Element) :
    (readConstraints root).value =
      (root.descendantsNamed Space.dts "PrecedenceConstraint").filterMap edge? := by
  rw [readConstraints, Noted.value_bind, Noted.value_mapM, Noted.value_pure]
  exact List.filterMap_map

theorem trimmed?_eq_some {s t : String} (ht : t.isEmpty = false) :
    trimmed? s = some t ↔ trim s = t := by
  rw [trimmed?]
  split
  · next hempty =>
    constructor
    · intro h
      cases h
    · intro h
      rw [h, ht] at hempty
      cases hempty
  · exact Option.some_inj

/-- Both readers see in the same constraints that the expression decides alone. -/
theorem evaluation_eq_some_iff (c : Element) :
    (c.attr? "EvalOp").map trim = some "0" ↔ c.attrText? "EvalOp" = some "0" := by
  rw [Element.attrText?, Option.map_eq_some_iff, Option.bind_eq_some_iff]
  exact exists_congr fun raw => and_congr_right fun _ => (trimmed?_eq_some rfl).symm

theorem conditionOf_fst (c : Element) (value : Condition) :
    (conditionOf c value).1 = if c.attrText? "EvalOp" == some "0" then .expression else value := by
  rw [conditionOf]
  generalize (if c.attrText? "EvalOp" == some "0" then Condition.expression else value) = condition
  split <;> rfl

theorem constraintCondition?_eq {c : Element} {value : Condition}
    (h : Condition.ofValue? (c.attr? "Value") = some value) :
    constraintCondition? c = some (conditionOf c value).1 := by
  rw [constraintCondition?, conditionOf_fst]
  by_cases halone : c.attrText? "EvalOp" = some "0"
  · rw [if_pos (beq_iff_eq.mpr halone),
      if_pos (beq_iff_eq.mpr ((evaluation_eq_some_iff c).mpr halone))]
  · have hother : (c.attr? "EvalOp").map trim ≠ some "0" :=
      fun heq => halone ((evaluation_eq_some_iff c).mp heq)
    rw [if_neg (by rwa [beq_iff_eq]), if_neg (by rwa [beq_iff_eq]), h]

/-- An edge has the target and the condition that the scan reads from its constraint. -/
theorem edge?_eq_some {c : Element} {e : Edge} (h : edge? c = some e) :
    c.attrText? "To" = some e.target ∧ constraintCondition? c = some e.condition := by
  rw [edge?, readConstraint] at h
  split at h
  · next source target _ htarget =>
    split at h
    · cases h
    · next value hvalue =>
      dsimp only at h
      split at h
      · cases h
      · cases h
        exact ⟨htarget, constraintCondition?_eq hvalue⟩
  · cases h

end Edges

section Lookup

variable {κ : Type} [BEq κ]

/-- The first result with a key comes from the first source with it that has a result. -/
theorem find?_filterMap_eq {f : α → Option β} {key : α → Option κ} {keyOf : β → κ}
    (hkey : ∀ a b, f a = some b → key a = some (keyOf b)) (k : κ) (as : List α) :
    (as.filterMap f).find? (keyOf · == k) = (as.filter (key · == some k)).findSome? f := by
  induction as with
  | nil => rfl
  | cons a rest ih =>
    cases hf : f a with
    | none =>
      rw [List.filterMap_cons_none hf, ih, List.filter_cons]
      split
      · rw [List.findSome?_cons, hf]
      · rfl
    | some b =>
      rw [List.filterMap_cons_some hf, List.find?_cons, List.filter_cons, hkey a b hf,
        Option.some_beq_some]
      cases keyOf b == k with
      | true => rw [if_pos rfl, List.findSome?_cons, hf]
      | false => exact ih

/-- Looking up a key finds what the first source with it has. -/
theorem lookup_filterMap_eq [LawfulBEq κ] (key : α → Option κ) (value : α → β) (k : κ)
    (as : List α) :
    (as.filterMap fun a => (key a).map (·, value a)).lookup k =
      ((as.filter (key · == some k)).head?).map value := by
  induction as with
  | nil => rfl
  | cons a rest ih =>
    cases hkey : key a with
    | none =>
      rw [List.filterMap_cons_none (by rw [hkey]; rfl), ih, List.filter_cons, hkey]
      rfl
    | some k' =>
      rw [List.filterMap_cons_some (by rw [hkey]; rfl), List.lookup_cons, List.filter_cons, hkey,
        Option.some_beq_some, Bool.beq_comm (a := k)]
      cases k' == k with
      | true => rfl
      | false => exact ih

end Lookup

section Scan

/-- The first edge into a task is that of the first constraint into it that is not skipped. -/
theorem edgeCondition?_eq (root : Element) (taskId : String) :
    edgeCondition? root taskId =
      ((constraintsInto root taskId).findSome? edge?).map (·.condition) := by
  rw [edgeCondition?, readConstraints_value,
    find?_filterMap_eq (fun _ _ h => (edge?_eq_some h).1) taskId]
  rfl

/-- The scan looks at nothing but the first constraint into a task. -/
theorem lookup_incomingConditions (root : Element) (taskId : String) :
    ((incomingConditions root).lookup taskId).join =
      (constraintsInto root taskId).head?.bind constraintCondition? := by
  rw [incomingConditions, lookup_filterMap_eq, ← Option.bind_id_eq_join, Option.bind_map]
  rfl

/-- What a dependency says of its task. -/
theorem dependencyOf?_eq_some {package : String} {conditions : List (String × Option Condition)}
    {s : Site} {dep : Dependency} (h : dependencyOf? package conditions s = some dep) :
    ExecutableKind.ofTypeName ((s.element.attr? "ExecutableType").getD "") = .executePackage ∧
      executePackageTarget? s.element = some dep.child ∧
      dep.taskName = (s.element.attrText? "ObjectName").getD "Execute Package Task" ∧
      dep.taskId = executableId s ∧
      dep.condition = (conditions.lookup dep.taskId).join := by
  rw [dependencyOf?] at h
  dsimp only at h
  split at h
  · cases h
  · next hkind =>
    obtain ⟨child, hchild, hdep⟩ := Option.bind_eq_some_iff.mp h
    cases hdep
    exact ⟨by simpa using hkind, hchild, rfl, rfl, rfl⟩

/-- A dependency has the condition of the first constraint into its task. -/
theorem scanned_condition {package : String} {bytes : Bytes} {d : Document}
    (hparse : Document.parsePackage bytes = .ok d) {deps : List Dependency}
    (hscan : scanDependencies package bytes = .ok deps) {dep : Dependency} (hdep : dep ∈ deps) :
    dep.condition = (constraintsInto d.root dep.taskId).head?.bind constraintCondition? := by
  rw [scanDependencies, hparse] at hscan
  obtain rfl := Except.ok.inj hscan
  obtain ⟨s, -, hs⟩ := List.mem_filterMap.mp hdep
  rw [(dependencyOf?_eq_some hs).2.2.2.2, lookup_incomingConditions]

end Scan

/-- A dependency has the condition of the first edge into its task, unless the first constraint
into the task gives no edge and says something else than the first of the later ones that gives an
edge. -/
theorem scanned_condition_eq_edgeCondition_iff {package : String} {bytes : Bytes} {d : Document}
    (hparse : Document.parsePackage bytes = .ok d) {deps : List Dependency}
    (hscan : scanDependencies package bytes = .ok deps) {dep : Dependency} (hdep : dep ∈ deps) :
    dep.condition = edgeCondition? d.root dep.taskId ↔
      ∀ first later, constraintsInto d.root dep.taskId = first :: later → edge? first = none →
        constraintCondition? first = (later.findSome? edge?).map (·.condition) := by
  rw [scanned_condition hparse hscan hdep, edgeCondition?_eq]
  cases constraintsInto d.root dep.taskId with
  | nil =>
    -- without constraints neither reader has a condition
    exact iff_of_true rfl fun first later h => by cases h
  | cons first later =>
    rw [List.head?_cons, Option.bind_some, List.findSome?_cons]
    cases hedge : edge? first with
    | some e =>
      refine iff_of_true (edge?_eq_some hedge).2 fun other rest h hnone => ?_
      obtain ⟨rfl, -⟩ := List.cons.inj h
      rw [hedge] at hnone
      cases hnone
    | none =>
      constructor
      · rintro heq other rest h -
        obtain ⟨rfl, rfl⟩ := List.cons.inj h
        exact heq
      · exact fun hlater => hlater first later rfl hedge

/-- A task that runs a package, with two constraints into it; the value of the first is unknown. -/
def shadowedDocument : String :=
  "<DTS:Executable xmlns:DTS=\"www.microsoft.com/SqlServer/Dts\" DTS:refId=\"Package\"
    DTS:ObjectName=\"Master\">
  <DTS:Executables>
    <DTS:Executable DTS:refId=\"Package\\Load\" DTS:ObjectName=\"Load\"
      DTS:ExecutableType=\"STOCK:SEQUENCE\"/>
    <DTS:Executable DTS:refId=\"Package\\Run\" DTS:ObjectName=\"Run\"
        DTS:ExecutableType=\"Microsoft.ExecutePackageTask\">
      <DTS:ObjectData><ExecutePackageTask>
        <PackageName>Child.dtsx</PackageName>
      </ExecutePackageTask></DTS:ObjectData>
    </DTS:Executable>
  </DTS:Executables>
  <DTS:PrecedenceConstraints>
    <DTS:PrecedenceConstraint DTS:From=\"Package\\Load\" DTS:To=\"Package\\Run\" DTS:Value=\"9\"/>
    <DTS:PrecedenceConstraint DTS:From=\"Package\\Load\" DTS:To=\"Package\\Run\" DTS:Value=\"1\"/>
  </DTS:PrecedenceConstraints>
</DTS:Executable>"

/-- The one dependency that a scan of it finds. -/
def shadowedDependency : Dependency where
  parent := "Master"
  child := "Child"
  taskName := "Run"
  taskId := "Package\\Run"
  condition := none

set_option maxRecDepth 4000 in
theorem shadowedDocument_scan :
    scanDependencies "Master" (Utf8.encode shadowedDocument) = .ok [shadowedDependency] := by
  have hscan : (scanDependencies "Master" (Utf8.encode shadowedDocument)).toOption =
      some [shadowedDependency] := by
    rw [show Utf8.encode shadowedDocument = _ from Utf8.encode_ofList _]
    decide +kernel
  exact eq_ok_of_toOption hscan

set_option maxRecDepth 4000 in
theorem shadowedDocument_edges :
    ∃ d, Document.parsePackage (Utf8.encode shadowedDocument) = .ok d ∧
      edgeCondition? d.root shadowedDependency.taskId = some .failure := by
  have hread : ((Document.parsePackage (Utf8.encode shadowedDocument)).toOption.bind
      fun d => edgeCondition? d.root shadowedDependency.taskId) = some .failure := by
    rw [show Utf8.encode shadowedDocument = _ from Utf8.encode_ofList _]
    decide +kernel
  obtain ⟨d, hparse, hedges⟩ := Option.bind_eq_some_iff.mp hread
  exact ⟨d, eq_ok_of_toOption hparse, hedges⟩

theorem scanned_condition_eq_edgeCondition_iff_shadowed :
    ∃ d, Document.parsePackage (Utf8.encode shadowedDocument) = .ok d ∧
      (shadowedDependency.condition = edgeCondition? d.root shadowedDependency.taskId ↔
        ∀ first later, constraintsInto d.root shadowedDependency.taskId = first :: later →
          edge? first = none →
          constraintCondition? first = (later.findSome? edge?).map (·.condition)) := by
  obtain ⟨d, hparse, -⟩ := shadowedDocument_edges
  exact ⟨d, hparse, scanned_condition_eq_edgeCondition_iff hparse shadowedDocument_scan
    List.mem_cons_self⟩

/-- The skipped constraint hides the condition of the edge. -/
theorem shadowed_condition_ne :
    ∃ d deps, Document.parsePackage (Utf8.encode shadowedDocument) = .ok d ∧
      scanDependencies "Master" (Utf8.encode shadowedDocument) = .ok deps ∧
      ∃ dep ∈ deps, dep.condition ≠ edgeCondition? d.root dep.taskId := by
  obtain ⟨d, hparse, hedges⟩ := shadowedDocument_edges
  refine ⟨d, _, hparse, shadowedDocument_scan, shadowedDependency, List.mem_cons_self, ?_⟩
  rw [hedges]
  exact nofun

end EtlSurvey
