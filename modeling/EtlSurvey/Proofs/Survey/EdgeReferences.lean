import EtlSurvey.Proofs.Graph.ControlFlow
import EtlSurvey.Proofs.Survey.Findings
import EtlSurvey.Proofs.Survey.Outcome

/-! # Edges that name no executable

The control flow has each end of an edge once among its nodes, however many edges name it. It is
made from the executables that a survey keeps, and nothing else in a survey has findings about
references; so a report names the ends without a record, each of them once. -/

namespace EtlSurvey
open Text Markup

namespace ControlFlow

theorem nodup_unresolved (g : ControlFlow) : g.unresolved.Nodup := (nodup_eraseDups _).filter _

theorem mem_unresolved {ids : List String} {edges : List Edge} {id : String} :
    id ∈ (ofEdges ids edges).unresolved ↔
      (∃ e ∈ edges, id = e.source ∨ id = e.target) ∧ id ∉ ids := by
  have hknown : id ∈ (ofEdges ids edges).known ↔ id ∈ ids := List.mem_eraseDups
  simp only [unresolved, List.mem_filter, mem_nodes, hknown, Bool.not_eq_true',
    List.contains_eq_mem, decide_eq_false_iff_not]
  constructor
  · rintro ⟨hid | hid, hnew⟩
    · exact absurd hid hnew
    · exact ⟨hid, hnew⟩
  · rintro ⟨hid, hnew⟩
    exact ⟨.inr hid, hnew⟩

theorem problems_about_references (g : ControlFlow) :
    g.problems.filter (·.code == .unresolvedReference) =
      g.unresolved.map Cause.unresolvedReference := by
  have hunresolved : (g.unresolved.map Cause.unresolvedReference).filter
      (·.code == .unresolvedReference) = g.unresolved.map Cause.unresolvedReference := by
    refine List.filter_eq_self.mpr fun c hc => ?_
    obtain ⟨id, -, rfl⟩ := List.mem_map.mp hc
    rfl
  have hcycle : (g.findCycle.toList.map Cause.precedenceCycle).filter
      (·.code == .unresolvedReference) = [] := by
    cases g.findCycle <;> rfl
  rw [problems, List.filter_append, List.filter_append, hunresolved, hcycle, List.append_nil]
  split
  · exact List.append_nil _
  · exact List.append_nil _

theorem validate_notesWith (g : ControlFlow) : g.validate.notesWith .unresolvedReference =
    g.unresolved.map fun id => (Cause.unresolvedReference id).note := by
  rw [validate, Noted.notesWith_foundAll, problems_about_references, List.map_map]
  rfl

end ControlFlow

/-- The elements that the diagnostics of a code point at. -/
def PackageReport.elementsWith (r : PackageReport) (code : FindingCode) : List (Option String) :=
  (r.diagnostics.filter (·.code == code)).map fun d => d.location.bind (·.element)

/-- The control flow of a package. -/
def Package.controlFlow (p : Package) : ControlFlow :=
  .ofEdges (p.executables.map (·.id)) p.edges

theorem readPackage_references (policy : RedactionPolicy) (retain : Bool) (metadata : Metadata)
    (root : Element) :
    (readPackage policy retain metadata root).notesWith .unresolvedReference =
      (readPackage policy retain metadata root).value.1.controlFlow.unresolved.map
        fun id => (Cause.unresolvedReference id).note := by
  have hparameters : (readParameters policy root).notesWith .unresolvedReference = [] :=
    (readParameters_finds policy root).notesWith_eq_nil (by decide)
  have hvariables : (readVariables root).notesWith .unresolvedReference = [] :=
    (readVariables_finds root).notesWith_eq_nil (by decide)
  have hconnections : (readConnections policy root).notesWith .unresolvedReference = [] :=
    (readConnections_finds policy root).notesWith_eq_nil (by decide)
  have hexecutables : (readExecutables policy retain root).notesWith .unresolvedReference = [] :=
    (readExecutables_finds policy retain root).notesWith_eq_nil (by decide)
  have hconstraints : (readConstraints root).notesWith .unresolvedReference = [] :=
    (readConstraints_finds root).notesWith_eq_nil (by decide)
  have hexpressions : (readExpressions policy root).notesWith .unresolvedReference = [] :=
    (readExpressions_finds policy root).notesWith_eq_nil (by decide)
  rw [← ControlFlow.validate_notesWith, readPackage]
  simp only [Noted.notesWith_bind, Noted.notesWith_pure, hparameters, hvariables, hconnections,
    hexecutables, hconstraints, hexpressions, List.append_nil, List.nil_append]
  rfl

theorem readDocument_references (config : Config) (policy : RedactionPolicy)
    (metadata : Metadata) (d : Document) :
    (readDocument config policy metadata d).notesWith .unresolvedReference =
      (readPackage policy config.retainUnsupported metadata d.root).notesWith
        .unresolvedReference := by
  have hrecovered : (foundAll (d.recovered.toList.map
      fun failure => .recovered failure.describe)).notesWith .unresolvedReference = [] :=
    (recovery_finds d).notesWith_eq_nil (by decide)
  have haudit : ∀ a : Audit, (foundAll (auditCauses a)).notesWith .unresolvedReference = [] :=
    fun a => (auditCauses_finds a).notesWith_eq_nil (by decide)
  simp only [readDocument, Noted.notesWith_bind, Noted.notesWith_pure, hrecovered, haudit,
    List.append_nil, List.nil_append]

/-- A report points at the ends of edges that name nothing, in the order of the nodes. -/
theorem readSurvey_references (config : Config) (source : String) (policy : RedactionPolicy)
    (metadata : Metadata) (d : Document) :
    (readSurvey config source policy metadata d).report.elementsWith .unresolvedReference =
      (readSurvey config source policy metadata d).package.controlFlow.unresolved.map some := by
  have hopened : (openPackage config source d).notesWith .unresolvedReference = [] :=
    (openPackage_finds config source d).notesWith_eq_nil (by decide)
  have hnotes : (notesOf (surveyRemarks config source policy metadata d)).filter
      (·.code == .unresolvedReference) =
        (openPackage config source d).notesWith .unresolvedReference ++
          (readDocument config policy metadata d).notesWith .unresolvedReference := by
    rw [surveyRemarks, notesOf_append, List.filter_append]
    rfl
  rw [PackageReport.elementsWith, readSurvey_report, reportOf_diagnostics, diagnosticsOf,
    List.filter_map]
  show (((notesOf _).filter (·.code == .unresolvedReference)).map _).map _ = _
  rw [hnotes, hopened, List.nil_append, readDocument_references, readPackage_references,
    List.map_map, List.map_map]
  rfl

theorem elementsWith_unresolvedReference {config : Config} {source : String} {bytes : Bytes}
    (hsuccess : (surveyPackage config source bytes).report.success = true) :
    (surveyPackage config source bytes).report.elementsWith .unresolvedReference =
      (surveyPackage config source bytes).package.controlFlow.unresolved.map some := by
  obtain ⟨d, hparse⟩ := parsePackage_of_success hsuccess
  rw [surveyPackage_eq_readSurvey hsuccess hparse]
  exact readSurvey_references ..

/-- The elements that a report of a survey calls unresolved references are the ends of edges that
are the id of no executable, each of them once. -/
theorem unresolved_references_reported {config : Config} {source : String} {bytes : Bytes}
    (hsuccess : (surveyPackage config source bytes).report.success = true) :
    let survey := surveyPackage config source bytes
    (survey.report.elementsWith .unresolvedReference).Nodup ∧
      ∀ element, element ∈ survey.report.elementsWith .unresolvedReference ↔
        ∃ id, element = some id ∧
          (∃ e ∈ survey.package.edges, id = e.source ∨ id = e.target) ∧
          id ∉ survey.package.executables.map (·.id) := by
  dsimp only
  rw [elementsWith_unresolvedReference hsuccess]
  refine ⟨(ControlFlow.nodup_unresolved _).map fun _ _ => Option.some.inj, fun element => ?_⟩
  rw [List.mem_map]
  constructor
  · rintro ⟨id, hid, rfl⟩
    exact ⟨id, rfl, ControlFlow.mem_unresolved.mp hid⟩
  · rintro ⟨id, rfl, hid⟩
    exact ⟨id, ControlFlow.mem_unresolved.mpr hid, rfl⟩

/-- Three constraints join a task that may be left out and one that does not exist to a task. -/
def ghostDocument : String :=
  "<DTS:Executable xmlns:DTS=\"www.microsoft.com/SqlServer/Dts\" DTS:refId=\"Package\"
    DTS:ObjectName=\"Sales\">
  <DTS:Executables>
    <DTS:Executable DTS:refId=\"Package\\Load\" DTS:ObjectName=\"Load\"
      DTS:ExecutableType=\"STOCK:SEQUENCE\"/>
    <DTS:Executable DTS:refId=\"Package\\Beep\" DTS:ObjectName=\"Beep\"
      DTS:ExecutableType=\"Acme.Beep\"/>
  </DTS:Executables>
  <DTS:PrecedenceConstraints>
    <DTS:PrecedenceConstraint DTS:From=\"Package\\Beep\" DTS:To=\"Package\\Load\"/>
    <DTS:PrecedenceConstraint DTS:From=\"Package\\Gone\" DTS:To=\"Package\\Load\"/>
    <DTS:PrecedenceConstraint DTS:From=\"Package\\Load\" DTS:To=\"Package\\Gone\"/>
  </DTS:PrecedenceConstraints>
</DTS:Executable>"

set_option maxRecDepth 4000 in
theorem ghostDocument_unresolved :
    (surveyed? { retainUnsupported := false } "p.dtsx" (Utf8.encode ghostDocument)).map
      (fun (_, survey) => survey.package.controlFlow.unresolved) =
        some ["Package\\Beep", "Package\\Gone"] := by
  rw [show Utf8.encode ghostDocument = _ from Utf8.encode_ofList _]
  decide +kernel

theorem unresolved_references_reported_ghostDocument :
    let survey := surveyPackage { retainUnsupported := false } "p.dtsx"
      (Utf8.encode ghostDocument)
    survey.report.elementsWith .unresolvedReference =
      [some "Package\\Beep", some "Package\\Gone"] ∧
    (survey.report.elementsWith .unresolvedReference).Nodup ∧
      ∀ element, element ∈ survey.report.elementsWith .unresolvedReference ↔
        ∃ id, element = some id ∧
          (∃ e ∈ survey.package.edges, id = e.source ∨ id = e.target) ∧
          id ∉ survey.package.executables.map (·.id) := by
  obtain ⟨d, -, hsuccess, hunresolved⟩ := exists_survey_of_map ghostDocument_unresolved
  dsimp only at hunresolved
  refine ⟨?_, unresolved_references_reported hsuccess⟩
  rw [elementsWith_unresolvedReference hsuccess, hunresolved]
  rfl

end EtlSurvey
