import EtlSurvey.Proofs.Executables.Reading
import EtlSurvey.Proofs.Project.Sources

/-! # No stored record shows a sensitive value

Whatever a document puts under a sensitive key, and however often it is put there or put over,
the properties of a record go through the policy last. Parameters and expressions are decided one
by one, by their flag and name. So it is enough to follow each record of a package or a project
back to the reader that made it. -/

namespace EtlSurvey

namespace RedactionPolicy

def HidesProperties (policy : RedactionPolicy) (p : Properties) : Prop :=
  ∀ entry ∈ p.entries, policy.isSensitive entry.1 → entry.2 = redactedText

def HidesParameter (policy : RedactionPolicy) (p : Parameter) : Prop :=
  p.sensitive ∨ policy.isSensitive p.name →
    p.defaultValue = none ∨ p.defaultValue = some redactedText

/-- References would tell something about the text. -/
def HidesExpression (policy : RedactionPolicy) (e : PropertyExpression) : Prop :=
  policy.isSensitive e.property →
    e.text = redactedText ∧ e.variableRefs = [] ∧ e.parameterRefs = []

structure HidesPackage (policy : RedactionPolicy) (p : Package) : Prop where
  connections : ∀ c ∈ p.connections, policy.HidesProperties c.properties
  executables : ∀ e ∈ p.executables, policy.HidesProperties e.properties
  parameters : ∀ q ∈ p.parameters, policy.HidesParameter q
  expressions : ∀ e ∈ p.expressions, policy.HidesExpression e

structure HidesProject (policy : RedactionPolicy) (p : Project) : Prop where
  parameters : ∀ q ∈ p.parameters, policy.HidesParameter q
  connections : ∀ c ∈ p.connections, policy.HidesProperties c.properties

theorem hidesProperties_redact (policy : RedactionPolicy) (p : Properties) :
    policy.HidesProperties (policy.redact p) := by
  intro entry hentry hsensitive
  obtain ⟨⟨key, value⟩, -, rfl⟩ := List.mem_map.mp hentry
  simp only at hsensitive ⊢
  rw [if_pos hsensitive]

theorem hidesParameter_of {policy : RedactionPolicy} {p : Parameter} {value : Option String}
    (h : p.defaultValue =
      if p.sensitive || policy.isSensitive p.name then value.map fun _ => redactedText else value) :
    policy.HidesParameter p := by
  intro hhidden
  rw [h, if_pos (by simpa using hhidden)]
  cases value with
  | none => exact .inl rfl
  | some _ => exact .inr rfl

end RedactionPolicy

open Markup Text RedactionPolicy

section Readers

variable (policy : RedactionPolicy)

theorem readParameter_hidden (name : String) (e : Element) :
    policy.HidesParameter (readParameter policy name e).value :=
  hidesParameter_of rfl

theorem readProjectParameter_hidden (name : String) (e : Element) :
    policy.HidesParameter (readProjectParameter policy name e).value :=
  hidesParameter_of rfl

theorem variableRefs_redactedText : Expression.variableRefs redactedText = [] := by decide

theorem parameterRefs_redactedText : Expression.parameterRefs redactedText = [] := by decide

theorem readExpression_hidden (scope property text : String) :
    policy.HidesExpression (readExpression policy scope property text).value := by
  intro hsensitive
  have hproperty : policy.isSensitive property := hsensitive
  have htext : policy.redactText property (trim text) = redactedText := by
    rw [RedactionPolicy.redactText, if_pos hproperty]
  simp only [readExpression, htext]
  exact ⟨trivial, variableRefs_redactedText, parameterRefs_redactedText⟩

theorem readExecutable_hidden (parentId : Option String) (n : NamedExecutable) :
    policy.HidesProperties (readExecutable policy parentId n).value.properties :=
  policy.hidesProperties_redact _

/-- The record that is made of a manager with a name. -/
def connectionOf (owner : String) (e : Element) (name : String) : Connection :=
  let id := (e.attrText? "refId").getD (owner ++ "[" ++ name ++ "]")
  let kind := ConnectionKind.ofCreationName (e.attrText? "CreationName")
  let properties := connectionProperties e
  let count := (policy.exposedKeys properties).length + (markedKeys e).length
  { id, name, kind
    properties := policy.redact properties
    sensitive := kind.isRelational || count > 0
    description := e.attrText? "Description" }

theorem readConnection_value (owner : String) (e : Element) :
    (readConnection policy owner e).value =
      (e.attrText? "ObjectName").map (connectionOf policy owner e) := by
  rw [readConnection]
  cases e.attrText? "ObjectName" with
  | none => rfl
  | some name =>
    -- the notes that are made on the way differ, the record does not
    simp only [Option.map_some]
    split
    · simp only [Noted.value_bind]
      split <;> rfl
    · simp only [Noted.value_bind]
      split <;> rfl

theorem readConnection_hidden {owner : String} {e : Element} {c : Connection}
    (h : (readConnection policy owner e).value = some c) :
    policy.HidesProperties c.properties := by
  rw [readConnection_value] at h
  obtain ⟨name, -, rfl⟩ := Option.map_eq_some_iff.mp h
  exact policy.hidesProperties_redact _

theorem readExecutables_hidden (retain : Bool) (root : Element) {e : Executable}
    (h : e ∈ (readExecutables policy retain root).value.executables) :
    policy.HidesProperties e.properties := by
  rw [readExecutables_eq] at h
  obtain ⟨n, -, rfl⟩ := List.mem_map.mp h
  exact readExecutable_hidden policy _ n.toNamedExecutable

theorem readParameters_hidden (root : Element) {q : Parameter}
    (h : q ∈ (readParameters policy root).value) : policy.HidesParameter q := by
  obtain ⟨e, -, key, repeated, record, hkeyed, rfl⟩ := mem_keepFirst h
  cases hname : e.attrText? "ObjectName" with
  | none =>
    rw [hname] at hkeyed
    cases hkeyed
  | some name =>
    rw [hname] at hkeyed
    cases hkeyed
    exact readParameter_hidden policy _ e

theorem readConnections_hidden (root : Element) {c : Connection}
    (h : c ∈ (readConnections policy root).value) : policy.HidesProperties c.properties := by
  obtain ⟨e, -, key, repeated, record, hkeyed, rfl⟩ := mem_keepFirst h
  rw [Noted.value_bind] at hkeyed
  split at hkeyed
  next => cases hkeyed
  next hvalue =>
    cases hkeyed
    exact readConnection_hidden policy hvalue

theorem readExpressions_hidden (root : Element) {e : PropertyExpression}
    (h : e ∈ (readExpressions policy root).value) : policy.HidesExpression e := by
  rw [readExpressions, Noted.value_mapM] at h
  obtain ⟨⟨scope, property, text⟩, -, rfl⟩ := List.mem_map.mp h
  exact readExpression_hidden policy scope property text

theorem readPackage_hidden (retain : Bool) (metadata : Metadata) (root : Element) :
    policy.HidesPackage (readPackage policy retain metadata root).value.1 where
  connections _ h := readConnections_hidden policy root h
  executables _ h := readExecutables_hidden policy retain root h
  parameters _ h := readParameters_hidden policy root h
  expressions _ h := readExpressions_hidden policy root h

theorem readProjectParameters_hidden {bytes : Bytes} {parameters : Noted (List Parameter)}
    (h : readProjectParameters policy bytes = .ok parameters) :
    ∀ q ∈ parameters.value, policy.HidesParameter q := by
  rw [readProjectParameters] at h
  cases hparse : Document.parse bytes with
  | error _ =>
    rw [hparse] at h
    cases h
  | ok document =>
    rw [hparse] at h
    obtain rfl := Except.ok.inj h
    intro q hq
    obtain ⟨e, -, key, repeated, record, hkeyed, rfl⟩ := mem_keepFirst hq
    split at hkeyed
    next => cases hkeyed
    next =>
      cases hkeyed
      exact readProjectParameter_hidden policy _ e

theorem readProjectConnection_hidden {bytes : Bytes} {result : Noted (Option Connection)}
    (h : readProjectConnection policy bytes = .ok result) :
    ∀ c, result.value = some c → policy.HidesProperties c.properties := by
  rw [readProjectConnection] at h
  cases hparse : Document.parseWithRoot Space.dts "ConnectionManager" bytes with
  | error _ =>
    rw [hparse] at h
    cases h
  | ok document =>
    rw [hparse] at h
    obtain rfl := Except.ok.inj h
    intro c hc
    exact readConnection_hidden policy hc

/-- What a project file gives comes from a read that went well. -/
theorem readProjectFile_value {c : Container} {read : Bytes → Except LoadError (Noted α)}
    {member : String} {a : α} (h : (readProjectFile c read member).value = some a) :
    ∃ bytes result, read bytes = .ok result ∧ result.value = a := by
  rw [readProjectFile] at h
  split at h
  next => cases h
  next bytes _ =>
  split at h
  next => cases h
  next result hread => exact ⟨bytes, result, hread, Option.some.inj h⟩

theorem readProjectConnections_hidden (c : Container) :
    ∀ k ∈ (readProjectConnections policy c).value, policy.HidesProperties k.properties := by
  intro k hk
  obtain ⟨member, -, key, repeated, record, hkeyed, rfl⟩ := mem_keepFirst hk
  rw [Noted.value_bind] at hkeyed
  split at hkeyed
  next => cases hkeyed
  next connection hjoin =>
    cases hkeyed
    have hfile := Option.join_eq_some_iff.mp hjoin
    obtain ⟨bytes, result, hread, hvalue⟩ := readProjectFile_value hfile
    exact readProjectConnection_hidden policy hread connection hvalue

end Readers

/-- The policy of a project, which its manifest decides. -/
def projectPolicy (config : Config) (c : Container) : RedactionPolicy :=
  .ofConfig config ((readProjectManifest c).value.protectionLevel.getD .dontSaveSensitive)

theorem mem_getD_nil {a : α} {as : Option (List α)} (h : a ∈ as.getD []) :
    ∃ l, as = some l ∧ a ∈ l := by
  cases as with
  | none => cases h
  | some l => exact ⟨l, rfl, h⟩

/-- What the files of a project give under a policy. -/
def projectFilesOf (policy : RedactionPolicy) (manifest : Manifest) (c : Container) :
    ProjectFiles :=
  match policy.refusal? with
  | some _ => { manifest }
  | none =>
    { manifest
      parameters := ((readProjectFile? c (readProjectParameters policy)
        (c.find? parametersFile)).value).getD []
      connections := (readProjectConnections policy c).value }

theorem readProjectFiles_value (config : Config) (c : Container) :
    (readProjectFiles config c).value =
      projectFilesOf (projectPolicy config c) (readProjectManifest c).value c := by
  rw [readProjectFiles, projectFilesOf, projectPolicy, Noted.value_bind, Noted.value_bind]
  generalize ofConfig config _ = policy
  show (match policy.refusal? with | some _ => _ | none => _ : Noted _).value = _
  cases policy.refusal? <;> rfl

theorem projectFilesOf_manifest (policy : RedactionPolicy) (manifest : Manifest) (c : Container) :
    (projectFilesOf policy manifest c).manifest = manifest := by
  rw [projectFilesOf]
  split <;> rfl

theorem projectFilesOf_parameters_hidden (policy : RedactionPolicy) (manifest : Manifest)
    (c : Container) {q : Parameter} (h : q ∈ (projectFilesOf policy manifest c).parameters) :
    policy.HidesParameter q := by
  rw [projectFilesOf] at h
  split at h
  next => cases h
  next =>
    obtain ⟨parameters, hread, hq⟩ := mem_getD_nil h
    cases hfind : c.find? parametersFile with
    | none =>
      rw [hfind] at hread
      cases hread
    | some member =>
      rw [hfind] at hread
      obtain ⟨bytes, result, hbytes, rfl⟩ := readProjectFile_value hread
      exact readProjectParameters_hidden policy hbytes q hq

theorem projectFilesOf_connections_hidden (policy : RedactionPolicy) (manifest : Manifest)
    (c : Container) {k : Connection} (h : k ∈ (projectFilesOf policy manifest c).connections) :
    policy.HidesProperties k.properties := by
  rw [projectFilesOf] at h
  split at h
  next => cases h
  next => exact readProjectConnections_hidden policy c k h

theorem surveyProject_hidden (config : Config) (c : Container) :
    let p := (surveyProject config c).project
    (ofConfig config p.protectionLevel).HidesProject p := by
  intro p
  have hfiles := readProjectFiles_value config c
  obtain ⟨hlevel, hparameters, hconnections⟩ := surveyProject_files config c
  rw [hfiles] at hlevel hparameters hconnections
  have hpolicy : ofConfig config p.protectionLevel = projectPolicy config c := by
    rw [hlevel, projectFilesOf_manifest]
    rfl
  rw [hpolicy]
  constructor
  · intro q hq
    rw [hparameters] at hq
    exact projectFilesOf_parameters_hidden _ _ c hq
  · intro k hk
    rw [hconnections] at hk
    exact projectFilesOf_connections_hidden _ _ c hk

/-- A package that cannot be read has nothing to hide in its record. -/
theorem hidesPackage_minimal (policy : RedactionPolicy) (name : String) :
    policy.HidesPackage (.minimal name) := by
  constructor <;> intro _ h <;> cases h

/-- A record is that of the name alone, or all that was read under the policy of its own level. -/
theorem surveyPackage_record (config : Config) (source : String) (bytes : Bytes) :
    (∃ name, (surveyPackage config source bytes).package = .minimal name) ∨
    ∃ metadata root, (surveyPackage config source bytes).package =
      (readPackage (ofConfig config metadata.protectionLevel) config.retainUnsupported metadata
        root).value.1 := by
  rw [surveyPackage, surveyWithError]
  cases Document.parsePackage bytes with
  | error e => exact .inl ⟨fallbackName source, rfl⟩
  | ok d =>
    let metadata := (readMetadata d.root (fallbackName source)).value
    have hopened : (openPackage config source d).value = (metadata,
        ofConfig config metadata.protectionLevel,
        (ofConfig config metadata.protectionLevel).refusal?) := rfl
    simp only [hopened]
    cases (ofConfig config metadata.protectionLevel).refusal? with
    | some refusal => exact .inl ⟨metadata.name, rfl⟩
    | none => exact .inr ⟨metadata, d.root, rfl⟩

theorem surveyPackage_hidden (config : Config) (source : String) (bytes : Bytes) :
    let p := (surveyPackage config source bytes).package
    (ofConfig config p.metadata.protectionLevel).HidesPackage p := by
  intro p
  obtain ⟨name, hp⟩ | ⟨metadata, root, hp⟩ := surveyPackage_record config source bytes
  · show (ofConfig config p.metadata.protectionLevel).HidesPackage
      (surveyPackage config source bytes).package
    rw [hp]
    exact hidesPackage_minimal _ name
  · have hlevel : p.metadata = metadata := congrArg Package.metadata hp
    rw [hlevel]
    show (ofConfig config metadata.protectionLevel).HidesPackage
      (surveyPackage config source bytes).package
    rw [hp]
    exact readPackage_hidden _ _ metadata root

/-- Neither the record of a package nor that of a project shows a sensitive value, under the policy
that its own protection level asks for. -/
theorem records_hide_sensitive_values (config : Config) :
    (∀ source bytes,
      let p := (surveyPackage config source bytes).package
      (ofConfig config p.metadata.protectionLevel).HidesPackage p) ∧
    ∀ c : Container,
      let p := (surveyProject config c).project
      (ofConfig config p.protectionLevel).HidesProject p :=
  ⟨surveyPackage_hidden config, surveyProject_hidden config⟩

end EtlSurvey
