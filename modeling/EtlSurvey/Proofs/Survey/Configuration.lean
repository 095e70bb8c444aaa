import EtlSurvey.Proofs.Survey.Findings
import EtlSurvey.Proofs.Survey.Outcome
import Mathlib.Data.List.Forall2

/-! # What a configuration has a say in

Of a configuration, the readers of a package look at the keys that are sensitive and at whether
unknown kinds are retained. Whether a password is given is told by one warning and by one reason for
refusal; all else that is configured decides no more than severities, and these only where a note
becomes a diagnostic. So two surveys under configurations that agree on these two points differ in
nothing else. -/

namespace EtlSurvey
open Text Markup

/-- The policy for a document with or without a password. -/
def RedactionPolicy.withPassword (p : RedactionPolicy) (given : Bool) : RedactionPolicy :=
  { p with passwordGiven := given }

section Readers

variable (policy : RedactionPolicy) (given retain : Bool) (root : Element)

theorem readParameters_withPassword :
    readParameters (policy.withPassword given) root = readParameters policy root := rfl

theorem readConnections_withPassword :
    readConnections (policy.withPassword given) root = readConnections policy root := rfl

theorem readNode_withPassword (n : OutlineNode) :
    readNode (policy.withPassword given) retain n = readNode policy retain n := rfl

theorem readExpressions_withPassword :
    readExpressions (policy.withPassword given) root = readExpressions policy root := rfl

theorem readSteps_withPassword (steps : List OutlineStep) :
    readSteps (policy.withPassword given) retain steps = readSteps policy retain steps := by
  induction steps with
  | nil => rfl
  | cons step rest ih =>
    cases step with
    | note c => rw [readSteps, readSteps, ih]
    | node n => rw [readSteps, readSteps, readNode_withPassword, ih]

theorem readPackage_withPassword (metadata : Metadata) :
    readPackage (policy.withPassword given) retain metadata root =
      readPackage policy retain metadata root := by
  have hexecutables : readExecutables (policy.withPassword given) retain root =
      readExecutables policy retain root := by
    rw [readExecutables_eq_readSteps, readExecutables_eq_readSteps, readSteps_withPassword]
  rw [readPackage, readPackage, readParameters_withPassword, readConnections_withPassword,
    hexecutables, readExpressions_withPassword]

end Readers

/-- Two configurations under which the same is read. -/
structure Config.ReadsLike (config other : Config) : Prop where
  retainUnsupported : other.retainUnsupported = config.retainUnsupported
  extraSensitiveKeys : other.extraSensitiveKeys = config.extraSensitiveKeys

/-- Codes of findings that say whether a password was given. -/
def passwordCodes : List FindingCode := [.decryptionUnavailable, .packageEncrypted]

/-- Codes of findings that weigh more if the configuration is strict on wiring. -/
def wiringCodes : List FindingCode :=
  [.dataflowFanIn, .dataflowUnresolvedPath, .dataflowUnwiredInput]

/-- Diagnostics of one finding under two configurations. The severity is the configured one or
else follows from a weight that both have. -/
structure Diagnostic.AlikeUnder (config other : Config) (d d' : Diagnostic) : Prop where
  code : d'.code = d.code
  location : d'.location = d.location
  related : d'.related = d.related
  message : d.code ∉ passwordCodes → d'.message = d.message
  severity : ∃ weight : Weight, (weight = .wiring → d.code ∈ wiringCodes) ∧
    d.severity = config.severityOf d.code (weight.severity config) ∧
    d'.severity = other.severityOf d.code (weight.severity other)

/-- Surveys of one package under two configurations. -/
structure PackageSurvey.AlikeUnder (config other : Config) (s s' : PackageSurvey) : Prop where
  package : s'.package = s.package
  success : s'.report.success = s.report.success
  diagnostics : List.Forall₂ (Diagnostic.AlikeUnder config other) s.report.diagnostics
    s'.report.diagnostics

section Notes

theorem Cause.code_mem_wiringCodes {c : Cause} (h : c.weight = .wiring) : c.code ∈ wiringCodes := by
  cases c with
  | fanIn => exact List.mem_cons_self
  | unresolvedStart => exact .tail _ List.mem_cons_self
  | unresolvedEnd => exact .tail _ List.mem_cons_self
  | unwiredInput => exact .tail _ (.tail _ List.mem_cons_self)
  | _ => cases h

/-- Notes of one finding, with and without a password. -/
structure Cause.Alike (c c' : Cause) : Prop where
  code : c'.code = c.code
  weight : c'.weight = c.weight
  element : c'.element? = c.element?
  related : c'.related = c.related
  message : c.code ∉ passwordCodes → c'.message = c.message

theorem Cause.Alike.refl (c : Cause) : c.Alike c := ⟨rfl, rfl, rfl, rfl, fun _ => rfl⟩

variable {config other : Config}

theorem Cause.Alike.diagnostic {c c' : Cause} (h : c.Alike c') (source : String) :
    Diagnostic.AlikeUnder config other (c.note.diagnostic config source)
      (c'.note.diagnostic other source) where
  code := h.code
  location := congrArg (fun element => some (Location.mk source element)) h.element
  related := h.related
  message := h.message
  severity := by
    refine ⟨c.weight, Cause.code_mem_wiringCodes, rfl, ?_⟩
    show other.severityOf c'.code (c'.weight.severity other) = _
    rw [h.code, h.weight]
    rfl

/-- The notes of a reader, which are those of causes, become alike diagnostics. -/
theorem Noted.FindsOnly.diagnostics_alike {codes : List FindingCode} {x : Noted α}
    (h : x.FindsOnly codes) (source : String) :
    List.Forall₂ (Diagnostic.AlikeUnder config other) (diagnosticsOf config source x.remarks)
      (diagnosticsOf other source x.remarks) := by
  rw [diagnosticsOf, diagnosticsOf, List.forall₂_map_left_iff, List.forall₂_map_right_iff,
    List.forall₂_same]
  intro n hn
  obtain ⟨c, -, rfl⟩ := h.exists_cause hn
  exact (Cause.Alike.refl c).diagnostic source

theorem diagnosticsOf_append (config : Config) (source : String) (remarks others : List Remark) :
    diagnosticsOf config source (remarks ++ others) =
      diagnosticsOf config source remarks ++ diagnosticsOf config source others := by
  rw [diagnosticsOf, notesOf_append, List.map_append, diagnosticsOf, diagnosticsOf]

end Notes

section Policies

variable {config other : Config} (policy : RedactionPolicy) (given : Bool)

theorem warning_alike : List.Forall₂ Cause.Alike policy.warning?.toList
    (policy.withPassword given).warning?.toList := by
  obtain ⟨level, given', keys⟩ := policy
  cases level with
  | encryptSensitiveWithPassword =>
    refine .cons ⟨rfl, rfl, rfl, rfl, fun hcode => ?_⟩ .nil
    exact absurd List.mem_cons_self hcode
  | encryptSensitiveWithUserKey => exact .cons (.refl _) .nil
  | _ => exact .nil

theorem resolve_alike (source : String) : List.Forall₂ (Diagnostic.AlikeUnder config other)
    (diagnosticsOf config source policy.resolve.remarks)
    (diagnosticsOf other source (policy.withPassword given).resolve.remarks) := by
  have hnotes : ∀ p : RedactionPolicy,
      notesOf p.resolve.remarks = p.warning?.toList.map Cause.note :=
    fun p => notesOf_foundAll p.warning?.toList
  rw [diagnosticsOf, diagnosticsOf, hnotes, hnotes, List.map_map, List.map_map,
    List.forall₂_map_left_iff, List.forall₂_map_right_iff]
  exact (warning_alike policy given).imp fun c c' h => h.diagnostic source

theorem refusal_isSome : (policy.withPassword given).refusal?.isSome = policy.refusal?.isSome := by
  obtain ⟨level, given', keys⟩ := policy
  cases level <;> rfl

theorem ofConfig_of_readsLike (h : config.ReadsLike other) (level : ProtectionLevel) :
    RedactionPolicy.ofConfig other level =
      (RedactionPolicy.ofConfig config level).withPassword
        (other.password.bind nonEmpty?).isSome := by
  rw [RedactionPolicy.ofConfig, h.extraSensitiveKeys]
  rfl

end Policies

section Surveys

variable {config other : Config} (h : config.ReadsLike other) (source : String)

theorem openPackage_diagnostics (config : Config) (d : Document) :
    diagnosticsOf config source (openPackage config source d).remarks =
      diagnosticsOf config source (readMetadata d.root (fallbackName source)).remarks ++
        diagnosticsOf config source (openPackage config source d).value.2.1.resolve.remarks := by
  rw [openPackage, Noted.remarks_bind, Noted.remarks_bind, Noted.remarks_pure, List.append_nil,
    diagnosticsOf_append]
  rfl

theorem readDocument_finds (policy : RedactionPolicy) (metadata : Metadata) (d : Document) :
    (readDocument config policy metadata d).FindsOnly FindingCode.all := by
  have hpackage : (readPackage policy config.retainUnsupported metadata d.root).FindsOnly
      FindingCode.all := by
    refine ((readParameters_finds _ _).mono (by decide)).bind ?_
    refine ((readVariables_finds _).mono (by decide)).bind ?_
    refine ((readConnections_finds _ _).mono (by decide)).bind ?_
    refine ((readExecutables_finds _ _ _).mono (by decide)).bind ?_
    refine ((readConstraints_finds _).mono (by decide)).bind ?_
    refine ((validate_finds _).mono (by decide)).bind ?_
    exact ((readExpressions_finds _ _).mono (by decide)).bind (.pure _)
  refine ((recovery_finds d).mono (by decide)).bind (hpackage.bind ?_)
  exact ((auditCauses_finds _).mono (by decide)).bind (.pure _)

include h

theorem openPackage_alike (d : Document) : List.Forall₂ (Diagnostic.AlikeUnder config other)
    (diagnosticsOf config source (openPackage config source d).remarks)
    (diagnosticsOf other source (openPackage other source d).remarks) := by
  have hpolicy : (openPackage other source d).value.2.1 =
      (openPackage config source d).value.2.1.withPassword
        (other.password.bind nonEmpty?).isSome := ofConfig_of_readsLike h _
  rw [openPackage_diagnostics, openPackage_diagnostics, hpolicy]
  exact List.rel_append ((readMetadata_finds _ _).diagnostics_alike source)
    (resolve_alike _ _ source)

theorem readDocument_of_readsLike (policy : RedactionPolicy) (given : Bool) (metadata : Metadata)
    (d : Document) : readDocument other (policy.withPassword given) metadata d =
      readDocument config policy metadata d := by
  rw [readDocument, h.retainUnsupported, readPackage_withPassword]
  rfl

/-- A document that may be read is read alike. -/
theorem readSurvey_alike (policy : RedactionPolicy) (given : Bool) (metadata : Metadata)
    (d : Document) : (readSurvey config source policy metadata d).AlikeUnder config other
      (readSurvey other source (policy.withPassword given) metadata d) := by
  have hread := readDocument_of_readsLike h policy given metadata d
  constructor
  case package => rw [readSurvey_package, readSurvey_package, h.retainUnsupported,
    readPackage_withPassword]
  case success => rw [readSurvey_report, readSurvey_report, reportOf_success, reportOf_success]
  case diagnostics =>
    rw [readSurvey_report, readSurvey_report, reportOf_diagnostics, reportOf_diagnostics,
      surveyRemarks, surveyRemarks, hread, diagnosticsOf_append, diagnosticsOf_append]
    exact List.rel_append (openPackage_alike h source d)
      ((readDocument_finds policy metadata d).diagnostics_alike source)

omit h in
/-- Failures of one code are alike. -/
theorem failed_alike (name : String) {before before' : List Diagnostic} {e e' : PackageError}
    (hbefore : List.Forall₂ (Diagnostic.AlikeUnder config other) before before')
    (hcode : e'.code = e.code) (hmessage : e.code ∉ passwordCodes → e'.message = e.message) :
    (PackageSurvey.failed config source name before e).AlikeUnder config other
      (PackageSurvey.failed other source name before' e') where
  package := rfl
  success := rfl
  diagnostics := by
    rw [failed_diagnostics, failed_diagnostics, hcode]
    have hfixed : Weight.fixed .error ≠ .wiring := by decide
    exact List.rel_append hbefore
      (.cons ⟨rfl, rfl, rfl, hmessage, _, fun hwiring => absurd hwiring hfixed, rfl, rfl⟩ .nil)

/-- Surveys of one document under configurations that agree on what is read have the same package
and success, and the same diagnostics but for severities and what is said of passwords. -/
theorem surveys_agree_up_to_severity (bytes : Bytes) :
    (surveyPackage config source bytes).AlikeUnder config other
      (surveyPackage other source bytes) := by
  cases hparse : Document.parsePackage bytes with
  | error e =>
    rw [surveyPackage, surveyPackage, surveyWithError, surveyWithError, hparse]
    exact failed_alike source _ .nil rfl fun _ => rfl
  | ok d =>
    let policy := (openPackage config source d).value.2.1
    let given := (other.password.bind nonEmpty?).isSome
    have hpolicy : (openPackage other source d).value.2.1 = policy.withPassword given :=
      ofConfig_of_readsLike h _
    have hrefusal : (openPackage other source d).value.2.2 =
        (policy.withPassword given).refusal? := congrArg RedactionPolicy.refusal? hpolicy
    have hisSome := refusal_isSome policy given
    cases hrefused : policy.refusal? with
    | none =>
      rw [hrefused, Option.isSome_none, Option.isSome_eq_false_iff, Option.isNone_iff_eq_none]
        at hisSome
      rw [surveyPackage_of_opened hparse hrefused,
        surveyPackage_of_opened hparse (hrefusal.trans hisSome), hpolicy]
      exact readSurvey_alike h source policy given _ d
    | some refusal =>
      rw [hrefused, Option.isSome_some, Option.isSome_iff_exists] at hisSome
      obtain ⟨refusal', hrefused'⟩ := hisSome
      rw [surveyPackage_of_refused hparse hrefused,
        surveyPackage_of_refused hparse (hrefusal.trans hrefused')]
      refine failed_alike source _ (openPackage_alike h source d) rfl fun hcode => ?_
      exact absurd (.tail _ List.mem_cons_self) hcode

end Surveys

/-- A document with encrypted values, and with a path that does not say where it ends. -/
def looseEndDocument : String :=
  "<DTS:Executable xmlns:DTS=\"www.microsoft.com/SqlServer/Dts\" DTS:refId=\"Package\"
    DTS:ObjectName=\"Sales\" DTS:ProtectionLevel=\"2\">
  <DTS:Executables>
    <DTS:Executable DTS:refId=\"Package\\Flow\" DTS:ObjectName=\"Flow\"
        DTS:ExecutableType=\"Microsoft.Pipeline\">
      <DTS:ObjectData><pipeline>
        <components>
          <component refId=\"Orders\" componentClassID=\"Microsoft.OLEDBSource\"/>
        </components>
        <paths><path refId=\"Rows\" startId=\"Orders.Outputs[Rows]\"/></paths>
      </pipeline></DTS:ObjectData>
    </DTS:Executable>
  </DTS:Executables>
</DTS:Executable>"

/-- A configuration with a password that is strict on wiring. -/
def strictConfig : Config where
  password := some "secret"
  strictWiring := true
  severities := .ofList [("DECRYPTION_UNAVAILABLE", .info)]

/-- Codes and severities of the diagnostics of a survey. -/
def PackageSurvey.weighed (s : PackageSurvey) : List (FindingCode × Severity) :=
  s.report.diagnostics.map fun d => (d.code, d.severity)

set_option maxRecDepth 4000 in
theorem looseEndDocument_weighed :
    (surveyPackage strictConfig "p.dtsx" (Utf8.encode looseEndDocument)).weighed =
      [(.decryptionUnavailable, .info), (.dataflowUnresolvedPath, .error)] ∧
    (surveyPackage {} "p.dtsx" (Utf8.encode looseEndDocument)).weighed =
      [(.decryptionUnavailable, .warn), (.dataflowUnresolvedPath, .warn)] := by
  rw [show Utf8.encode looseEndDocument = _ from Utf8.encode_ofList _]
  decide +kernel

theorem surveys_agree_up_to_severity_looseEndDocument :
    let survey := fun config => surveyPackage config "p.dtsx" (Utf8.encode looseEndDocument)
    strictConfig.ReadsLike {} ∧
      (survey strictConfig).weighed =
        [(.decryptionUnavailable, .info), (.dataflowUnresolvedPath, .error)] ∧
      (survey {}).weighed =
        [(.decryptionUnavailable, .warn), (.dataflowUnresolvedPath, .warn)] ∧
      (survey strictConfig).AlikeUnder strictConfig {} (survey {}) := by
  have hreads : strictConfig.ReadsLike {} := ⟨rfl, rfl⟩
  obtain ⟨hstrict, hplain⟩ := looseEndDocument_weighed
  exact ⟨hreads, hstrict, hplain, surveys_agree_up_to_severity hreads "p.dtsx" _⟩

end EtlSurvey
