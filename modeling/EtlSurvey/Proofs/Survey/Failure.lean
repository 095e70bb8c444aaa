import EtlSurvey.Proofs.Survey.Outcome

/-! # What a fatal failure leaves

A survey fails because the document cannot be loaded or because it is encrypted as a whole. Either
is an obstacle of which the configuration takes no notice, and all that is left then follows from
it: a record of the name alone, and a report with one diagnostic. -/

namespace EtlSurvey
open Text Markup

/-- The protection level that a document declares. None, a blank one and an unknown one count as
the default. -/
def declaredLevel (root : Element) : ProtectionLevel :=
  let raw := (root.attr? "ProtectionLevel").or
    ((root.property? "ProtectionLevel").bind Element.text?)
  ((raw.bind trimmed?).bind ProtectionLevel.parse?).getD .dontSaveSensitive

/-- What keeps a document from being read, with all that is known of the document then. -/
inductive Obstacle where
  | unloadable (e : LoadError)
  | encrypted (name : Option String) (level : ProtectionLevel)
  deriving DecidableEq

def obstacle? (bytes : Bytes) : Option Obstacle :=
  match Document.parsePackage bytes with
  | .error e => some (.unloadable e)
  | .ok d =>
    if (declaredLevel d.root).isFullyEncrypted then
      some (.encrypted (d.root.attrText? "ObjectName") (declaredLevel d.root))
    else none

namespace Obstacle

/-- Name of the package: its own one if the document could be loaded and has one. -/
def name (source : String) : Obstacle → String
  | unloadable _ => fallbackName source
  | encrypted name _ => name.getD (fallbackName source)

/-- A password is missed only where one would be asked for. -/
def error (config : Config) : Obstacle → PackageError
  | unloadable e => .load e
  | encrypted _ level => .encryption ⟨level,
      if level = .encryptAllWithPassword ∧ config.password.bind nonEmpty? = none then
        "package password required"
      else "full package decryption is not implemented"⟩

end Obstacle

/-- A report that has the diagnostic of a failure and nothing else. -/
def failureReport (config : Config) (source name : String) (e : PackageError) : PackageReport :=
  let severity := config.severityOf e.code .error
  { package := name
    source
    success := false
    summary := ReportSummary.count {} severity
    diagnostics := [{
      code := e.code, severity, message := e.message, location := some ⟨source, none⟩ }] }

section Level

variable {root : Element} {fallback : String} {level : ProtectionLevel}

theorem readProtectionLevel_value (raw : Option String) : (readProtectionLevel raw).value =
    ((raw.bind trimmed?).bind ProtectionLevel.parse?).getD .dontSaveSensitive := by
  rw [readProtectionLevel]
  cases raw.bind trimmed? with
  | none => rfl
  | some text =>
    dsimp only [Option.bind_some]
    cases ProtectionLevel.parse? text <;> rfl

/-- A level that is reported as unknown counts as the default. -/
theorem readProtectionLevel_remarks {raw : Option String}
    (h : (readProtectionLevel raw).value ≠ .dontSaveSensitive) :
    (readProtectionLevel raw).remarks = [] := by
  rw [readProtectionLevel_value] at h
  cases htext : raw.bind trimmed? with
  | none =>
    rw [readProtectionLevel, htext]
    rfl
  | some text =>
    cases hlevel : ProtectionLevel.parse? text with
    | none =>
      rw [htext, Option.bind_some, hlevel] at h
      exact absurd rfl h
    | some level =>
      rw [readProtectionLevel, htext]
      simp only [hlevel]
      rfl

theorem readMetadata_level (root : Element) (fallback : String) :
    (readMetadata root fallback).value.protectionLevel = declaredLevel root :=
  readProtectionLevel_value _

theorem readMetadata_remarks (h : (declaredLevel root).isFullyEncrypted = true) :
    (readMetadata root fallback).remarks = [] := by
  show (readProtectionLevel _).remarks ++ [] = []
  rw [List.append_nil]
  refine readProtectionLevel_remarks fun hdefault => ?_
  have hlevel : (readMetadata root fallback).value.protectionLevel = .dontSaveSensitive := hdefault
  rw [← readMetadata_level root fallback, hlevel] at h
  cases h

/-- A document that is encrypted as a whole is refused, with or without a password. -/
theorem refusal?_of_fullyEncrypted (config : Config) (h : level.isFullyEncrypted = true)
    (name : Option String) :
    (RedactionPolicy.ofConfig config level).refusal?.map .encryption =
      some ((Obstacle.encrypted name level).error config) := by
  rw [RedactionPolicy.refusal?, RedactionPolicy.ofConfig, Obstacle.error]
  cases level
  case encryptAllWithPassword => cases config.password.bind nonEmpty? <;> rfl
  case encryptAllWithUserKey => rfl
  all_goals cases h

theorem refusal?_of_not_fullyEncrypted (config : Config) (h : level.isFullyEncrypted = false) :
    (RedactionPolicy.ofConfig config level).refusal? = none := by
  cases level
  case encryptAllWithPassword => cases h
  case encryptAllWithUserKey => cases h
  all_goals rfl

theorem warning?_of_fullyEncrypted (config : Config) (h : level.isFullyEncrypted = true) :
    (RedactionPolicy.ofConfig config level).warning? = none := by
  cases level
  case encryptAllWithPassword => rfl
  case encryptAllWithUserKey => rfl
  all_goals cases h

end Level

section Open

variable (config : Config) (source : String) {d : Document}

theorem openPackage_name (d : Document) : (openPackage config source d).value.1.name =
    (d.root.attrText? "ObjectName").getD (fallbackName source) :=
  rfl

theorem openPackage_refusal (d : Document) : (openPackage config source d).value.2.2 =
    (RedactionPolicy.ofConfig config (declaredLevel d.root)).refusal? := by
  rw [← readMetadata_level d.root (fallbackName source)]
  rfl

/-- Nothing is remarked on a document that is refused. -/
theorem openPackage_remarks (h : (declaredLevel d.root).isFullyEncrypted = true) :
    (openPackage config source d).remarks = [] := by
  have hwarning := warning?_of_fullyEncrypted config h
  rw [← readMetadata_level d.root (fallbackName source)] at hwarning
  show (readMetadata d.root (fallbackName source)).remarks ++
    (List.map _ (RedactionPolicy.warning? _).toList ++ []) = []
  rw [readMetadata_remarks h, hwarning]
  rfl

end Open

section Survey

variable (config : Config) (source : String) {bytes : Bytes}

theorem obstacle?_isSome_iff : (obstacle? bytes).isSome ↔
    (∃ e, Document.parsePackage bytes = .error e) ∨
      ∃ d, Document.parsePackage bytes = .ok d ∧
        (declaredLevel d.root).isFullyEncrypted = true := by
  rw [obstacle?]
  cases Document.parsePackage bytes with
  | error e => simp
  | ok d => by_cases h : (declaredLevel d.root).isFullyEncrypted = true <;> simp [h]

theorem surveyWithError_of_obstacle {o : Obstacle} (h : obstacle? bytes = some o) :
    surveyWithError config source bytes =
      (⟨.minimal (o.name source), failureReport config source (o.name source) (o.error config)⟩,
        some (o.error config)) := by
  rw [obstacle?] at h
  cases hparse : Document.parsePackage bytes with
  | error e =>
    rw [hparse] at h
    obtain rfl := Option.some.inj h
    rw [surveyWithError, hparse]
    rfl
  | ok d =>
    rw [hparse] at h
    obtain ⟨hlevel, ho⟩ := Option.ite_none_right_eq_some.mp h
    obtain rfl := Option.some.inj ho
    obtain ⟨refusal, hrefusal, herror⟩ := Option.map_eq_some_iff.mp
      (refusal?_of_fullyEncrypted config hlevel (d.root.attrText? "ObjectName"))
    rw [← openPackage_refusal config source d] at hrefusal
    have hname := openPackage_name config source d
    rcases hvalue : (openPackage config source d).value with ⟨metadata, policy, reason⟩
    rw [hvalue] at hname hrefusal
    obtain rfl : reason = some refusal := hrefusal
    have hname : metadata.name = (Obstacle.encrypted (d.root.attrText? "ObjectName")
        (declaredLevel d.root)).name source := hname
    rw [surveyWithError, hparse]
    simp only [hvalue, openPackage_remarks config source hlevel, ← herror, hname]
    rfl

theorem surveyWithError_of_clear (h : obstacle? bytes = none) :
    (surveyWithError config source bytes).2 = none ∧
      (surveyPackage config source bytes).report.success = true := by
  rw [obstacle?] at h
  cases hparse : Document.parsePackage bytes with
  | error e =>
    rw [hparse] at h
    cases h
  | ok d =>
    rw [hparse] at h
    have hlevel : (declaredLevel d.root).isFullyEncrypted = false :=
      Bool.eq_false_iff.mpr fun hlevel => by simp [hlevel] at h
    have hopened : (openPackage config source d).value.2.2 = none := by
      rw [openPackage_refusal, refusal?_of_not_fullyEncrypted config hlevel]
    refine ⟨?_, (surveyPackage_success_iff hparse).mpr hopened⟩
    rcases hvalue : (openPackage config source d).value with ⟨metadata, policy, reason⟩
    obtain rfl : reason = none := by rw [← hopened, hvalue]
    rw [surveyWithError, hparse]
    simp only [hvalue]

end Survey

/-- A survey fails exactly if there is an obstacle: the document cannot be loaded, or its level is
one of those that encrypt all of it. Then the obstacle decides what is left, the name of the
package with the one diagnostic of the error, so that two documents with the same obstacle are not
told apart. The error is the same where failures are errors; else the survey is. -/
theorem failures_leave_name (config : Config) (source : String) (bytes : Bytes) :
    ((obstacle? bytes).isSome ↔
      (∃ e, Document.parsePackage bytes = .error e) ∨
        ∃ d, Document.parsePackage bytes = .ok d ∧
          (declaredLevel d.root).isFullyEncrypted = true) ∧
    ((surveyPackage config source bytes).report.success = false ↔ (obstacle? bytes).isSome) ∧
    (∀ o, obstacle? bytes = some o →
      surveyPackage config source bytes =
        ⟨.minimal (o.name source),
          failureReport config source (o.name source) (o.error config)⟩ ∧
      trySurveyPackage config source bytes = .error (o.error config) ∧
      ∀ others, obstacle? others = some o →
        surveyPackage config source others = surveyPackage config source bytes ∧
        trySurveyPackage config source others = trySurveyPackage config source bytes) ∧
    (obstacle? bytes = none →
      trySurveyPackage config source bytes = .ok (surveyPackage config source bytes)) := by
  have hsurvey : ∀ {bytes o}, obstacle? bytes = some o →
      surveyPackage config source bytes = ⟨.minimal (o.name source),
        failureReport config source (o.name source) (o.error config)⟩ := by
    intro bytes o h
    rw [surveyPackage, surveyWithError_of_obstacle config source h]
  have htry : ∀ {bytes o}, obstacle? bytes = some o →
      trySurveyPackage config source bytes = .error (o.error config) := by
    intro bytes o h
    rw [trySurveyPackage, surveyWithError_of_obstacle config source h]
  refine ⟨obstacle?_isSome_iff, ?fails, ?left, ?clear⟩
  case fails =>
    cases h : obstacle? bytes with
    | none => simp [(surveyWithError_of_clear config source h).2]
    | some o =>
      rw [hsurvey h]
      exact iff_of_true rfl rfl
  case left =>
    intro o h
    refine ⟨hsurvey h, htry h, fun others hothers => ⟨?_, ?_⟩⟩
    · rw [hsurvey hothers, hsurvey h]
    · rw [htry hothers, htry h]
  case clear =>
    intro h
    have hnone := (surveyWithError_of_clear config source h).1
    rw [trySurveyPackage, surveyPackage]
    split
    · next s heq => rw [heq]
    · next e heq =>
      rw [heq] at hnone
      cases hnone

/-- A package that is encrypted with a password, as it says in a property by the code. -/
def sealedDocument : String :=
  "<DTS:Executable xmlns:DTS=\"www.microsoft.com/SqlServer/Dts\" DTS:ObjectName=\"Payroll\">
  <DTS:Property DTS:Name=\"ProtectionLevel\"> 3 </DTS:Property>
  <DTS:Variables><DTS:Variable DTS:ObjectName=\"Account\"/></DTS:Variables>
</DTS:Executable>"

set_option maxRecDepth 4000 in
theorem sealedDocument_obstacle : obstacle? (Utf8.encode sealedDocument) =
    some (.encrypted (some "Payroll") .encryptAllWithPassword) := by
  rw [show Utf8.encode sealedDocument = _ from Utf8.encode_ofList _]
  decide +kernel

/-- Nothing of its variable is left, and the password that is given makes no difference to that. -/
theorem failures_leave_name_sealedDocument :
    let bytes := Utf8.encode sealedDocument
    let config : Config := { password := some "secret" }
    let e : PackageError :=
      .encryption ⟨.encryptAllWithPassword, "full package decryption is not implemented"⟩
    obstacle? bytes = some (.encrypted (some "Payroll") .encryptAllWithPassword) ∧
      surveyPackage config "p.dtsx" bytes =
        ⟨.minimal "Payroll", failureReport config "p.dtsx" "Payroll" e⟩ ∧
      trySurveyPackage config "p.dtsx" bytes = .error e := by
  intro bytes config e
  obtain ⟨hsurvey, htry, -⟩ :=
    (failures_leave_name config "p.dtsx" bytes).2.2.1 _ sealedDocument_obstacle
  exact ⟨sealedDocument_obstacle, hsurvey, htry⟩

end EtlSurvey
