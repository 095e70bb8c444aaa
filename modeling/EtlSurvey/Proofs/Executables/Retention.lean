import EtlSurvey.Proofs.Executables.Tally
import EtlSurvey.Proofs.Survey.Outcome
import Mathlib.Data.List.Forall2

/-! # Leaving out executables of unknown kinds

Whether they are retained does not touch the outline, and the record of a node does not depend on
its parent. So the two lists of executables are maps over the same nodes, and the only thing to
see is the parent: the executables around a node are the ancestors of its record in the retained
list, of which the nearest supported one is taken when the others are left out. -/

namespace EtlSurvey
open Text Markup

/-- The ancestors of what has this parent, nearest first, as the parent links of a list give
them. -/
inductive Ancestry (es : List Executable) : Option String → List Executable → Prop
  | top : Ancestry es none []
  | inside {id e above} (hfind : es.find? (·.id == id) = some e)
      (habove : Ancestry es e.parentId above) : Ancestry es (some id) (e :: above)

/-- The same record, but its parent is the nearest ancestor in the list of a known kind. -/
def Reparented (es : List Executable) (e e' : Executable) : Prop :=
  ∃ above, Ancestry es e.parentId above ∧
    e' = { e with parentId := (above.find? (·.kind.isSupported)).map (·.id) }

theorem find?_id_of_mem {es : List Executable} (hids : (es.map (·.id)).Nodup) {e : Executable}
    (he : e ∈ es) : es.find? (·.id == e.id) = some e := by
  induction es with
  | nil => cases he
  | cons f rest ih =>
    rw [List.map_cons, List.nodup_cons] at hids
    obtain ⟨hnew, hrest⟩ := hids
    obtain rfl | he := List.mem_cons.mp he
    · simp
    · have hne : f.id ≠ e.id := fun heq => hnew (heq ▸ List.mem_map_of_mem he)
      rw [List.find?_cons_of_neg (by simpa using hne)]
      exact ih hrest he

section Nodes

variable (policy : RedactionPolicy) {nodes : List OutlineNode}

theorem parentId?_retained (n : OutlineNode) :
    n.parentId? true = (n.around.head?).map (·.1) := by
  rw [OutlineNode.parentId?]
  cases n.around <;> rfl

/-- The executables around a node are the ancestors of its record. -/
theorem Nested.ancestry (h : Nested [] nodes) (hids : (nodes.map (·.id)).Nodup)
    {n : OutlineNode} (hn : n ∈ nodes) :
    ∃ above, Ancestry (nodes.map (recordOf policy true)) (n.parentId? true) above ∧
      above.map (fun e => (e.id, e.kind.isSupported)) = n.around := by
  -- On how many executables are around: the nearest one is a node with one fewer around it.
  induction hlength : n.around.length generalizing n with
  | zero =>
    have haround : n.around = [] := List.eq_nil_of_length_eq_zero hlength
    rw [parentId?_retained, haround]
    exact ⟨[], .top, rfl⟩
  | succ length ih =>
    obtain haround | ⟨m, hm, haround⟩ := h.around_eq hn
    · rw [haround] at hlength
      cases hlength
    · rw [haround, List.length_cons] at hlength
      obtain ⟨above, habove, hmap⟩ := ih hm (by omega)
      have hrecords : ((nodes.map (recordOf policy true)).map (·.id)).Nodup := by
        rwa [List.map_map, id_comp_recordOf]
      have hfind := find?_id_of_mem hrecords (List.mem_map_of_mem hm)
      rw [recordOf_id] at hfind
      refine ⟨recordOf policy true m :: above, ?_, ?_⟩
      · rw [parentId?_retained, haround]
        refine .inside hfind ?_
        rwa [recordOf_parentId]
      · rw [List.map_cons, hmap, haround, recordOf_id, recordOf_kind]

theorem Nested.reparented (h : Nested [] nodes) (hids : (nodes.map (·.id)).Nodup)
    {n : OutlineNode} (hn : n ∈ nodes) :
    Reparented (nodes.map (recordOf policy true)) (recordOf policy true n)
      (recordOf policy false n) := by
  obtain ⟨above, habove, hmap⟩ := h.ancestry policy hids hn
  refine ⟨above, ?_, ?_⟩
  · rwa [recordOf_parentId]
  · have hparent : n.parentId? false = (above.find? (·.kind.isSupported)).map (·.id) := by
      rw [OutlineNode.parentId?, nearestKept?, ← hmap, List.find?_map, Option.map_map]
      rfl
    rw [← hparent]
    exact readExecutable_reparent policy (n.parentId? true) (n.parentId? false) n.toNamedExecutable

end Nodes

theorem executables_reparented (policy : RedactionPolicy) (root : Element) :
    List.Forall₂ (Reparented (readExecutables policy true root).value.executables)
      ((readExecutables policy true root).value.executables.filter (·.kind.isSupported))
      (readExecutables policy false root).value.executables := by
  have hretained : (outlineNodes (outlineOf root)).filter (·.isKept true) =
      outlineNodes (outlineOf root) := List.filter_eq_self.mpr fun n _ => n.isKept_true
  have hleftOut : (outlineNodes (outlineOf root)).filter (·.isKept false) =
      (outlineNodes (outlineOf root)).filter (·.kind.isSupported) :=
    List.filter_congr fun n _ => n.isKept_false
  have hsupported : (·.kind.isSupported) ∘ recordOf policy true = (·.kind.isSupported) := by
    funext n
    rw [Function.comp_apply, recordOf_kind]
  rw [readExecutables_eq, readExecutables_eq, hretained, hleftOut, List.filter_map, hsupported,
    List.forall₂_map_left_iff, List.forall₂_map_right_iff, List.forall₂_same]
  intro n hn
  exact (nested_outline root).reparented policy (nodup_outline_ids root) (List.mem_of_mem_filter hn)

section Classification

variable {es off : List Executable}

/-- What only an executable of a known kind can show, and whatever its parent is, shows in both
lists or in none. -/
theorem any_reparented (h : List.Forall₂ (Reparented es) (es.filter (·.kind.isSupported)) off)
    {shows : Executable → Bool} (hsupported : ∀ e, shows e → e.kind.isSupported)
    (hparent : ∀ e parentId, shows { e with parentId } = shows e) :
    off.any shows = es.any shows := by
  have hfilter : (es.filter (·.kind.isSupported)).any shows = es.any shows := by
    rw [List.any_filter]
    refine congrArg (es.any ·) (funext fun e => ?_)
    cases hshows : shows e with
    | true => rw [hsupported e hshows, Bool.and_self]
    | false => exact Bool.and_false _
  rw [← hfilter]
  generalize es.filter (·.kind.isSupported) = kept at h
  induction h with
  | nil => rfl
  | cons hreparented _ ih =>
    obtain ⟨above, -, rfl⟩ := hreparented
    rw [List.any_cons, List.any_cons, hparent, ih]

theorem isEmpty_filter_eq (es : List Executable) (p : Executable → Bool) :
    (es.filter p).isEmpty = !es.any p := by
  induction es with
  | nil => rfl
  | cons e rest ih =>
    rw [List.filter_cons, List.any_cons]
    cases p e with
    | true => rfl
    | false => exact ih

theorem isSupported_of_beq {kind other : ExecutableKind} (h : (kind == other) = true)
    (hother : other.isSupported) : kind.isSupported := by
  rwa [beq_iff_eq.mp h]

theorem isTransformationOnly_reparented (p : Package)
    (h : List.Forall₂ (Reparented p.executables) (p.executables.filter (·.kind.isSupported)) off) :
    Package.isTransformationOnly { p with executables := off } = p.isTransformationOnly := by
  have hingestion : off.any (·.kind.isIngestion) = p.executables.any (·.kind.isIngestion) := by
    refine any_reparented h (fun e he => ?_) fun _ _ => rfl
    cases hkind : e.kind <;> simp_all [ExecutableKind.isIngestion, ExecutableKind.isSupported]
  have hflows : off.any (fun e => e.kind == .dataFlow && e.components.any (·.kind.isFlatFile)) =
      p.executables.any fun e => e.kind == .dataFlow && e.components.any (·.kind.isFlatFile) := by
    refine any_reparented h (fun e he => ?_) fun _ _ => rfl
    exact isSupported_of_beq (Bool.and_eq_true_iff.mp he).1 rfl
  rw [Package.isTransformationOnly, Package.isTransformationOnly, hingestion]
  simp only [Package.dataFlows, List.any_filter, hflows]

theorem migrationMode_reparented (p : Package)
    (h : List.Forall₂ (Reparented p.executables) (p.executables.filter (·.kind.isSupported)) off) :
    Package.migrationMode { p with executables := off } = p.migrationMode := by
  have hkind : ∀ kind : ExecutableKind, kind.isSupported →
      (off.filter (·.kind == kind)).isEmpty = (p.executables.filter (·.kind == kind)).isEmpty := by
    intro kind hkind
    rw [isEmpty_filter_eq, isEmpty_filter_eq]
    exact congrArg not (any_reparented h (fun e he => isSupported_of_beq he hkind) fun _ _ => rfl)
  rw [Package.migrationMode, Package.migrationMode, isTransformationOnly_reparented p h]
  simp only [Package.dataFlows, Package.sqlTasks, hkind .dataFlow rfl, hkind .executeSql rfl]
  rfl

end Classification

/-- Two surveys of one document, with the executables of unknown kinds retained and left out. -/
structure AgreeUpToUnsupported (on off : PackageSurvey) : Prop where
  success : off.report.success = on.report.success
  executables : List.Forall₂ (Reparented on.package.executables)
    (on.package.executables.filter (·.kind.isSupported)) off.package.executables
  others : off.package = { on.package with executables := off.package.executables }
  total : off.report.summary.executablesTotal = on.report.summary.executablesTotal
  supported : off.report.summary.executablesSupported = on.report.summary.executablesSupported
  unsupported : off.report.unsupportedExecutables = on.report.unsupportedExecutables
  counted : on.report.summary.executablesTotal =
    on.report.summary.executablesSupported + on.report.unsupportedExecutables.length
  transformationOnly : off.package.isTransformationOnly = on.package.isTransformationOnly
  migrationMode : off.report.migrationMode = on.report.migrationMode

theorem AgreeUpToUnsupported.failed (config : Config) (source name : String)
    (before : List Diagnostic) (e : PackageError) :
    AgreeUpToUnsupported (.failed config source name before e)
      (.failed config source name before e) where
  success := rfl
  executables := .nil
  others := rfl
  total := rfl
  supported := rfl
  unsupported := rfl
  counted := by
    let r : PackageReport := { package := name, source }
    have hunsupported : (r.extend before).unsupportedExecutables = [] :=
      PackageReport.extend_keeps (f := (·.unsupportedExecutables)) (fun _ _ => rfl) r before
    have htotal : (r.extend before).summary.executablesTotal = 0 :=
      PackageReport.extend_keeps (f := (·.summary.executablesTotal))
        (fun r d => (r.summary.count_executables d.severity).1) r before
    have hsupported : (r.extend before).summary.executablesSupported = 0 :=
      PackageReport.extend_keeps (f := (·.summary.executablesSupported))
        (fun r d => (r.summary.count_executables d.severity).2) r before
    show (ReportSummary.count (r.extend before).summary _).executablesTotal =
      (ReportSummary.count (r.extend before).summary _).executablesSupported +
        (r.extend before).unsupportedExecutables.length
    rw [(ReportSummary.count_executables ..).1, (ReportSummary.count_executables ..).2,
      hunsupported, htotal, hsupported]
    rfl
  transformationOnly := rfl
  migrationMode := rfl

theorem readDocument_unsupported (config : Config) (policy : RedactionPolicy)
    (metadata : Metadata) (d : Document) :
    unsupportedOf (readDocument config policy metadata d).remarks =
      unsupportedTypes (outlineNodes (outlineOf d.root)) := by
  have hrecovered : unsupportedOf (foundAll (d.recovered.toList.map
      fun failure => .recovered failure.describe)).remarks = [] :=
    (recovery_finds d).unsupportedOf_eq_nil (by decide)
  have haudit : ∀ a : Audit, unsupportedOf (foundAll (auditCauses a)).remarks = [] :=
    fun a => (auditCauses_finds a).unsupportedOf_eq_nil (by decide)
  simp only [readDocument, Noted.remarks_bind, Noted.remarks_pure, unsupportedOf_append, hrecovered,
    haudit, readPackage_unsupported, List.append_nil, List.nil_append]

theorem surveyRemarks_unsupported (config : Config) (source : String) (policy : RedactionPolicy)
    (metadata : Metadata) (d : Document) :
    unsupportedOf (surveyRemarks config source policy metadata d) =
      unsupportedTypes (outlineNodes (outlineOf d.root)) := by
  have hopened : unsupportedOf (openPackage config source d).remarks = [] :=
    (openPackage_finds config source d).unsupportedOf_eq_nil (by decide)
  rw [surveyRemarks, unsupportedOf_append, hopened, readDocument_unsupported, List.nil_append]

theorem AgreeUpToUnsupported.read (config : Config) (source : String) (policy : RedactionPolicy)
    (metadata : Metadata) (d : Document) :
    AgreeUpToUnsupported
      (readSurvey { config with retainUnsupported := true } source policy metadata d)
      (readSurvey { config with retainUnsupported := false } source policy metadata d) := by
  have hexecutables := executables_reparented policy d.root
  constructor
  · rw [readSurvey_report, readSurvey_report, reportOf_success, reportOf_success]
  · exact hexecutables
  · rfl
  · rw [readSurvey_report, readSurvey_report, reportOf_total, reportOf_total]
  · rw [readSurvey_report, readSurvey_report, reportOf_supported, reportOf_supported]
  · rw [readSurvey_report, readSurvey_report, reportOf_unsupported, reportOf_unsupported,
      surveyRemarks_unsupported, surveyRemarks_unsupported]
  · rw [readSurvey_report, reportOf_total, reportOf_supported, reportOf_unsupported,
      surveyRemarks_unsupported]
    exact length_unsupportedTypes _
  · exact isTransformationOnly_reparented _ hexecutables
  · rw [readSurvey_report, readSurvey_report, reportOf_migrationMode, reportOf_migrationMode]
    exact congrArg some (migrationMode_reparented _ hexecutables)

/-- Leaving out the executables of unknown kinds takes them out of the list and moves what is
inside them up to the nearest known one; nothing else changes in the record, and the report counts
and classifies alike. -/
theorem surveys_agree_up_to_unsupported (config : Config) (source : String) (bytes : Bytes) :
    AgreeUpToUnsupported
      (surveyPackage { config with retainUnsupported := true } source bytes)
      (surveyPackage { config with retainUnsupported := false } source bytes) := by
  obtain ⟨name, before, e, hfailed⟩ | ⟨d, -, policy, metadata, hread⟩ :=
    surveyPackage_cases config source bytes
  · rw [hfailed, hfailed]
    exact .failed config source name before e
  · rw [hread, hread]
    exact .read config source policy metadata d

end EtlSurvey
