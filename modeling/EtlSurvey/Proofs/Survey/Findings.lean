import EtlSurvey.Proofs.Executables.Walk
import EtlSurvey.Survey.Package

/-! # Which findings each reader makes

A reader finds problems of a few codes only. Each reader is followed once, for the codes that it
uses; what it never finds can then be read off the list of its codes. -/

namespace EtlSurvey
open Text Markup

/-- A remark that goes with a finding of one of the codes, or with none. All notes are those of
causes. -/
def Remark.Within (codes : List FindingCode) : Remark → Prop
  | .note n => ∃ c : Cause, c.code ∈ codes ∧ c.note = n
  | .unsupported _ => .unsupportedExecutable ∈ codes
  | .redacted .. => True

/-- The notes of a code. -/
def Noted.notesWith (code : FindingCode) (x : Noted α) : List Note :=
  (notesOf x.remarks).filter (·.code == code)

/-- All findings are of these codes. -/
def Noted.FindsOnly (codes : List FindingCode) (x : Noted α) : Prop :=
  ∀ r ∈ x.remarks, r.Within codes

theorem unsupportedOf_append (remarks others : List Remark) :
    unsupportedOf (remarks ++ others) = unsupportedOf remarks ++ unsupportedOf others :=
  List.filterMap_append

theorem notesOf_append (remarks others : List Remark) :
    notesOf (remarks ++ others) = notesOf remarks ++ notesOf others :=
  List.filterMap_append

theorem code_mem {codes : List FindingCode} {found : FindingCode} (code : FindingCode)
    (hfound : found = code) (h : code ∈ codes) : found ∈ codes := hfound ▸ h

namespace Noted

@[simp] theorem notesWith_pure (code : FindingCode) (a : α) :
    (pure a : Noted α).notesWith code = [] := rfl

@[simp] theorem notesWith_bind (code : FindingCode) (x : Noted α) (f : α → Noted β) :
    (x >>= f).notesWith code = x.notesWith code ++ (f x.value).notesWith code := by
  rw [notesWith, remarks_bind, notesOf_append, List.filter_append, notesWith, notesWith]

theorem notesWith_foundAll (code : FindingCode) (causes : List Cause) :
    (foundAll causes).notesWith code = (causes.filter (·.code == code)).map Cause.note := by
  rw [notesWith, notesOf_foundAll, List.filter_map]
  rfl

theorem diagnosticsOf_filter (config : Config) (source : String) (x : Noted α)
    (code : FindingCode) : (diagnosticsOf config source x.remarks).filter (·.code == code) =
      (x.notesWith code).map (Note.diagnostic config source) := by
  rw [diagnosticsOf, List.filter_map]
  rfl

/-- A code is reported if there is a note of it. -/
theorem exists_diagnostic_iff (config : Config) (source : String) (x : Noted α)
    (code : FindingCode) : (∃ d ∈ diagnosticsOf config source x.remarks, d.code = code) ↔
      ∃ n, n ∈ x.notesWith code := by
  simp only [notesWith, List.mem_filter, beq_iff_eq]
  constructor
  · rintro ⟨d, hd, rfl⟩
    obtain ⟨n, hn, rfl⟩ := List.mem_map.mp hd
    exact ⟨n, hn, rfl⟩
  · rintro ⟨n, hn, rfl⟩
    exact ⟨n.diagnostic config source, List.mem_map_of_mem hn, rfl⟩

namespace FindsOnly

variable {codes others : List FindingCode}

theorem exists_cause {x : Noted α} (h : x.FindsOnly codes) {n : Note}
    (hn : n ∈ notesOf x.remarks) : ∃ c : Cause, c.code ∈ codes ∧ c.note = n := by
  obtain ⟨r, hr, hnote⟩ := List.mem_filterMap.mp hn
  cases r with
  | note m =>
    obtain rfl : m = n := Option.some.inj hnote
    exact h _ hr
  | unsupported raw => cases hnote
  | redacted owner key => cases hnote

theorem notesWith_eq_nil {x : Noted α} {code : FindingCode} (h : x.FindsOnly codes)
    (hcode : code ∉ codes) : x.notesWith code = [] := by
  refine List.filter_eq_nil_iff.mpr fun n hn heq => hcode ?_
  obtain ⟨c, hc, rfl⟩ := h.exists_cause hn
  obtain rfl : c.code = code := beq_iff_eq.mp heq
  exact hc

theorem unsupportedOf_eq_nil {x : Noted α} (h : x.FindsOnly codes)
    (hcode : .unsupportedExecutable ∉ codes) : unsupportedOf x.remarks = [] := by
  refine List.filterMap_eq_nil_iff.mpr fun r hr => ?_
  cases r with
  | unsupported raw => exact absurd (h _ hr) hcode
  | note n => rfl
  | redacted owner key => rfl

theorem mono {x : Noted α} (h : x.FindsOnly codes) (hsub : codes ⊆ others) :
    x.FindsOnly others := by
  intro r hr
  have hwithin := h r hr
  cases r with
  | note n => exact hwithin.imp fun c hc => ⟨hsub hc.1, hc.2⟩
  | unsupported raw => exact hsub hwithin
  | redacted owner key => trivial

theorem pure (a : α) : (Pure.pure a : Noted α).FindsOnly codes := fun _ hr => nomatch hr

theorem bind {x : Noted α} {f : α → Noted β} (hx : x.FindsOnly codes)
    (hf : (f x.value).FindsOnly codes) : (x >>= f).FindsOnly codes := by
  intro r hr
  obtain hr | hr := List.mem_append.mp hr
  · exact hx r hr
  · exact hf r hr

theorem note {c : Cause} (h : c.code ∈ codes) : (Noted.note c.note).FindsOnly codes := by
  intro r hr
  obtain rfl := List.mem_singleton.mp hr
  exact ⟨c, h, rfl⟩

theorem found {c : Cause} (h : c.code ∈ codes) : (EtlSurvey.found c).FindsOnly codes := note h

theorem foundAll {causes : List Cause} (h : ∀ c ∈ causes, c.code ∈ codes) :
    (EtlSurvey.foundAll causes).FindsOnly codes := by
  intro r hr
  obtain ⟨c, hc, rfl⟩ := List.mem_map.mp hr
  exact ⟨c, h c hc, rfl⟩

theorem redacted {x : Noted α} {owner : String} {keys : List String}
    (hx : x.remarks = keys.map (.redacted owner ·)) : x.FindsOnly codes := by
  intro r hr
  rw [hx] at hr
  obtain ⟨key, -, rfl⟩ := List.mem_map.mp hr
  trivial

theorem mapM {f : α → Noted β} (hf : ∀ a, (f a).FindsOnly codes) (as : List α) :
    (as.mapM f).FindsOnly codes := by
  induction as with
  | nil => exact pure []
  | cons a rest ih =>
    rw [List.mapM_cons]
    exact (hf a).bind (ih.bind (pure _))

/-- A candidate makes only such findings, and so do its record and its being repeated. -/
structure Candidate (codes : List FindingCode) (c : Noted (EtlSurvey.Candidate κ α)) : Prop where
  itself : c.FindsOnly codes
  repeated : ∀ key repeated record, c.value = .keyed key repeated record →
    ∃ cause : Cause, cause.code ∈ codes ∧ cause.note = repeated
  record : ∀ key repeated record, c.value = .keyed key repeated record → record.FindsOnly codes

theorem Candidate.dropped {c : Cause} (h : c.code ∈ codes) :
    Candidate codes (do EtlSurvey.found c; return .dropped : Noted (EtlSurvey.Candidate κ α)) where
  itself := (found h).bind (pure _)
  repeated _ _ _ hvalue := nomatch hvalue
  record _ _ _ hvalue := nomatch hvalue

theorem Candidate.keyed {key : κ} {repeated : Cause} {record : Noted α}
    (hrepeated : repeated.code ∈ codes) (hrecord : record.FindsOnly codes) :
    Candidate codes (Pure.pure (.keyed key repeated.note record)) where
  itself := pure _
  repeated _ _ _ hvalue := by
    cases hvalue
    exact ⟨repeated, hrepeated, rfl⟩
  record _ _ _ hvalue := by
    cases hvalue
    exact hrecord

theorem keepFirst [BEq κ] {seen : List κ} {candidates : List (Noted (EtlSurvey.Candidate κ α))}
    (h : ∀ c ∈ candidates, Candidate codes c) :
    (EtlSurvey.keepFirst seen candidates).FindsOnly codes := by
  induction candidates generalizing seen with
  | nil => exact pure []
  | cons c rest ih =>
    obtain ⟨hc, hrest⟩ := List.forall_mem_cons.mp h
    rw [EtlSurvey.keepFirst]
    refine hc.itself.bind ?_
    split
    · exact ih hrest
    · next key repeated record hvalue =>
      split
      · obtain ⟨cause, hcause, rfl⟩ := hc.repeated key repeated record hvalue
        exact (note hcause).bind (ih hrest)
      · exact (hc.record key repeated record hvalue).bind ((ih hrest).bind (pure _))

theorem keepFirst_map [BEq κ] {seen : List κ} {sources : List σ}
    {candidate : σ → Noted (EtlSurvey.Candidate κ α)}
    (h : ∀ s, Candidate codes (candidate s)) :
    (EtlSurvey.keepFirst seen (sources.map candidate)).FindsOnly codes := by
  refine keepFirst fun c hc => ?_
  obtain ⟨s, -, rfl⟩ := List.mem_map.mp hc
  exact h s

end FindsOnly
end Noted

open Noted (FindsOnly)

section Readers

variable (policy : RedactionPolicy)

theorem readMetadata_finds (root : Element) (fallback : String) :
    (readMetadata root fallback).FindsOnly [.unknownProtectionLevel] := by
  rw [readMetadata]
  refine FindsOnly.bind ?_ (.pure _)
  rw [readProtectionLevel]
  split
  · exact .pure _
  · split
    · exact .pure _
    · exact (FindsOnly.found List.mem_cons_self).bind (.pure _)

theorem resolve_finds : policy.resolve.FindsOnly [.decryptionUnavailable] := by
  have hwarning : (foundAll policy.warning?.toList).FindsOnly [.decryptionUnavailable] := by
    refine FindsOnly.foundAll fun c hc => ?_
    rw [Option.mem_toList, RedactionPolicy.warning?] at hc
    split at hc <;> cases hc <;> exact List.mem_cons_self
  exact hwarning

theorem readParameters_finds (root : Element) :
    (readParameters policy root).FindsOnly [.missingAttribute, .duplicateKey] := by
  unfold readParameters
  refine FindsOnly.keepFirst_map fun e => ?_
  cases e.attrText? "ObjectName" with
  | none => exact .dropped List.mem_cons_self
  | some name =>
    refine .keyed (.tail _ List.mem_cons_self) fun r hr => ?_
    rw [readParameter] at hr
    dsimp only at hr
    split at hr
    · obtain rfl := List.mem_singleton.mp hr
      trivial
    · cases hr

theorem readVariables_finds (root : Element) :
    (readVariables root).FindsOnly [.missingAttribute, .duplicateKey] := by
  unfold readVariables
  refine FindsOnly.keepFirst_map fun s => ?_
  cases s.element.attrText? "ObjectName" with
  | none => exact .dropped List.mem_cons_self
  | some name => exact .keyed (.tail _ List.mem_cons_self) (.pure _)

/-- What connections are found to have. -/
def connectionCodes : List FindingCode :=
  [.missingAttribute, .unsupportedConnection, .sensitiveDataRedacted, .duplicateKey]

/-- Of a manager that has a name it is found only that its type is unknown, and that values have
been taken out. -/
theorem readConnection_finds_of_name {owner name : String} {e : Element}
    (hname : e.attrText? "ObjectName" = some name) :
    (readConnection policy owner e).FindsOnly [.unsupportedConnection, .sensitiveDataRedacted] := by
  have hlast : ∀ (c : Prop) [Decidable c] (count : Nat) (name id : String)
      (result : Option Connection),
      (if c then do found (.redactedConnection count name id); return result
        else return result : Noted _).FindsOnly
          [.unsupportedConnection, .sensitiveDataRedacted] := by
    intro c _ count name id result
    split
    · exact (FindsOnly.found (code_mem .sensitiveDataRedacted rfl (by decide))).bind (.pure result)
    · exact .pure result
  unfold readConnection
  simp only [hname]
  split
  · refine (FindsOnly.found (code_mem .unsupportedConnection rfl (by decide))).bind ?_
    exact (FindsOnly.redacted rfl).bind ((FindsOnly.redacted rfl).bind (hlast _ _ _ _ _))
  · exact (FindsOnly.redacted rfl).bind ((FindsOnly.redacted rfl).bind (hlast _ _ _ _ _))

theorem readConnection_of_nameless {owner : String} {e : Element}
    (hname : e.attrText? "ObjectName" = none) : readConnection policy owner e = (do
      found (.namelessConnection (e.attr? "refId"))
      return none) := by
  rw [readConnection, hname]

theorem readConnection_finds (owner : String) (e : Element) :
    (readConnection policy owner e).FindsOnly connectionCodes := by
  cases hname : e.attrText? "ObjectName" with
  | none =>
    rw [readConnection_of_nameless policy hname]
    exact (FindsOnly.found (code_mem .missingAttribute rfl (by decide))).bind (.pure _)
  | some name => exact (readConnection_finds_of_name policy hname).mono (by decide)

theorem readConnections_finds (root : Element) :
    (readConnections policy root).FindsOnly connectionCodes := by
  unfold readConnections
  refine FindsOnly.keepFirst_map fun e => ?_
  have hread := readConnection_finds policy "Package.ConnectionManagers" e
  constructor
  · refine hread.bind ?_
    split <;> exact .pure _
  all_goals
    intro key repeated record hvalue
    rw [Noted.value_bind] at hvalue
    split at hvalue <;> cases hvalue
  · exact ⟨_, code_mem .duplicateKey rfl (by decide), rfl⟩
  · exact .pure _

theorem readConstraint_finds (c : Element) : (readConstraint c).FindsOnly
    [.missingAttribute, .invalidPrecedenceCondition, .missingPrecedenceExpression] := by
  unfold readConstraint
  split
  · split
    · exact (FindsOnly.found (code_mem .invalidPrecedenceCondition rfl (by decide))).bind (.pure _)
    · dsimp only
      split
      · exact (FindsOnly.found (code_mem .missingPrecedenceExpression rfl (by decide))).bind
          (.pure _)
      · exact .pure _
  · exact (FindsOnly.found (code_mem .missingAttribute rfl (by decide))).bind (.pure _)

theorem readConstraints_finds (root : Element) : (readConstraints root).FindsOnly
    [.missingAttribute, .invalidPrecedenceCondition, .missingPrecedenceExpression] :=
  (FindsOnly.mapM readConstraint_finds _).bind (.pure _)

theorem validate_finds (g : ControlFlow) :
    g.validate.FindsOnly [.unresolvedReference, .precedenceCycle, .isolatedExecutable] := by
  refine FindsOnly.foundAll fun c hc => ?_
  obtain hc | hc := List.mem_append.mp hc
  · obtain hc | hc := List.mem_append.mp hc
    · obtain ⟨id, -, rfl⟩ := List.mem_map.mp hc
      exact List.mem_cons_self
    · obtain ⟨cycle, -, rfl⟩ := List.mem_map.mp hc
      exact .tail _ List.mem_cons_self
  · split at hc
    · obtain rfl := List.mem_singleton.mp hc
      exact .tail _ (.tail _ List.mem_cons_self)
    · cases hc

theorem readExpressions_finds (root : Element) :
    (readExpressions policy root).FindsOnly [.expressionSyntax, .expressionComplex] := by
  have hcauses : ∀ scope property text, (foundAll (expressionCauses scope property text)).FindsOnly
      [.expressionSyntax, .expressionComplex] := by
    refine fun scope property text => FindsOnly.foundAll fun c hc => ?_
    obtain hc | hc := List.mem_append.mp hc
    · obtain ⟨issue, -, rfl⟩ := List.mem_map.mp hc
      exact List.mem_cons_self
    · split at hc
      · obtain rfl := List.mem_singleton.mp hc
        exact .tail _ List.mem_cons_self
      · cases hc
  exact FindsOnly.mapM (fun ⟨scope, property, text⟩ => hcauses scope property _) _

theorem readComponents_finds (taskId : String) (elements : List Element) :
    (readComponents taskId elements).FindsOnly
      [.missingAttribute, .unsupportedComponent, .duplicateKey] := by
  unfold readComponents
  refine FindsOnly.keepFirst_map fun e => ?_
  cases elementId? e with
  | none => exact .dropped (code_mem .missingAttribute rfl (by decide))
  | some id =>
    simp only
    split
    · exact .dropped (code_mem .unsupportedComponent rfl (by decide))
    · exact .keyed (code_mem .duplicateKey rfl (by decide)) (.pure _)

theorem startCauses_code {producers : List (String × String)} {p : FlowPath} {c : Cause}
    (h : c ∈ startCauses producers p) :
    c.code ∈ [.dataflowFanIn, .dataflowUnresolvedPath] := by
  rw [startCauses] at h
  split at h
  · obtain rfl := List.mem_singleton.mp h
    exact .tail _ List.mem_cons_self
  · split at h
    · split at h
      · obtain rfl := List.mem_singleton.mp h
        exact List.mem_cons_self
      · cases h
    · cases h

theorem endCauses_code {p : FlowPath} {c : Cause} (h : c ∈ endCauses p) :
    c.code = .dataflowUnresolvedPath := by
  rw [endCauses] at h
  split at h
  · obtain rfl := List.mem_singleton.mp h
    rfl
  · cases h

theorem readPaths_finds (taskId : String) (ids : List String)
    (producers : List (String × String)) (elements : List Element) :
    (readPaths taskId ids producers elements).FindsOnly
      [.missingAttribute, .dataflowFanIn, .dataflowUnresolvedPath] := by
  induction elements generalizing producers with
  | nil => exact .pure _
  | cons e rest ih =>
    rw [readPaths]
    split
    · exact (FindsOnly.found (code_mem .missingAttribute rfl (by decide))).bind (ih producers)
    · refine (FindsOnly.foundAll fun c hc => ?_).bind ((ih _).bind (.pure _))
      obtain hc | hc := List.mem_append.mp hc
      · exact .tail _ (startCauses_code hc)
      · exact code_mem .dataflowUnresolvedPath (endCauses_code hc) (by decide)

/-- What the content of an executable is found to have. -/
def contentCodes : List FindingCode :=
  [.missingAttribute, .duplicateKey, .unsupportedComponent, .dataflowMissingPipeline,
    .dataflowFanIn, .dataflowUnresolvedPath, .dataflowUnwiredInput]

theorem unwiredInputs_code {components : List Component} {c : Cause}
    (h : c ∈ unwiredInputs components) : c.code = .dataflowUnwiredInput := by
  obtain ⟨component, -, hc⟩ := List.mem_flatMap.mp h
  obtain ⟨input, -, rfl⟩ := List.mem_map.mp hc
  rfl

theorem readPipeline_finds (taskId : String) (pipeline : Element) :
    (readPipeline taskId pipeline).FindsOnly contentCodes := by
  refine ((readComponents_finds _ _).mono (by decide)).bind ?_
  refine ((readPaths_finds _ _ _ _).mono (by decide)).bind ?_
  refine (FindsOnly.foundAll fun c hc => ?_).bind (.pure _)
  exact code_mem .dataflowUnwiredInput (unwiredInputs_code hc) (by decide)

theorem readKind_finds (d : Draft) (e : Element) : (d.readKind e).FindsOnly contentCodes := by
  rw [Draft.readKind]
  split
  · rw [Draft.readSqlTask]
    split
    · exact (FindsOnly.found (code_mem .missingAttribute rfl (by decide))).bind (.pure _)
    · exact .pure _
  · rw [Draft.readDataFlow]
    split
    · exact (FindsOnly.found (code_mem .dataflowMissingPipeline rfl (by decide))).bind (.pure _)
    · exact (readPipeline_finds _ _).bind (.pure _)
  all_goals exact .pure _

theorem readExecutable_finds (parentId : Option String) (n : NamedExecutable) :
    (readExecutable policy parentId n).FindsOnly contentCodes :=
  (readKind_finds _ _).bind ((FindsOnly.redacted rfl).bind (.pure _))

/-- What executables are found to have. -/
def executableCodes : List FindingCode := .unsupportedExecutable :: contentCodes

theorem readNode_finds (retain : Bool) (n : OutlineNode) :
    (readNode policy retain n).FindsOnly executableCodes := by
  have hrecord : (readExecutable policy (n.parentId? retain) n.toNamedExecutable).FindsOnly
      executableCodes :=
    (readExecutable_finds policy _ n.toNamedExecutable).mono (List.subset_cons_self _ _)
  have hremark : (Noted.remark (.unsupported n.typeName)).FindsOnly executableCodes := by
    intro r hr
    obtain rfl := List.mem_singleton.mp hr
    exact List.mem_cons_self
  rw [readNode]
  split
  · refine (FindsOnly.found List.mem_cons_self).bind (hremark.bind ?_)
    split
    · exact .pure _
    · exact hrecord.bind (.pure _)
  · exact hrecord.bind (.pure _)

theorem Walks.note_code {p : Position} {listed : Bool} {seen seen' : List String} {f : Forest}
    {steps : List OutlineStep} (h : Walks p listed seen f steps seen') {c : Cause}
    (hc : .note c ∈ steps) : c.code ∈ [.missingAttribute, .duplicateKey] := by
  induction h with
  | done => cases hc
  | pass _ _ _ ih => exact ih hc
  | nameless _ _ _ ih =>
    obtain hc | hc := List.mem_cons.mp hc
    · cases hc
      exact List.mem_cons_self
    · exact ih hc
  | repeated _ _ _ _ ih =>
    obtain hc | hc := List.mem_cons.mp hc
    · cases hc
      exact .tail _ List.mem_cons_self
    · exact ih hc
  | visited _ _ _ _ _ ihBelow ihNext =>
    obtain hc | hc := List.mem_cons.mp hc
    · cases hc
    · exact (List.mem_append.mp hc).elim ihBelow ihNext
  | list _ _ _ ihBelow ihNext => exact (List.mem_append.mp hc).elim ihBelow ihNext

theorem readSteps_finds (retain : Bool) {steps : List OutlineStep}
    (h : ∀ c, .note c ∈ steps → c.code ∈ [.missingAttribute, .duplicateKey]) :
    (readSteps policy retain steps).FindsOnly executableCodes := by
  induction steps with
  | nil => exact .pure _
  | cons step rest ih =>
    have hrest := ih fun c hc => h c (.tail _ hc)
    cases step with
    | note c =>
      have hsub : [.missingAttribute, .duplicateKey] ⊆ executableCodes := by decide
      exact (FindsOnly.found (hsub (h c List.mem_cons_self))).bind hrest
    | node n => exact (readNode_finds policy retain n).bind (hrest.bind (.pure _))

theorem readExecutables_finds (retain : Bool) (root : Element) :
    (readExecutables policy retain root).FindsOnly executableCodes := by
  obtain ⟨seen, hwalk⟩ := walks_outlineOf root
  rw [readExecutables_eq_readSteps]
  exact (readSteps_finds policy retain fun c => hwalk.note_code).bind (.pure _)

end Readers

/-- What the parts of a survey find that come before and after the package is read. -/
theorem openPackage_finds (config : Config) (source : String) (d : Document) :
    (openPackage config source d).FindsOnly
      [.unknownProtectionLevel, .decryptionUnavailable] := by
  refine ((readMetadata_finds _ _).mono (by decide)).bind ?_
  exact ((resolve_finds _).mono (by decide)).bind (.pure _)

theorem recovery_finds (d : Document) :
    (foundAll (d.recovered.toList.map fun failure => .recovered failure.describe)).FindsOnly
      [.documentRecovered] := by
  refine FindsOnly.foundAll fun c hc => ?_
  obtain ⟨failure, -, rfl⟩ := List.mem_map.mp hc
  exact List.mem_cons_self

theorem auditCauses_finds (a : Audit) :
    (foundAll (auditCauses a)).FindsOnly [.hardcodedCredentials, .info] := by
  refine FindsOnly.foundAll fun c hc => ?_
  obtain hc | hc := List.mem_append.mp hc
  · obtain ⟨id, -, rfl⟩ := List.mem_map.mp hc
    exact List.mem_cons_self
  · obtain ⟨text, -, rfl⟩ := List.mem_map.mp hc
    exact .tail _ List.mem_cons_self

end EtlSurvey
