import EtlSurvey.Proofs.Pipeline.Wiring

/-! # Paths and the owners of their ends

The owner of an end is looked for among all components that have an id, those that are left out
included. Paths are joined to components that are kept only; what they are joined by is not the end
as it is written but, in effect, the id of its owner: an owner that is kept gets the path, and the
path of an owner that is left out goes to the longest id that leads to this owner, if there is
one. -/

namespace EtlSurvey
open Text Markup

theorem LeadsTo.trans {id other pathEnd : String} (h : LeadsTo id other)
    (hother : LeadsTo other pathEnd) : LeadsTo id pathEnd := by
  refine List.IsPrefix.trans h (List.IsPrefix.trans ?_ hother)
  rw [String.toList_append]
  exact List.prefix_append _ _

/-- Of two ids that lead to one end, the shorter leads to the longer. -/
theorem LeadsTo.of_length_lt {id other pathEnd : String} (h : LeadsTo id pathEnd)
    (hother : LeadsTo other pathEnd) (hlength : id.length < other.length) :
    LeadsTo id other := by
  have hprefix : other.toList <+: pathEnd.toList := by
    refine List.IsPrefix.trans ?_ hother
    rw [String.toList_append]
    exact List.prefix_append _ _
  refine List.prefix_of_prefix_length_le h hprefix ?_
  simp only [String.length_toList, String.length_append]
  exact hlength

theorem exists_belongsTo {ids : List String} {pathEnd id : String} (hid : id ∈ ids)
    (hend : pathEnd = id ∨ LeadsTo id pathEnd) : ∃ owner, BelongsTo ids pathEnd owner := by
  by_contra hnone
  rw [not_exists, ← resolveEnd_eq_none_iff, resolveEnd] at hnone
  split at hnone
  · cases hnone
  · next hself =>
    obtain rfl | hleads := hend
    · exact hself (List.contains_iff_mem.mpr hid)
    · have hmem := mem_leading.mpr ⟨hid, hleads⟩
      rw [picks_longer.eq_nil hnone] at hmem
      cases hmem

/-- An end has no owner exactly if it is no id and none leads to it. -/
theorem resolveEnd_eq_none_iff_forall {ids : List String} {pathEnd : String} :
    resolveEnd ids pathEnd = none ↔ ∀ id ∈ ids, pathEnd ≠ id ∧ ¬ LeadsTo id pathEnd := by
  rw [resolveEnd_eq_none_iff]
  constructor
  · intro hnone id hid
    rw [← not_or]
    intro hend
    obtain ⟨owner, howner⟩ := exists_belongsTo hid hend
    exact hnone owner howner
  · rintro h id ⟨hid, hend⟩
    exact not_or.mpr (h id hid) (hend.imp_right (·.2.1))

namespace BelongsTo

variable {ids kept : List String} {pathEnd owner id : String}

theorem unique (h : BelongsTo ids pathEnd owner) (hid : BelongsTo ids pathEnd id) : owner = id :=
  Option.some.inj ((resolveEnd_eq_some_iff.mpr h).symm.trans (resolveEnd_eq_some_iff.mpr hid))

theorem self (h : id ∈ ids) : BelongsTo ids id id := ⟨h, .inl rfl⟩

theorem eq_or_leadsTo (h : BelongsTo ids pathEnd owner) :
    pathEnd = owner ∨ LeadsTo owner pathEnd :=
  h.2.imp_right (·.2.1)

/-- An end that is an id itself has no other owner. -/
theorem eq_of_mem (h : BelongsTo ids pathEnd owner) (hend : pathEnd ∈ ids) : pathEnd = owner :=
  h.2.resolve_right fun hother => hother.1 hend

/-- An owner stays the owner where fewer ids are looked at. -/
theorem restrict (h : BelongsTo ids pathEnd owner) (hsub : kept ⊆ ids) (howner : owner ∈ kept) :
    BelongsTo kept pathEnd owner := by
  refine ⟨howner, h.2.imp_right ?_⟩
  rintro ⟨hself, hleads, hlongest⟩
  exact ⟨fun hmem => hself (hsub hmem), hleads, fun other hother => hlongest other (hsub hother)⟩

/-- Another id that leads to the end leads to its owner. -/
theorem leadsTo_owner (h : BelongsTo ids pathEnd owner) (hid : id ∈ ids) (hne : id ≠ owner)
    (hleads : LeadsTo id pathEnd) : LeadsTo id owner := by
  obtain rfl | ⟨-, howner, hlongest⟩ := h.2
  · exact hleads
  · have hle := hlongest id hid hleads
    exact hleads.of_length_lt howner
      (Nat.lt_of_le_of_ne hle fun heq => hne (hleads.eq_of_length_eq howner heq))

theorem leadsTo_end (h : BelongsTo ids pathEnd owner) (hleads : LeadsTo id owner) :
    LeadsTo id pathEnd := by
  obtain rfl | howner := h.eq_or_leadsTo
  · exact hleads
  · exact hleads.trans howner

/-- Among fewer ids, an end belongs to whatever its owner's id belongs to. -/
theorem narrow (h : BelongsTo ids pathEnd owner) (hsub : kept ⊆ ids) :
    BelongsTo kept pathEnd id ↔ BelongsTo kept owner id := by
  by_cases howner : owner ∈ kept
  · constructor
    · intro hid
      exact (h.restrict hsub howner).unique hid ▸ self howner
    · intro hid
      exact (self howner).unique hid ▸ h.restrict hsub howner
  -- The owner is left out, so the end is no id of those that are kept.
  have hself : pathEnd ∉ kept := fun hmem => howner (h.eq_of_mem (hsub hmem) ▸ hmem)
  have hleads : ∀ other ∈ kept, LeadsTo other pathEnd ↔ LeadsTo other owner :=
    fun other hother => ⟨h.leadsTo_owner (hsub hother) fun heq => howner (heq ▸ hother),
      h.leadsTo_end⟩
  constructor
  · rintro ⟨hid, rfl | ⟨-, hlead, hlongest⟩⟩
    · exact absurd hid hself
    · exact ⟨hid, .inr ⟨howner, (hleads id hid).mp hlead,
        fun other hother hlead => hlongest other hother ((hleads other hother).mpr hlead)⟩⟩
  · rintro ⟨hid, rfl | ⟨-, hlead, hlongest⟩⟩
    · exact absurd hid howner
    · exact ⟨hid, .inr ⟨hself, (hleads id hid).mpr hlead,
        fun other hother hlead => hlongest other hother ((hleads other hother).mp hlead)⟩⟩

end BelongsTo

/-- What belongs to one of fewer ids has an owner among all of them. -/
theorem belongsTo_iff_exists_owner {ids kept : List String} (hsub : kept ⊆ ids)
    {pathEnd id : String} : BelongsTo kept pathEnd id ↔
      ∃ owner, BelongsTo ids pathEnd owner ∧ BelongsTo kept owner id := by
  constructor
  · intro h
    obtain ⟨owner, howner⟩ := exists_belongsTo (hsub h.1) h.eq_or_leadsTo
    exact ⟨owner, howner, (howner.narrow hsub).mp h⟩
  · rintro ⟨owner, howner, h⟩
    exact (howner.narrow hsub).mpr h

/-- Ids of the component elements that have one, whether the components are kept or not. -/
def identifiedIds (pipeline : Element) : List String :=
  (componentElements pipeline).filterMap elementId?

theorem componentIds_subset (taskId : String) (pipeline : Element) :
    componentIds taskId pipeline ⊆ identifiedIds pipeline := by
  intro id hid
  obtain ⟨c, hc, rfl⟩ := List.mem_map.mp hid
  obtain ⟨e, he, key, repeated, record, hvalue, rfl⟩ := mem_keepFirst hc
  refine List.mem_filterMap.mpr ⟨e, he, ?_⟩
  cases hid : elementId? e with
  | none =>
    rw [hid] at hvalue
    cases hvalue
  | some id =>
    simp only [hid] at hvalue
    split at hvalue
    · cases hvalue
    · obtain ⟨rfl, -, rfl⟩ := Candidate.keyed.inj hvalue
      rw [Noted.value_pure, readComponent_id]

/-- The two ends of a path. -/
inductive PathSide where
  | start
  | finish

namespace PathSide

/-- The attribute that an end is written in. -/
def attrName : PathSide → String
  | start => "startId"
  | finish => "endId"

/-- The list of a component that paths with such an end are added to. -/
def joined : PathSide → Component → List String
  | start => Component.outputs
  | finish => Component.inputs

/-- The finding about an end that no component was found for. -/
def unresolved : PathSide → String → Option String → Cause
  | start => .unresolvedStart
  | finish => .unresolvedEnd

/-- The component that the reader finds for an end. -/
def found? : PathSide → FlowPath → Option String
  | start => FlowPath.start
  | finish => FlowPath.finish

theorem found?_ofElement (side : PathSide) (ids : List String) (id : String) (e : Element) :
    side.found? (.ofElement ids id e) = (e.attrText? side.attrName).bind (resolveEnd ids) := by
  cases side <;> rfl

theorem unresolved_mem_pathCauses (side : PathSide) {ids : List String} {path : String}
    {e : Element} (producers : List (String × String)) {paths : List FlowPath}
    (h : FlowPath.ofElement ids path e ∈ paths)
    (hnone : side.found? (.ofElement ids path e) = none) :
    side.unresolved path (e.attr? side.attrName) ∈ pathCauses producers paths := by
  induction paths generalizing producers with
  | nil => cases h
  | cons p rest ih =>
    obtain rfl | h := List.mem_cons.mp h
    · refine List.mem_append_left _ ?_
      cases side with
      | start =>
        have hstart : (FlowPath.ofElement ids path e).start = none := hnone
        refine List.mem_append_left _ ?_
        rw [startCauses, hstart]
        exact List.mem_singleton_self _
      | finish =>
        have hfinish : (FlowPath.ofElement ids path e).finish = none := hnone
        refine List.mem_append_right _ ?_
        rw [endCauses, hfinish]
        exact List.mem_singleton_self _
    · exact List.mem_append_right _ (ih _ h)

end PathSide

section Pipeline

variable (taskId : String) (pipeline : Element) (config : Config) (source : String)

theorem pathDiagnostic_mem {c : Cause} (hc : c ∈ pathCauses [] (pipelinePaths taskId pipeline))
    (hcode : c.code = .dataflowUnresolvedPath) : c.note.diagnostic config source ∈
      diagnosticsOf config source (readPipeline taskId pipeline).remarks := by
  have hnote : c.note ∈ (readPipeline taskId pipeline).notesWith .dataflowUnresolvedPath := by
    rw [readPipeline_notesWith taskId pipeline (by decide)]
    refine List.mem_map_of_mem (List.mem_filter.mpr ⟨List.mem_append_left _ hc, ?_⟩)
    rw [hcode]
    rfl
  exact List.mem_map_of_mem (List.mem_filter.mp hnote).1

/-- A path element of this id has an end with this owner among all components. -/
def PathSide.Owned (side : PathSide) (e : Element) (path owner : String) : Prop :=
  e ∈ pipeline.descendantsLocal "path" ∧ elementId? e = some path ∧
    ∃ pathEnd, e.attrText? side.attrName = some pathEnd ∧
      BelongsTo (identifiedIds pipeline) pathEnd owner

/-- How paths are joined to the components that are kept. To belong to the owner's id among these
is to be the owner, or else, if the owner is left out, to be the longest id that leads to it. -/
structure JoinedByOwners (components : List Component) (diagnostics : List Diagnostic) :
    Prop where
  mem_joined : ∀ side : PathSide, ∀ c ∈ components, ∀ path, path ∈ side.joined c ↔
    ∃ e owner, side.Owned pipeline e path owner ∧ BelongsTo (components.map (·.id)) owner c.id
  reported : ∀ side : PathSide, ∀ e path owner, side.Owned pipeline e path owner →
    (∀ id, ¬ BelongsTo (components.map (·.id)) owner id) →
    (side.unresolved path (e.attr? side.attrName)).note.diagnostic config source ∈ diagnostics

/-- Paths are joined to the owners of their ends and to nothing else; where an owner is left out
the end is reported. -/
structure JoinedToOwners (components : List Component) (diagnostics : List Diagnostic) :
    Prop where
  mem_joined : ∀ side : PathSide, ∀ c ∈ components, ∀ path, path ∈ side.joined c ↔
    ∃ e, side.Owned pipeline e path c.id
  reported : ∀ side : PathSide, ∀ e path owner, side.Owned pipeline e path owner →
    owner ∉ components.map (·.id) →
    (side.unresolved path (e.attr? side.attrName)).note.diagnostic config source ∈ diagnostics

theorem readPipeline_joinedByOwners : JoinedByOwners pipeline config source
    (readPipeline taskId pipeline).value
    (diagnosticsOf config source (readPipeline taskId pipeline).remarks) := by
  have hsub := componentIds_subset taskId pipeline
  constructor
  case mem_joined =>
    intro side c hc path
    have hwired := readPipeline_wiredExactly taskId pipeline config source
    have hjoined : path ∈ side.joined c ↔
        PathAt (componentIds taskId pipeline) pipeline side.attrName path c.id := by
      rw [← readPipeline_ids]
      cases side with
      | start => exact hwired.mem_outputs c hc path
      | finish => exact hwired.mem_inputs c hc path
    rw [hjoined, readPipeline_ids]
    constructor
    · rintro ⟨e, he, hid, pathEnd, hend, hbelongs⟩
      obtain ⟨owner, howner, hbelongs⟩ := (belongsTo_iff_exists_owner hsub).mp hbelongs
      exact ⟨e, owner, ⟨he, hid, pathEnd, hend, howner⟩, hbelongs⟩
    · rintro ⟨e, owner, ⟨he, hid, pathEnd, hend, howner⟩, hbelongs⟩
      exact ⟨e, he, hid, pathEnd, hend, (howner.narrow hsub).mpr hbelongs⟩
  case reported =>
    rintro side e path owner ⟨he, hid, pathEnd, hend, howner⟩ hnone
    rw [readPipeline_ids] at hnone
    refine pathDiagnostic_mem taskId pipeline config source
      (side.unresolved_mem_pathCauses [] (mem_flowPaths.mpr ⟨e, he, path, hid, rfl⟩) ?_) ?_
    · rw [PathSide.found?_ofElement, hend]
      refine resolveEnd_eq_none_iff.mpr fun id hkept => ?_
      exact hnone id ((howner.narrow hsub).mp hkept)
    · cases side <;> rfl

/-- Where no id of a component leads to an owner that is left out, owners are all that counts. -/
theorem JoinedByOwners.toOwners {pipeline : Element} {config : Config} {source : String}
    {components : List Component} {diagnostics : List Diagnostic}
    (h : JoinedByOwners pipeline config source components diagnostics)
    (hapart : ∀ side : PathSide, ∀ e path owner, side.Owned pipeline e path owner →
      owner ∉ components.map (·.id) → ∀ c ∈ components, ¬ LeadsTo c.id owner) :
    JoinedToOwners pipeline config source components diagnostics := by
  constructor
  case mem_joined =>
    intro side c hc path
    rw [h.mem_joined side c hc path]
    constructor
    · rintro ⟨e, owner, howned, -, rfl | ⟨hleft, hleads, -⟩⟩
      · exact ⟨e, howned⟩
      · exact absurd hleads (hapart side e path owner howned hleft c hc)
    · rintro ⟨e, howned⟩
      exact ⟨e, c.id, howned, .self (List.mem_map_of_mem hc)⟩
  case reported =>
    intro side e path owner howned hleft
    refine h.reported side e path owner howned ?_
    rintro id ⟨hid, rfl | ⟨-, hleads, -⟩⟩
    · exact hleft hid
    · obtain ⟨c, hc, rfl⟩ := List.mem_map.mp hid
      exact hapart side e path owner howned hleft c hc hleads

/-- The paths of a pipeline are joined by the owners of their ends: to these alone, unless an owner
is left out and the id of a component leads to it. -/
theorem paths_joined_by_owners :
    let components := (readPipeline taskId pipeline).value
    let diagnostics := diagnosticsOf config source (readPipeline taskId pipeline).remarks
    JoinedByOwners pipeline config source components diagnostics ∧
    ((∀ side : PathSide, ∀ e path owner, side.Owned pipeline e path owner →
        owner ∉ components.map (·.id) → ∀ c ∈ components, ¬ LeadsTo c.id owner) →
      JoinedToOwners pipeline config source components diagnostics) := by
  have hjoined := readPipeline_joinedByOwners taskId pipeline config source
  exact ⟨hjoined, hjoined.toOwners⟩

end Pipeline

/-- A path starts at a component of an unknown class, and the id of its source begins with that of
another component. -/
def auditedDocument : String :=
  "<DTS:Executable xmlns:DTS=\"www.microsoft.com/SqlServer/Dts\" DTS:refId=\"Package\"
    DTS:ObjectName=\"Sales\">
  <DTS:Executables>
    <DTS:Executable DTS:refId=\"Package\\Flow\" DTS:ObjectName=\"Flow\"
        DTS:ExecutableType=\"Microsoft.Pipeline\">
      <DTS:ObjectData><pipeline>
        <components>
          <component refId=\"Orders\" componentClassID=\"Microsoft.OLEDBSource\"/>
          <component refId=\"Orders.Audit\" componentClassID=\"Contoso.Audit\"/>
          <component refId=\"Target\" componentClassID=\"Microsoft.OLEDBDestination\"/>
        </components>
        <paths>
          <path refId=\"Audited\" startId=\"Orders.Audit.Outputs[Rows]\"
            endId=\"Target.Inputs[In]\"/>
        </paths>
      </pipeline></DTS:ObjectData>
    </DTS:Executable>
  </DTS:Executables>
</DTS:Executable>"

/-- Components with their outputs, and the paths with the owners of their starts. -/
def outputsAndOwners (pipeline : Element) :
    List (String × List String) × List (String × Option String) :=
  ((readPipeline "Package\\Flow" pipeline).value.map fun c => (c.id, c.outputs),
    (flowPaths (identifiedIds pipeline) (pipeline.descendantsLocal "path")).map
      fun p => (p.id, p.start))

set_option maxRecDepth 4000 in
theorem auditedDocument_outputsAndOwners :
    ∃ d, Document.parsePackage (Utf8.encode auditedDocument) = .ok d ∧
      (d.root.descendantsLocal "pipeline").map outputsAndOwners =
        [([("Orders", ["Audited"]), ("Target", [])], [("Audited", some "Orders.Audit")])] := by
  have hread : (match Document.parsePackage (Utf8.encode auditedDocument) with
      | .ok d => (d.root.descendantsLocal "pipeline").map outputsAndOwners
      | .error _ => []) =
        [([("Orders", ["Audited"]), ("Target", [])], [("Audited", some "Orders.Audit")])] := by
    rw [show Utf8.encode auditedDocument = _ from Utf8.encode_ofList _]
    decide +kernel
  split at hread
  · next d hparse => exact ⟨d, hparse, hread⟩
  · cases hread

/-- The path of the component that is left out becomes an output of another one. -/
theorem audited_path_not_joinedToOwners :
    ∃ d, Document.parsePackage (Utf8.encode auditedDocument) = .ok d ∧
      ∃ pipeline ∈ d.root.descendantsLocal "pipeline",
        ¬ JoinedToOwners pipeline {} "p.dtsx" (readPipeline "Package\\Flow" pipeline).value
          (diagnosticsOf {} "p.dtsx" (readPipeline "Package\\Flow" pipeline).remarks) := by
  obtain ⟨d, hparse, hread⟩ := auditedDocument_outputsAndOwners
  obtain ⟨pipeline, hpipeline, hboth⟩ := List.mem_map.mp (hread ▸ List.mem_cons_self)
  obtain ⟨houtputs, howners⟩ := Prod.mk.inj hboth
  obtain ⟨c, hc, houtput⟩ := List.mem_map.mp (houtputs ▸ List.mem_cons_self)
  obtain ⟨hid, houtput⟩ := Prod.mk.inj houtput
  refine ⟨d, hparse, pipeline, hpipeline, fun hjoined => ?_⟩
  have hpath : "Audited" ∈ c.outputs := houtput ▸ List.mem_cons_self
  obtain ⟨e, he, hpathId, hend⟩ := (hjoined.mem_joined .start c hc "Audited").mp hpath
  -- The one path has another owner.
  obtain ⟨p, hp, -, hstart⟩ :=
    (exists_flowPath_iff (f := FlowPath.start) fun _ _ => rfl).mp ⟨e, he, hpathId, hend⟩
  have howner := List.mem_map_of_mem hp (f := fun p => (p.id, p.start))
  rw [howners, List.mem_singleton, hstart, hid] at howner
  exact absurd (Prod.mk.inj howner).2 (by decide)

end EtlSurvey
