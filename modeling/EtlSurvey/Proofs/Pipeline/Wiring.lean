import EtlSurvey.Proofs.Pipeline.Resolution
import EtlSurvey.Proofs.Survey.Findings
import EtlSurvey.Proofs.Survey.FirstOfKey
import Mathlib.Logic.ExistsUnique

/-! # How the components of a pipeline are wired

The outputs and inputs of the components are what the paths of the pipeline say, each path counted
once. The check for a second producer remembers only the first one of each path; still it finds all
paths with more than one, since two that differ cannot both be the first. -/

namespace EtlSurvey
open Markup

section Paths

/-- The paths of a pipeline that have an id. -/
def flowPaths (ids : List String) (elements : List Element) : List FlowPath :=
  elements.filterMap fun e => (elementId? e).map (FlowPath.ofElement ids · e)

theorem readPaths_value (taskId : String) (ids : List String)
    (producers : List (String × String)) (elements : List Element) :
    (readPaths taskId ids producers elements).value = flowPaths ids elements := by
  induction elements generalizing producers with
  | nil => rfl
  | cons e rest ih =>
    rw [readPaths, flowPaths, List.filterMap_cons]
    cases elementId? e with
    | none => exact ih producers
    | some id => exact congrArg (FlowPath.ofElement ids id e :: ·) (ih _)

/-- What is found at paths, in order. -/
def pathCauses (producers : List (String × String)) : List FlowPath → List Cause
  | [] => []
  | p :: rest =>
    startCauses producers p ++ endCauses p ++ pathCauses (addProducer producers p) rest

/-- Apart from paths without an id, what is found are the findings at the paths. -/
theorem readPaths_notesWith {code : FindingCode} (hcode : code ≠ .missingAttribute)
    (taskId : String) (ids : List String) (producers : List (String × String))
    (elements : List Element) :
    (readPaths taskId ids producers elements).notesWith code =
      ((pathCauses producers (flowPaths ids elements)).filter (·.code == code)).map
        Cause.note := by
  induction elements generalizing producers with
  | nil => rfl
  | cons e rest ih =>
    rw [readPaths, flowPaths, List.filterMap_cons]
    cases elementId? e with
    | none =>
      have hnone : (found (.namelessPath taskId)).notesWith code = [] := by
        refine (Noted.FindsOnly.found (List.mem_singleton_self _)).notesWith_eq_nil ?_
        exact fun hmem => hcode (List.mem_singleton.mp hmem)
      rw [Noted.notesWith_bind, hnone]
      exact ih producers
    | some id =>
      simp only [Noted.notesWith_bind, Noted.notesWith_pure, Noted.notesWith_foundAll, ih,
        List.append_nil, Option.map_some, pathCauses, List.filter_append, List.map_append]
      rfl

end Paths

section FanIn

/-- A component is the producer of a path so far, or the start of one of these paths. -/
def Produces (producers : List (String × String)) (paths : List FlowPath) (path id : String) :
    Prop :=
  producers.lookup path = some id ∨ ∃ p ∈ paths, p.id = path ∧ p.start = some id

theorem produces_cons {producers : List (String × String)} {p : FlowPath} {rest : List FlowPath}
    {path id : String} : Produces producers (p :: rest) path id ↔
      Produces producers rest path id ∨ p.id = path ∧ p.start = some id := by
  rw [Produces, Produces, List.exists_mem_cons_iff, or_assoc]
  exact or_congr_right or_comm

/-- A path is reported, and then its id has had another start; or with it the paths have the same
producers as without it. -/
theorem startCauses_cases (producers : List (String × String)) (p : FlowPath) :
    (∃ first start, producers.lookup p.id = some first ∧ p.start = some start ∧ first ≠ start ∧
      startCauses producers p = [.fanIn p.id first start]) ∨
    (∀ c ∈ startCauses producers p, c.code ≠ .dataflowFanIn) ∧
      ∀ rest path id, Produces (addProducer producers p) rest path id ↔
        Produces producers (p :: rest) path id := by
  cases hstart : p.start with
  | none =>
    refine .inr ⟨fun c hc => ?_, fun rest path id => ?_⟩
    · rw [startCauses, hstart] at hc
      obtain rfl := List.mem_singleton.mp hc
      intro hcode
      cases hcode
    · rw [produces_cons, addProducer, hstart]
      refine (or_iff_left ?_).symm
      rintro ⟨-, hnone⟩
      cases hnone
  | some start =>
    cases hlookup : producers.lookup p.id with
    | none =>
      refine .inr ⟨fun c hc => ?_, fun rest path id => ?_⟩
      · rw [startCauses, hstart] at hc
        simp only [hlookup] at hc
        cases hc
      · rw [produces_cons, addProducer, hstart]
        simp only [hlookup, Option.isSome_none, Bool.false_eq_true, if_false, Produces,
          List.lookup_cons, Option.some_inj]
        by_cases hpath : path = p.id
        · subst hpath
          simp [hlookup, or_comm]
        · rw [beq_eq_false_iff_ne.mpr hpath]
          simp [Ne.symm hpath]
    | some first =>
      by_cases hsame : first = start
      · subst hsame
        refine .inr ⟨fun c hc => ?_, fun rest path id => ?_⟩
        · rw [startCauses, hstart] at hc
          simp [hlookup] at hc
        · rw [produces_cons, addProducer, hstart]
          simp only [hlookup, Option.isSome_some, if_true]
          refine (or_iff_left_of_imp ?_).symm
          rintro ⟨rfl, heq⟩
          exact .inl (hlookup.trans (hstart ▸ heq))
      · refine .inl ⟨first, start, rfl, rfl, hsame, ?_⟩
        rw [startCauses, hstart]
        simp [hlookup, hsame]

/-- A second producer is reported for some path if and only if some path has two. -/
theorem exists_fanIn_iff (producers : List (String × String)) (paths : List FlowPath) :
    (∃ c ∈ pathCauses producers paths, c.code = .dataflowFanIn) ↔
      ∃ path a b, a ≠ b ∧ Produces producers paths path a ∧ Produces producers paths path b := by
  induction paths generalizing producers with
  | nil =>
    constructor
    · rintro ⟨c, hc, -⟩
      cases hc
    · rintro ⟨path, a, b, hne, ha | ⟨_, hp, -⟩, hb | ⟨_, hp, -⟩⟩
      · exact absurd (Option.some.inj (ha.symm.trans hb)) hne
      all_goals cases hp
  | cons p rest ih =>
    have hend : ∀ c ∈ endCauses p, c.code ≠ .dataflowFanIn := by
      intro c hc heq
      cases (endCauses_code hc).symm.trans heq
    obtain ⟨first, start, hlookup, hstart, hne, hcauses⟩ | ⟨hstart, hsame⟩ :=
      startCauses_cases producers p
    · refine iff_of_true ⟨.fanIn p.id first start, ?_, rfl⟩ ⟨p.id, first, start, hne, ?_, ?_⟩
      · rw [pathCauses, hcauses]
        exact List.mem_cons_self
      · exact .inl hlookup
      · exact .inr ⟨p, List.mem_cons_self, rfl, hstart⟩
    · have hrest := ih (addProducer producers p)
      simp only [hsame] at hrest
      rw [← hrest]
      constructor
      · rintro ⟨c, hc, hcode⟩
        obtain hc | hc := List.mem_append.mp hc
        · obtain hc | hc := List.mem_append.mp hc
          · exact absurd hcode (hstart c hc)
          · exact absurd hcode (hend c hc)
        · exact ⟨c, hc, hcode⟩
      · rintro ⟨c, hc, hcode⟩
        exact ⟨c, List.mem_append_right _ hc, hcode⟩

/-- Ends that belong to no component are all reported. -/
theorem exists_unresolved_iff (producers : List (String × String)) (paths : List FlowPath) :
    (∃ c ∈ pathCauses producers paths, c.code = .dataflowUnresolvedPath) ↔
      ∃ p ∈ paths, p.start = none ∨ p.finish = none := by
  induction paths generalizing producers with
  | nil => simp [pathCauses]
  | cons p rest ih =>
    have hstart : (∃ c ∈ startCauses producers p, c.code = .dataflowUnresolvedPath) ↔
        p.start = none := by
      rw [startCauses]
      cases p.start with
      | none => simp [Cause.code]
      | some start =>
        cases producers.lookup p.id with
        | none => simp
        | some first =>
          dsimp only
          split <;> simp [Cause.code]
    have hend : (∃ c ∈ endCauses p, c.code = .dataflowUnresolvedPath) ↔ p.finish = none := by
      rw [endCauses]
      cases p.finish with
      | none => simp [Cause.code]
      | some finish => simp
    simp only [pathCauses, List.mem_append, or_and_right, exists_or, hstart, hend, ih,
      List.exists_mem_cons_iff]

end FanIn

section Components

theorem Component.describe_id (c : Component) (f : ComponentFacts) : (c.describe f).id = c.id := by
  rw [Component.describe]
  split
  · rfl
  · rfl
  · split <;> rfl
  · rfl

theorem readComponent_id (id classId : String) (kind : ComponentKind) (e : Element) :
    (readComponent id classId kind e).id = id :=
  Component.describe_id _ _

theorem nodup_readComponents_ids (taskId : String) (elements : List Element) :
    ((readComponents taskId elements).value.map (·.id)).Nodup := by
  refine nodup_keys_keepFirst fun c hc key repeated record hvalue => ?_
  obtain ⟨e, -, rfl⟩ := List.mem_map.mp hc
  cases hid : elementId? e with
  | none =>
    rw [hid] at hvalue
    cases hvalue
  | some id =>
    simp only [hid] at hvalue
    split at hvalue
    · cases hvalue
    · obtain ⟨rfl, -, rfl⟩ := Candidate.keyed.inj hvalue
      rw [Noted.value_pure, readComponent_id]

variable {c : Component} {paths : List FlowPath}

@[simp] theorem Component.wire_id (paths : List FlowPath) (c : Component) :
    (c.wire paths).id = c.id := rfl

theorem Component.mem_wire_outputs {path : String} :
    path ∈ (c.wire paths).outputs ↔ ∃ p ∈ paths, p.id = path ∧ p.start = some c.id := by
  simp only [Component.wire, List.mem_eraseDups, List.mem_map, List.mem_filter, beq_iff_eq,
    and_assoc, and_comm (a := FlowPath.start _ = _)]

theorem Component.mem_wire_inputs {path : String} :
    path ∈ (c.wire paths).inputs ↔ ∃ p ∈ paths, p.id = path ∧ p.finish = some c.id := by
  simp only [Component.wire, List.mem_eraseDups, List.mem_map, List.mem_filter, beq_iff_eq,
    and_assoc, and_comm (a := FlowPath.finish _ = _)]

/-- Inputs without a producer, with the components that they belong to. -/
def unwiredPairs (components : List Component) : List (String × String) :=
  components.flatMap fun c =>
    (c.inputs.filter fun input => !(components.flatMap (·.outputs)).contains input).map (·, c.id)

theorem unwiredInputs_eq (components : List Component) : unwiredInputs components =
    (unwiredPairs components).map fun (input, id) => .unwiredInput input id := by
  rw [unwiredInputs, unwiredPairs, List.map_flatMap]
  simp only [List.map_map]
  rfl

theorem mem_unwiredPairs {components : List Component} {input id : String} :
    (input, id) ∈ unwiredPairs components ↔
      ∃ c ∈ components, c.id = id ∧ input ∈ c.inputs ∧ ∀ d ∈ components, input ∉ d.outputs := by
  simp only [unwiredPairs, List.mem_flatMap, List.mem_map, List.mem_filter, Prod.mk.injEq,
    Bool.not_eq_true', List.contains_eq_mem, decide_eq_false_iff_not, not_exists, not_and]
  constructor
  · rintro ⟨c, hc, _, ⟨hinput, houtputs⟩, rfl, rfl⟩
    exact ⟨c, hc, rfl, hinput, houtputs⟩
  · rintro ⟨c, hc, rfl, hinput, houtputs⟩
    exact ⟨c, hc, input, ⟨hinput, houtputs⟩, rfl, rfl⟩

theorem nodup_unwiredPairs {components : List Component} (hids : (components.map (·.id)).Nodup)
    (hinputs : ∀ c ∈ components, c.inputs.Nodup) : (unwiredPairs components).Nodup := by
  rw [unwiredPairs, List.nodup_flatMap]
  constructor
  · intro c hc
    exact ((hinputs c hc).filter _).map fun _ _ heq => (Prod.mk.inj heq).1
  · refine (List.pairwise_map.mp hids).imp fun {c d} hne => ?_
    rintro ⟨input, id⟩ hc hd
    obtain ⟨_, -, hc⟩ := List.mem_map.mp hc
    obtain ⟨_, -, hd⟩ := List.mem_map.mp hd
    exact hne ((Prod.mk.inj hc).2.trans (Prod.mk.inj hd).2.symm)

end Components

/-- A path element of the pipeline with this id has, under the name, an end that belongs to
the component. -/
def PathAt (ids : List String) (pipeline : Element) (name path id : String) : Prop :=
  ∃ e ∈ pipeline.descendantsLocal "path", elementId? e = some path ∧
    ∃ pathEnd, e.attrText? name = some pathEnd ∧ BelongsTo ids pathEnd id

/-- A path element with an id lacks an end under the name, or the end belongs to no
component. -/
def LooseAt (ids : List String) (pipeline : Element) (name : String) : Prop :=
  ∃ e ∈ pipeline.descendantsLocal "path", (elementId? e).isSome ∧
    ∀ pathEnd, e.attrText? name = some pathEnd → ∀ id, ¬ BelongsTo ids pathEnd id

section Ends

theorem mem_flowPaths {ids : List String} {elements : List Element} {p : FlowPath} :
    p ∈ flowPaths ids elements ↔
      ∃ e ∈ elements, ∃ id, elementId? e = some id ∧ FlowPath.ofElement ids id e = p := by
  simp only [flowPaths, List.mem_filterMap, Option.map_eq_some_iff]

/-- The reader resolves an end exactly if it is there and belongs to the component. -/
theorem bind_resolveEnd_eq_some_iff {ids : List String} {written : Option String} {id : String} :
    written.bind (resolveEnd ids) = some id ↔
      ∃ pathEnd, written = some pathEnd ∧ BelongsTo ids pathEnd id := by
  simp only [Option.bind_eq_some_iff, resolveEnd_eq_some_iff]

theorem bind_resolveEnd_eq_none_iff {ids : List String} {written : Option String} :
    written.bind (resolveEnd ids) = none ↔
      ∀ pathEnd, written = some pathEnd → ∀ id, ¬ BelongsTo ids pathEnd id := by
  simp only [Option.bind_eq_none_iff, resolveEnd_eq_none_iff]

theorem exists_flowPath_iff {ids : List String} {pipeline : Element} {name : String}
    {f : FlowPath → Option String}
    (h : ∀ id e, f (.ofElement ids id e) = (e.attrText? name).bind (resolveEnd ids))
    {path id : String} : PathAt ids pipeline name path id ↔
      ∃ p ∈ flowPaths ids (pipeline.descendantsLocal "path"), p.id = path ∧
        f p = some id := by
  constructor
  · rintro ⟨e, he, hid, hend⟩
    refine ⟨.ofElement ids path e, mem_flowPaths.mpr ⟨e, he, path, hid, rfl⟩, rfl, ?_⟩
    rw [h, bind_resolveEnd_eq_some_iff]
    exact hend
  · rintro ⟨p, hp, rfl, hend⟩
    obtain ⟨e, he, path, hid, rfl⟩ := mem_flowPaths.mp hp
    rw [h, bind_resolveEnd_eq_some_iff] at hend
    exact ⟨e, he, hid, hend⟩

theorem exists_looseFlowPath_iff {ids : List String} {pipeline : Element} {name : String}
    {f : FlowPath → Option String}
    (h : ∀ id e, f (.ofElement ids id e) = (e.attrText? name).bind (resolveEnd ids)) :
    LooseAt ids pipeline name ↔
      ∃ p ∈ flowPaths ids (pipeline.descendantsLocal "path"), f p = none := by
  constructor
  · rintro ⟨e, he, hid, hend⟩
    obtain ⟨path, hid⟩ := Option.isSome_iff_exists.mp hid
    refine ⟨.ofElement ids path e, mem_flowPaths.mpr ⟨e, he, path, hid, rfl⟩, ?_⟩
    rw [h, bind_resolveEnd_eq_none_iff]
    exact hend
  · rintro ⟨p, hp, hend⟩
    obtain ⟨e, he, path, hid, rfl⟩ := mem_flowPaths.mp hp
    rw [h, bind_resolveEnd_eq_none_iff] at hend
    exact ⟨e, he, by rw [hid, Option.isSome_some], hend⟩

end Ends

section Pipeline

/-- What the components of a pipeline are joined by, and which findings say so. -/
structure WiredExactly (pipeline : Element) (components : List Component)
    (diagnostics : List Diagnostic) : Prop where
  ids_nodup : (components.map (·.id)).Nodup
  mem_outputs : ∀ c ∈ components, ∀ path,
    path ∈ c.outputs ↔ PathAt (components.map (·.id)) pipeline "startId" path c.id
  mem_inputs : ∀ c ∈ components, ∀ path,
    path ∈ c.inputs ↔ PathAt (components.map (·.id)) pipeline "endId" path c.id
  nodup_outputs : ∀ c ∈ components, c.outputs.Nodup
  nodup_inputs : ∀ c ∈ components, c.inputs.Nodup
  fanIn : (∃ d ∈ diagnostics, d.code = .dataflowFanIn) ↔
    ∃ path, ∃ c ∈ components, ∃ c' ∈ components, c ≠ c' ∧ path ∈ c.outputs ∧ path ∈ c'.outputs
  unresolved : (∃ d ∈ diagnostics, d.code = .dataflowUnresolvedPath) ↔
    LooseAt (components.map (·.id)) pipeline "startId" ∨
      LooseAt (components.map (·.id)) pipeline "endId"

/-- The findings about unwired inputs are those of these pairs of an input and a component, in
this order. -/
structure UnwiredExactly (config : Config) (source : String) (components : List Component)
    (diagnostics : List Diagnostic) (pairs : List (String × String)) : Prop where
  nodup : pairs.Nodup
  mem_iff : ∀ input id, (input, id) ∈ pairs ↔
    ∃ c ∈ components, c.id = id ∧ input ∈ c.inputs ∧ ∀ c' ∈ components, input ∉ c'.outputs
  reported : diagnostics.filter (·.code == .dataflowUnwiredInput) =
    pairs.map fun (input, id) => (Cause.unwiredInput input id).note.diagnostic config source

variable (taskId : String) (pipeline : Element)

/-- Ids of the components that are kept. -/
def componentIds : List String :=
  (readComponents taskId (componentElements pipeline)).value.map (·.id)

/-- The paths between the components that are kept. -/
def pipelinePaths : List FlowPath :=
  flowPaths (componentIds taskId pipeline) (pipeline.descendantsLocal "path")

theorem readPipeline_value : (readPipeline taskId pipeline).value =
    (readComponents taskId (componentElements pipeline)).value.map
      (Component.wire (pipelinePaths taskId pipeline)) := by
  rw [readPipeline]
  simp only [Noted.value_bind, Noted.value_pure, readPaths_value]
  rfl

theorem readPipeline_ids :
    (readPipeline taskId pipeline).value.map (·.id) = componentIds taskId pipeline := by
  rw [readPipeline_value, List.map_map]
  rfl

/-- Wiring findings are those at the paths, and then those at the inputs. -/
theorem readPipeline_notesWith {code : FindingCode}
    (hcode : code ∉ [.missingAttribute, .unsupportedComponent, .duplicateKey]) :
    (readPipeline taskId pipeline).notesWith code =
      ((pathCauses [] (pipelinePaths taskId pipeline) ++
        unwiredInputs (readPipeline taskId pipeline).value).filter (·.code == code)).map
          Cause.note := by
  have hmissing : code ≠ .missingAttribute := fun heq => hcode (heq ▸ List.mem_cons_self)
  have hcomponents := (readComponents_finds taskId (componentElements pipeline)).notesWith_eq_nil
    hcode
  rw [readPipeline_value, readPipeline]
  simp only [Noted.notesWith_bind, Noted.notesWith_foundAll, Noted.notesWith_pure, hcomponents,
    readPaths_notesWith hmissing, readPaths_value, List.nil_append, List.append_nil,
    List.filter_append, List.map_append]
  rfl

theorem pathCauses_code {producers : List (String × String)} {paths : List FlowPath} {c : Cause}
    (h : c ∈ pathCauses producers paths) :
    c.code ∈ [.dataflowFanIn, .dataflowUnresolvedPath] := by
  induction paths generalizing producers with
  | nil => cases h
  | cons p rest ih =>
    obtain h | h := List.mem_append.mp h
    · obtain h | h := List.mem_append.mp h
      · exact startCauses_code h
      · exact .tail _ (endCauses_code h ▸ List.mem_cons_self)
    · exact ih h

variable (config : Config) (source : String)

theorem exists_pathDiagnostic_iff {code : FindingCode}
    (hcode : code ∉ [.missingAttribute, .unsupportedComponent, .duplicateKey])
    (hinput : code ≠ .dataflowUnwiredInput) :
    (∃ d ∈ diagnosticsOf config source (readPipeline taskId pipeline).remarks, d.code = code) ↔
      ∃ c ∈ pathCauses [] (pipelinePaths taskId pipeline), c.code = code := by
  rw [Noted.exists_diagnostic_iff, readPipeline_notesWith taskId pipeline hcode]
  simp only [List.mem_map, List.mem_filter, List.mem_append, beq_iff_eq]
  constructor
  · rintro ⟨_, c, ⟨hc | hc, heq⟩, rfl⟩
    · exact ⟨c, hc, heq⟩
    · exact absurd (heq.symm.trans (unwiredInputs_code hc)) hinput
  · rintro ⟨c, hc, heq⟩
    exact ⟨_, c, ⟨.inl hc, heq⟩, rfl⟩

variable {taskId pipeline}
variable {c : Component} (hc : c ∈ (readPipeline taskId pipeline).value)

include hc

/-- Each component is one of those that were read, with the paths that start and end at it. -/
theorem wire_eq_of_mem_readPipeline :
    ∃ c₀ : Component, c₀.wire (pipelinePaths taskId pipeline) = c := by
  rw [readPipeline_value] at hc
  obtain ⟨c₀, -, heq⟩ := List.mem_map.mp hc
  exact ⟨c₀, heq⟩

theorem mem_outputs_iff_pipelinePaths (path : String) : path ∈ c.outputs ↔
    ∃ p ∈ pipelinePaths taskId pipeline, p.id = path ∧ p.start = some c.id := by
  obtain ⟨c₀, rfl⟩ := wire_eq_of_mem_readPipeline hc
  exact Component.mem_wire_outputs

theorem mem_inputs_iff_pipelinePaths (path : String) : path ∈ c.inputs ↔
    ∃ p ∈ pipelinePaths taskId pipeline, p.id = path ∧ p.finish = some c.id := by
  obtain ⟨c₀, rfl⟩ := wire_eq_of_mem_readPipeline hc
  exact Component.mem_wire_inputs

omit hc

/-- The start of a path is a component. -/
theorem exists_component_of_start {p : FlowPath} (hp : p ∈ pipelinePaths taskId pipeline)
    {id : String} (hstart : p.start = some id) :
    ∃ c ∈ (readPipeline taskId pipeline).value, c.id = id := by
  obtain ⟨_, -, _, -, rfl⟩ := mem_flowPaths.mp hp
  obtain ⟨_, -, hbelongs⟩ := bind_resolveEnd_eq_some_iff.mp hstart
  rw [← readPipeline_ids] at hbelongs
  exact List.mem_map.mp hbelongs.1

variable (taskId pipeline)

theorem nodup_readPipeline_ids : ((readPipeline taskId pipeline).value.map (·.id)).Nodup :=
  readPipeline_ids taskId pipeline ▸ nodup_readComponents_ids taskId (componentElements pipeline)

/-- Some path has two starts if and only if two components have one output. -/
theorem exists_two_starts_iff :
    (∃ path a b, a ≠ b ∧ Produces [] (pipelinePaths taskId pipeline) path a ∧
      Produces [] (pipelinePaths taskId pipeline) path b) ↔
    ∃ path, ∃ c ∈ (readPipeline taskId pipeline).value,
      ∃ c' ∈ (readPipeline taskId pipeline).value,
        c ≠ c' ∧ path ∈ c.outputs ∧ path ∈ c'.outputs := by
  simp only [Produces, List.lookup_nil, reduceCtorEq, false_or]
  constructor
  · rintro ⟨path, a, b, hne, ⟨p, hp, hpath, ha⟩, ⟨q, hq, hpath', hb⟩⟩
    obtain ⟨c, hc, rfl⟩ := exists_component_of_start hp ha
    obtain ⟨c', hc', rfl⟩ := exists_component_of_start hq hb
    refine ⟨path, c, hc, c', hc', fun heq => hne (congrArg _ heq), ?_, ?_⟩
    · exact (mem_outputs_iff_pipelinePaths hc path).mpr ⟨p, hp, hpath, ha⟩
    · exact (mem_outputs_iff_pipelinePaths hc' path).mpr ⟨q, hq, hpath', hb⟩
  · rintro ⟨path, c, hc, c', hc', hne, houtput, houtput'⟩
    refine ⟨path, c.id, c'.id, fun heq => hne ?_,
      (mem_outputs_iff_pipelinePaths hc path).mp houtput,
      (mem_outputs_iff_pipelinePaths hc' path).mp houtput'⟩
    exact List.inj_on_of_nodup_map (nodup_readPipeline_ids taskId pipeline) hc hc' heq

theorem readPipeline_wiredExactly : WiredExactly pipeline (readPipeline taskId pipeline).value
    (diagnosticsOf config source (readPipeline taskId pipeline).remarks) := by
  have hids := readPipeline_ids taskId pipeline
  constructor
  case ids_nodup => exact nodup_readPipeline_ids taskId pipeline
  case mem_outputs =>
    intro c hc path
    rw [mem_outputs_iff_pipelinePaths hc, hids]
    exact (exists_flowPath_iff fun _ _ => rfl).symm
  case mem_inputs =>
    intro c hc path
    rw [mem_inputs_iff_pipelinePaths hc, hids]
    exact (exists_flowPath_iff fun _ _ => rfl).symm
  case nodup_outputs =>
    intro c hc
    obtain ⟨c₀, rfl⟩ := wire_eq_of_mem_readPipeline hc
    exact nodup_eraseDups _
  case nodup_inputs =>
    intro c hc
    obtain ⟨c₀, rfl⟩ := wire_eq_of_mem_readPipeline hc
    exact nodup_eraseDups _
  case fanIn =>
    rw [exists_pathDiagnostic_iff taskId pipeline config source (by decide) (by decide),
      exists_fanIn_iff, exists_two_starts_iff]
  case unresolved =>
    rw [exists_pathDiagnostic_iff taskId pipeline config source (by decide) (by decide),
      exists_unresolved_iff, hids, exists_looseFlowPath_iff (f := FlowPath.start) fun _ _ => rfl,
      exists_looseFlowPath_iff (f := FlowPath.finish) fun _ _ => rfl]
    simp only [pipelinePaths, and_or_left, exists_or]

theorem readPipeline_unwiredExactly : UnwiredExactly config source
    (readPipeline taskId pipeline).value
    (diagnosticsOf config source (readPipeline taskId pipeline).remarks)
    (unwiredPairs (readPipeline taskId pipeline).value) where
  nodup := nodup_unwiredPairs (nodup_readPipeline_ids taskId pipeline)
    (readPipeline_wiredExactly taskId pipeline config source).nodup_inputs
  mem_iff _ _ := mem_unwiredPairs
  reported := by
    have hpaths : (pathCauses [] (pipelinePaths taskId pipeline)).filter
        (·.code == .dataflowUnwiredInput) = [] := by
      refine List.filter_eq_nil_iff.mpr fun c hc heq => ?_
      have hcode := pathCauses_code hc
      rw [beq_iff_eq.mp heq] at hcode
      exact absurd hcode (by decide)
    have hinputs : (unwiredInputs (readPipeline taskId pipeline).value).filter
        (·.code == .dataflowUnwiredInput) = unwiredInputs (readPipeline taskId pipeline).value :=
      List.filter_eq_self.mpr fun c hc => beq_iff_eq.mpr (unwiredInputs_code hc)
    rw [Noted.diagnosticsOf_filter, readPipeline_notesWith taskId pipeline (by decide),
      List.filter_append, hpaths, hinputs, List.nil_append, unwiredInputs_eq, List.map_map,
      List.map_map]
    rfl

/-- Without wiring findings, inputs have one producer each and outputs are consumed. -/
theorem WiredExactly.complete {pipeline : Element} {components : List Component}
    {diagnostics : List Diagnostic} {pairs : List (String × String)}
    (hwired : WiredExactly pipeline components diagnostics)
    (hunwired : UnwiredExactly config source components diagnostics pairs)
    (hquiet : ∀ d ∈ diagnostics,
      d.code ∉ [.dataflowFanIn, .dataflowUnresolvedPath, .dataflowUnwiredInput]) :
    (∀ c ∈ components, ∀ path ∈ c.inputs, ∃! c', c' ∈ components ∧ path ∈ c'.outputs) ∧
      ∀ c ∈ components, ∀ path ∈ c.outputs, ∃ c' ∈ components, path ∈ c'.inputs := by
  have hfanIn : ¬ ∃ d ∈ diagnostics, d.code = .dataflowFanIn :=
    fun ⟨d, hd, hcode⟩ => hquiet d hd (by simp [hcode])
  have hresolved : ¬ ∃ d ∈ diagnostics, d.code = .dataflowUnresolvedPath :=
    fun ⟨d, hd, hcode⟩ => hquiet d hd (by simp [hcode])
  have hnone : pairs = [] := by
    rw [← List.map_eq_nil_iff, ← hunwired.reported, List.filter_eq_nil_iff]
    exact fun d hd hcode => hquiet d hd (by simp [beq_iff_eq.mp hcode])
  rw [hwired.fanIn] at hfanIn
  rw [hwired.unresolved, not_or] at hresolved
  constructor
  · intro c hc path hpath
    obtain ⟨c', hc', houtput⟩ : ∃ c' ∈ components, path ∈ c'.outputs := by
      by_contra hall
      have hpair := (hunwired.mem_iff path c.id).mpr
        ⟨c, hc, rfl, hpath, fun c' hc' houtput => hall ⟨c', hc', houtput⟩⟩
      rw [hnone] at hpair
      cases hpair
    refine ⟨c', ⟨hc', houtput⟩, fun other ⟨hother, houtput'⟩ => ?_⟩
    by_contra hne
    exact hfanIn ⟨path, other, hother, c', hc', hne, houtput', houtput⟩
  · intro c hc path hpath
    obtain ⟨e, he, hid, -⟩ := (hwired.mem_outputs c hc path).mp hpath
    -- The path has an end as well, since none is loose.
    obtain ⟨pathEnd, hend, id, hbelongs⟩ : ∃ pathEnd, e.attrText? "endId" = some pathEnd ∧
        ∃ id, BelongsTo (components.map (·.id)) pathEnd id := by
      by_contra hloose
      refine hresolved.2 ⟨e, he, by rw [hid, Option.isSome_some], fun pathEnd hend id hid => ?_⟩
      exact hloose ⟨pathEnd, hend, id, hid⟩
    obtain ⟨c', hc', rfl⟩ := List.mem_map.mp hbelongs.1
    exact ⟨c', hc', (hwired.mem_inputs c' hc' path).mpr ⟨e, he, hid, pathEnd, hend, hbelongs⟩⟩

/-- The outputs and inputs of the components of a pipeline are exactly what its paths say, and the
findings name exactly what is wrong with them; if they name nothing, every input has one producer
and every output a consumer. -/
theorem pipeline_wired :
    let components := (readPipeline taskId pipeline).value
    let diagnostics := diagnosticsOf config source (readPipeline taskId pipeline).remarks
    WiredExactly pipeline components diagnostics ∧
    (∃ pairs, UnwiredExactly config source components diagnostics pairs) ∧
    ((∀ d ∈ diagnostics,
        d.code ∉ [.dataflowFanIn, .dataflowUnresolvedPath, .dataflowUnwiredInput]) →
      (∀ c ∈ components, ∀ path ∈ c.inputs, ∃! c', c' ∈ components ∧ path ∈ c'.outputs) ∧
        ∀ c ∈ components, ∀ path ∈ c.outputs, ∃ c' ∈ components, path ∈ c'.inputs) := by
  have hwired := readPipeline_wiredExactly taskId pipeline config source
  have hunwired := readPipeline_unwiredExactly taskId pipeline config source
  exact ⟨hwired, ⟨_, hunwired⟩, hwired.complete config source hunwired⟩

end Pipeline

end EtlSurvey
