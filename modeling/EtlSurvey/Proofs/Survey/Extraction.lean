import EtlSurvey.Proofs.Pipeline.Wiring
import EtlSurvey.Proofs.Secrecy.Redacted
import EtlSurvey.Proofs.Survey.Constraints
import EtlSurvey.Proofs.Survey.FirstOfKey

/-! # What becomes of each element

Readers that leave repeated keys out decide on an element by those before it: it has a record if it
is identified and none of them has its key, and else it is reported. So the records and the reports
of a reader, put together in order, are the elements. Constraints have no keys; there each element
gives an edge or a finding by itself. -/

namespace EtlSurvey
open Text Markup

/-- How records are made of items: the record of an item, or why it has none, the key of a record,
and how it is reported that a key is taken. -/
structure Extraction (σ κ α : Type) where
  read : σ → Except Cause α
  keyOf : α → κ
  repeated : κ → Cause

/-- Codes of the findings with which an item is left out. -/
def lossCodes : List FindingCode := [.missingAttribute, .duplicateKey, .unsupportedComponent]

/-- The notes that say that something is left out. -/
def Noted.losses (x : Noted α) : List Note :=
  (notesOf x.remarks).filter (lossCodes.contains ·.code)

namespace Extraction

section Fates

variable {σ κ α : Type} [BEq κ] (x : Extraction σ κ α)

/-- The key that an item has, if it is identified. -/
def key? (s : σ) : Option κ := (x.read s).toOption.map x.keyOf

/-- What becomes of an item that comes after others: its record, or the report that it is not
identified or that one of the others has its key. -/
def fate (before : List σ) (s : σ) : Except Cause α :=
  match x.read s with
  | .error cause => .error cause
  | .ok a =>
    let key := x.keyOf a
    if before.any (x.key? · == some key) then .error (x.repeated key) else .ok a

/-- What becomes of each item, in order. -/
def fates (items : List σ) : List (Except Cause α) :=
  items.mapIdx fun i s => x.fate (items.take i) s

/-- The item is the first of its key, and this is its record. -/
def IsFirst (items : List σ) (s : σ) (a : α) : Prop :=
  x.read s = .ok a ∧ items.find? (x.key? · == some (x.keyOf a)) = some s

/-- Items are read into the records of the first of each key, in order, and each of the others is
reported as left out, in order and once. -/
structure KeepsFirst (items : List σ) (result : Noted (List α)) : Prop where
  records : result.value = (x.fates items).filterMap Except.toOption
  distinct : (result.value.map x.keyOf).Nodup
  reports : ∀ config source,
    (diagnosticsOf config source result.remarks).filter (lossCodes.contains ·.code) =
      ((x.fates items).filterMap complaint?).map fun c => c.note.diagnostic config source

variable {x} in
/-- An item is decided by those before it, of which it is one for those behind. -/
theorem fates_cons (s : σ) (rest : List σ) :
    ((s :: rest).mapIdx fun i t => x.fate (before ++ (s :: rest).take i) t) =
      x.fate before s :: rest.mapIdx fun i t => x.fate (before ++ [s] ++ rest.take i) t := by
  rw [List.mapIdx_cons, List.take_zero, List.append_nil]
  simp only [List.take_succ_cons, List.append_assoc, List.singleton_append]

end Fates

end Extraction

section Losses

@[simp] theorem Noted.losses_pure (a : α) : (pure a : Noted α).losses = [] := rfl

@[simp] theorem Noted.losses_bind (x : Noted α) (f : α → Noted β) :
    (x >>= f).losses = x.losses ++ (f x.value).losses := by
  rw [losses, remarks_bind, notesOf_append, List.filter_append, losses, losses]

theorem Noted.losses_note {c : Cause} (h : c.code ∈ lossCodes) :
    (Noted.note c.note).losses = [c.note] := by
  show List.filter _ [c.note] = [c.note]
  exact List.filter_eq_self.mpr fun n hn => by
    rw [List.mem_singleton.mp hn]
    exact List.contains_iff_mem.mpr h

theorem Noted.FindsOnly.losses_eq_nil {codes : List FindingCode} {x : Noted α}
    (h : x.FindsOnly codes) (hcodes : ∀ code ∈ codes, code ∉ lossCodes) : x.losses = [] := by
  refine List.filter_eq_nil_iff.mpr fun n hn hloss => ?_
  obtain ⟨c, hc, rfl⟩ := h.exists_cause hn
  exact hcodes c.code hc (List.contains_iff_mem.mp hloss)

theorem Noted.diagnosticsOf_losses (config : Config) (source : String) (x : Noted α) :
    (diagnosticsOf config source x.remarks).filter (lossCodes.contains ·.code) =
      x.losses.map (Note.diagnostic config source) := by
  rw [diagnosticsOf, List.filter_map]
  rfl

end Losses

namespace Extraction

section Seen

variable {σ κ α : Type} {x : Extraction σ κ α} {seen : List κ} {before : List σ} {s : σ}

/-- The keys that have been seen are those of the items before. -/
def Seen (x : Extraction σ κ α) (seen : List κ) (before : List σ) : Prop :=
  ∀ key, key ∈ seen ↔ ∃ s ∈ before, x.key? s = some key

theorem exists_key_snoc (key : κ) : (∃ t ∈ before ++ [s], x.key? t = some key) ↔
    (∃ t ∈ before, x.key? t = some key) ∨ x.key? s = some key := by
  simp only [List.mem_append, List.mem_singleton, or_and_right, exists_or, exists_eq_left]

theorem Seen.pass (h : x.Seen seen before) (hs : ∀ key, x.key? s = some key → key ∈ seen) :
    x.Seen seen (before ++ [s]) := by
  intro key
  rw [exists_key_snoc, ← h key]
  exact ⟨.inl, fun hkey => hkey.elim id (hs key)⟩

theorem Seen.take (h : x.Seen seen before) {key : κ} (hs : x.key? s = some key) :
    x.Seen (key :: seen) (before ++ [s]) := by
  intro other
  rw [exists_key_snoc, ← h other, hs, Option.some_inj, List.mem_cons, or_comm, eq_comm]

end Seen

section Decisions

variable {σ κ α : Type} {x : Extraction σ κ α}

/-- What is decided on an item alone: it is dropped with the report, or keyed by the record. -/
def Decides (x : Extraction σ κ α) : Except Cause α → Noted (Candidate κ α) → Prop
  | .error cause, c => c.value = .dropped ∧ c.losses = [cause.note]
  | .ok a, c => c.losses = [] ∧ ∃ record : Noted α,
    c.value = .keyed (x.keyOf a) (x.repeated (x.keyOf a)).note record ∧
      record.value = a ∧ record.losses = []

structure Follows (x : Extraction σ κ α) (candidate : σ → Noted (Candidate κ α)) : Prop where
  decides : ∀ s, x.Decides (x.read s) (candidate s)
  repeated : ∀ key, (x.repeated key).code ∈ lossCodes

theorem decides_keyed {a : α} {key : κ} (h : x.keyOf a = key) :
    x.Decides (.ok a) (pure (.keyed key (x.repeated key).note (pure a))) := by
  subst h
  exact ⟨rfl, pure a, rfl, rfl, rfl⟩

theorem Follows.key?_value {candidate : σ → Noted (Candidate κ α)} (h : x.Follows candidate)
    (s : σ) : (candidate s).value.key? = x.key? s := by
  have hdecides := h.decides s
  rw [key?]
  cases hread : x.read s with
  | error cause =>
    rw [hread] at hdecides
    rw [hdecides.1]
    rfl
  | ok a =>
    rw [hread] at hdecides
    obtain ⟨-, record, hvalue, -, -⟩ := hdecides
    rw [hvalue]
    rfl

end Decisions

section First

variable {σ κ α : Type} [BEq κ] {x : Extraction σ κ α} {candidate : σ → Noted (Candidate κ α)}
  {items : List σ} {s : σ} {a : α} {record : Noted α}

theorem Follows.find?_hasKey (h : x.Follows candidate) (key : κ) :
    items.find? (hasKey candidate key) = items.find? (x.key? · == some key) := by
  refine congrArg (items.find? ·) (funext fun s => ?_)
  rw [hasKey, h.key?_value]

theorem Follows.isFirst_of_isKept (h : x.Follows candidate)
    (hkept : IsKept candidate [] items s record) : x.IsFirst items s record.value := by
  obtain ⟨key, repeated, hvalue, -, hfirst⟩ := hkept
  rw [h.find?_hasKey] at hfirst
  have hdecides := h.decides s
  cases hread : x.read s with
  | error cause =>
    rw [hread, Decides, hvalue] at hdecides
    cases hdecides.1
  | ok a =>
    rw [hread] at hdecides
    obtain ⟨-, record', hvalue', rfl, -⟩ := hdecides
    obtain ⟨rfl, -, rfl⟩ := Candidate.keyed.inj (hvalue.symm.trans hvalue')
    exact ⟨hread, hfirst⟩

theorem Follows.isKept_of_isFirst (h : x.Follows candidate) (hfirst : x.IsFirst items s a) :
    ∃ record, IsKept candidate [] items s record ∧ record.value = a := by
  obtain ⟨hread, hfind⟩ := hfirst
  have hdecides := h.decides s
  rw [hread] at hdecides
  obtain ⟨-, record, hvalue, hrecord, -⟩ := hdecides
  refine ⟨record, ⟨_, _, hvalue, List.not_mem_nil, ?_⟩, hrecord⟩
  rw [h.find?_hasKey, hfind]

end First

section KeepFirst

variable {σ κ α : Type} [BEq κ] [LawfulBEq κ] {x : Extraction σ κ α}
  {candidate : σ → Noted (Candidate κ α)} {seen : List κ} {before : List σ}

theorem Seen.any_iff (h : x.Seen seen before) (key : κ) :
    before.any (x.key? · == some key) = true ↔ key ∈ seen := by
  rw [h key, List.any_eq_true]
  simp only [beq_iff_eq]

/-- The run over the items after others, which decides each of them as it is meant. -/
theorem Follows.run (h : x.Follows candidate) (items : List σ) (hseen : x.Seen seen before) :
    let fates := items.mapIdx fun i s => x.fate (before ++ items.take i) s
    let result := keepFirst seen (items.map candidate)
    result.value = fates.filterMap Except.toOption ∧
      result.losses = (fates.filterMap complaint?).map Cause.note := by
  induction items generalizing seen before with
  | nil => exact ⟨rfl, rfl⟩
  | cons s rest ih =>
    dsimp only
    rw [fates_cons, List.map_cons, keepFirst, Noted.value_bind, Noted.losses_bind]
    have hdecides := h.decides s
    cases hread : x.read s with
    | error cause =>
      rw [hread] at hdecides
      obtain ⟨hvalue, hlosses⟩ := hdecides
      have hkey : x.key? s = none := by rw [key?, hread]; rfl
      obtain ⟨ihvalue, ihlosses⟩ := ih (hseen.pass fun key hs => by rw [hkey] at hs; cases hs)
      have hfate : x.fate before s = .error cause := by rw [fate, hread]
      simp only [hvalue, hlosses, hfate, ihvalue, ihlosses]
      exact ⟨rfl, rfl⟩
    | ok a =>
      rw [hread] at hdecides
      obtain ⟨hlosses, record, hvalue, hrecord, hrecorded⟩ := hdecides
      have hkey : x.key? s = some (x.keyOf a) := by rw [key?, hread]; rfl
      simp only [hvalue, hlosses, List.nil_append]
      by_cases hmem : x.keyOf a ∈ seen
      · -- one of the items before has the key
        obtain ⟨ihvalue, ihlosses⟩ := ih (hseen.pass fun key hs => by
          rw [hkey] at hs
          exact Option.some.inj hs ▸ hmem)
        have hfate : x.fate before s = .error (x.repeated (x.keyOf a)) := by
          rw [fate, hread]
          exact if_pos ((hseen.any_iff _).mpr hmem)
        simp only [List.contains_iff_mem.mpr hmem, if_true, Noted.value_bind, Noted.losses_bind,
          Noted.losses_note (h.repeated _), hfate, ihvalue, ihlosses]
        exact ⟨rfl, rfl⟩
      · obtain ⟨ihvalue, ihlosses⟩ := ih (hseen.take hkey)
        have hfate : x.fate before s = .ok a := by
          rw [fate, hread]
          exact if_neg (mt (hseen.any_iff _).mp hmem)
        simp only [List.contains_iff_mem, hmem, if_false, Noted.value_bind, Noted.losses_bind,
          Noted.value_pure, Noted.losses_pure, hfate, ihvalue, ihlosses, hrecord, hrecorded,
          List.append_nil, List.nil_append]
        exact ⟨rfl, rfl⟩

theorem Follows.keepsFirst (h : x.Follows candidate) (items : List σ) :
    x.KeepsFirst items (keepFirst [] (items.map candidate)) := by
  have hempty : x.Seen [] [] := fun key => by simp
  obtain ⟨hvalue, hlosses⟩ := h.run items hempty
  refine ⟨hvalue, nodup_keys_keepFirst ?shows, fun config source => ?reports⟩
  case shows =>
    intro c hc key repeated record hkeyed
    obtain ⟨s, -, rfl⟩ := List.mem_map.mp hc
    have hdecides := h.decides s
    cases hread : x.read s with
    | error cause =>
      rw [hread] at hdecides
      rw [hdecides.1] at hkeyed
      cases hkeyed
    | ok a =>
      rw [hread] at hdecides
      obtain ⟨-, record', hvalue, hrecord, -⟩ := hdecides
      rw [hvalue] at hkeyed
      cases hkeyed
      rw [hrecord]
  case reports =>
    rw [Noted.diagnosticsOf_losses, hlosses, List.map_map]
    rfl

theorem Follows.mem_value_iff {items : List σ} {a : α} (h : x.Follows candidate) :
    a ∈ (keepFirst [] (items.map candidate)).value ↔ ∃ s, x.IsFirst items s a := by
  rw [mem_value_keepFirst]
  constructor
  · rintro ⟨s, record, hkept, rfl⟩
    exact ⟨s, h.isFirst_of_isKept hkept⟩
  · rintro ⟨s, hfirst⟩
    obtain ⟨record, hkept, hvalue⟩ := h.isKept_of_isFirst hfirst
    exact ⟨s, record, hkept, hvalue⟩

end KeepFirst

end Extraction

section Readers

variable (policy : RedactionPolicy)

/-- Parameter elements of the current layout, in the groups of the package. -/
def currentParameters (root : Element) : List Element :=
  (root.children.filter (·.isNamed Space.dts "PackageParameters")).flatMap fun group =>
    group.children.filter (·.isNamed Space.dts "PackageParameter")

/-- Parameter elements of the legacy layout, at any depth in a property that is named for them. -/
def legacyParameters (root : Element) : List Element :=
  (root.children.filter fun c => c.isNamed Space.dts "Property" &&
    c.attr? "Name" == some "Parameters").flatMap fun property =>
      property.descendants.filter (·.isNamed Space.dts "Parameter")

def parameterExtraction : Extraction Element String Parameter where
  read e :=
    match e.attrText? "ObjectName" with
    | none => .error .namelessParameter
    | some name => .ok (readParameter policy name e).value
  keyOf := (·.name)
  repeated := .repeatedParameter

def variableExtraction : Extraction Site (String × String × String) Variable where
  read s :=
    match s.element.attrText? "ObjectName" with
    | none => .error .namelessVariable
    | some name => .ok (readVariable ((s.element.attrText? "Namespace").getD "User") name
        (owningScope s) s.element)
  keyOf v := (v.scope, v.space, v.name)
  repeated := fun (scope, space, name) => .repeatedVariable space name scope

def connectionElements (root : Element) : List Element :=
  (root.childrenNamed Space.dts "ConnectionManagers").flatMap
    (·.childrenNamed Space.dts "ConnectionManager")

def connectionExtraction : Extraction Element String Connection where
  read e :=
    match e.attrText? "ObjectName" with
    | none => .error (.namelessConnection (e.attr? "refId"))
    | some name => .ok (connectionOf policy "Package.ConnectionManagers" e name)
  keyOf := (·.id)
  repeated := .repeatedConnection

/-- The components of a pipeline, in its groups of components. -/
def pipelineComponents (pipeline : Element) : List Element :=
  (pipeline.children.filter (·.hasLocalName "components")).flatMap fun group =>
    group.children.filter (·.hasLocalName "component")

/-- The class of a component that is of no known kind. -/
def unknownClass? : ComponentKind → Option String
  | .unsupported raw => some raw
  | _ => none

/-- A component is identified by either of two attributes. One of an unknown kind is left out,
whatever its id is. -/
def componentExtraction (taskId : String) : Extraction Element String Component where
  read e :=
    match (e.attrText? "refId").or (e.attrText? "id") with
    | none => .error (.namelessComponent taskId)
    | some id =>
      let classId := (e.attr? "componentClassID").getD ""
      let kind := ComponentKind.ofClassId classId
      match unknownClass? kind with
      | some raw => .error (.unsupportedComponent id raw)
      | none => .ok (readComponent id classId kind e)
  keyOf := (·.id)
  repeated := .repeatedComponent

theorem losses_dropped {κ α : Type} {c : Cause} (h : c.code ∈ lossCodes) :
    (do found c; return .dropped : Noted (Candidate κ α)).losses = [c.note] := by
  rw [Noted.losses_bind, found, Noted.losses_note h]
  rfl

theorem readParameter_losses (name : String) (e : Element) :
    (readParameter policy name e).losses = [] := by
  simp only [Noted.losses, readParameter]
  split <;> rfl

/-- A parameter element, before those ahead of it are looked at. -/
def parameterCandidate (e : Element) : Noted (Candidate String Parameter) :=
  match e.attrText? "ObjectName" with
  | none => do
    found .namelessParameter
    return .dropped
  | some name =>
    pure (.keyed name (Cause.repeatedParameter name).note (readParameter policy name e))

theorem parameters_follow : (parameterExtraction policy).Follows (parameterCandidate policy) where
  decides e := by
    dsimp only [parameterExtraction]
    rw [parameterCandidate]
    cases e.attrText? "ObjectName" with
    | none => exact ⟨rfl, losses_dropped (code_mem .missingAttribute rfl (by decide))⟩
    | some name =>
      exact ⟨rfl, readParameter policy name e, rfl, rfl, readParameter_losses policy name e⟩
  repeated _ := code_mem .duplicateKey rfl (by decide)

theorem readParameters_keepsFirst (root : Element) :
    (parameterExtraction policy).KeepsFirst (currentParameters root ++ legacyParameters root)
      (readParameters policy root) :=
  (parameters_follow policy).keepsFirst (parameterElements root)

theorem readVariables_keepsFirst (root : Element) :
    variableExtraction.KeepsFirst (root.sitesNamed Space.dts "Variable") (readVariables root) := by
  unfold readVariables
  refine Extraction.Follows.keepsFirst ⟨fun s => ?decides, fun key => ?repeated⟩ _
  case decides =>
    dsimp only [variableExtraction]
    cases s.element.attrText? "ObjectName" with
    | none => exact ⟨rfl, losses_dropped (code_mem .missingAttribute rfl (by decide))⟩
    | some name => exact Extraction.decides_keyed rfl
  case repeated => exact code_mem .duplicateKey rfl (by decide)

/-- A manager, before those ahead of it are looked at. -/
def connectionCandidate (e : Element) : Noted (Candidate String Connection) := do
  match ← readConnection policy "Package.ConnectionManagers" e with
  | none => return .dropped
  | some c => return .keyed c.id (Cause.repeatedConnection c.id).note (pure c)

theorem connections_follow :
    (connectionExtraction policy).Follows (connectionCandidate policy) where
  decides e := by
    dsimp only [connectionExtraction]
    rw [connectionCandidate]
    cases hname : e.attrText? "ObjectName" with
    | none =>
      rw [readConnection_of_nameless policy hname]
      exact ⟨rfl, losses_dropped (code_mem .missingAttribute rfl (by decide))⟩
    | some name =>
      -- what else is found of a manager with a name does not say that it is left out
      have hlosses : (readConnection policy "Package.ConnectionManagers" e).losses = [] :=
        (readConnection_finds_of_name policy hname).losses_eq_nil (by decide)
      have hvalue := readConnection_value policy "Package.ConnectionManagers" e
      rw [hname, Option.map_some] at hvalue
      dsimp only [Extraction.Decides]
      rw [Noted.losses_bind, Noted.value_bind, hlosses, hvalue]
      exact ⟨rfl, pure _, rfl, rfl, rfl⟩
  repeated _ := code_mem .duplicateKey rfl (by decide)

theorem readConnections_keepsFirst (root : Element) :
    (connectionExtraction policy).KeepsFirst (connectionElements root)
      (readConnections policy root) :=
  (connections_follow policy).keepsFirst (connectionElements root)

theorem unknownClass?_eq_some {kind : ComponentKind} {raw : String}
    (h : unknownClass? kind = some raw) : kind = .unsupported raw := by
  cases kind with
  | unsupported other => exact congrArg ComponentKind.unsupported (Option.some.inj h)
  | _ => cases h

theorem readComponents_keepsFirst (taskId : String) (elements : List Element) :
    (componentExtraction taskId).KeepsFirst elements (readComponents taskId elements) := by
  unfold readComponents
  refine Extraction.Follows.keepsFirst ⟨fun e => ?decides, fun key => ?repeated⟩ _
  case decides =>
    dsimp only [componentExtraction, elementId?]
    cases (e.attrText? "refId").or (e.attrText? "id") with
    | none => exact ⟨rfl, losses_dropped (code_mem .missingAttribute rfl (by decide))⟩
    | some id =>
      dsimp only
      generalize ComponentKind.ofClassId ((e.attr? "componentClassID").getD "") = kind
      cases hclass : unknownClass? kind with
      | some raw =>
        obtain rfl := unknownClass?_eq_some hclass
        exact ⟨rfl, losses_dropped (code_mem .unsupportedComponent rfl (by decide))⟩
      | none =>
        dsimp only
        split
        · cases hclass
        · exact Extraction.decides_keyed (readComponent_id ..)
  case repeated => exact code_mem .duplicateKey rfl (by decide)

end Readers

/-- A pipeline is read from the results of a pass over its components, which get their paths in the
end. What is found in the pass comes first. -/
structure StartsFrom (pass result : Noted (List Component)) : Prop where
  components : ∃ paths, result.value = pass.value.map (Component.wire paths)
  remarks : pass.remarks <+: result.remarks

theorem componentElements_eq (pipeline : Element) :
    componentElements pipeline = pipelineComponents pipeline := by
  rw [componentElements, pipelineComponents, List.filter_flatMap]

theorem readPipeline_startsFrom (taskId : String) (pipeline : Element) :
    StartsFrom (readComponents taskId (componentElements pipeline))
      (readPipeline taskId pipeline) := by
  refine ⟨⟨_, rfl⟩, ?_⟩
  rw [readPipeline, Noted.remarks_bind]
  exact List.prefix_append _ _

def constraintElements (root : Element) : List Element :=
  root.descendantsNamed Space.dts "PrecedenceConstraint"

/-- No element of a document, and none of a pipeline of a task, is dropped silently. -/
structure Accounted (policy : RedactionPolicy) (root : Element) (taskId : String)
    (pipeline : Element) : Prop where
  parameters : (parameterExtraction policy).KeepsFirst
    (currentParameters root ++ legacyParameters root) (readParameters policy root)
  vars : variableExtraction.KeepsFirst (root.sitesNamed Space.dts "Variable") (readVariables root)
  connections : (connectionExtraction policy).KeepsFirst (connectionElements root)
    (readConnections policy root)
  components : ∃ pass, (componentExtraction taskId).KeepsFirst (pipelineComponents pipeline) pass ∧
    StartsFrom pass (readPipeline taskId pipeline)
  constraints : ∃ outcomes,
    (∀ others, List.Forall₂ ReadsAs (constraintElements root) others ↔ others = outcomes) ∧
    (readConstraints root).value = outcomes.filterMap Except.toOption ∧
    ∀ config source, diagnosticsOf config source (readConstraints root).remarks =
      (outcomes.filterMap complaint?).map fun c => c.note.diagnostic config source
  expressions : ∀ e ∈ (readConstraints root).value, e.condition = .expression →
    ∃ text, e.expression = some text ∧ trimmed? text = some text

section Edges

variable (root : Element)

theorem readConstraints_outcomes :
    ∃ outcomes,
      (∀ others, List.Forall₂ ReadsAs (constraintElements root) others ↔ others = outcomes) ∧
      (readConstraints root).value = outcomes.filterMap Except.toOption ∧
      ∀ config source, diagnosticsOf config source (readConstraints root).remarks =
        (outcomes.filterMap complaint?).map fun c => c.note.diagnostic config source := by
  obtain ⟨outcomes, hreads, hvalues, hnotes⟩ := exists_outcomes (constraintElements root)
  refine ⟨outcomes, fun others => ⟨fun h => ReadsAs.unique.forall₂ h hreads, ?_⟩, hvalues,
    fun config source => ?_⟩
  · rintro rfl
    exact hreads
  rw [diagnosticsOf, readConstraints, Noted.remarks_bind, Noted.remarks_pure, List.append_nil]
  exact (congrArg (List.map _) hnotes).trans List.map_map

variable {root} in
theorem readConstraints_expression {e : Edge} (he : e ∈ (readConstraints root).value)
    (hcondition : e.condition = .expression) :
    ∃ text, e.expression = some text ∧ trimmed? text = some text := by
  obtain ⟨outcomes, hreads, hvalues, -⟩ := readConstraints_outcomes root
  rw [hvalues] at he
  obtain ⟨outcome, houtcome, hok⟩ := List.mem_filterMap.mp he
  obtain ⟨c, -, hread⟩ := exists_constraint ((hreads _).mpr rfl) houtcome
  rw [eq_ok_of_toOption hok] at hread
  exact hread.expression hcondition

end Edges

/-- No element is dropped silently. Of the parameters, variables, connection managers and
components, the first of each key are recorded and the others reported; each constraint is one edge
or one finding, and an edge that depends on an expression has one. -/
theorem elements_recorded_or_reported (policy : RedactionPolicy) (root : Element) (taskId : String)
    (pipeline : Element) : Accounted policy root taskId pipeline where
  parameters := readParameters_keepsFirst policy root
  vars := readVariables_keepsFirst root
  connections := readConnections_keepsFirst policy root
  components := ⟨_, componentElements_eq pipeline ▸ readComponents_keepsFirst taskId _,
    readPipeline_startsFrom taskId pipeline⟩
  constraints := readConstraints_outcomes root
  expressions _ he hcondition := readConstraints_expression he hcondition

/-- A document in which each kind of element is also nameless, repeated or incomplete. -/
def crowdedDocument : String :=
  "<DTS:Executable xmlns:DTS=\"www.microsoft.com/SqlServer/Dts\" DTS:refId=\"Package\">
  <DTS:Property DTS:Name=\"Parameters\">
    <DTS:Parameter DTS:ObjectName=\"Day\"/>
    <DTS:Parameter DTS:ObjectName=\"Region\"/>
  </DTS:Property>
  <DTS:PackageParameters>
    <DTS:PackageParameter DTS:ObjectName=\"Day\"/>
    <DTS:PackageParameter DTS:ObjectName=\" \"/>
  </DTS:PackageParameters>
  <DTS:Variables>
    <DTS:Variable DTS:ObjectName=\"Rows\"/>
    <DTS:Variable/>
    <DTS:Variable DTS:ObjectName=\"Rows\" DTS:Namespace=\"User\"/>
  </DTS:Variables>
  <DTS:ConnectionManagers>
    <DTS:ConnectionManager DTS:ObjectName=\"Staging\" DTS:CreationName=\"FILE\"/>
    <DTS:ConnectionManager DTS:CreationName=\"FILE\"/>
    <DTS:ConnectionManager DTS:ObjectName=\"Staging\" DTS:CreationName=\"FILE\"/>
  </DTS:ConnectionManagers>
  <DTS:Executables>
    <DTS:Executable DTS:refId=\"Load\" DTS:ExecutableType=\"Microsoft.Pipeline\">
      <DTS:ObjectData><pipeline><components>
        <component refId=\"Read\" componentClassID=\"Microsoft.FlatFileSource\"/>
        <component componentClassID=\"Microsoft.FlatFileSource\"/>
        <component refId=\"Read\" componentClassID=\"Acme.Source\"/>
        <component refId=\"Read\" componentClassID=\"Microsoft.Lookup\"/>
      </components></pipeline></DTS:ObjectData>
    </DTS:Executable>
  </DTS:Executables>
  <DTS:PrecedenceConstraints>
    <DTS:PrecedenceConstraint DTS:From=\"Load\" DTS:To=\"Check\" DTS:EvalOp=\"0\">
      <DTS:Property DTS:Name=\"Expression\"> </DTS:Property>
      <DTS:Expression> @Rows &gt; 0 </DTS:Expression>
    </DTS:PrecedenceConstraint>
    <DTS:PrecedenceConstraint DTS:From=\"Load\"/>
    <DTS:PrecedenceConstraint DTS:From=\"Load\" DTS:To=\"Mail\" DTS:Value=\"9\"/>
    <DTS:PrecedenceConstraint DTS:From=\"Load\" DTS:To=\"Mail\" DTS:Value=\"3\"
      DTS:Expression=\" \"/>
    <DTS:PrecedenceConstraint DTS:From=\"Check\" DTS:To=\"Mail\" DTS:Value=\"1\"/>
  </DTS:PrecedenceConstraints>
</DTS:Executable>"

/-- What is read of it: names of the records, and codes of what is found. -/
def crowdedResults (policy : RedactionPolicy) (root pipeline : Element) :
    List (List String × List FindingCode) :=
  let codes (remarks : List Remark) := (notesOf remarks).map (·.code)
  let parameters := readParameters policy root
  let vars := readVariables root
  let connections := readConnections policy root
  let components := readPipeline "Load" pipeline
  let edges := readConstraints root
  [(parameters.value.map (·.name), codes parameters.remarks),
    (vars.value.map (·.qualifiedName), codes vars.remarks),
    (connections.value.map (·.id), codes connections.remarks),
    (components.value.map (·.id), codes components.remarks),
    (edges.value.map fun e => e.expression.getD e.condition.name, codes edges.remarks)]

/-- The first of each key, and one finding for each of the others. -/
def crowdedRecords : List (List String × List FindingCode) := [
  (["Day", "Region"], [.missingAttribute, .duplicateKey]),
  (["User::Rows"], [.missingAttribute, .duplicateKey]),
  (["Package.ConnectionManagers[Staging]"], [.missingAttribute, .duplicateKey]),
  (["Read"], [.missingAttribute, .unsupportedComponent, .duplicateKey]),
  (["@Rows > 0", "failure"],
    [.missingAttribute, .invalidPrecedenceCondition, .missingPrecedenceExpression])]

set_option maxRecDepth 10000 in
theorem crowdedDocument_accounted :
    ∃ d pipeline, Document.parsePackage (Utf8.encode crowdedDocument) = .ok d ∧
      (d.root.descendantsLocal "pipeline").head? = some pipeline ∧
      Accounted (.ofConfig {} .dontSaveSensitive) d.root "Load" pipeline ∧
      crowdedResults (.ofConfig {} .dontSaveSensitive) d.root pipeline = crowdedRecords := by
  have hread : ((Document.parsePackage (Utf8.encode crowdedDocument)).toOption.bind fun d =>
      (d.root.descendantsLocal "pipeline").head?.map
        (crowdedResults (.ofConfig {} .dontSaveSensitive) d.root)) = some crowdedRecords := by
    rw [show Utf8.encode crowdedDocument = _ from Utf8.encode_ofList _]
    decide +kernel
  obtain ⟨d, hparse, hd⟩ := Option.bind_eq_some_iff.mp hread
  obtain ⟨pipeline, hpipeline, hresults⟩ := Option.map_eq_some_iff.mp hd
  exact ⟨d, pipeline, eq_ok_of_toOption hparse, hpipeline,
    elements_recorded_or_reported _ d.root "Load" pipeline, hresults⟩

end EtlSurvey
