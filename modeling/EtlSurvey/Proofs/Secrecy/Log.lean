import EtlSurvey.Proofs.Executables.Reading
import EtlSurvey.Proofs.Secrecy.Marked
import EtlSurvey.Proofs.Survey.Extraction

/-! # The log of what has been taken out

A report lists the path of each value that was not stored. Parameters and executables are asked for
a repeated key before anything is taken out of them, so their paths are those of records. A manager
is asked after its values have been taken out, so that the paths of a repeated one stay in the log
although it has no record. Nothing is missing from the log. -/

namespace EtlSurvey
open Text Markup

/-! ## Paths of placeholders -/

/-- Paths of the placeholders among the properties of an owner. -/
def Properties.placeholders (owner : String) (p : Properties) : List String :=
  (p.entries.filter (·.2 == redactedText)).map fun (key, _) => owner ++ "." ++ key

/-- Owner of parameters in paths. -/
def parameterOwner : String := "$Package"

/-- Paths of all placeholders of a record. -/
def Package.placeholders (p : Package) : List String :=
  (p.parameters.filter (·.defaultValue == some redactedText)).map
    (fun q => parameterOwner ++ "." ++ q.name) ++
  p.connections.flatMap (fun c => c.properties.placeholders c.id) ++
  p.executables.flatMap (fun e => e.properties.placeholders e.id)

theorem mem_placeholders {p : Properties} {owner path : String} :
    path ∈ p.placeholders owner ↔ ∃ k, p.get? k = some redactedText ∧ owner ++ "." ++ k = path := by
  simp only [Properties.placeholders, List.mem_map, List.mem_filter, beq_iff_eq, Prod.exists,
    Dictionary.mem_entries_iff]
  constructor
  · rintro ⟨k, v, ⟨hget, rfl⟩, rfl⟩
    exact ⟨k, hget, rfl⟩
  · rintro ⟨k, hget, rfl⟩
    exact ⟨k, _, ⟨hget, rfl⟩, rfl⟩

/-! ## What the policy takes out -/

section Policy

variable {policy : RedactionPolicy} {p : Properties} {k : String}

theorem mem_exposedKeys : k ∈ policy.exposedKeys p ↔
    policy.isSensitive k = true ∧ ∃ v, p.get? k = some v ∧ v ≠ redactedText := by
  simp only [RedactionPolicy.exposedKeys, List.mem_map, List.mem_filter, Bool.and_eq_true,
    bne_iff_ne, Prod.exists, Dictionary.mem_entries_iff]
  constructor
  · rintro ⟨k, v, ⟨hget, hsensitive, hne⟩, rfl⟩
    exact ⟨hsensitive, v, hget, hne⟩
  · rintro ⟨hsensitive, v, hget, hne⟩
    exact ⟨k, v, ⟨hget, hsensitive, hne⟩, rfl⟩

/-- What is taken out leaves the placeholder. -/
theorem get?_redact_of_exposed (h : k ∈ policy.exposedKeys p) :
    (policy.redact p).get? k = some redactedText := by
  obtain ⟨hsensitive, v, hget, -⟩ := mem_exposedKeys.mp h
  rw [get?_redact, hget, Option.map_some, if_pos hsensitive]

/-- A placeholder that was not there before has something taken out. -/
theorem exposed_of_get?_redact (h : (policy.redact p).get? k = some redactedText)
    (hbefore : p.get? k ≠ some redactedText) : k ∈ policy.exposedKeys p := by
  rw [get?_redact, Option.map_eq_some_iff] at h
  obtain ⟨v, hget, hvalue⟩ := h
  have hne : v ≠ redactedText := fun heq => hbefore (heq ▸ hget)
  refine mem_exposedKeys.mpr ⟨?_, v, hget, hne⟩
  by_contra hopen
  rw [if_neg hopen] at hvalue
  exact hne hvalue

end Policy

/-! ## What a reader logs -/

theorem redactedOf_append (remarks others : List Remark) :
    redactedOf (remarks ++ others) = redactedOf remarks ++ redactedOf others :=
  List.filterMap_append

theorem redactedOf_notes (notes : List Note) : redactedOf (notes.map Remark.note) = [] :=
  List.filterMap_eq_nil_iff.mpr fun r hr => by
    obtain ⟨n, -, rfl⟩ := List.mem_map.mp hr
    rfl

theorem redactedOf_redacted (owner : String) (keys : List String) :
    redactedOf (keys.map (.redacted owner ·)) = keys.map (owner ++ "." ++ ·) := by
  rw [redactedOf, List.filterMap_map]
  exact congrFun List.filterMap_eq_map keys

/-- Paths of the values that were taken out on the way. -/
def Noted.logged (x : Noted α) : List String := redactedOf x.remarks

namespace Noted

@[simp] theorem logged_pure (a : α) : (pure a : Noted α).logged = [] := rfl

@[simp] theorem logged_bind (x : Noted α) (f : α → Noted β) :
    (x >>= f).logged = x.logged ++ (f x.value).logged :=
  redactedOf_append _ _

@[simp] theorem logged_found (c : Cause) : (found c).logged = [] := rfl

@[simp] theorem logged_foundAll (causes : List Cause) : (foundAll causes).logged = [] := by
  have h := redactedOf_notes (causes.map Cause.note)
  rw [List.map_map] at h
  exact h

theorem logged_mapM {f : α → Noted β} (h : ∀ a, (f a).logged = []) (as : List α) :
    (as.mapM f).logged = [] := by
  induction as with
  | nil => rfl
  | cons a rest ih =>
    rw [List.mapM_cons, logged_bind, logged_bind, h, ih, logged_pure]
    rfl

section KeepFirst

/-- A candidate logs nothing, and neither does its record. -/
structure Silent {κ α : Type} (c : Noted (Candidate κ α)) : Prop where
  itself : c.logged = []
  record : ∀ key repeated record, c.value = .keyed key repeated record → record.logged = []

theorem Silent.keyed {κ α : Type} (key : κ) (repeated : Note) (a : α) :
    Silent (pure (.keyed key repeated (pure a))) where
  itself := rfl
  record _ _ _ h := by
    obtain ⟨-, -, rfl⟩ := Candidate.keyed.inj h
    rfl

theorem Silent.dropped {κ α : Type} (c : Cause) :
    Silent (do found c; return .dropped : Noted (Candidate κ α)) where
  itself := rfl
  record _ _ _ h := by cases h

variable {κ α σ : Type} [BEq κ] [LawfulBEq κ] {candidate : σ → Noted (Candidate κ α)}
  {seen : List κ}

/-- A run logs what is logged of each item itself, and of the records that it keeps. -/
theorem mem_logged_keepFirst {items : List σ} {path : String} :
    path ∈ (keepFirst seen (items.map candidate)).logged ↔
      (∃ s ∈ items, path ∈ (candidate s).logged) ∨
        ∃ s record, IsKept candidate seen items s record ∧ path ∈ record.logged := by
  induction items generalizing seen with
  | nil =>
    refine iff_of_false List.not_mem_nil ?_
    rintro (⟨s, hs, -⟩ | ⟨s, record, ⟨_, _, _, _, h⟩, -⟩)
    · cases hs
    · cases h
  | cons item rest ih =>
    obtain ⟨hpassed, notes, hrun⟩ | ⟨key, repeated, first, hvalue, hnew, hrun⟩ :=
      keepFirst_cons seen item rest candidate
    · have hlogged : (keepFirst seen ((item :: rest).map candidate)).logged =
          (candidate item).logged ++ (keepFirst seen (rest.map candidate)).logged := by
        rw [hrun, logged, redactedOf_append, redactedOf_append, redactedOf_notes]
        rfl
      rw [hlogged, List.mem_append, ih, List.exists_mem_cons_iff, or_assoc]
      simp only [isKept_cons_of_passed hpassed]
    · have hlogged : (keepFirst seen ((item :: rest).map candidate)).logged =
          (candidate item).logged ++
            (first.logged ++ (keepFirst (key :: seen) (rest.map candidate)).logged) := by
        rw [hrun, logged, redactedOf_append, redactedOf_append]
        rfl
      rw [hlogged, List.mem_append, List.mem_append, ih, List.exists_mem_cons_iff,
        exists_isKept_cons_of_new hvalue hnew, or_assoc]
      exact or_congr_right or_left_comm

theorem logged_keepFirst {items : List σ} (h : ∀ s, Silent (candidate s)) :
    (keepFirst seen (items.map candidate)).logged = [] := by
  refine List.eq_nil_iff_forall_not_mem.mpr fun path hpath => ?_
  obtain ⟨s, -, hs⟩ | ⟨s, record, ⟨key, repeated, hvalue, -⟩, hrecord⟩ :=
    mem_logged_keepFirst.mp hpath
  · rw [(h s).itself] at hs
    cases hs
  · rw [(h s).record key repeated record hvalue] at hrecord
    cases hrecord

end KeepFirst

end Noted

open Noted

/-! ## Readers that log nothing -/

section Silent

theorem openPackage_logged (config : Config) (source : String) (d : Document) :
    (openPackage config source d).logged = [] := by
  have hlevel : ∀ raw, (readProtectionLevel raw).logged = [] := by
    intro raw
    rw [readProtectionLevel]
    split
    · rfl
    · split <;> rfl
  have hresolve : ∀ policy : RedactionPolicy, policy.resolve.logged = [] := fun policy =>
    logged_foundAll policy.warning?.toList
  rw [openPackage, logged_bind, logged_bind, hresolve, readMetadata, logged_bind, hlevel]
  rfl

theorem readVariables_logged (root : Element) : (readVariables root).logged = [] := by
  unfold readVariables
  refine logged_keepFirst fun s => ?_
  cases s.element.attrText? "ObjectName" with
  | none => exact .dropped _
  | some name => exact .keyed _ _ _

theorem readConstraint_logged (c : Element) : (readConstraint c).logged = [] := by
  unfold readConstraint
  split
  · split
    · rfl
    · dsimp only
      split <;> rfl
  · rfl

theorem readConstraints_logged (root : Element) : (readConstraints root).logged = [] := by
  rw [readConstraints, logged_bind, logged_mapM readConstraint_logged, logged_pure, List.append_nil]

theorem readExpressions_logged (policy : RedactionPolicy) (root : Element) :
    (readExpressions policy root).logged = [] :=
  logged_mapM (fun (scope, property, _) => logged_foundAll (expressionCauses scope property _)) _

theorem readComponents_logged (taskId : String) (elements : List Element) :
    (readComponents taskId elements).logged = [] := by
  unfold readComponents
  refine logged_keepFirst fun e => ?_
  cases elementId? e with
  | none => exact .dropped _
  | some id =>
    simp only
    split
    · exact .dropped _
    · exact .keyed _ _ _

theorem readPaths_logged (taskId : String) (ids : List String)
    (producers : List (String × String)) (elements : List Element) :
    (readPaths taskId ids producers elements).logged = [] := by
  induction elements generalizing producers with
  | nil => rfl
  | cons e rest ih =>
    rw [readPaths]
    split
    · rw [logged_bind, ih, logged_found]
      rfl
    · rw [logged_bind, logged_bind, ih, logged_foundAll]
      rfl

theorem readKind_logged (d : Draft) (e : Element) : (d.readKind e).logged = [] := by
  rw [Draft.readKind]
  split
  · rw [Draft.readSqlTask]
    split <;> rfl
  · rw [Draft.readDataFlow]
    split
    · rfl
    · rw [logged_bind, readPipeline, logged_bind, logged_bind, readComponents_logged,
        readPaths_logged, logged_bind, logged_foundAll]
      rfl
  all_goals rfl

end Silent

/-! ## Records and their paths -/

section Parameters

variable (policy : RedactionPolicy) {root : Element}

/-- What is logged of a parameter is that its value is the placeholder. -/
theorem mem_readParameter_logged {name path : String} {e : Element} :
    path ∈ (readParameter policy name e).logged ↔
      (isTrue (e.attr? "Sensitive") || policy.isSensitive name) = true ∧
        (parameterValue? e).isSome = true ∧ parameterOwner ++ "." ++ name = path := by
  rw [logged, readParameter]
  dsimp only
  split
  · next h =>
    rw [Bool.and_eq_true] at h
    simp only [h, true_and]
    exact List.mem_singleton.trans eq_comm
  · next h =>
    rw [Bool.and_eq_true] at h
    exact iff_of_false List.not_mem_nil fun hlogged => h ⟨hlogged.1, hlogged.2.1⟩

/-- Whether the value of a parameter is taken out, if it has one. -/
def RedactionPolicy.hidesDefault (q : Parameter) : Bool := q.sensitive || policy.isSensitive q.name

theorem parameter_defaultValue {e : Element} {q : Parameter}
    (h : (parameterExtraction policy).read e = .ok q) : q.defaultValue =
      if policy.hidesDefault q then (parameterValue? e).map fun _ => redactedText
      else parameterValue? e := by
  dsimp only [parameterExtraction] at h
  split at h
  · cases h
  · cases h
    rfl

/-- A parameter that is kept is logged if its value is taken out. -/
theorem mem_readParameters_logged {path : String} : path ∈ (readParameters policy root).logged ↔
    ∃ e q, (parameterExtraction policy).IsFirst (parameterElements root) e q ∧
      policy.hidesDefault q = true ∧ (parameterValue? e).isSome = true ∧
        parameterOwner ++ "." ++ q.name = path := by
  have hfollows := parameters_follow policy
  -- the record of a candidate is that of its name
  have hrecord : ∀ {items e record}, IsKept (parameterCandidate policy) [] items e record →
      (path ∈ record.logged ↔ policy.hidesDefault record.value = true ∧
        (parameterValue? e).isSome = true ∧ parameterOwner ++ "." ++ record.value.name = path) := by
    rintro items e record ⟨key, repeated, hvalue, -, -⟩
    rw [parameterCandidate] at hvalue
    cases hname : e.attrText? "ObjectName" with
    | none =>
      rw [hname] at hvalue
      cases hvalue
    | some name =>
      rw [hname] at hvalue
      obtain ⟨-, -, rfl⟩ := Candidate.keyed.inj hvalue
      exact mem_readParameter_logged policy
  have hitself : ∀ e, (parameterCandidate policy e).logged = [] := by
    intro e
    rw [parameterCandidate]
    split <;> rfl
  show path ∈ (keepFirst [] ((parameterElements root).map (parameterCandidate policy))).logged ↔ _
  rw [mem_logged_keepFirst, or_iff_right]
  · constructor
    · rintro ⟨e, record, hkept, hpath⟩
      exact ⟨e, record.value, hfollows.isFirst_of_isKept hkept, (hrecord hkept).mp hpath⟩
    · rintro ⟨e, q, hfirst, hpath⟩
      obtain ⟨record, hkept, rfl⟩ := hfollows.isKept_of_isFirst hfirst
      exact ⟨e, record, hkept, (hrecord hkept).mpr hpath⟩
  · rintro ⟨e, -, hpath⟩
    rw [hitself] at hpath
    cases hpath

theorem parameter_shown {path : String} (h : path ∈ (readParameters policy root).logged) :
    ∃ q ∈ (readParameters policy root).value, q.defaultValue = some redactedText ∧
      parameterOwner ++ "." ++ q.name = path := by
  obtain ⟨e, q, hfirst, hhidden, hsome, rfl⟩ := (mem_readParameters_logged policy).mp h
  refine ⟨q, (parameters_follow policy).mem_value_iff.mpr ⟨e, hfirst⟩, ?_, rfl⟩
  obtain ⟨v, hv⟩ := Option.isSome_iff_exists.mp hsome
  rw [parameter_defaultValue policy hfirst.1, if_pos hhidden, hv]
  rfl

/-- The placeholder of a parameter is logged unless it is what the element states. -/
theorem parameter_logged {q : Parameter} (hq : q ∈ (readParameters policy root).value) :
    ∃ e, (parameterExtraction policy).IsFirst (parameterElements root) e q ∧
      (q.defaultValue = some redactedText → parameterValue? e ≠ some redactedText →
        parameterOwner ++ "." ++ q.name ∈ (readParameters policy root).logged) := by
  obtain ⟨e, hfirst⟩ := (parameters_follow policy).mem_value_iff.mp hq
  refine ⟨e, hfirst, fun hdefault hbefore => ?_⟩
  refine (mem_readParameters_logged policy).mpr ⟨e, q, hfirst, ?_⟩
  rw [parameter_defaultValue policy hfirst.1] at hdefault
  split at hdefault
  · next hhidden =>
    obtain ⟨v, hv, -⟩ := Option.map_eq_some_iff.mp hdefault
    exact ⟨hhidden, Option.isSome_iff_exists.mpr ⟨v, hv⟩, rfl⟩
  · exact absurd hdefault hbefore

end Parameters

section Managers

variable (policy : RedactionPolicy) {root e : Element} {path : String}

/-- Keys under which values of a manager are taken out: one for each marked part, and those that
the policy hides. -/
def takenOut (e : Element) : List String :=
  markedKeys e ++ policy.exposedKeys (connectionProperties e)

theorem readConnection_logged {owner name : String} (hname : e.attrText? "ObjectName" = some name) :
    (readConnection policy owner e).logged =
      (takenOut policy e).map ((connectionOf policy owner e name).id ++ "." ++ ·) := by
  have hmarked : ∀ id, (remarkAll ((markedKeys e).map (.redacted id ·))).logged =
      (markedKeys e).map (id ++ "." ++ ·) := fun id => redactedOf_redacted id (markedKeys e)
  have hexposed : ∀ id p, (policy.redactOwned id p).logged =
      (policy.exposedKeys p).map (id ++ "." ++ ·) := fun id p => redactedOf_redacted id _
  have hlast : ∀ (b : Prop) [Decidable b] (cause : Cause) (c : Connection),
      (if b then do found cause; return some c else return some c : Noted _).logged = [] := by
    intro b _ cause c
    split <;> rfl
  rw [takenOut, List.map_append]
  unfold readConnection
  simp only [hname]
  split
  · simp only [logged_bind, logged_found, hmarked, hexposed, hlast, List.nil_append,
      List.append_nil]
    rfl
  · simp only [logged_bind, hmarked, hexposed, hlast, List.append_nil]
    rfl

/-- All managers with a name are logged, whether they are kept or not. -/
theorem mem_readConnections_logged : path ∈ (readConnections policy root).logged ↔
    ∃ e ∈ connectionElements root, ∃ c, (connectionExtraction policy).read e = .ok c ∧
      ∃ k ∈ takenOut policy e, c.id ++ "." ++ k = path := by
  -- what is logged of a manager has been logged before its id is looked at
  have hitself : ∀ e, path ∈ (connectionCandidate policy e).logged ↔
      ∃ c, (connectionExtraction policy).read e = .ok c ∧
        ∃ k ∈ takenOut policy e, c.id ++ "." ++ k = path := by
    intro e
    have hlogged : (connectionCandidate policy e).logged =
        (readConnection policy "Package.ConnectionManagers" e).logged := by
      rw [connectionCandidate, logged_bind]
      split <;> exact List.append_nil _
    rw [hlogged]
    dsimp only [connectionExtraction]
    cases hname : e.attrText? "ObjectName" with
    | none =>
      rw [readConnection_of_nameless policy hname]
      refine iff_of_false List.not_mem_nil ?_
      rintro ⟨c, h, -⟩
      cases h
    | some name =>
      rw [readConnection_logged policy hname, List.mem_map]
      simp only [Except.ok.injEq, exists_eq_left']
  have hrecord : ∀ {items e record}, IsKept (connectionCandidate policy) [] items e record →
      record.logged = [] := by
    rintro items e record ⟨key, repeated, hvalue, -, -⟩
    rw [connectionCandidate, Noted.value_bind] at hvalue
    split at hvalue
    · cases hvalue
    · obtain ⟨-, -, rfl⟩ := Candidate.keyed.inj hvalue
      rfl
  show path ∈ (keepFirst [] ((connectionElements root).map (connectionCandidate policy))).logged ↔ _
  rw [mem_logged_keepFirst, or_iff_left]
  · simp only [hitself]
  · rintro ⟨e, record, hkept, hpath⟩
    rw [hrecord hkept] at hpath
    cases hpath

theorem connection_properties {c : Connection} (h : (connectionExtraction policy).read e = .ok c) :
    c.properties = policy.redact (connectionProperties e) := by
  dsimp only [connectionExtraction] at h
  split at h
  · cases h
  · cases h
    rfl

theorem get?_of_takenOut {k : String} (h : k ∈ takenOut policy e) :
    (policy.redact (connectionProperties e)).get? k = some redactedText := by
  obtain hmarked | hexposed := List.mem_append.mp h
  · rw [get?_redact, get?_connectionProperties, if_pos hmarked, Option.map_some, ite_self]
  · exact get?_redact_of_exposed hexposed

theorem takenOut_of_get? {k : String}
    (h : (policy.redact (connectionProperties e)).get? k = some redactedText)
    (hbefore : k ∈ markedKeys e ∨ statedValue? e k ≠ some redactedText) :
    k ∈ takenOut policy e := by
  by_cases hmarked : k ∈ markedKeys e
  · exact List.mem_append_left _ hmarked
  · refine List.mem_append_right _ (exposed_of_get?_redact h ?_)
    rw [get?_connectionProperties, if_neg hmarked]
    exact hbefore.resolve_left hmarked

/-- The path of a value that was taken out of a manager with the id of one ahead of it. -/
def IsRepeatedPath (root : Element) (path : String) : Prop :=
  ∃ e ∈ connectionElements root, ∃ c, (connectionExtraction policy).read e = .ok c ∧
    ¬ (connectionExtraction policy).IsFirst (connectionElements root) e c ∧
    ∃ k ∈ takenOut policy e, c.id ++ "." ++ k = path

theorem connection_shown (h : path ∈ (readConnections policy root).logged) :
    (∃ c ∈ (readConnections policy root).value, path ∈ c.properties.placeholders c.id) ∨
      IsRepeatedPath policy root path := by
  obtain ⟨e, he, c, hread, k, hk, rfl⟩ := (mem_readConnections_logged policy).mp h
  by_cases hfirst : (connectionExtraction policy).IsFirst (connectionElements root) e c
  · refine .inl ⟨c, (connections_follow policy).mem_value_iff.mpr ⟨e, hfirst⟩, ?_⟩
    refine mem_placeholders.mpr ⟨k, ?_, rfl⟩
    rw [connection_properties policy hread]
    exact get?_of_takenOut policy hk
  · exact .inr ⟨e, he, c, hread, hfirst, k, hk, rfl⟩

/-- A placeholder of a connection is logged if a part is marked there, and else unless it is what
the manager states. -/
theorem connection_logged {c : Connection} (hc : c ∈ (readConnections policy root).value) :
    ∃ e, (connectionExtraction policy).IsFirst (connectionElements root) e c ∧
      ∀ k, c.properties.get? k = some redactedText →
        k ∈ markedKeys e ∨ statedValue? e k ≠ some redactedText →
        c.id ++ "." ++ k ∈ (readConnections policy root).logged := by
  obtain ⟨e, hfirst⟩ := (connections_follow policy).mem_value_iff.mp hc
  refine ⟨e, hfirst, fun k hget hbefore => ?_⟩
  rw [connection_properties policy hfirst.1] at hget
  have he : e ∈ connectionElements root := List.mem_of_find?_eq_some hfirst.2
  have hk : k ∈ takenOut policy e := takenOut_of_get? policy hget hbefore
  exact (mem_readConnections_logged policy).mpr ⟨e, he, c, hfirst.1, k, hk, rfl⟩

end Managers

section Executables

variable (policy : RedactionPolicy) (retain : Bool) (n : OutlineNode)

/-- Properties of an executable, before the policy is asked. -/
def statedProperties : Properties :=
  ((Draft.ofNamed none n.toNamedExecutable).readKind n.element).value.executable.properties

theorem draft_id (parent : Option String) :
    ((Draft.ofNamed parent n.toNamedExecutable).readKind n.element).value.executable.id = n.id :=
  (twins_readKind parent none n.toNamedExecutable).id

theorem draft_properties (parent : Option String) :
    ((Draft.ofNamed parent n.toNamedExecutable).readKind n.element).value.executable.properties =
      statedProperties n := by
  rw [statedProperties, (twins_readKind parent none n.toNamedExecutable).twin]

theorem recordOf_properties :
    (recordOf policy retain n).properties = policy.redact (statedProperties n) := by
  rw [recordOf, readExecutable_value, ← draft_properties n (n.parentId? retain)]
  rfl

theorem finish_logged (d : Draft) : (d.finish policy).logged =
    (policy.exposedKeys d.executable.properties).map (d.executable.id ++ "." ++ ·) := by
  rw [Draft.finish, logged_bind, logged_pure, List.append_nil]
  exact redactedOf_redacted _ _

theorem readExecutable_logged (parent : Option String) :
    (readExecutable policy parent n.toNamedExecutable).logged =
      (policy.exposedKeys (statedProperties n)).map (n.id ++ "." ++ ·) := by
  rw [readExecutable, logged_bind, readKind_logged, List.nil_append, finish_logged, draft_id,
    draft_properties]

theorem readNode_logged : (readNode policy retain n).logged =
    if n.isKept retain then (policy.exposedKeys (statedProperties n)).map (n.id ++ "." ++ ·)
    else [] := by
  have hremark : (remark (.unsupported n.typeName)).logged = [] := rfl
  rw [readNode, OutlineNode.isKept]
  cases n.kind.isSupported <;> cases retain <;>
    simp only [Bool.not_false, Bool.not_true, Bool.or_true, Bool.or_false, Bool.false_eq_true,
      if_true, if_false, logged_bind, logged_pure, logged_found, hremark, readExecutable_logged,
      List.nil_append, List.append_nil]

theorem readSteps_logged (steps : List OutlineStep) : (readSteps policy retain steps).logged =
    ((outlineNodes steps).filter (·.isKept retain)).flatMap fun n =>
      (policy.exposedKeys (statedProperties n)).map (n.id ++ "." ++ ·) := by
  induction steps with
  | nil => rfl
  | cons step rest ih =>
    cases step with
    | note c => exact ih
    | node n =>
      rw [readSteps, logged_bind, logged_bind, logged_pure, List.append_nil, ih, readNode_logged,
        outlineNodes_node, List.filter_cons]
      split <;> rfl

theorem mem_readExecutables_logged {root : Element} {path : String} :
    path ∈ (readExecutables policy retain root).logged ↔
      ∃ n ∈ outlineNodes (outlineOf root), n.isKept retain = true ∧
        ∃ k ∈ policy.exposedKeys (statedProperties n), n.id ++ "." ++ k = path := by
  rw [readExecutables_eq_readSteps, logged_bind, logged_pure, List.append_nil, readSteps_logged]
  simp only [List.mem_flatMap, List.mem_filter, List.mem_map, and_assoc]

theorem executable_shown {root : Element} {path : String}
    (h : path ∈ (readExecutables policy retain root).logged) :
    ∃ x ∈ (readExecutables policy retain root).value.executables,
      path ∈ x.properties.placeholders x.id := by
  obtain ⟨n, hn, hkept, k, hk, rfl⟩ := (mem_readExecutables_logged policy retain).mp h
  refine ⟨recordOf policy retain n, ?_, mem_placeholders.mpr ⟨k, ?_, ?_⟩⟩
  · rw [readExecutables_eq]
    exact List.mem_map_of_mem (List.mem_filter.mpr ⟨hn, hkept⟩)
  · rw [recordOf_properties]
    exact get?_redact_of_exposed hk
  · rw [recordOf_id]

/-- A placeholder of an executable is logged unless it is what the task states. -/
theorem executable_logged {root : Element} {x : Executable}
    (hx : x ∈ (readExecutables policy retain root).value.executables) :
    ∃ n ∈ outlineNodes (outlineOf root), recordOf policy retain n = x ∧
      ∀ k, x.properties.get? k = some redactedText →
        (statedProperties n).get? k ≠ some redactedText →
        x.id ++ "." ++ k ∈ (readExecutables policy retain root).logged := by
  rw [readExecutables_eq] at hx
  obtain ⟨n, hn, rfl⟩ := List.mem_map.mp hx
  obtain ⟨hn, hkept⟩ := List.mem_filter.mp hn
  refine ⟨n, hn, rfl, fun k hget hbefore => ?_⟩
  rw [recordOf_properties] at hget
  rw [recordOf_id]
  have hk : k ∈ policy.exposedKeys (statedProperties n) := exposed_of_get?_redact hget hbefore
  exact (mem_readExecutables_logged policy retain).mpr ⟨n, hn, hkept, k, hk, rfl⟩

end Executables

/-! ## The log of a survey -/

section Survey

variable (policy : RedactionPolicy) (retain : Bool) (root : Element)

/-- A log has the paths of placeholders of a record, and those of repeated managers. The only
placeholders that it may lack are those that stand in the document itself. -/
structure LogMatches (p : Package) (log : List String) : Prop where
  shown : ∀ path ∈ log, path ∈ p.placeholders ∨ IsRepeatedPath policy root path
  repeated : ∀ path, IsRepeatedPath policy root path → path ∈ log
  parameters : ∀ q ∈ p.parameters, ∃ e,
    (parameterExtraction policy).IsFirst (parameterElements root) e q ∧
      (q.defaultValue = some redactedText → parameterValue? e ≠ some redactedText →
        parameterOwner ++ "." ++ q.name ∈ log)
  connections : ∀ c ∈ p.connections, ∃ e,
    (connectionExtraction policy).IsFirst (connectionElements root) e c ∧
      ∀ k, c.properties.get? k = some redactedText →
        k ∈ markedKeys e ∨ statedValue? e k ≠ some redactedText → c.id ++ "." ++ k ∈ log
  executables : ∀ x ∈ p.executables, ∃ n ∈ outlineNodes (outlineOf root),
    recordOf policy retain n = x ∧
      ∀ k, x.properties.get? k = some redactedText →
        (statedProperties n).get? k ≠ some redactedText → x.id ++ "." ++ k ∈ log

theorem Package.mem_placeholders {p : Package} {path : String} : path ∈ p.placeholders ↔
    (∃ q ∈ p.parameters, q.defaultValue = some redactedText ∧
      parameterOwner ++ "." ++ q.name = path) ∨
    (∃ c ∈ p.connections, path ∈ c.properties.placeholders c.id) ∨
    ∃ x ∈ p.executables, path ∈ x.properties.placeholders x.id := by
  simp only [Package.placeholders, List.mem_append, List.mem_map, List.mem_filter, beq_iff_eq,
    List.mem_flatMap, and_assoc, or_assoc]

variable (metadata : Metadata)

theorem mem_readPackage_logged {path : String} :
    path ∈ (readPackage policy retain metadata root).logged ↔
      path ∈ (readParameters policy root).logged ∨ path ∈ (readConnections policy root).logged ∨
        path ∈ (readExecutables policy retain root).logged := by
  simp only [readPackage, ControlFlow.validate, logged_bind, readVariables_logged,
    readConstraints_logged, logged_foundAll, readExpressions_logged, logged_pure,
    List.nil_append, List.append_nil, List.mem_append]

theorem readPackage_logMatches :
    LogMatches policy retain root (readPackage policy retain metadata root).value.1
      (readPackage policy retain metadata root).logged where
  shown path hpath := by
    rw [Package.mem_placeholders]
    obtain hpath | hpath | hpath := (mem_readPackage_logged policy retain root metadata).mp hpath
    · exact .inl (.inl (parameter_shown policy hpath))
    · exact (connection_shown policy hpath).imp_left fun hconnection => .inr (.inl hconnection)
    · exact .inl (.inr (.inr (executable_shown policy retain hpath)))
  repeated path hpath := by
    obtain ⟨e, he, c, hread, -, hk⟩ := hpath
    refine (mem_readPackage_logged policy retain root metadata).mpr (.inr (.inl ?_))
    exact (mem_readConnections_logged policy).mpr ⟨e, he, c, hread, hk⟩
  parameters q hq := by
    obtain ⟨e, hfirst, hlogged⟩ := parameter_logged policy hq
    refine ⟨e, hfirst, fun hdefault hbefore => ?_⟩
    exact (mem_readPackage_logged policy retain root metadata).mpr (.inl (hlogged hdefault hbefore))
  connections c hc := by
    obtain ⟨e, hfirst, hlogged⟩ := connection_logged policy hc
    refine ⟨e, hfirst, fun k hget hbefore => ?_⟩
    refine (mem_readPackage_logged policy retain root metadata).mpr (.inr (.inl ?_))
    exact hlogged k hget hbefore
  executables x hx := by
    obtain ⟨n, hn, hrecord, hlogged⟩ := executable_logged policy retain hx
    refine ⟨n, hn, hrecord, fun k hget hbefore => ?_⟩
    refine (mem_readPackage_logged policy retain root metadata).mpr (.inr (.inr ?_))
    exact hlogged k hget hbefore

end Survey

theorem reportOf_redacted (config : Config) (source : String) (p : Package)
    (total supported : Nat) (remarks : List Remark) :
    (reportOf config source p total supported remarks).redactedProperties = redactedOf remarks :=
  PackageReport.extend_keeps (f := (·.redactedProperties)) (fun _ _ => rfl) _ _

/-- The log of a survey misses nothing that has been taken out, and shows nothing else but what has
been taken out of managers that are left out of the record because their ids are repeated. -/
theorem redactions_logged (config : Config) (source : String) {bytes : Bytes} {d : Document}
    (hparse : Document.parsePackage bytes = .ok d)
    (hsuccess : (surveyPackage config source bytes).report.success = true) :
    let survey := surveyPackage config source bytes
    LogMatches (.ofConfig config survey.package.metadata.protectionLevel) config.retainUnsupported
      d.root survey.package survey.report.redactedProperties := by
  intro survey
  let metadata := (openPackage config source d).value.1
  let policy := (openPackage config source d).value.2.1
  have hsurvey : survey = readSurvey config source policy metadata d :=
    surveyPackage_eq_readSurvey hsuccess hparse
  have hlog : survey.report.redactedProperties =
      (readPackage policy config.retainUnsupported metadata d.root).logged := by
    rw [hsurvey, readSurvey_report, reportOf_redacted, surveyRemarks, redactedOf_append]
    show (openPackage config source d).logged ++ (readDocument config policy metadata d).logged = _
    rw [openPackage_logged, readDocument, logged_bind, logged_foundAll, logged_bind, logged_bind,
      logged_foundAll, logged_pure]
    simp only [List.nil_append, List.append_nil]
  have hpolicy : RedactionPolicy.ofConfig config survey.package.metadata.protectionLevel =
      policy := by
    rw [hsurvey]
    rfl
  rw [hpolicy, hlog, hsurvey, readSurvey_package]
  exact readPackage_logMatches policy config.retainUnsupported d.root metadata

/-- A package with two managers of one id. -/
def twoFeedsDocument : String :=
  "<DTS:Executable xmlns:DTS=\"www.microsoft.com/SqlServer/Dts\" DTS:refId=\"Package\"
    DTS:ObjectName=\"Sales\">
  <DTS:ConnectionManagers>
    <DTS:ConnectionManager DTS:ObjectName=\"Feed\" DTS:CreationName=\"FTP\">
      <DTS:Property DTS:Name=\"ServerName\">files</DTS:Property>
    </DTS:ConnectionManager>
    <DTS:ConnectionManager DTS:ObjectName=\"Feed\" DTS:CreationName=\"FTP\">
      <DTS:Property DTS:Name=\"Password\">secret</DTS:Property>
    </DTS:ConnectionManager>
  </DTS:ConnectionManagers>
</DTS:Executable>"

set_option maxRecDepth 4000 in
theorem twoFeedsDocument_paths :
    (surveyed? {} "p.dtsx" (Utf8.encode twoFeedsDocument)).map
      (fun p => (p.2.package.placeholders, p.2.report.redactedProperties)) =
    some (["Package.ConnectionManagers[Feed].ServerName"],
      ["Package.ConnectionManagers[Feed].ServerName",
        "Package.ConnectionManagers[Feed].Password"]) := by
  rw [show Utf8.encode twoFeedsDocument = _ from Utf8.encode_ofList _]
  decide +kernel

/-- The log has the server of the first manager, where the record has a placeholder, and the
password of the second one, which is repeated. -/
theorem redactions_logged_twoFeedsDocument :
    ∃ d, Document.parsePackage (Utf8.encode twoFeedsDocument) = .ok d ∧
      let survey := surveyPackage {} "p.dtsx" (Utf8.encode twoFeedsDocument)
      let policy := RedactionPolicy.ofConfig {} survey.package.metadata.protectionLevel
      survey.report.success = true ∧
      LogMatches policy true d.root survey.package survey.report.redactedProperties ∧
      "Package.ConnectionManagers[Feed].ServerName" ∈ survey.package.placeholders ∧
      IsRepeatedPath policy d.root "Package.ConnectionManagers[Feed].Password" := by
  obtain ⟨d, hparse, hsuccess, hpaths⟩ := exists_survey_of_map twoFeedsDocument_paths
  obtain ⟨hplaceholders, hlog⟩ := Prod.mk.inj hpaths
  have hmatches := redactions_logged {} "p.dtsx" hparse hsuccess
  refine ⟨d, hparse, hsuccess, hmatches, ?_, (hmatches.shown _ ?_).resolve_left ?_⟩
  · rw [hplaceholders]
    exact List.mem_singleton_self _
  · rw [hlog]
    exact .tail _ (List.mem_singleton_self _)
  · rw [hplaceholders]
    decide

/-- The password of the second manager is in the log, but the record does not have that manager. -/
theorem repeated_password_logged :
    let survey := surveyPackage {} "p.dtsx" (Utf8.encode twoFeedsDocument)
    survey.report.success = true ∧
      "Package.ConnectionManagers[Feed].Password" ∈ survey.report.redactedProperties ∧
      "Package.ConnectionManagers[Feed].Password" ∉ survey.package.placeholders := by
  obtain ⟨d, -, hsuccess, hpaths⟩ := exists_survey_of_map twoFeedsDocument_paths
  obtain ⟨hplaceholders, hlog⟩ := Prod.mk.inj hpaths
  refine ⟨hsuccess, ?_, ?_⟩
  · rw [hlog]
    exact .tail _ (List.mem_singleton_self _)
  · rw [hplaceholders]
    decide

end EtlSurvey
