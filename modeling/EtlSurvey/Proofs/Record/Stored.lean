import EtlSurvey.Proofs.Json.Field
import EtlSurvey.Record.ProjectFormat

/-! # Stored records are read back

Each kind and each record is restored from its JSON value, and the value from its text. That the
text is laid out for readers or without any blanks makes no difference, so the compact text, which
is digested, determines the record as well. -/

namespace EtlSurvey
open Json

/-! ## Kinds -/

theorem ProtectionLevel.restores : Restores toJson ofJson? where
  faithful level := .text level.name
  present _ := nofun
  reads level := by cases level <;> rfl

theorem Condition.restores : Restores toJson ofJson? where
  faithful c := .text c.name
  present _ := nofun
  reads c := by cases c <;> rfl

theorem SqlDialect.restores : Restores toJson ofJson? where
  faithful d := .text d.name
  present _ := nofun
  reads d := by cases d <;> rfl

theorem WriteMode.restores : Restores toJson ofJson? where
  faithful m := .text m.name
  present _ := nofun
  reads m := by cases m <;> rfl

theorem unsupported_faithful (raw : String) : (unsupportedJson raw).Faithful :=
  faithful_record (by simp)

theorem ConnectionKind.restores : Restores toJson ofJson? where
  faithful kind := by cases kind <;> first | exact .text _ | exact unsupported_faithful _
  present kind := by cases kind <;> nofun
  reads kind := by cases kind <;> rfl

theorem ExecutableKind.restores : Restores toJson ofJson? where
  faithful kind := by cases kind <;> first | exact .text _ | exact unsupported_faithful _
  present kind := by cases kind <;> nofun
  reads kind := by cases kind <;> rfl

theorem ComponentKind.restores : Restores toJson ofJson? where
  faithful kind := by cases kind <;> first | exact .text _ | exact unsupported_faithful _
  present kind := by cases kind <;> nofun
  reads kind := by cases kind <;> rfl

/-! ## Dictionaries and lists of texts -/

theorem Dictionary.restores {write : α → Value} {read : Value → Option α}
    (h : Restores write read) : Restores (Dictionary.toJson write) (Dictionary.ofJson? read) where
  faithful d := by
    refine .object ?_ ?_
    · intro m hm
      obtain ⟨e, _, rfl⟩ := List.mem_map.mp hm
      rfl
    · intro m hm
      obtain ⟨e, _, rfl⟩ := List.mem_map.mp hm
      exact h.faithful e.2
  present _ := nofun
  reads d := by
    have hmembers : (Dictionary.toJson write d).members? =
        some (d.entries.map fun e => (e.1, write e.2)) := by
      simp only [Dictionary.toJson, Value.members?, List.mapM_map]
      exact mapM_of_forall fun e _ => rfl
    simp only [Dictionary.ofJson?, hmembers, Option.bind_eq_bind, Option.bind_some, List.mapM_map]
    rw [mapM_of_forall (g := id) fun e _ => by simp [h.reads], List.map_id]
    exact congrArg some d.ofList_entries

theorem Properties.restores : Restores toJson ofJson? := Dictionary.restores text_restores

theorem textList_restores : Restores Value.texts textList? := text_restores.list

@[simp] theorem textMember_faithful (key : String) (s : Option String) :
    FaithfulMember (textMember key s) := text_restores.optional_faithful key s

theorem optionalText_member (key : String) (s : Option String) :
    optionalText? (Slot.ofMember (textMember key s).2) = some s := text_restores.optional s

/-- A flag that counts as no when it is left out; it never is. -/
theorem bool_orElse (b : Bool) :
    (Slot.ofMember (some (.bool b))).orElse false Value.bool? = some b := rfl

theorem textList_orEmpty (key : String) (items : List String) :
    (Slot.ofMember (listMember key (items.map .text)).2).orElse [] textList? = some items :=
  text_restores.orEmpty key items

/-- A member is read, and then the rest of the record. -/
theorem read_next {x : Option α} {a : α} {rest : α → Option β} {result : Option β}
    (hx : x = some a) (hrest : rest a = result) : (x >>= rest) = result := by
  rw [hx]
  exact hrest

/-! ## The parts of a package -/

theorem Metadata.restores : Restores toJson ofJson? where
  faithful _ := faithful_record (by simp [ProtectionLevel.restores.faithful])
  present _ := record_present _
  reads m := by
    refine read_next (fields_record (by rfl) (by decide)) ?_
    refine read_next (text_restores.required m.name) ?_
    refine read_next (ProtectionLevel.restores.required m.protectionLevel) ?_
    refine read_next (optionalText_member _ m.version) ?_
    refine read_next (optionalText_member _ m.creator) ?_
    refine read_next (optionalText_member _ m.creationDate) ?_
    refine read_next (optionalText_member _ m.description) ?_
    rfl

theorem Parameter.restores : Restores toJson ofJson? where
  faithful _ := faithful_record (by simp)
  present _ := record_present _
  reads p := by
    refine read_next (fields_record (by rfl) (by decide)) ?_
    refine read_next (text_restores.required p.name) ?_
    refine read_next (text_restores.required p.dataType) ?_
    refine read_next (optionalText_member _ p.defaultValue) ?_
    refine read_next (optionalText_member _ p.description) ?_
    refine read_next (bool_orElse p.required) ?_
    refine read_next (bool_orElse p.sensitive) ?_
    rfl

theorem Variable.restores : Restores toJson ofJson? where
  faithful _ := faithful_record (by simp)
  present _ := record_present _
  reads x := by
    refine read_next (fields_record (by rfl) (by decide)) ?_
    refine read_next (text_restores.required x.name) ?_
    refine read_next (text_restores.required x.space) ?_
    refine read_next (text_restores.required x.scope) ?_
    refine read_next (text_restores.required x.dataType) ?_
    refine read_next (optionalText_member _ x.value) ?_
    refine read_next (optionalText_member _ x.expression) ?_
    refine read_next (optionalText_member _ x.description) ?_
    rfl

theorem Connection.restores : Restores toJson ofJson? where
  faithful _ := faithful_record (by simp [ConnectionKind.restores.faithful,
    Properties.restores.faithful])
  present _ := record_present _
  reads c := by
    refine read_next (fields_record (by rfl) (by decide)) ?_
    refine read_next (text_restores.required c.id) ?_
    refine read_next (text_restores.required c.name) ?_
    refine read_next (ConnectionKind.restores.required c.kind) ?_
    refine read_next (Properties.restores.required c.properties) ?_
    refine read_next (bool_restores.required c.sensitive) ?_
    refine read_next (optionalText_member _ c.description) ?_
    rfl

theorem Component.restores : Restores toJson ofJson? where
  faithful _ := faithful_record (by simp [ComponentKind.restores.faithful,
    Properties.restores.faithful, textList_restores.faithful,
    textList_restores.optional_faithful, WriteMode.restores.optional_faithful])
  present _ := record_present _
  reads c := by
    refine read_next (fields_record (by rfl) (by decide)) ?_
    refine read_next (text_restores.required c.id) ?_
    refine read_next (text_restores.required c.name) ?_
    refine read_next (ComponentKind.restores.required c.kind) ?_
    refine read_next (text_restores.required c.classId) ?_
    refine read_next (optionalText_member _ c.sql) ?_
    refine read_next (optionalText_member _ c.table) ?_
    refine read_next (optionalText_member _ c.expression) ?_
    refine read_next (optionalText_member _ c.connectionRef) ?_
    refine read_next (Properties.restores.required c.properties) ?_
    refine read_next (textList_restores.required c.inputs) ?_
    refine read_next (textList_restores.required c.outputs) ?_
    refine read_next (textList_restores.optional c.joinKeys) ?_
    refine read_next (optionalText_member _ c.lookupTable) ?_
    refine read_next (WriteMode.restores.optional c.writeMode) ?_
    rfl

theorem Executable.restores : Restores toJson ofJson? where
  faithful _ := faithful_record (by simp [ExecutableKind.restores.faithful,
    Properties.restores.faithful, SqlDialect.restores.optional_faithful,
    Component.restores.orEmpty_faithful, text_restores.orEmpty_faithful])
  present _ := record_present _
  reads e := by
    refine read_next (fields_record (by rfl) (by decide)) ?_
    refine read_next (text_restores.required e.id) ?_
    refine read_next (optionalText_member _ e.parentId) ?_
    refine read_next (ExecutableKind.restores.required e.kind) ?_
    refine read_next (text_restores.required e.name) ?_
    refine read_next (optionalText_member _ e.description) ?_
    refine read_next (optionalText_member _ e.sql) ?_
    refine read_next (SqlDialect.restores.optional e.sqlDialect) ?_
    refine read_next (optionalText_member _ e.connectionRef) ?_
    refine read_next (Component.restores.orEmpty _ e.components) ?_
    refine read_next (Properties.restores.required e.properties) ?_
    refine read_next (bool_restores.required e.disabled) ?_
    refine read_next (bool_restores.required e.delayValidation) ?_
    refine read_next (textList_orEmpty _ e.variableRefs) ?_
    refine read_next (textList_orEmpty _ e.parameterRefs) ?_
    rfl

theorem Edge.restores : Restores toJson ofJson? where
  faithful _ := faithful_record (by simp [Condition.restores.faithful])
  present _ := record_present _
  reads e := by
    refine read_next (fields_record (by rfl) (by decide)) ?_
    refine read_next (text_restores.required e.source) ?_
    refine read_next (text_restores.required e.target) ?_
    refine read_next (Condition.restores.required e.condition) ?_
    refine read_next (optionalText_member _ e.expression) ?_
    refine read_next (bool_restores.required e.logicalAnd) ?_
    rfl

theorem PropertyExpression.restores : Restores toJson ofJson? where
  faithful _ := faithful_record (by simp [text_restores.orEmpty_faithful])
  present _ := record_present _
  reads e := by
    refine read_next (fields_record (by rfl) (by decide)) ?_
    refine read_next (text_restores.required e.scope) ?_
    refine read_next (text_restores.required e.property) ?_
    refine read_next (text_restores.required e.text) ?_
    refine read_next (textList_orEmpty _ e.variableRefs) ?_
    refine read_next (textList_orEmpty _ e.parameterRefs) ?_
    rfl

/-! ## Packages -/

theorem Package.restores : Restores toJson ofJson? where
  faithful _ := faithful_record (by simp [Metadata.restores.faithful,
    Parameter.restores.list.faithful, Variable.restores.list.faithful,
    Connection.restores.list.faithful, Executable.restores.list.faithful,
    Edge.restores.list.faithful, PropertyExpression.restores.list.faithful])
  present _ := record_present _
  reads p := by
    refine read_next (fields_record (by rfl) (by decide)) ?_
    refine read_next (Metadata.restores.required p.metadata) ?_
    refine read_next (Parameter.restores.list.required p.parameters) ?_
    refine read_next (Variable.restores.list.required p.vars) ?_
    refine read_next (Connection.restores.list.required p.connections) ?_
    refine read_next (Executable.restores.list.required p.executables) ?_
    refine read_next (Edge.restores.list.required p.edges) ?_
    refine read_next (PropertyExpression.restores.list.required p.expressions) ?_
    rfl

/-! ## Projects -/

theorem Dependency.restores : Restores toJson ofJson? where
  faithful _ := faithful_record (by simp [Condition.restores.optional_faithful])
  present _ := record_present _
  reads d := by
    refine read_next (fields_record (by rfl) (by decide)) ?_
    refine read_next (text_restores.required d.parent) ?_
    refine read_next (text_restores.required d.child) ?_
    refine read_next (text_restores.required d.taskName) ?_
    refine read_next (text_restores.required d.taskId) ?_
    refine read_next (Condition.restores.optional d.condition) ?_
    rfl

theorem PackageReference.restores : Restores toJson ofJson? where
  faithful _ := faithful_record (by simp)
  present _ := record_present _
  reads r := by
    refine read_next (fields_record (by rfl) (by decide)) ?_
    refine read_next (text_restores.required r.name) ?_
    refine read_next (text_restores.required r.path) ?_
    refine read_next (bool_orElse r.entryPoint) ?_
    refine read_next (bool_orElse r.transformationOnly) ?_
    refine read_next (bool_orElse r.failed) ?_
    rfl

theorem ExecutionChain.restores : Restores toJson ofJson? where
  faithful _ := faithful_record (by simp [textList_restores.faithful])
  present _ := record_present _
  reads c := by
    refine read_next (fields_record (by rfl) (by decide)) ?_
    refine read_next (text_restores.required c.entryPoint) ?_
    refine read_next (textList_restores.required c.packages) ?_
    rfl

theorem Project.restores : Restores toJson ofJson? where
  faithful _ := faithful_record (by simp [ProtectionLevel.restores.faithful,
    Parameter.restores.list.faithful, Connection.restores.list.faithful,
    PackageReference.restores.list.faithful, Dependency.restores.list.faithful,
    ExecutionChain.restores.list.faithful, (Dictionary.restores Package.restores).faithful,
    textList_restores.faithful])
  present _ := record_present _
  reads p := by
    refine read_next (fields_record (by rfl) (by decide)) ?_
    refine read_next (text_restores.required p.name) ?_
    refine read_next (optionalText_member _ p.version) ?_
    refine read_next (ProtectionLevel.restores.required p.protectionLevel) ?_
    refine read_next (optionalText_member _ p.targetServerVersion) ?_
    refine read_next (Parameter.restores.list.required p.parameters) ?_
    refine read_next (Connection.restores.list.required p.connections) ?_
    refine read_next (PackageReference.restores.list.required p.packages) ?_
    refine read_next ((Dictionary.restores Package.restores).required p.packageRecords) ?_
    refine read_next (Dependency.restores.list.required p.dependencies) ?_
    refine read_next (textList_restores.required p.entryPoints) ?_
    refine read_next (ExecutionChain.restores.list.required p.executionChains) ?_
    refine read_next (textList_restores.required p.isolatedPackages) ?_
    rfl

/-! ## Texts -/

theorem Json.Restores.reads_print {write : α → Value} {read : Value → Option α}
    (h : Restores write read) (l : Layout) (a : α) :
    (Value.read? ((write a).printWith l)).bind read = some a := by
  rw [Value.read_printWith l (h.faithful a)]
  exact h.reads a

theorem Package.canonicalBytes_injective : Function.Injective canonicalBytes := by
  intro p q h
  have htext : p.toJson.print = q.toJson.print := Text.Utf8.encode_injective h
  have hp := Package.restores.reads_print .compact p
  have hq := Package.restores.reads_print .compact q
  unfold Value.print at htext
  rw [htext, hq] at hp
  exact (Option.some.inj hp).symm

/-- Packages and projects are restored from the texts they are stored in, and no two packages have
the same bytes to digest. -/
theorem stored_records_restored :
    (∀ p : Package, Package.read? p.print = some p) ∧
    (∀ p : Project, Project.read? p.print = some p) ∧
    ∀ p q : Package, p.canonicalBytes = q.canonicalBytes → p = q :=
  ⟨Package.restores.reads_print .indented, Project.restores.reads_print .indented,
    fun _ _ h => Package.canonicalBytes_injective h⟩

end EtlSurvey
