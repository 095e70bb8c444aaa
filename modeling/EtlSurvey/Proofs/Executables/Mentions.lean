import EtlSurvey.Proofs.Secrecy.Redacted
import EtlSurvey.Proofs.Survey.Scopes
import EtlSurvey.Proofs.Lists
import Mathlib.Data.List.DropRight

/-! # Which expressions an executable mentions

A reader of an executable only ever adds texts to those whose references it lists. It begins with
the expressions right inside the element and adds the statement of a SQL task, so that all of their
references are listed. Expressions in any other place it does not look at. -/

namespace EtlSurvey
open Text Markup
open scoped List

section References

theorem trimList_trimList (s : List Char) : trimList (trimList s) = trimList s := by
  have hend : ∀ s, trimEndList s = s.rdropWhile isBlank := fun _ => rfl
  have hstart : trimStartList (trimList s) = trimList s := by
    -- What is left at the end begins like what is left at the start, with no blank.
    have hprefix : trimList s <+: trimStartList s := List.rdropWhile_prefix ..
    cases hs : trimList s with
    | nil => rfl
    | cons c rest =>
      rw [hs] at hprefix
      obtain ⟨after, hafter⟩ := hprefix
      have hc : isBlank c = false := by
        have hhead := List.head?_dropWhile_not isBlank s
        rw [show s.dropWhile isBlank = _ from hafter.symm] at hhead
        simpa using hhead
      exact List.dropWhile_cons_of_neg (by simp [hc])
  rw [trimList, hstart, hend, trimList, hend]
  exact List.rdropWhile_idempotent ..

theorem trim_of_trimmed {raw text : String} (h : trimmed? raw = some text) : trim text = text := by
  have heq : trim raw = text := by
    rw [trimmed?] at h
    split at h
    · cases h
    · exact Option.some.inj h
  rw [← heq, trim, trim, String.toList_ofList, trimList_trimList]

end References

/-! Every step of a reader keeps the texts that there are. -/

namespace Draft

theorem texts_ofNamed (parentId : Option String) (n : NamedExecutable) :
    (ofNamed parentId n).texts =
      (n.element.childrenNamed Space.dts "PropertyExpression").filterMap Element.text? := by
  simp only [ofNamed]

theorem kind_ofNamed (parentId : Option String) (n : NamedExecutable) :
    (ofNamed parentId n).executable.kind = n.kind := by
  simp only [ofNamed]

theorem texts_insertSome (d : Draft) (key : String) (value : Option String) :
    (d.insertSome key value).texts = d.texts := by
  cases value with
  | none => rfl
  | some value => rfl

theorem texts_prefix_mention (d : Draft) (texts : List String) :
    d.texts <+: (d.mention texts).texts := List.prefix_append _ _

theorem texts_prefix_foldl {step : Draft → α → Draft}
    (hstep : ∀ d a, d.texts <+: (step d a).texts) (as : List α) (d : Draft) :
    d.texts <+: (as.foldl step d).texts := by
  induction as generalizing d with
  | nil => exact List.prefix_refl _
  | cons a rest ih => exact (hstep d a).trans (ih (step d a))

/-- What one of the steps adds is there in the end. -/
theorem mem_texts_foldl {step : Draft → α → Draft} {a : α} {text : String}
    (hstep : ∀ d a, d.texts <+: (step d a).texts) (ha : ∀ d, text ∈ (step d a).texts)
    {as : List α} (hmem : a ∈ as) (d : Draft) : text ∈ (as.foldl step d).texts := by
  induction as generalizing d with
  | nil => cases hmem
  | cons b rest ih =>
    obtain rfl | hmem := List.mem_cons.mp hmem
    · exact (texts_prefix_foldl hstep rest _).subset (ha d)
    · exact ih hmem (step d b)

theorem texts_foldl {step : Draft → α → Draft} (hstep : ∀ d a, (step d a).texts = d.texts)
    (as : List α) (d : Draft) : (as.foldl step d).texts = d.texts := by
  induction as generalizing d with
  | nil => rfl
  | cons a rest ih => exact (ih (step d a)).trans (hstep d a)

theorem texts_prefix_addStatementAttribute (d : Draft) (key value : String) :
    d.texts <+: (d.addStatementAttribute key value).texts := by
  rw [addStatementAttribute]
  split
  · cases trimmed? value with
    | none => exact List.prefix_refl _
    | some sql => exact List.prefix_append _ _
  · split
    · exact List.prefix_refl _
    · exact List.prefix_refl _

theorem texts_prefix_readSqlTask (d : Draft) (e : Element) :
    d.texts <+: (d.readSqlTask e).value.texts := by
  rw [readSqlTask]
  cases (e.descendantsNamed Space.sqlTask "SqlTaskData").head? with
  | none => exact List.prefix_refl _
  | some data =>
    have hstep : ∀ (d : Draft) (a : String × String),
        d.texts <+: (d.addStatementAttribute a.1 a.2).texts :=
      fun d a => d.texts_prefix_addStatementAttribute a.1 a.2
    exact texts_prefix_foldl hstep data.attributes d

theorem texts_readDataFlow (d : Draft) (e : Element) :
    (d.readDataFlow e).value.texts = d.texts := by
  rw [readDataFlow]
  cases pipelineOf? e with
  | none => rfl
  | some pipeline => rfl

theorem texts_prefix_addScriptVariables (d : Draft) (project : Element) (key : String) :
    d.texts <+: (d.addScriptVariables project key).texts := by
  rw [addScriptVariables]
  cases project.attrText? key with
  | none => exact List.prefix_refl _
  | some list => exact texts_prefix_mention (d.insert key list) _

theorem texts_prefix_readScript (d : Draft) (e : Element) :
    d.texts <+: (d.readScript e).texts := by
  rw [readScript]
  split
  · exact List.prefix_refl _
  · next project _ =>
    have hfold := texts_prefix_foldl (fun d key => d.texts_prefix_addScriptVariables project key)
      ["ReadOnlyVariables", "ReadWriteVariables"]
    refine List.IsPrefix.trans ?_ (hfold _)
    simp only [texts_insertSome, List.prefix_rfl]

theorem texts_prefix_addLoopExpression (d : Draft) (e : Element) (key : String) :
    d.texts <+: (d.addLoopExpression e key).texts := by
  rw [addLoopExpression]
  split
  · exact List.prefix_refl _
  · exact texts_prefix_mention (d.insert key _) _

theorem texts_prefix_readForEach (d : Draft) (e : Element) :
    d.texts <+: (d.readForEach e).texts := by
  rw [readForEach]
  refine List.IsPrefix.trans ?_ (texts_prefix_mention _ _)
  cases e.child? Space.dts "ForEachEnumerator" with
  | none => exact List.prefix_refl _
  | some enumerator =>
    cases hinner : innerObject? enumerator with
    | none =>
      simp only [hinner, texts_insertSome, List.prefix_rfl]
    | some inner =>
      have hstep : ∀ (d : Draft) (a : String × String),
          (d.insert ("Enumerator." ++ a.1) a.2).texts = d.texts := fun _ _ => rfl
      simp only [hinner, texts_foldl hstep, texts_insertSome, List.prefix_rfl]

theorem texts_readPackageTask (d : Draft) (e : Element) :
    (d.readPackageTask e).texts = d.texts :=
  texts_insertSome d "PackageName" (executePackageTarget? e)

theorem texts_readOther (d : Draft) (e : Element) : (d.readOther e).texts = d.texts := by
  rw [readOther]
  cases innerObject? e with
  | none => rfl
  | some inner =>
    have hstep : ∀ (d : Draft) (a : String × String),
        (d.insertMissing a.1 a.2).texts = d.texts := fun _ _ => rfl
    exact texts_foldl hstep inner.attributes d

theorem texts_prefix_readKind (d : Draft) (e : Element) :
    d.texts <+: (d.readKind e).value.texts := by
  rw [readKind]
  cases d.executable.kind with
  | executeSql => exact d.texts_prefix_readSqlTask e
  | dataFlow => exact (d.texts_readDataFlow e).symm ▸ List.prefix_refl _
  | script => exact d.texts_prefix_readScript e
  | forLoop =>
    exact texts_prefix_foldl (fun d key => d.texts_prefix_addLoopExpression e key) _ d
  | forEachLoop => exact d.texts_prefix_readForEach e
  | executePackage => exact (d.texts_readPackageTask e).symm ▸ List.prefix_refl _
  | _ => exact (d.texts_readOther e).symm ▸ List.prefix_refl _

/-- The statement of a SQL task is among its texts. -/
theorem mem_texts_readSqlTask {e data : Element} {value sql : String}
    (hdata : (e.descendantsNamed Space.sqlTask "SqlTaskData").head? = some data)
    (hattribute : ("SqlStatementSource", value) ∈ data.attributes)
    (hsql : trimmed? value = some sql) (d : Draft) : sql ∈ (d.readSqlTask e).value.texts := by
  rw [readSqlTask, hdata]
  refine mem_texts_foldl (fun d a => d.texts_prefix_addStatementAttribute a.1 a.2) (fun d => ?_)
    hattribute d
  simp [addStatementAttribute, hsql]

/-- The record of a draft lists all references in its texts. -/
theorem refs_subset_finish (policy : RedactionPolicy) {d : Draft} {text : String}
    (h : text ∈ d.texts) :
    Expression.variableRefs text ⊆ (d.finish policy).value.variableRefs ∧
      Expression.parameterRefs text ⊆ (d.finish policy).value.parameterRefs := by
  constructor
  · exact fun r hr => mem_sortedDistinct.mpr (List.mem_flatMap_of_mem h hr)
  · exact fun r hr => mem_sortedDistinct.mpr (List.mem_flatMap_of_mem h hr)

end Draft

section Visits

/-- The walk looks at an expression when it reads the executable: it stands right inside, or it is
the statement of a SQL task. -/
inductive Visit.LooksAt (x : Visit) : (Site → Option (String × String)) → Site → Prop
  | property {s} (hnamed : s.element.isNamed Space.dts "PropertyExpression" = true)
      (hinside : s.above = x.site.element :: x.site.above) : x.LooksAt propertyExpression? s
  | statement {s} (hkind : x.node.kind = .executeSql)
      (hfirst : (x.site.element.descendantsNamed Space.sqlTask "SqlTaskData").head? =
        some s.element)
      (hplain : ∀ a ∈ s.element.head.attributes,
        a.name = "SqlStatementSource" → a.space ≠ some Space.declarations) :
      x.LooksAt statementExpression? s

theorem mem_children_of_mem_sites {f : Forest} {above : List Element} {s : Site}
    (h : s ∈ f.sites above) : s.above = above ∧ s.element ∈ f.elements ∨
      ∃ e rest, s.above = e :: rest ∧ above <:+ rest ∧ s.element ∈ e.children := by
  induction f generalizing above with
  | nil => cases h
  | tree head inner next ihInner ihNext =>
    obtain rfl | h := List.mem_cons.mp h
    · exact .inl ⟨rfl, List.mem_cons_self⟩
    obtain h | h := List.mem_append.mp h
    · obtain ⟨habove, hmem⟩ | ⟨e, rest, habove, hrest, hmem⟩ := ihInner h
      · exact .inr ⟨⟨head, inner⟩, above, habove, List.suffix_rfl, hmem⟩
      · exact .inr ⟨e, rest, habove, (List.suffix_cons _ _).trans hrest, hmem⟩
    · obtain ⟨habove, hmem⟩ | hdeep := ihNext h
      · exact .inl ⟨habove, .tail _ hmem⟩
      · exact .inr hdeep

/-- Right inside an element stand its children. -/
theorem mem_children_of_above_eq {root e : Element} {rest : List Element} {s : Site}
    (h : s ∈ root.sites) (habove : s.above = e :: rest) : s.element ∈ e.children := by
  obtain ⟨htop, hmem⟩ | ⟨e', rest', heq, -, hmem⟩ := mem_children_of_mem_sites h
  · obtain ⟨rfl, -⟩ := List.cons.inj (htop.symm.trans habove)
    exact hmem
  · obtain ⟨rfl, -⟩ := List.cons.inj (heq.symm.trans habove)
    exact hmem

theorem mem_attributes_of_attr? {e : Element} {name value : String}
    (h : e.attr? name = some value)
    (hplain : ∀ a ∈ e.head.attributes, a.name = name → a.space ≠ some Space.declarations) :
    (name, value) ∈ e.attributes := by
  obtain ⟨a, hfind, rfl⟩ := Option.map_eq_some_iff.mp h
  have hname := List.find?_some hfind
  rw [beq_iff_eq] at hname
  have hmem := List.mem_of_find?_eq_some hfind
  refine List.mem_map.mpr ⟨a, List.mem_filter.mpr ⟨hmem, ?_⟩, by rw [hname]⟩
  simpa using hplain a hmem hname

theorem statementExpression?_eq_some {s : Site} {property text : String}
    (h : statementExpression? s = some (property, text)) :
    s.element.attrText? "SqlStatementSource" = some text := by
  rw [statementExpression?] at h
  dsimp only at h
  split at h
  · cases h
  · cases hsql : s.element.attrText? "SqlStatementSource" with
    | none =>
      rw [hsql] at h
      cases h
    | some sql =>
      rw [hsql] at h
      dsimp at h
      split at h
      · cases h
        rfl
      · cases h

/-- The text of an expression that the walk looks at is one of those it reads. -/
theorem Visit.LooksAt.mem_texts {root : Element} {x : Visit} (hright : x.Right)
    {reading : Site → Option (String × String)} {s : Site} (h : x.LooksAt reading s)
    (hs : s ∈ root.sites) {property text : String} (htext : reading s = some (property, text))
    (parentId : Option String) :
    trim text = text ∧
      text ∈ ((Draft.ofNamed parentId x.node.toNamedExecutable).readKind
        x.node.element).value.texts := by
  cases h with
  | property hnamed hinside =>
    obtain ⟨_, -, hrest⟩ := Option.bind_eq_some_iff.mp htext
    obtain ⟨text', htext', heq⟩ := Option.bind_eq_some_iff.mp hrest
    obtain ⟨-, rfl⟩ := Prod.mk.inj (Option.some.inj heq)
    refine ⟨trim_of_trimmed htext', ?_⟩
    have hchild : s.element ∈ x.node.element.childrenNamed Space.dts "PropertyExpression" := by
      rw [hright.element]
      exact List.mem_filter.mpr ⟨mem_children_of_above_eq hs hinside, hnamed⟩
    have hmem : text' ∈ (Draft.ofNamed parentId x.node.toNamedExecutable).texts := by
      rw [Draft.texts_ofNamed]
      exact List.mem_filterMap.mpr ⟨s.element, hchild, htext'⟩
    exact (Draft.texts_prefix_readKind _ _).subset hmem
  | statement hkind hfirst hplain =>
    have hsql := statementExpression?_eq_some htext
    obtain ⟨raw, hraw, htrimmed⟩ := Option.bind_eq_some_iff.mp hsql
    refine ⟨trim_of_trimmed htrimmed, ?_⟩
    rw [← hright.element] at hfirst
    rw [Draft.readKind, Draft.kind_ofNamed, hkind]
    exact Draft.mem_texts_readSqlTask hfirst (mem_attributes_of_attr? hraw hplain) htrimmed _

theorem refs_redactText_subset (policy : RedactionPolicy) (property text : String) :
    Expression.variableRefs (policy.redactText property text) ⊆ Expression.variableRefs text ∧
      Expression.parameterRefs (policy.redactText property text) ⊆
        Expression.parameterRefs text := by
  rw [RedactionPolicy.redactText]
  split
  · rw [variableRefs_redactedText, parameterRefs_redactedText]
    exact ⟨List.nil_subset _, List.nil_subset _⟩
  · exact ⟨List.Subset.refl _, List.Subset.refl _⟩

/-- The record of a visit lists the references of the expressions that the walk looks at. -/
theorem Visit.LooksAt.refs_subset {root : Element} {x : Visit} (hright : x.Right)
    {reading : Site → Option (String × String)} {s : Site} (h : x.LooksAt reading s)
    (hs : s ∈ root.sites) {policy : RedactionPolicy} {e : PropertyExpression}
    (he : expressed? policy reading s = some e) (retain : Bool) :
    e.variableRefs ⊆ (recordOf policy retain x.node).variableRefs ∧
      e.parameterRefs ⊆ (recordOf policy retain x.node).parameterRefs := by
  obtain ⟨⟨property, text⟩, htext, rfl⟩ := Option.map_eq_some_iff.mp he
  obtain ⟨htrim, hmem⟩ := h.mem_texts hright hs htext (x.node.parentId? retain)
  obtain ⟨hvariables, hparameters⟩ := Draft.refs_subset_finish policy hmem
  obtain ⟨hvisible, hvisible'⟩ := refs_redactText_subset policy property text
  rw [recordOf, readExecutable_value]
  simp only [readExpression, htrim]
  exact ⟨List.Subset.trans hvisible hvariables, List.Subset.trans hvisible' hparameters⟩

end Visits

/-- Expressions that stand right inside an executable which is visited, and the statements of SQL
tasks, are expressions of the package whose references the record of the executable lists. -/
theorem looked_at_expressions_mentioned {config : Config} {source : String} {bytes : Bytes}
    {d : Document} (hparse : Document.parsePackage bytes = .ok d)
    (hsuccess : (surveyPackage config source bytes).report.success = true) :
    ∀ x ∈ visits d.root, ∀ reading, ∀ s ∈ d.root.sites, x.LooksAt reading s →
      ∀ e, expressed? (openPackage config source d).value.2.1 reading s = some e →
        e ∈ (surveyPackage config source bytes).package.expressions ∧
        ∀ r ∈ (surveyPackage config source bytes).package.executables, r.id = x.node.id →
          e.variableRefs ⊆ r.variableRefs ∧ e.parameterRefs ⊆ r.parameterRefs := by
  intro x hx reading s hs hlooks e he
  have hright := visits_right (parsePackage_root hparse) x hx
  constructor
  · rw [(readFrom_of_success hparse hsuccess).expressions, List.mem_append]
    cases hlooks with
    | property hnamed hinside =>
      exact .inl (List.mem_filterMap.mpr ⟨s, List.mem_filter.mpr ⟨hs, hnamed⟩, he⟩)
    | statement hkind hfirst hplain =>
      have hnamed := (List.mem_filter.mp (List.mem_of_head? hfirst)).2
      exact .inr (List.mem_filterMap.mpr ⟨s, List.mem_filter.mpr ⟨hs, hnamed⟩, he⟩)
  · intro r hr hid
    rw [surveyPackage_eq_readSurvey hsuccess hparse] at hr
    replace hr : r ∈ (readExecutables (openPackage config source d).value.2.1
      config.retainUnsupported d.root).value.executables := hr
    rw [readExecutables_eq] at hr
    obtain ⟨n, hn, rfl⟩ := List.mem_map.mp hr
    rw [recordOf_id] at hid
    have hnode : x.node ∈ outlineNodes (outlineOf d.root) := by
      rw [← map_node_visits]
      exact List.mem_map_of_mem hx
    obtain rfl : n = x.node :=
      List.inj_on_of_nodup_map (nodup_outline_ids d.root) (List.mem_of_mem_filter hn) hnode hid
    exact hlooks.refs_subset hright hs he config.retainUnsupported

/-- A loop that sets a property of itself, and one of its enumerator, by expressions. -/
def loopDocument : String :=
  "<DTS:Executable xmlns:DTS=\"www.microsoft.com/SqlServer/Dts\" DTS:refId=\"Package\"
    DTS:ObjectName=\"Sales\">
  <DTS:Executables>
    <DTS:Executable DTS:refId=\"Package\\Files\" DTS:ObjectName=\"Files\"
        DTS:ExecutableType=\"STOCK:FOREACHLOOP\">
      <DTS:PropertyExpression DTS:Name=\"Description\">@[User::Label]</DTS:PropertyExpression>
      <DTS:ForEachEnumerator DTS:CreationName=\"Microsoft.ForEachFileEnumerator\">
        <DTS:PropertyExpression DTS:Name=\"Directory\">@[User::Folder]</DTS:PropertyExpression>
      </DTS:ForEachEnumerator>
    </DTS:Executable>
  </DTS:Executables>
</DTS:Executable>"

/-- For each property expression the executable around it, whether it stands right inside, and what
it says. -/
def propertyExpressionsIn (root : Element) :
    List (Option (String × Bool) × Option (String × String)) :=
  (root.sitesNamed Space.dts "PropertyExpression").map fun s =>
    ((visitAround? root s).map fun x =>
      (x.node.id, decide (s.above = x.site.element :: x.site.above)), propertyExpression? s)

-- All of it at once, so that the document is read only once.
set_option maxRecDepth 4000 in
theorem loopDocument_surveyed :
    (surveyed? {} "p.dtsx" (Utf8.encode loopDocument)).map (fun p => decide
      (propertyExpressionsIn p.1.root =
        [(some ("Package\\Files", true), some ("Description", "@[User::Label]")),
          (some ("Package\\Files", false), some ("Directory", "@[User::Folder]"))] ∧
      p.2.package.expressions.map (fun e => (e.scope, e.variableRefs)) =
        [("Package\\Files", ["User::Label"]), ("Package\\Files", ["User::Folder"])] ∧
      p.2.package.executables.map (fun e => (e.id, e.variableRefs)) =
        [("Package\\Files", ["User::Label"])])) = some true := by
  rw [show Utf8.encode loopDocument = _ from Utf8.encode_ofList _]
  decide +kernel

theorem looked_at_expressions_mentioned_loopDocument :
    ∃ d, Document.parsePackage (Utf8.encode loopDocument) = .ok d ∧
      (surveyPackage {} "p.dtsx" (Utf8.encode loopDocument)).report.success = true ∧
      ∃ x ∈ visits d.root, x.node.id = "Package\\Files" ∧
        ∃ s ∈ d.root.sites, x.LooksAt propertyExpression? s ∧
          ∃ e ∈ (surveyPackage {} "p.dtsx" (Utf8.encode loopDocument)).package.expressions,
            expressed? (openPackage {} "p.dtsx" d).value.2.1 propertyExpression? s = some e ∧
            ∀ r ∈ (surveyPackage {} "p.dtsx" (Utf8.encode loopDocument)).package.executables,
              r.id = x.node.id →
                e.variableRefs ⊆ r.variableRefs ∧ e.parameterRefs ⊆ r.parameterRefs := by
  obtain ⟨d, hparse, hsuccess, hread⟩ := exists_survey_of_map loopDocument_surveyed
  have hsites := (of_decide_eq_true hread).1
  dsimp only at hsites
  have hlabel : (some ("Package\\Files", true), some ("Description", "@[User::Label]")) ∈
      propertyExpressionsIn d.root := by
    rw [hsites]
    exact List.mem_cons_self
  obtain ⟨s, hs, heq⟩ := List.mem_map.mp hlabel
  obtain ⟨haround, htext⟩ := Prod.mk.inj heq
  obtain ⟨x, hx, hid⟩ := Option.map_eq_some_iff.mp haround
  obtain ⟨hid, hinside⟩ := Prod.mk.inj hid
  obtain ⟨hvisit, -⟩ := visitAround?_eq_some hx
  obtain ⟨hsite, hnamed⟩ := List.mem_filter.mp hs
  have hlooks : x.LooksAt propertyExpression? s := .property hnamed (of_decide_eq_true hinside)
  obtain ⟨e, he⟩ : ∃ e, expressed? (openPackage {} "p.dtsx" d).value.2.1 propertyExpression? s =
      some e := by
    rw [expressed?, htext]
    exact ⟨_, rfl⟩
  obtain ⟨hmem, hrefs⟩ :=
    looked_at_expressions_mentioned hparse hsuccess x hvisit propertyExpression? s hsite hlooks e he
  exact ⟨d, hparse, hsuccess, x, hvisit, hid, s, hsite, hlooks, e, hmem, he, hrefs⟩

/-- The expression of the enumerator has the loop's scope, but the loop does not list the variable
that it refers to. -/
theorem enumerator_expression_not_mentioned :
    let survey := surveyPackage {} "p.dtsx" (Utf8.encode loopDocument)
    survey.report.success = true ∧
      ∃ e ∈ survey.package.expressions, ∃ x ∈ survey.package.executables,
        x.id = e.scope ∧ ∃ r ∈ e.variableRefs, r ∉ x.variableRefs := by
  obtain ⟨d, -, hsuccess, hread⟩ := exists_survey_of_map loopDocument_surveyed
  obtain ⟨-, hexpressions, hexecutables⟩ := of_decide_eq_true hread
  dsimp only at hexpressions hexecutables
  clear hread
  generalize surveyPackage {} "p.dtsx" (Utf8.encode loopDocument) = survey at *
  have hfolder : ("Package\\Files", ["User::Folder"]) ∈
      survey.package.expressions.map fun e => (e.scope, e.variableRefs) := by
    rw [hexpressions]
    exact .tail _ List.mem_cons_self
  have hloop : ("Package\\Files", ["User::Label"]) ∈
      survey.package.executables.map fun e => (e.id, e.variableRefs) := by
    rw [hexecutables]
    exact List.mem_cons_self
  obtain ⟨e, he, heq⟩ := List.mem_map.mp hfolder
  obtain ⟨x, hx, hxeq⟩ := List.mem_map.mp hloop
  obtain ⟨hscope, hrefs⟩ := Prod.mk.inj heq
  obtain ⟨hid, hlisted⟩ := Prod.mk.inj hxeq
  refine ⟨hsuccess, e, he, x, hx, hid.trans hscope.symm, "User::Folder", ?_, ?_⟩
  · rw [hrefs]
    exact List.mem_cons_self
  · rw [hlisted]
    decide

end EtlSurvey
