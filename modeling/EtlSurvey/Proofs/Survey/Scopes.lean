import EtlSurvey.Proofs.Executables.Visits
import EtlSurvey.Proofs.Survey.FirstOfKey

/-! # Which executable a scope names

The scope of a variable or an expression is the reference id of the executable around it. Where the
walk gives an executable that has none an id made of names, the scope is that of the package
instead, and no id made of names is equal to that. So a scope names the executable exactly if it
has a reference id, and only then the scopes of two executables differ. -/

namespace EtlSurvey
open Text Markup

section Enclosing

/-- The nearest executable among the ancestors, with those above it. -/
def enclosing? : List Element → Option Site
  | [] => none
  | e :: above => if e.isExecutable then some ⟨e, above⟩ else enclosing? above

theorem dropWhile_of_enclosing {above : List Element} {x : Site} (h : enclosing? above = some x) :
    above.dropWhile (!·.isExecutable) = x.element :: x.above := by
  induction above with
  | nil => cases h
  | cons e rest ih =>
    rw [enclosing?] at h
    cases he : e.isExecutable with
    | true =>
      rw [he, if_pos rfl] at h
      rw [List.dropWhile_cons_of_neg (by simp [he]), ← Option.some.inj h]
    | false =>
      rw [he, if_neg Bool.false_ne_true] at h
      rw [List.dropWhile_cons_of_pos (by simp [he]), ih h]

theorem owningScope_of_enclosing {s x : Site} (h : enclosing? s.above = some x)
    (hnested : x.above ≠ []) :
    owningScope s = (x.element.attrText? "refId").getD packageScope := by
  obtain ⟨e, rest, habove⟩ := List.exists_cons_of_ne_nil hnested
  rw [owningScope, dropWhile_of_enclosing h, habove]

/-- No id that is made of names is the package's scope. -/
theorem joined_ne_packageScope (container name : String) :
    container ++ "\\" ++ name ≠ packageScope := by
  intro heq
  have hmem : '\\' ∈ packageScope.toList := by
    rw [← heq]
    simp
  exact absurd hmem (by decide)

theorem Visit.Right.scope_eq_iff {v : Visit} (h : v.Right) {s : Site}
    (hs : enclosing? s.above = some v.site) :
    owningScope s = v.node.id ↔ (v.site.element.attrText? "refId").isSome := by
  obtain ⟨container, -, hid⟩ := h.id
  rw [owningScope_of_enclosing hs h.nested, hid]
  cases v.site.element.attrText? "refId" with
  | some refId => simp
  | none => simpa using (joined_ne_packageScope container v.node.name).symm

end Enclosing

section Records

/-- What no two variables of a package have in common. -/
def Variable.key (v : Variable) : String × String × String := (v.scope, v.space, v.name)

/-- The variable that an element declares. -/
def declared? (s : Site) : Option Variable :=
  (s.element.attrText? "ObjectName").map fun name =>
    readVariable ((s.element.attrText? "Namespace").getD "User") name (owningScope s) s.element

/-- The expression of an element, given how the element is read. -/
def expressed? (policy : RedactionPolicy) (reading : Site → Option (String × String)) (s : Site) :
    Option PropertyExpression :=
  (reading s).map fun (property, text) =>
    (readExpression policy (owningScope s) property text).value

theorem scope_of_declared {s : Site} {v : Variable} (h : declared? s = some v) :
    v.scope = owningScope s := by
  obtain ⟨name, -, rfl⟩ := Option.map_eq_some_iff.mp h
  rfl

theorem scope_of_expressed {policy : RedactionPolicy} {reading : Site → Option (String × String)}
    {s : Site} {e : PropertyExpression} (h : expressed? policy reading s = some e) :
    e.scope = owningScope s := by
  obtain ⟨⟨property, text⟩, -, rfl⟩ := Option.map_eq_some_iff.mp h
  rfl

/-- The variables and expressions of a package come from its elements: for each key that elements
declare there is a variable of one of them, and every element with an expression counts. -/
structure ReadFrom (root : Element) (policy : RedactionPolicy) (p : Package) : Prop where
  declared : ∀ v ∈ p.vars, ∃ s ∈ root.sitesNamed Space.dts "Variable", declared? s = some v
  keys : p.vars.map (·.key) =
    (((root.sitesNamed Space.dts "Variable").filterMap declared?).map (·.key)).eraseDups
  expressions : p.expressions =
    (root.sitesNamed Space.dts "PropertyExpression").filterMap
      (expressed? policy propertyExpression?) ++
    (root.sitesNamed Space.sqlTask "SqlTaskData").filterMap (expressed? policy statementExpression?)

theorem readVariables_declared {root : Element} {v : Variable}
    (h : v ∈ (readVariables root).value) :
    ∃ s ∈ root.sitesNamed Space.dts "Variable", declared? s = some v := by
  obtain ⟨s, hs, key, repeated, record, hvalue, rfl⟩ := mem_keepFirst h
  refine ⟨s, hs, ?_⟩
  rw [declared?]
  cases hname : s.element.attrText? "ObjectName" with
  | none =>
    rw [hname] at hvalue
    cases hvalue
  | some name =>
    rw [hname] at hvalue
    obtain ⟨-, -, rfl⟩ := Candidate.keyed.inj hvalue
    rfl

theorem readVariables_keys (root : Element) : (readVariables root).value.map (·.key) =
    (((root.sitesNamed Space.dts "Variable").filterMap declared?).map (·.key)).eraseDups := by
  unfold readVariables
  rw [keys_keepFirst_nil]
  · rw [List.filterMap_map, List.map_filterMap]
    refine congrArg List.eraseDups (congrArg (List.filterMap · _) (funext fun s => ?_))
    rw [Function.comp_apply, declared?]
    cases s.element.attrText? "ObjectName" with
    | none => rfl
    | some name => rfl
  · intro c hc key repeated record hvalue
    obtain ⟨s, -, rfl⟩ := List.mem_map.mp hc
    cases hname : s.element.attrText? "ObjectName" with
    | none =>
      rw [hname] at hvalue
      cases hvalue
    | some name =>
      rw [hname] at hvalue
      obtain ⟨rfl, -, rfl⟩ := Candidate.keyed.inj hvalue
      rfl

theorem readExpressions_value (policy : RedactionPolicy) (root : Element) :
    (readExpressions policy root).value =
      (root.sitesNamed Space.dts "PropertyExpression").filterMap
        (expressed? policy propertyExpression?) ++
      (root.sitesNamed Space.sqlTask "SqlTaskData").filterMap
        (expressed? policy statementExpression?) := by
  rw [readExpressions, Noted.value_mapM, expressionSites, List.map_append, List.map_filterMap,
    List.map_filterMap]
  simp only [Option.map_map]
  rfl

theorem readPackage_readFrom (policy : RedactionPolicy) (retain : Bool) (metadata : Metadata)
    (root : Element) :
    ReadFrom root policy (readPackage policy retain metadata root).value.1 where
  declared _ := readVariables_declared
  keys := readVariables_keys root
  expressions := readExpressions_value policy root

theorem readFrom_of_success {config : Config} {source : String} {bytes : Bytes} {d : Document}
    (hparse : Document.parsePackage bytes = .ok d)
    (hsuccess : (surveyPackage config source bytes).report.success = true) :
    ReadFrom d.root (openPackage config source d).value.2.1
      (surveyPackage config source bytes).package := by
  rw [surveyPackage_eq_readSurvey hsuccess hparse, readSurvey_package]
  exact readPackage_readFrom ..

end Records

/-- Every scope in a package is that of an element, and where the nearest executable is visited,
it is the id of the executable exactly if that has a reference id. Variables of two such executables
then differ in their keys. -/
theorem scopes_name_visits_iff {config : Config} {source : String} {bytes : Bytes} {d : Document}
    (hparse : Document.parsePackage bytes = .ok d)
    (hsuccess : (surveyPackage config source bytes).report.success = true) :
    ReadFrom d.root (openPackage config source d).value.2.1
      (surveyPackage config source bytes).package ∧
    (∀ x ∈ visits d.root, ∀ s, enclosing? s.above = some x.site →
      (∀ v, declared? s = some v →
        (v.scope = x.node.id ↔ (x.site.element.attrText? "refId").isSome)) ∧
      ∀ policy reading e, expressed? policy reading s = some e →
        (e.scope = x.node.id ↔ (x.site.element.attrText? "refId").isSome)) ∧
    ∀ x ∈ visits d.root, ∀ y ∈ visits d.root, x.site ≠ y.site →
      (x.site.element.attrText? "refId").isSome → (y.site.element.attrText? "refId").isSome →
      ∀ s t, enclosing? s.above = some x.site → enclosing? t.above = some y.site →
        ∀ v w, declared? s = some v → declared? t = some w → v.key ≠ w.key := by
  have hright := visits_right (parsePackage_root hparse)
  refine ⟨readFrom_of_success hparse hsuccess,
    fun x hx s hs => ⟨fun v hv => ?_, fun policy reading e he => ?_⟩, ?_⟩
  · rw [scope_of_declared hv]
    exact (hright x hx).scope_eq_iff hs
  · rw [scope_of_expressed he]
    exact (hright x hx).scope_eq_iff hs
  · intro x hx y hy hne hxid hyid s t hs ht v w hv hw hkey
    have hvscope : v.scope = x.node.id :=
      (scope_of_declared hv).trans (((hright x hx).scope_eq_iff hs).mpr hxid)
    have hwscope : w.scope = y.node.id :=
      (scope_of_declared hw).trans (((hright y hy).scope_eq_iff ht).mpr hyid)
    have hid : x.node.id = y.node.id := by
      rw [← hvscope, ← hwscope]
      exact (Prod.mk.inj hkey).1
    exact hne (congrArg Visit.site (eq_of_visit_id_eq hx hy hid))

/-- The visit of the executable around an element. -/
def visitAround? (root : Element) (s : Site) : Option Visit :=
  (enclosing? s.above).bind fun x => (visits root).find? (·.site == x)

theorem visitAround?_eq_some {root : Element} {s : Site} {x : Visit}
    (h : visitAround? root s = some x) : x ∈ visits root ∧ enclosing? s.above = some x.site := by
  obtain ⟨site, hsite, hfind⟩ := Option.bind_eq_some_iff.mp h
  have heq := List.find?_some hfind
  rw [beq_iff_eq] at heq
  exact ⟨List.mem_of_find?_eq_some hfind, heq ▸ hsite⟩

/-- Keys of the variables that elements declare, with the ids of the executables around them. -/
def declaredKeys (root : Element) : List (Option (String × String × String) × Option String) :=
  (root.sitesNamed Space.dts "Variable").map fun s =>
    ((declared? s).map (·.key), (visitAround? root s).map (·.node.id))

theorem filterMap_fst_declaredKeys (root : Element) : (declaredKeys root).filterMap (·.1) =
    ((root.sitesNamed Space.dts "Variable").filterMap declared?).map (·.key) := by
  rw [declaredKeys, List.filterMap_map, List.map_filterMap]
  rfl

theorem exists_of_mem_declaredKeys {root : Element} {key : String × String × String} {id : String}
    (h : (some key, some id) ∈ declaredKeys root) :
    ∃ x ∈ visits root, x.node.id = id ∧ ∃ s ∈ root.sitesNamed Space.dts "Variable",
      enclosing? s.above = some x.site ∧ ∃ v, declared? s = some v ∧ v.key = key := by
  obtain ⟨s, hs, heq⟩ := List.mem_map.mp h
  obtain ⟨hkey, hid⟩ := Prod.mk.inj heq
  obtain ⟨v, hv, hkey⟩ := Option.map_eq_some_iff.mp hkey
  obtain ⟨x, hx, hid⟩ := Option.map_eq_some_iff.mp hid
  obtain ⟨hvisit, haround⟩ := visitAround?_eq_some hx
  exact ⟨x, hvisit, hid, s, hs, haround, v, hv, hkey⟩

/-- Three containers with a variable of one name, of which only the first has a reference id. -/
def unnamedDocument : String :=
  "<DTS:Executable xmlns:DTS=\"www.microsoft.com/SqlServer/Dts\" DTS:refId=\"Package\"
    DTS:ObjectName=\"Sales\">
  <DTS:Executables>
    <DTS:Executable DTS:refId=\"Package\\Load\" DTS:ObjectName=\"Load\"
        DTS:ExecutableType=\"STOCK:SEQUENCE\">
      <DTS:Variables><DTS:Variable DTS:ObjectName=\"Count\"/></DTS:Variables>
    </DTS:Executable>
    <DTS:Executable DTS:ObjectName=\"Clean\" DTS:ExecutableType=\"STOCK:SEQUENCE\">
      <DTS:Variables><DTS:Variable DTS:ObjectName=\"Count\"/></DTS:Variables>
    </DTS:Executable>
    <DTS:Executable DTS:ObjectName=\"Send\" DTS:ExecutableType=\"STOCK:SEQUENCE\">
      <DTS:Variables><DTS:Variable DTS:ObjectName=\"Count\"/></DTS:Variables>
    </DTS:Executable>
  </DTS:Executables>
</DTS:Executable>"

set_option maxRecDepth 4000 in
theorem unnamedDocument_keys :
    (surveyed? {} "p.dtsx" (Utf8.encode unnamedDocument)).map (fun p => declaredKeys p.1.root) =
      some [(some ("Package\\Load", "User", "Count"), some "Package\\Load"),
        (some ("Package", "User", "Count"), some "Package\\Clean"),
        (some ("Package", "User", "Count"), some "Package\\Send")] := by
  rw [show Utf8.encode unnamedDocument = _ from Utf8.encode_ofList _]
  decide +kernel

/-- The first container has a reference id, so that its variable shows it. -/
theorem scopes_name_visits_iff_unnamedDocument :
    ∃ d, Document.parsePackage (Utf8.encode unnamedDocument) = .ok d ∧
      (surveyPackage {} "p.dtsx" (Utf8.encode unnamedDocument)).report.success = true ∧
      ∃ x ∈ visits d.root, x.node.id = "Package\\Load" ∧
        (x.site.element.attrText? "refId").isSome ∧
        ∃ s ∈ d.root.sitesNamed Space.dts "Variable", enclosing? s.above = some x.site ∧
          ∃ v, declared? s = some v ∧ v.scope = x.node.id := by
  obtain ⟨d, hparse, hsuccess, hkeys⟩ := exists_survey_of_map unnamedDocument_keys
  dsimp only at hkeys
  have hload : (some ("Package\\Load", "User", "Count"), some "Package\\Load") ∈
      declaredKeys d.root := by
    rw [hkeys]
    exact List.mem_cons_self
  obtain ⟨x, hx, hid, s, hs, haround, v, hv, hkey⟩ := exists_of_mem_declaredKeys hload
  have hscope : v.scope = x.node.id := (Prod.mk.inj hkey).1.trans hid.symm
  obtain ⟨-, hnames, -⟩ := scopes_name_visits_iff hparse hsuccess
  have hrefId := ((hnames x hx s haround).1 v hv).mp hscope
  exact ⟨d, hparse, hsuccess, x, hx, hid, hrefId, s, hs, haround, v, hv, hscope⟩

/-- The other two containers are visited under ids of their own, but the variables of both have the
package's scope, and one of them is left out. -/
theorem variable_scopes_not_visit_ids :
    ∃ d, Document.parsePackage (Utf8.encode unnamedDocument) = .ok d ∧
      ∃ x ∈ visits d.root, ∃ y ∈ visits d.root, x.node.id ≠ y.node.id ∧
        ∃ s ∈ d.root.sitesNamed Space.dts "Variable",
          ∃ t ∈ d.root.sitesNamed Space.dts "Variable",
            enclosing? s.above = some x.site ∧ enclosing? t.above = some y.site ∧
            ∃ v w, declared? s = some v ∧ declared? t = some w ∧ v.key = w.key ∧
              v.scope ≠ x.node.id ∧ w.scope ≠ y.node.id ∧
              (surveyPackage {} "p.dtsx" (Utf8.encode unnamedDocument)).package.vars.map (·.key) =
                [("Package\\Load", "User", "Count"), v.key] := by
  obtain ⟨d, hparse, hsuccess, hkeys⟩ := exists_survey_of_map unnamedDocument_keys
  dsimp only at hkeys
  have hclean : (some ("Package", "User", "Count"), some "Package\\Clean") ∈
      declaredKeys d.root := by
    rw [hkeys]
    exact .tail _ List.mem_cons_self
  have hsend : (some ("Package", "User", "Count"), some "Package\\Send") ∈
      declaredKeys d.root := by
    rw [hkeys]
    exact .tail _ (.tail _ List.mem_cons_self)
  obtain ⟨x, hx, hxid, s, hs, hsx, v, hv, hvkey⟩ := exists_of_mem_declaredKeys hclean
  obtain ⟨y, hy, hyid, t, ht, hty, w, hw, hwkey⟩ := exists_of_mem_declaredKeys hsend
  have hvscope : v.scope = "Package" := (Prod.mk.inj hvkey).1
  have hwscope : w.scope = "Package" := (Prod.mk.inj hwkey).1
  refine ⟨d, hparse, x, hx, y, hy, ?_, s, hs, t, ht, hsx, hty, v, w, hv, hw, ?_, ?_, ?_, ?_⟩
  · rw [hxid, hyid]
    decide
  · rw [hvkey, hwkey]
  · rw [hvscope, hxid]
    decide
  · rw [hwscope, hyid]
    decide
  · rw [(readFrom_of_success hparse hsuccess).keys, ← filterMap_fst_declaredKeys, hkeys, hvkey]
    decide

end EtlSurvey
