import EtlSurvey.Survey.Package

/-! # What a survey sees of declarations

Namespace declarations are kept among the attributes of their elements, and a survey that looks for
an attribute in any namespace may find one. It looks for a few names only: if the names of all other
declarations are taken out of a document, nothing changes for it. -/

namespace EtlSurvey
open Text Markup

/-- Names of the attributes that a survey looks for in any namespace. -/
def lookedUp : List String :=
  ["refId", "ObjectName", "Name", "Value", "Description", "name", "id", "Expression", "DataType"] ++
  ["ProtectionLevel", "VersionMajor", "VersionMinor", "VersionBuild", "CreatorName",
    "CreationDate", "Sensitive", "Required", "Namespace", "EvaluateAsExpression"] ++
  ["CreationName", "ExecutableType", "Disabled", "DelayValidation", "Language", "ScriptLanguage",
    "ScriptProjectName", "EntryPoint", "ReadOnlyVariables", "ReadWriteVariables"] ++
  ["InitExpression", "EvalExpression", "AssignExpression", "VariableName",
    "SqlStatementSourceType", "SqlStatementSource"] ++
  ["startId", "endId", "componentClassID", "connectionManagerRefId", "connectionManagerID",
    "From", "To", "EvalOp", "LogicalAnd"]

end EtlSurvey

namespace EtlSurvey.Markup
open Text

/-- A declaration that nobody looks for, without its name. -/
def Attribute.masked (a : Attribute) : Attribute :=
  if a.space = some Space.declarations ∧ a.name ∉ lookedUp then { a with name := "" } else a

def Head.masked (h : Head) : Head := { h with attributes := h.attributes.map Attribute.masked }

def Forest.masked : Forest → Forest
  | .nil => .nil
  | .tree head inner next => .tree head.masked inner.masked next.masked

def Element.masked (e : Element) : Element := ⟨e.head.masked, e.inner.masked⟩

def Site.masked (s : Site) : Site := ⟨s.element.masked, s.above.map Element.masked⟩

@[simp] theorem Site.element_masked (s : Site) : s.masked.element = s.element.masked := rfl

theorem Attribute.space_masked (a : Attribute) : a.masked.space = a.space := by
  rw [masked]
  split <;> rfl

theorem Attribute.value_masked (a : Attribute) : a.masked.value = a.value := by
  rw [masked]
  split <;> rfl

theorem Attribute.name_masked_beq (a : Attribute) {name : String}
    (h : lookedUp.contains name = true) :
    (a.masked.name == name) = (a.name == name) := by
  rw [masked]
  split
  · next hmasked =>
    have hempty : ("" == name) = false := by
      refine beq_eq_false_iff_ne.mpr ?_
      rintro rfl
      simp [lookedUp] at h
    have hname : (a.name == name) = false := by
      refine beq_eq_false_iff_ne.mpr ?_
      rintro rfl
      exact hmasked.2 (List.contains_iff_mem.mp h)
    rw [hname]
    exact hempty
  · rfl

namespace Forest

@[simp] theorem elements_masked (f : Forest) :
    f.masked.elements = f.elements.map Element.masked := by
  induction f with
  | nil => rfl
  | tree head inner next _ ih => simp [masked, elements, ih, Element.masked]

@[simp] theorem all_masked (f : Forest) : f.masked.all = f.all.map Element.masked := by
  induction f with
  | nil => rfl
  | tree head inner next ihInner ihNext => simp [masked, all, ihInner, ihNext, Element.masked]

theorem sites_masked (above : List Element) (f : Forest) :
    f.masked.sites (above.map Element.masked) = (f.sites above).map Site.masked := by
  induction f generalizing above with
  | nil => rfl
  | tree head inner next ihInner ihNext =>
    simp only [masked, sites, List.map_cons, List.map_append, ihNext above,
      ← ihInner (⟨head, inner⟩ :: above)]
    rfl

end Forest

namespace Element

variable (e : Element)

@[simp] theorem name_masked : e.masked.name = e.name := rfl

@[simp] theorem isNamed_masked (space name : String) :
    e.masked.isNamed space name = e.isNamed space name := rfl

@[simp] theorem hasLocalName_masked (name : String) :
    e.masked.hasLocalName name = e.hasLocalName name := rfl

@[simp] theorem isProperty_masked : e.masked.isProperty = e.isProperty := rfl

@[simp] theorem isExecutable_masked : e.masked.isExecutable = e.isExecutable := rfl

@[simp] theorem text?_masked : e.masked.text? = e.text? := rfl

@[simp] theorem attr?_masked {name : String} (h : lookedUp.contains name = true) :
    e.masked.attr? name = e.attr? name := by
  have hname : (fun a : Attribute => a.name == name) ∘ Attribute.masked = (·.name == name) :=
    funext fun a => a.name_masked_beq h
  rw [attr?, attr?, masked, Head.masked, List.find?_map, hname, Option.map_map]
  exact congrArg (Option.map · _) (funext Attribute.value_masked)

@[simp] theorem attrText?_masked {name : String} (h : lookedUp.contains name = true) :
    e.masked.attrText? name = e.attrText? name := by
  rw [attrText?, attrText?, attr?_masked e h]

@[simp] theorem attributes_masked : e.masked.attributes = e.attributes := by
  have hkept : (fun a : Attribute => a.space != some Space.declarations) ∘ Attribute.masked =
      (·.space != some Space.declarations) :=
    funext fun a => congrArg (· != some Space.declarations) a.space_masked
  rw [attributes, attributes, masked, Head.masked, List.filter_map, hkept, List.map_map]
  refine List.map_congr_left fun a ha => ?_
  have hother : a.space ≠ some Space.declarations := bne_iff_ne.mp (List.mem_filter.mp ha).2
  rw [Function.comp_apply, Attribute.masked, if_neg fun h => hother h.1]

@[simp] theorem children_masked : e.masked.children = e.children.map masked :=
  Forest.elements_masked e.inner

@[simp] theorem childrenNamed_masked (space name : String) :
    e.masked.childrenNamed space name = (e.childrenNamed space name).map masked := by
  rw [childrenNamed, childrenNamed, children_masked, List.filter_map]
  rfl

@[simp] theorem child?_masked (space name : String) :
    e.masked.child? space name = (e.child? space name).map masked := by
  rw [child?, child?, children_masked, List.find?_map]
  rfl

@[simp] theorem descendants_masked : e.masked.descendants = e.descendants.map masked :=
  Forest.all_masked e.inner

@[simp] theorem descendantsNamed_masked (space name : String) :
    e.masked.descendantsNamed space name = (e.descendantsNamed space name).map masked := by
  rw [descendantsNamed, descendantsNamed, descendants_masked, List.filter_map]
  rfl

@[simp] theorem descendantsLocal_masked (name : String) :
    e.masked.descendantsLocal name = (e.descendantsLocal name).map masked := by
  rw [descendantsLocal, descendantsLocal, descendants_masked, List.filter_map]
  rfl

@[simp] theorem property?_masked (name : String) :
    e.masked.property? name = (e.property? name).map masked := by
  have hname : lookedUp.contains "Name" = true := by simp [lookedUp]
  have hfound : (fun c => c.isNamed Space.dts "Property" && c.attr? "Name" == some name) ∘ masked =
      fun c : Element => c.isNamed Space.dts "Property" && c.attr? "Name" == some name := by
    funext c
    rw [Function.comp_apply, isNamed_masked, attr?_masked c hname]
  rw [property?, property?, children_masked, List.find?_map, hfound]

@[simp] theorem sites_masked : e.masked.sites = e.sites.map Site.masked :=
  Forest.sites_masked [e] e.inner

@[simp] theorem sitesNamed_masked (space name : String) :
    e.masked.sitesNamed space name = (e.sitesNamed space name).map Site.masked := by
  rw [sitesNamed, sitesNamed, sites_masked, List.filter_map]
  rfl

end Element

end EtlSurvey.Markup
