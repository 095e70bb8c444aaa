import EtlSurvey.Proofs.Secrecy.Redacted
import Mathlib.Data.List.Forall2

/-! # The survey of a manager does not depend on its sensitive values

Two managers are alike if they differ only in values under sensitive keys and in the texts of parts
that are marked sensitive. The values that are read from such managers are put under the same keys
in the same order, and under each key they are equal or both to be taken out. That is kept by
every way in which a value is put into the properties, and it is all that redaction looks at. -/

namespace EtlSurvey
open Text Markup

/-- A text that would be stored, and not as what stands for a redacted one. -/
def Hideable (raw : String) : Prop := ∃ text, trimmed? raw = some text ∧ text ≠ redactedText

section Alike

variable (policy : RedactionPolicy)

/-- Attributes with the same names, and with the same values except under sensitive names. -/
structure AttributeAlike (a b : Attribute) : Prop where
  space : a.space = b.space
  name : a.name = b.name
  value : a.value = b.value ∨
    policy.isSensitive a.name ∧ a.value ≠ redactedText ∧ b.value ≠ redactedText

/-- The parts of two objects, which differ only in texts that are not to be stored. -/
inductive PartsAlike : Forest → Forest → Prop
  | nil : PartsAlike .nil .nil
  | tree {head : Head} {text : String} {inner inner' next next' : Forest}
      (htext : head.text = text ∨
        (isMarkedSensitive ⟨head, inner⟩ ∨ policy.isSensitive (partKey ⟨head, inner⟩)) ∧
          Hideable head.text ∧ Hideable text)
      (hinner : PartsAlike inner inner') (hnext : PartsAlike next next') :
      PartsAlike (.tree head inner next) (.tree { head with text } inner' next')

/-- Children of two managers: the same, or properties with a sensitive key, or the data of alike
objects. -/
inductive ChildAlike : Element → Element → Prop
  | same (c : Element) : ChildAlike c c
  | property {head : Head} {text key : String} {inner : Forest}
      (hproperty : Element.isProperty ⟨head, inner⟩)
      (hkey : Element.attrText? ⟨head, inner⟩ "Name" = some key)
      (hsensitive : policy.isSensitive key)
      (htext : Hideable head.text) (htext' : Hideable text) :
      ChildAlike ⟨head, inner⟩ ⟨{ head with text }, inner⟩
  | object {head object : Head} {attributes : List Attribute} {inner inner' next : Forest}
      (hdata : Element.isNamed Space.dts "ObjectData" ⟨head, .tree object inner next⟩)
      (hattributes : List.Forall₂ (AttributeAlike policy) object.attributes attributes)
      (hparts : PartsAlike policy inner inner') :
      ChildAlike ⟨head, .tree object inner next⟩
        ⟨head, .tree { object with attributes } inner' next⟩

/-- Managers that are the same except for sensitive values. -/
structure ManagerAlike (e e' : Element) : Prop where
  head : e.head = e'.head
  children : List.Forall₂ (ChildAlike policy) e.children e'.children

theorem AttributeAlike.refl (a : Attribute) : AttributeAlike policy a a := ⟨rfl, rfl, .inl rfl⟩

theorem PartsAlike.refl (f : Forest) : PartsAlike policy f f := by
  induction f with
  | nil => exact .nil
  | tree head inner next ihInner ihNext => exact .tree (.inl rfl) ihInner ihNext

/-- Entries under one key, equal or both to be taken out. -/
structure EntryAlike (a b : String × String) : Prop where
  key : a.1 = b.1
  value : a.2 = b.2 ∨ policy.isSensitive a.1 ∧ a.2 ≠ redactedText ∧ b.2 ≠ redactedText

theorem EntryAlike.refl (a : String × String) : EntryAlike policy a a := ⟨rfl, .inl rfl⟩

def PropertiesAlike (p q : Properties) : Prop :=
  List.Forall₂ (EntryAlike policy) p.entries q.entries

end Alike

section Lists

variable {α β : Type} {R : α → α → Prop} {as bs : List α}

theorem rel_refl (h : ∀ a, R a a) (o : Option α) : Option.Rel R o o := by
  cases o with
  | none => exact .none
  | some a => exact .some (h a)

theorem filter_alike {keep : α → Bool} (hkeep : ∀ a b, R a b → keep a = keep b)
    (h : List.Forall₂ R as bs) : List.Forall₂ R (as.filter keep) (bs.filter keep) :=
  List.rel_filter (fun a b hab => by show keep a = true ↔ keep b = true; rw [hkeep a b hab]) h

theorem map_eq_of_alike {f : α → β} (hf : ∀ a b, R a b → f a = f b)
    (h : List.Forall₂ R as bs) : as.map f = bs.map f := by
  have hmap : List.Forall₂ (· = ·) (as.map f) (bs.map f) := List.rel_map hf h
  rwa [List.forall₂_eq_eq_eq] at hmap

end Lists

section Properties

variable {policy : RedactionPolicy} {p q : Properties}

theorem putEntry_alike {as bs : List (String × String)} {key v w : String}
    (h : List.Forall₂ (EntryAlike policy) as bs) (hv : EntryAlike policy (key, v) (key, w)) :
    List.Forall₂ (EntryAlike policy) (putEntry key v as) (putEntry key w bs) := by
  induction h with
  | nil => exact .cons hv .nil
  | @cons a b as bs hab hrest ih =>
    obtain ⟨k, va⟩ := a
    obtain ⟨k', vb⟩ := b
    obtain rfl : k = k' := hab.key
    simp only [putEntry]
    split
    · exact .cons hv (.cons hab hrest)
    · split
      · exact .cons hv hrest
      · exact .cons hab ih

theorem PropertiesAlike.insert (h : PropertiesAlike policy p q) {key v w : String}
    (hv : EntryAlike policy (key, v) (key, w)) :
    PropertiesAlike policy (p.insert key v) (q.insert key w) :=
  putEntry_alike h hv

theorem lookup_isSome_alike {as bs : List (String × String)}
    (h : List.Forall₂ (EntryAlike policy) as bs) (key : String) :
    (as.lookup key).isSome = (bs.lookup key).isSome := by
  induction h with
  | nil => rfl
  | @cons a b as bs hab _ ih =>
    obtain ⟨k, va⟩ := a
    obtain ⟨k', vb⟩ := b
    obtain rfl : k = k' := hab.key
    rw [lookup_entry, lookup_entry]
    split
    · rfl
    · exact ih

theorem PropertiesAlike.contains (h : PropertiesAlike policy p q) (key : String) :
    p.contains key = q.contains key :=
  lookup_isSome_alike h key

theorem PropertiesAlike.insertMissing (h : PropertiesAlike policy p q) {key v w : String}
    (hv : EntryAlike policy (key, v) (key, w)) :
    PropertiesAlike policy (p.insertMissing key v) (q.insertMissing key w) := by
  rw [Dictionary.insertMissing, Dictionary.insertMissing, h.contains]
  split
  · exact h
  · exact h.insert hv

theorem EntryAlike.redacted {a b : String × String} (h : EntryAlike policy a b) :
    (a.1, if policy.isSensitive a.1 then redactedText else a.2) =
      (b.1, if policy.isSensitive b.1 then redactedText else b.2) := by
  rw [← h.key]
  obtain heq | ⟨hsensitive, -, -⟩ := h.value
  · rw [heq]
  · rw [if_pos hsensitive, if_pos hsensitive]

theorem PropertiesAlike.redact (h : PropertiesAlike policy p q) :
    policy.redact p = policy.redact q :=
  Dictionary.ext (map_eq_of_alike (fun _ _ hab => EntryAlike.redacted hab) h)

theorem EntryAlike.exposed {a b : String × String} (h : EntryAlike policy a b) :
    (policy.isSensitive a.1 && a.2 != redactedText) =
      (policy.isSensitive b.1 && b.2 != redactedText) := by
  rw [← h.key]
  obtain heq | ⟨-, ha, hb⟩ := h.value
  · rw [heq]
  · rw [bne_iff_ne.mpr ha, bne_iff_ne.mpr hb]

theorem PropertiesAlike.exposedKeys (h : PropertiesAlike policy p q) :
    policy.exposedKeys p = policy.exposedKeys q :=
  map_eq_of_alike (fun _ _ hab => EntryAlike.key hab)
    (filter_alike (fun _ _ hab => EntryAlike.exposed hab) h)

end Properties

section Sources

variable {policy : RedactionPolicy} {p q : Properties}

theorem insertAll_alike (h : PropertiesAlike policy p q) {as bs : List (String × String)}
    (hentries : List.Forall₂ (EntryAlike policy) as bs) :
    PropertiesAlike policy (insertAll p as) (insertAll q bs) := by
  induction hentries generalizing p q with
  | nil => exact h
  | @cons a b _ _ hab _ ih =>
    obtain ⟨key, v⟩ := a
    obtain ⟨key', w⟩ := b
    obtain rfl : key = key' := hab.key
    exact ih (h.insert hab)

/-- Parts as they are read: one says of itself what the other does, except for a text that is not
to be stored. -/
structure PartAlike (policy : RedactionPolicy) (a b : Element) : Prop where
  name : a.name = b.name
  attributes : a.head.attributes = b.head.attributes
  text : a.head.text = b.head.text ∨ (isMarkedSensitive a ∨ policy.isSensitive (partKey a)) ∧
    Hideable a.head.text ∧ Hideable b.head.text

theorem PartAlike.attr? {a b : Element} (h : PartAlike policy a b) (name : String) :
    a.attr? name = b.attr? name := by
  rw [Element.attr?, Element.attr?, h.attributes]

theorem PartAlike.isMarkedSensitive {a b : Element} (h : PartAlike policy a b) :
    isMarkedSensitive a = isMarkedSensitive b := by
  rw [EtlSurvey.isMarkedSensitive, EtlSurvey.isMarkedSensitive, h.attr?]

theorem PartAlike.partKey {a b : Element} (h : PartAlike policy a b) : partKey a = partKey b := by
  rw [EtlSurvey.partKey, EtlSurvey.partKey, Element.attrText?, Element.attrText?, h.attr?, h.name]

theorem PartsAlike.all {f g : Forest} (h : PartsAlike policy f g) :
    List.Forall₂ (PartAlike policy) f.all g.all := by
  induction h with
  | nil => exact .nil
  | tree htext _ _ ihInner ihNext =>
    exact .cons ⟨rfl, rfl, htext⟩ (List.rel_append ihInner ihNext)

theorem addPart_alike (h : PropertiesAlike policy p q) {a b : Element}
    (hpart : PartAlike policy a b) : PropertiesAlike policy (addPart p a) (addPart q b) := by
  rw [addPart, addPart, ← hpart.isMarkedSensitive, ← hpart.partKey]
  split
  next => exact h.insert (.refl policy _)
  next hmarked =>
    obtain htext | ⟨hsecret, ⟨text, ha, hv⟩, text', hb, hw⟩ := hpart.text
    · rw [Element.text?, Element.text?, htext]
      split
      · exact h.insertMissing (.refl policy _)
      · exact h
    · have hsensitive := hsecret.resolve_left hmarked
      rw [Element.text?, Element.text?, ha, hb]
      exact h.insertMissing ⟨rfl, .inr ⟨hsensitive, hv, hw⟩⟩

theorem addParts_alike (h : PropertiesAlike policy p q) {as bs : List Element}
    (hparts : List.Forall₂ (PartAlike policy) as bs) :
    PropertiesAlike policy (as.foldl addPart p) (bs.foldl addPart q) := by
  induction hparts generalizing p q with
  | nil => exact h
  | cons hab _ ih => exact ih (addPart_alike h hab)

theorem markedKeys_alike {as bs : List Element} (h : List.Forall₂ (PartAlike policy) as bs) :
    (as.filter isMarkedSensitive).map partKey = (bs.filter isMarkedSensitive).map partKey :=
  map_eq_of_alike (fun _ _ hab => PartAlike.partKey hab)
    (filter_alike (fun _ _ hab => PartAlike.isMarkedSensitive hab) h)

/-- What a manager takes from the object that it configures. -/
structure ObjectAlike (policy : RedactionPolicy) (a b : Element) : Prop where
  attributes : List.Forall₂ (EntryAlike policy) a.attributes b.attributes
  parts : List.Forall₂ (PartAlike policy) a.descendants b.descendants

theorem attributes_alike {as bs : List Attribute}
    (h : List.Forall₂ (AttributeAlike policy) as bs) :
    List.Forall₂ (EntryAlike policy)
      ((as.filter (·.space != some Space.declarations)).map fun a => (a.name, a.value))
      ((bs.filter (·.space != some Space.declarations)).map fun a => (a.name, a.value)) := by
  refine List.rel_map (fun a b hab => ⟨AttributeAlike.name hab, AttributeAlike.value hab⟩) ?_
  exact filter_alike (fun a b hab => by rw [AttributeAlike.space hab]) h

theorem ObjectAlike.refl (policy : RedactionPolicy) (a : Element) : ObjectAlike policy a a where
  attributes := attributes_alike (List.forall₂_same.mpr fun a _ => .refl policy a)
  parts := (PartsAlike.refl policy a.inner).all

theorem ChildAlike.isNamed {c d : Element} (h : ChildAlike policy c d) (space name : String) :
    c.isNamed space name = d.isNamed space name := by
  cases h <;> rfl

theorem ChildAlike.head? {c d : Element} (h : ChildAlike policy c d) :
    Option.Rel (ObjectAlike policy) c.children.head? d.children.head? := by
  cases h with
  | same c => exact rel_refl (ObjectAlike.refl policy) _
  | property => exact rel_refl (ObjectAlike.refl policy) _
  | object _ hattributes hparts => exact .some ⟨attributes_alike hattributes, hparts.all⟩

theorem find?_alike {cs ds : List Element} (h : List.Forall₂ (ChildAlike policy) cs ds)
    (space name : String) : Option.Rel (ChildAlike policy)
      (cs.find? (Element.isNamed space name)) (ds.find? (Element.isNamed space name)) := by
  induction h with
  | nil => exact .none
  | @cons c d cs ds hcd _ ih =>
    rw [List.find?_cons, List.find?_cons, hcd.isNamed]
    split
    · exact .some hcd
    · exact ih

theorem innerObject?_alike {e e' : Element} (h : ManagerAlike policy e e') :
    Option.Rel (ObjectAlike policy) (innerObject? e) (innerObject? e') := by
  have hdata := find?_alike h.children Space.dts "ObjectData"
  rw [innerObject?, innerObject?, Element.child?, Element.child?]
  generalize e.children.find? _ = c, e'.children.find? _ = d at hdata
  cases hdata with
  | none => exact .none
  | some hdata => exact hdata.head?

/-- The entry of a property child. -/
def propertyText? (p : Element) : Option (String × String) := do
  return (← p.attrText? "Name", ← p.text?)

theorem ChildAlike.propertyText? {c d : Element} (h : ChildAlike policy c d) :
    Option.Rel (EntryAlike policy) (propertyText? c) (propertyText? d) := by
  cases h with
  | same => exact rel_refl (EntryAlike.refl policy) _
  | object => exact rel_refl (EntryAlike.refl policy) _
  | @property head text key inner _ hkey hsensitive htext htext' =>
    obtain ⟨v, hv, hne⟩ := htext
    obtain ⟨w, hw, hne'⟩ := htext'
    have hleft : EtlSurvey.propertyText? ⟨head, inner⟩ = some (key, v) := by
      rw [EtlSurvey.propertyText?, hkey, Element.text?, hv]
      rfl
    have hright : EtlSurvey.propertyText? ⟨{ head with text }, inner⟩ = some (key, w) := by
      have hkey' : Element.attrText? ⟨{ head with text }, inner⟩ "Name" = some key := hkey
      rw [EtlSurvey.propertyText?, hkey', Element.text?, hw]
      rfl
    rw [hleft, hright]
    exact .some ⟨rfl, .inr ⟨hsensitive, hne, hne'⟩⟩

theorem propertyTexts_alike {e e' : Element} (h : ManagerAlike policy e e') :
    List.Forall₂ (EntryAlike policy) (propertyTexts e) (propertyTexts e') := by
  refine List.rel_filterMap (fun _ _ hcd => ChildAlike.propertyText? hcd) ?_
  exact filter_alike (fun _ _ hcd => ChildAlike.isNamed hcd _ _) h.children

theorem connectionProperties_alike {e e' : Element} (h : ManagerAlike policy e e') :
    PropertiesAlike policy (connectionProperties e) (connectionProperties e') := by
  have hproperties : PropertiesAlike policy (insertAll ∅ (propertyTexts e))
      (insertAll ∅ (propertyTexts e')) :=
    insertAll_alike (p := ∅) (q := ∅) .nil (propertyTexts_alike h)
  have hinner := innerObject?_alike h
  rw [connectionProperties, connectionProperties]
  generalize innerObject? e = a, innerObject? e' = b at hinner
  cases hinner with
  | none => exact hproperties
  | some hobject =>
    exact addParts_alike (insertAll_alike hproperties hobject.attributes) hobject.parts

theorem markedKeys_eq {e e' : Element} (h : ManagerAlike policy e e') :
    markedKeys e = markedKeys e' := by
  have hinner := innerObject?_alike h
  rw [markedKeys, markedKeys]
  generalize innerObject? e = a, innerObject? e' = b at hinner
  cases hinner with
  | none => rfl
  | some hobject => exact markedKeys_alike hobject.parts

end Sources

/-- Alike managers give the same record with the same remarks, and so the same diagnostics. -/
theorem readConnection_eq_of_alike {policy : RedactionPolicy} {e e' : Element}
    (h : ManagerAlike policy e e') (owner : String) :
    readConnection policy owner e = readConnection policy owner e' := by
  have hattr : ∀ name, e.attr? name = e'.attr? name := fun name => by
    rw [Element.attr?, Element.attr?, h.head]
  have hattrText : ∀ name, e.attrText? name = e'.attrText? name := fun name => by
    rw [Element.attrText?, Element.attrText?, hattr]
  have hproperties := connectionProperties_alike h
  have hredacted : ∀ id, policy.redactOwned id (connectionProperties e) =
      policy.redactOwned id (connectionProperties e') := fun id => by
    rw [RedactionPolicy.redactOwned, RedactionPolicy.redactOwned, hproperties.redact,
      hproperties.exposedKeys]
  simp only [readConnection, hattr, hattrText, markedKeys_eq h, hredacted]

/-- A manager that holds a secret as a property, as an attribute of its object and in two parts of
the object, of which one is marked. -/
def managerHolding (secret : String) : Element where
  head := ⟨some Space.dts, "ConnectionManager", [⟨some Space.dts, "ObjectName", "Source"⟩], ""⟩
  inner :=
    .tree ⟨some Space.dts, "Property", [⟨some Space.dts, "Name", "Password"⟩], secret⟩ .nil
    (.tree ⟨some Space.dts, "ObjectData", [], ""⟩
      (.tree ⟨none, "Object", [⟨none, "ServerName", secret⟩], ""⟩
        (.tree ⟨none, "Pwd", [], secret⟩ .nil
        (.tree ⟨none, "Token", [⟨none, "Sensitive", "1"⟩], secret⟩ .nil .nil))
        .nil)
      .nil)

theorem managerHolding_alike :
    ManagerAlike ⟨.dontSaveSensitive, false, []⟩ (managerHolding "one") (managerHolding "two") where
  head := rfl
  children := by
    have hone : Hideable "one" := ⟨"one", by decide, by decide⟩
    have htwo : Hideable "two" := ⟨"two", by decide, by decide⟩
    have hpassword : RedactionPolicy.isSensitive ⟨.dontSaveSensitive, false, []⟩ "Password" := by
      decide
    refine .cons (.property (by decide) (by decide) hpassword hone htwo)
      (.cons (.object ?_ ?_ ?_) .nil)
    · decide
    · exact .cons ⟨rfl, rfl, .inr ⟨by decide, by decide, by decide⟩⟩ .nil
    · refine .tree (.inr ⟨.inr (by decide), hone, htwo⟩) .nil ?_
      exact .tree (.inr ⟨.inl (by decide), hone, htwo⟩) .nil .nil

theorem readConnection_managerHolding :
    managerHolding "one" ≠ managerHolding "two" ∧
      readConnection ⟨.dontSaveSensitive, false, []⟩ "Package" (managerHolding "one") =
        readConnection ⟨.dontSaveSensitive, false, []⟩ "Package" (managerHolding "two") :=
  ⟨by decide, readConnection_eq_of_alike managerHolding_alike "Package"⟩

end EtlSurvey
