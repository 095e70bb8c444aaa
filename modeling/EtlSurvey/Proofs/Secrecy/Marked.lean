import EtlSurvey.Proofs.Dependencies.Condition
import EtlSurvey.Proofs.Dictionary
import EtlSurvey.Proofs.Secrecy.Redacted

/-! # Values that are marked sensitive

A connection manager states values in three places: its property children, and the attributes and
the parts of the object that it configures. A marked part puts the placeholder under its key, in
place of whatever is there, and no part behind it takes the placeholder away. The property children
are not asked for marks: the value of a marked one is hidden only if the policy hides its key or a
marked part has the same key. -/

namespace EtlSurvey
open Text Markup

/-- The value of the last entry of a key. -/
def lastValue? (k : String) (entries : List (String × String)) : Option String :=
  entries.reverse.lookup k

/-- The first text of a key among the parts that are not marked. -/
def openText? (k : String) (parts : List Element) : Option String :=
  (parts.filter fun x => !isMarkedSensitive x && partKey x == k).findSome? Element.text?

/-- What a manager states under a key, marked parts left aside. Attributes of the inner object go
before property children, and those before the texts of parts. -/
def statedValue? (e : Element) (k : String) : Option String :=
  match innerObject? e with
  | none => lastValue? k (propertyTexts e)
  | some inner =>
    (lastValue? k (propertyTexts e ++ inner.attributes)).or (openText? k inner.descendants)

/-- Names of the property children that are marked sensitive. -/
def markedNames (e : Element) : List String :=
  ((e.childrenNamed Space.dts "Property").filter isMarkedSensitive).filterMap (·.attrText? "Name")

/-- Every mark in a manager hides the value of its key, that of a property child as well as that of
a part. -/
def RedactionPolicy.HidesMarked (policy : RedactionPolicy) (owner : String) (e : Element) : Prop :=
  ∀ c, (readConnection policy owner e).value = some c →
    ∀ k ∈ markedNames e ++ markedKeys e, c.properties.get? k = some redactedText

section Parts

variable (k : String)

theorem get?_insertAll (p : Properties) (entries : List (String × String)) :
    (insertAll p entries).get? k = (lastValue? k entries).or (p.get? k) :=
  Dictionary.get?_foldl_insert entries p k

theorem openText?_cons (x : Element) (rest : List Element) : openText? k (x :: rest) =
    if !isMarkedSensitive x && partKey x == k then x.text?.or (openText? k rest)
    else openText? k rest := by
  rw [openText?, List.filter_cons]
  split
  · rw [List.findSome?_cons]
    cases x.text? <;> rfl
  · rfl

/-- What a part does with a key. -/
theorem get?_addPart (p : Properties) (x : Element) : (addPart p x).get? k =
    if partKey x = k then
      if isMarkedSensitive x then some redactedText else (p.get? k).or x.text?
    else p.get? k := by
  rw [addPart]
  by_cases hkey : partKey x = k
  · subst hkey
    rw [if_pos rfl]
    split
    · rw [Dictionary.get?_insert, if_pos rfl]
    · cases x.text? with
      | none => rw [Option.or_none]
      | some text =>
        simp only [Dictionary.get?_insertMissing, if_true]
        cases p.get? (partKey x) <;> rfl
  · rw [if_neg hkey]
    have hother : ¬ k = partKey x := fun h => hkey h.symm
    split
    · rw [Dictionary.get?_insert, if_neg hother]
    · cases x.text? with
      | none => rfl
      | some text => simp only [Dictionary.get?_insertMissing, hother, if_false]

theorem mem_marked_cons (x : Element) (rest : List Element) :
    k ∈ ((x :: rest).filter isMarkedSensitive).map partKey ↔
      (isMarkedSensitive x ∧ partKey x = k) ∨ k ∈ (rest.filter isMarkedSensitive).map partKey := by
  rw [List.filter_cons]
  split
  · next hmarked => rw [List.map_cons, List.mem_cons, and_iff_right hmarked, eq_comm]
  · next hopen => rw [or_iff_right fun h => hopen h.1]

/-- A mark counts wherever it stands among the parts. Without one the first value stays. -/
theorem get?_foldl_addPart (p : Properties) (parts : List Element) :
    (parts.foldl addPart p).get? k =
      if k ∈ (parts.filter isMarkedSensitive).map partKey then some redactedText
      else (p.get? k).or (openText? k parts) := by
  induction parts generalizing p with
  | nil => exact (Option.or_none).symm
  | cons x rest ih =>
    simp only [List.foldl_cons, ih, get?_addPart, openText?_cons, mem_marked_cons]
    by_cases hbehind : k ∈ (rest.filter isMarkedSensitive).map partKey
    · rw [if_pos hbehind, if_pos (.inr hbehind)]
    · rw [if_neg hbehind]
      by_cases hkey : partKey x = k
      · by_cases hmarked : isMarkedSensitive x = true
        · simp [hkey, hmarked]
        · simp [hkey, hmarked, hbehind, Option.or_assoc]
      · simp [hkey, hbehind]

end Parts

section Managers

variable {policy : RedactionPolicy} {owner : String} {e : Element} {c : Connection}

theorem insertAll_append (p : Properties) (entries others : List (String × String)) :
    insertAll p (entries ++ others) = insertAll (insertAll p entries) others :=
  List.foldl_append

/-- The properties of a manager, key by key. -/
theorem get?_connectionProperties (e : Element) (k : String) :
    (connectionProperties e).get? k =
      if k ∈ markedKeys e then some redactedText else statedValue? e k := by
  rw [connectionProperties, markedKeys, statedValue?]
  cases innerObject? e with
  | none =>
    rw [if_neg List.not_mem_nil]
    exact (get?_insertAll k ∅ _).trans Option.or_none
  | some inner =>
    dsimp only
    rw [get?_foldl_addPart, ← insertAll_append, get?_insertAll, Dictionary.get?_empty,
      Option.or_none]

theorem get?_redact (policy : RedactionPolicy) (p : Properties) (k : String) :
    (policy.redact p).get? k =
      (p.get? k).map fun value => if policy.isSensitive k then redactedText else value :=
  Dictionary.get?_mapValues ..

theorem mem_markedKeys {k : String} : k ∈ markedKeys e ↔ ∃ inner, innerObject? e = some inner ∧
    ∃ x ∈ inner.descendants, isMarkedSensitive x ∧ partKey x = k := by
  rw [markedKeys]
  cases innerObject? e with
  | none => simp
  | some inner => simp [List.mem_map, List.mem_filter, and_assoc]

/-- The property that a record has under a key. -/
theorem get?_readConnection (h : (readConnection policy owner e).value = some c) (k : String) :
    c.properties.get? k = if k ∈ markedKeys e then some redactedText
      else (statedValue? e k).map fun v => if policy.isSensitive k then redactedText else v := by
  rw [readConnection_value] at h
  obtain ⟨name, -, rfl⟩ := Option.map_eq_some_iff.mp h
  show (policy.redact (connectionProperties e)).get? k = _
  rw [get?_redact, get?_connectionProperties, apply_ite (Option.map _), Option.map_some, ite_self]

theorem get?_readConnection_eq_redacted (h : (readConnection policy owner e).value = some c)
    (k : String) : c.properties.get? k = some redactedText ↔
      k ∈ markedKeys e ∨
        ∃ v, statedValue? e k = some v ∧ (policy.isSensitive k ∨ v = redactedText) := by
  rw [get?_readConnection h]
  by_cases hmarked : k ∈ markedKeys e
  · simp [hmarked]
  · simp only [hmarked, if_false, false_or, Option.map_eq_some_iff]
    refine exists_congr fun v => and_congr_right fun _ => ?_
    by_cases hsensitive : policy.isSensitive k = true
    · simp [hsensitive]
    · simp [hsensitive]

end Managers

/-- A record has the placeholder under the key of every marked part, whatever else has that key.
Under the name of a marked property child it has the placeholder exactly if a marked part has the
same key, or something is stated there that the policy hides or that is the placeholder itself. -/
theorem marked_parts_hidden (policy : RedactionPolicy) (owner : String) (e : Element)
    (c : Connection) (h : (readConnection policy owner e).value = some c) :
    (∀ inner, innerObject? e = some inner → ∀ x ∈ inner.descendants, isMarkedSensitive x →
      c.properties.get? (partKey x) = some redactedText) ∧
    (∀ k ∈ markedNames e, c.properties.get? k = some redactedText ↔ k ∈ markedKeys e ∨
      ∃ v, statedValue? e k = some v ∧ (policy.isSensitive k ∨ v = redactedText)) ∧
    ∀ k, c.properties.get? k = if k ∈ markedKeys e then some redactedText
      else (statedValue? e k).map fun v => if policy.isSensitive k then redactedText else v := by
  refine ⟨fun inner hinner x hx hmarked => ?_, fun k _ => get?_readConnection_eq_redacted h k,
    get?_readConnection h⟩
  refine (get?_readConnection_eq_redacted h _).mpr (.inl ?_)
  exact mem_markedKeys.mpr ⟨inner, hinner, x, hx, hmarked, rfl⟩

/-- A part that is marked sensitive. -/
def tokenPart : Element where
  head := { space := none, name := "Token", attributes := [⟨none, "Sensitive", "1"⟩], text := "s3" }
  inner := .nil

/-- The object of a manager, which has a token as an attribute and as other parts too. -/
def tokenObject : Element where
  head := { space := none, name := "File", attributes := [⟨none, "Token", "s1"⟩], text := "" }
  inner := .ofElements [
    ⟨{ space := none, name := "Token", attributes := [], text := "s2" }, .nil⟩, tokenPart,
    ⟨{ space := none, name := "Token", attributes := [], text := "s4" }, .nil⟩]

def tokenManager : Element where
  head := {
    space := some Space.dts, name := "ConnectionManager", text := "",
    attributes := [⟨none, "ObjectName", "Feed"⟩] }
  inner := .ofElements [
    ⟨{ space := some Space.dts, name := "ObjectData", attributes := [], text := "" },
      .ofElements [tokenObject]⟩]

theorem tokenManager_hidden : innerObject? tokenManager = some tokenObject ∧
    tokenPart ∈ tokenObject.descendants ∧ isMarkedSensitive tokenPart = true ∧
    (connectionOf (.ofConfig {} .dontSaveSensitive) "Package" tokenManager "Feed").properties.get?
      (partKey tokenPart) = some redactedText := by
  have hinner : innerObject? tokenManager = some tokenObject := by decide +kernel
  have hpart : tokenPart ∈ tokenObject.descendants := by decide +kernel
  have hmarked : isMarkedSensitive tokenPart = true := by decide +kernel
  have hrecord : (readConnection (.ofConfig {} .dontSaveSensitive) "Package" tokenManager).value =
      some (connectionOf (.ofConfig {} .dontSaveSensitive) "Package" tokenManager "Feed") := by
    rw [readConnection_value]
    rfl
  have hall := marked_parts_hidden _ _ _ _ hrecord
  exact ⟨hinner, hpart, hmarked, hall.1 tokenObject hinner tokenPart hpart hmarked⟩

def feedDocument : String :=
  "<DTS:ConnectionManager xmlns:DTS=\"www.microsoft.com/SqlServer/Dts\" DTS:ObjectName=\"Feed\"
    DTS:CreationName=\"FLATFILE\">
  <DTS:Property DTS:Name=\"ApiToken\" Sensitive=\"1\">secret</DTS:Property>
</DTS:ConnectionManager>"

set_option maxRecDepth 4000 in
theorem feedDocument_evaluated :
    (Document.parseWithRoot Space.dts "ConnectionManager" (Utf8.encode feedDocument)).toOption.map
      (fun d => (markedNames d.root,
        (readConnection (.ofConfig {} .dontSaveSensitive) "Project.ConnectionManagers" d.root).value
          |>.map (·.properties.get? "ApiToken"))) =
      some (["ApiToken"], some (some "secret")) := by
  rw [show Utf8.encode feedDocument = _ from Utf8.encode_ofList _]
  decide +kernel

/-- The mark of a property child is not seen. -/
theorem feedDocument_not_hidden : ∃ d,
    Document.parseWithRoot Space.dts "ConnectionManager" (Utf8.encode feedDocument) = .ok d ∧
      ¬ (RedactionPolicy.ofConfig {} .dontSaveSensitive).HidesMarked "Project.ConnectionManagers"
        d.root := by
  obtain ⟨d, hparse, hread⟩ := Option.map_eq_some_iff.mp feedDocument_evaluated
  obtain ⟨hnames, hrecord⟩ := Prod.mk.inj hread
  refine ⟨d, eq_ok_of_toOption hparse, fun hhides => ?_⟩
  obtain ⟨c, hc, hclear⟩ := Option.map_eq_some_iff.mp hrecord
  have hmarked : "ApiToken" ∈ markedNames d.root := by
    rw [hnames]
    exact List.mem_singleton_self _
  have hhidden : c.properties.get? "ApiToken" = some redactedText :=
    hhides c hc "ApiToken" (List.mem_append_left _ hmarked)
  rw [hclear] at hhidden
  exact absurd hhidden (by decide)

end EtlSurvey
