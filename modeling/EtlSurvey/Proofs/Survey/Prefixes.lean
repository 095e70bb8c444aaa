import EtlSurvey.Proofs.Markup.Respelling
import EtlSurvey.Proofs.Survey.MaskedReaders
import EtlSurvey.Proofs.Survey.Outcome

/-! # Prefixes are only names, but for declarations

A document whose prefixes are spelled otherwise answers alike, and gives the same package, unless a
prefix is or becomes the name of an attribute that is asked for: then its declaration is taken for
that attribute. -/

namespace EtlSurvey.Markup
open Text

section Masked

variable {f : String → String} {declared : List String}

/-- Declarations of prefixes that are spelled otherwise have no name when they are masked. -/
theorem Attribute.Respelled.masked_eq {a a' : Attribute} (h : a.Respelled f declared a')
    (hsafe : ∀ name ∈ lookedUp, Unmoved f declared name) : a'.masked = a.masked := by
  cases h with
  | same => rfl
  | @declaration p hp space =>
    by_cases hmoved : f p = p
    · rw [hmoved]
    · rw [Attribute.masked, Attribute.masked, if_pos, if_pos]
      · exact ⟨rfl, fun hmem => hmoved (hsafe p hmem p hp (.inl rfl))⟩
      · exact ⟨rfl, fun hmem => hmoved (hsafe (f p) hmem p hp (.inr rfl))⟩

theorem Head.Respelled.masked_eq {h h' : Head} (hrespelled : h.Respelled f declared h')
    (hsafe : ∀ name ∈ lookedUp, Unmoved f declared name) : h'.masked = h.masked := by
  obtain ⟨hspace, hname, htext, hattributes⟩ := hrespelled
  obtain ⟨space, name, attributes, text⟩ := h
  obtain ⟨space', name', attributes', text'⟩ := h'
  obtain rfl : space' = space := hspace
  obtain rfl : name' = name := hname
  obtain rfl : text' = text := htext
  refine congrArg (Head.mk space' name' · text') ?_
  have hmasked : List.Forall₂ Eq (attributes.map Attribute.masked)
      (attributes'.map Attribute.masked) :=
    List.forall₂_map_left_iff.mpr <| List.forall₂_map_right_iff.mpr <|
      hattributes.imp fun _ _ ha => (ha.masked_eq hsafe).symm
  rw [List.forall₂_eq_eq_eq] at hmasked
  exact hmasked.symm

theorem Forest.Rel.masked_eq {forest forest' : Forest}
    (h : Rel (Head.Respelled f declared) forest forest')
    (hsafe : ∀ name ∈ lookedUp, Unmoved f declared name) : forest'.masked = forest.masked := by
  induction h with
  | nil => rfl
  | tree hhead _ _ ihInner ihNext =>
    rw [Forest.masked, Forest.masked, hhead.masked_eq hsafe, ihInner, ihNext]

end Masked

end EtlSurvey.Markup

namespace EtlSurvey
open Text Markup

section Package

variable {bytes bytes' : Bytes} {d d' : Document}

theorem openPackage_of_masked (c : Config) (source : String) (h : d'.root.masked = d.root.masked) :
    openPackage c source d' = openPackage c source d := by
  have hmetadata : readMetadata d'.root (fallbackName source) =
      readMetadata d.root (fallbackName source) := by
    rw [← readMetadata_masked, h, readMetadata_masked]
  rw [openPackage, openPackage, hmetadata]

theorem readPackage_of_masked (policy : RedactionPolicy) (retain : Bool) (metadata : Metadata)
    (h : d'.root.masked = d.root.masked) :
    readPackage policy retain metadata d'.root = readPackage policy retain metadata d.root := by
  rw [← readPackage_masked, h, readPackage_masked]

/-- Documents that differ in the names of declarations that nobody looks for give one package. -/
theorem surveyPackage_package_of_masked (c : Config) (source : String)
    (hparse : Document.parsePackage bytes = .ok d) (hparse' : Document.parsePackage bytes' = .ok d')
    (h : d'.root.masked = d.root.masked) :
    (surveyPackage c source bytes').package = (surveyPackage c source bytes).package := by
  have hopened := openPackage_of_masked c source h
  cases hrefusal : (openPackage c source d).value.2.2 with
  | some refusal =>
    rw [surveyPackage_of_refused hparse hrefusal,
      surveyPackage_of_refused hparse' (hopened ▸ hrefusal), hopened]
  | none =>
    rw [surveyPackage_of_opened hparse hrefusal,
      surveyPackage_of_opened hparse' (hopened ▸ hrefusal), readSurvey_package, readSurvey_package,
      hopened, readPackage_of_masked _ _ _ h]

/-- So do documents that cannot be read. -/
theorem surveyPackage_package_of_error (c : Config) (source : String) {e e' : LoadError}
    (hparse : Document.parsePackage bytes = .error e)
    (hparse' : Document.parsePackage bytes' = .error e') :
    (surveyPackage c source bytes').package = (surveyPackage c source bytes).package := by
  rw [surveyPackage, surveyPackage, surveyWithError, surveyWithError, hparse, hparse']
  rfl

end Package

/-- Events of a document. -/
def eventsOf (bytes : Bytes) : List Event := (scan bytes).1.map Event.ofToken

theorem parse_eq_ofEvents (bytes : Bytes) :
    Document.parse bytes = Document.ofEvents (eventsOf bytes) (scan bytes).2 :=
  rfl

theorem parsePackage_of_ok {bytes : Bytes} {d : Document} (h : Document.parse bytes = .ok d) :
    Document.parsePackage bytes = if d.root.isNamed Space.dts "Executable" then .ok d
      else .error (.rootMismatch ("\x7b" ++ Space.dts ++ "\x7d" ++ "Executable")
        d.root.qualifiedName) := by
  rw [Document.parsePackage, Document.parseWithRoot, h]
  rfl

theorem parsePackage_of_error {bytes : Bytes} {e : LoadError}
    (h : Document.parse bytes = .error e) : Document.parsePackage bytes = .error e := by
  rw [Document.parsePackage, Document.parseWithRoot, h]
  rfl

section Respelled

variable {f : String → String} {bytes bytes' : Bytes}

theorem parse_respelled (hf : Respelling f (tagsOf (eventsOf bytes)))
    (hbytes : eventsOf bytes' = (eventsOf bytes).map (Event.respell f)) {d : Document}
    (h : Document.parse bytes = .ok d) (hkept : KeepsSpaces f (tagsOf (eventsOf bytes)) d.root) :
    ∃ d', Document.parse bytes' = .ok d' ∧
      Head.Respelled f (declaredBy (tagsOf (eventsOf bytes))) d.root.head d'.root.head ∧
      Forest.Rel (Head.Respelled f (declaredBy (tagsOf (eventsOf bytes)))) d.root.inner
        d'.root.inner := by
  have hrespelled := ofEvents_respell hf h hkept (scan bytes').2
  rwa [← hbytes] at hrespelled

/-- What cannot be read cannot be read with other prefixes. -/
theorem exists_error_respelled (hbytes : eventsOf bytes' = (eventsOf bytes).map (Event.respell f))
    {e : LoadError} (h : Document.parse bytes = .error e) :
    ∃ e', Document.parse bytes' = .error e' := by
  cases h' : Document.parse bytes' with
  | error e' => exact ⟨e', rfl⟩
  | ok d' =>
    have hok : ∃ d, Document.ofEvents (eventsOf bytes) (scan bytes).2 = .ok d := by
      refine (isOk_sameShape (scan bytes').2 (sameShape_respell f _)).mp ⟨d', ?_⟩
      rw [← hbytes]
      exact h'
    obtain ⟨d, hd⟩ := hok
    cases h.symm.trans hd

/-- Documents with other prefixes answer alike, and their packages are the same, where no prefix
that is spelled otherwise is or comes to be a name that is asked for. -/
theorem prefixes_only_names (hf : Respelling f (tagsOf (eventsOf bytes)))
    (hkept : ∀ d, Document.parse bytes = .ok d → KeepsSpaces f (tagsOf (eventsOf bytes)) d.root)
    (hbytes : eventsOf bytes' = (eventsOf bytes).map (Event.respell f)) :
    (∀ d, Document.parse bytes = .ok d → ∃ d', Document.parse bytes' = .ok d' ∧
      Element.Alike (Unmoved f (declaredBy (tagsOf (eventsOf bytes)))) d.root d'.root) ∧
    ((∀ name ∈ lookedUp, Unmoved f (declaredBy (tagsOf (eventsOf bytes))) name) →
      ∀ c source, (surveyPackage c source bytes').package =
        (surveyPackage c source bytes).package) := by
  constructor
  · intro d h
    obtain ⟨d', h', hhead, hinner⟩ := parse_respelled hf hbytes h (hkept d h)
    exact ⟨d', h', .mk (hhead.answersAlike _ _) hinner.alike⟩
  · intro hsafe c source
    cases h : Document.parse bytes with
    | error e =>
      obtain ⟨e', h'⟩ := exists_error_respelled hbytes h
      exact surveyPackage_package_of_error c source (parsePackage_of_error h)
        (parsePackage_of_error h')
    | ok d =>
      obtain ⟨d', h', hhead, hinner⟩ := parse_respelled hf hbytes h (hkept d h)
      have hmasked : d'.root.masked = d.root.masked := by
        rw [Element.masked, Element.masked, hhead.masked_eq hsafe, hinner.masked_eq hsafe]
      have hnamed : d'.root.isNamed Space.dts "Executable" =
          d.root.isNamed Space.dts "Executable" := by
        rw [← Element.isNamed_masked, hmasked, Element.isNamed_masked]
      have hparse := parsePackage_of_ok h
      have hparse' := parsePackage_of_ok h'
      rw [hnamed] at hparse'
      by_cases hroot : d.root.isNamed Space.dts "Executable" = true
      · rw [if_pos hroot] at hparse hparse'
        exact surveyPackage_package_of_masked c source hparse hparse' hmasked
      · rw [if_neg hroot] at hparse hparse'
        exact surveyPackage_package_of_error c source hparse hparse'

end Respelled

/-- A package with the usual prefix. -/
def salesDocument : String :=
  "<DTS:Executable xmlns:DTS=\"www.microsoft.com/SqlServer/Dts\" DTS:refId=\"Package\"
    DTS:ObjectName=\"Sales\"/>"

theorem salesDocument_events : eventsOf (Utf8.encode salesDocument) = [.empty ⟨"DTS:Executable", [
    ("xmlns:DTS", "www.microsoft.com/SqlServer/Dts"), ("DTS:refId", "Package"),
    ("DTS:ObjectName", "Sales")]⟩] := by
  rw [show Utf8.encode salesDocument = _ from Utf8.encode_ofList _]
  decide +kernel

set_option maxRecDepth 4000 in
theorem salesDocument_declares (d : Document)
    (h : Document.parse (Utf8.encode salesDocument) = .ok d) :
    DeclaresPrefixes (tagsOf (eventsOf (Utf8.encode salesDocument))) d.root := by
  have hdeclares : (Document.parse (Utf8.encode salesDocument)).toOption.all (fun d =>
      DeclaresPrefixes (tagsOf (eventsOf (Utf8.encode salesDocument))) d.root) = true := by
    rw [show Utf8.encode salesDocument = _ from Utf8.encode_ofList _]
    decide +kernel
  rw [h, show (Except.ok d : Except LoadError Document).toOption = some d from rfl,
    Option.all_some] at hdeclares
  exact of_decide_eq_true hdeclares

/-- The same package, with a short prefix. -/
def shortPrefixDocument : String :=
  "<d:Executable xmlns:d=\"www.microsoft.com/SqlServer/Dts\" d:refId=\"Package\"
    d:ObjectName=\"Sales\"/>"

set_option maxRecDepth 4000 in
theorem shortPrefixDocument_events : eventsOf (Utf8.encode shortPrefixDocument) =
    (eventsOf (Utf8.encode salesDocument)).map (Event.respell (Equiv.swap "DTS" "d")) := by
  rw [salesDocument_events, show Utf8.encode shortPrefixDocument = _ from Utf8.encode_ofList _]
  decide +kernel

/-- A prefix that no survey asks for makes no difference. -/
theorem prefixes_only_names_short :
    (∃ d d', Document.parse (Utf8.encode salesDocument) = .ok d ∧
      Document.parse (Utf8.encode shortPrefixDocument) = .ok d' ∧
      Element.Alike (Unmoved (Equiv.swap "DTS" "d") ["DTS"]) d.root d'.root) ∧
    (surveyPackage {} "p.dtsx" (Utf8.encode shortPrefixDocument)).package =
      (surveyPackage {} "p.dtsx" (Utf8.encode salesDocument)).package := by
  have hf : Respelling (Equiv.swap "DTS" "d") (tagsOf (eventsOf (Utf8.encode salesDocument))) :=
    respelling_swap ⟨by decide, by decide, by decide⟩ ⟨by decide, by decide, by decide⟩ _
  have hdeclared : declaredBy (tagsOf (eventsOf (Utf8.encode salesDocument))) =
      ["DTS"] := by
    rw [salesDocument_events]
    decide +kernel
  have hother : ∀ name ∈ lookedUp, name ≠ "DTS" ∧ name ≠ "d" := by
    decide +kernel
  obtain ⟨hdocuments, hpackage⟩ := prefixes_only_names hf
    (fun d h => (salesDocument_declares d h).keepsSpaces _) shortPrefixDocument_events
  rw [hdeclared] at hdocuments hpackage
  have hparsed : ∃ d, Document.parse (Utf8.encode salesDocument) = .ok d := by
    rw [parse_eq_ofEvents, ofEvents_isOk_iff, salesDocument_events]
    exact List.cons_ne_nil _ _
  constructor
  · obtain ⟨d, hd⟩ := hparsed
    obtain ⟨d', hd', halike⟩ := hdocuments d hd
    exact ⟨d, d', hd, hd', halike⟩
  · refine hpackage (fun name hname p hp hmoved => ?_) {} "p.dtsx"
    obtain rfl := List.mem_singleton.mp hp
    rw [Equiv.swap_apply_left] at hmoved
    obtain ⟨hleft, hright⟩ := hother name hname
    obtain heq | heq := hmoved
    · exact absurd heq.symm hleft
    · exact absurd heq.symm hright

/-- The same package, with a prefix that is the name of an attribute. -/
def objectNameDocument : String :=
  "<ObjectName:Executable xmlns:ObjectName=\"www.microsoft.com/SqlServer/Dts\"
    ObjectName:refId=\"Package\" ObjectName:ObjectName=\"Sales\"/>"

set_option maxRecDepth 4000 in
theorem objectNameDocument_events : eventsOf (Utf8.encode objectNameDocument) =
    (eventsOf (Utf8.encode salesDocument)).map (Event.respell (Equiv.swap "DTS" "ObjectName")) := by
  rw [salesDocument_events, show Utf8.encode objectNameDocument = _ from Utf8.encode_ofList _]
  decide +kernel

set_option maxRecDepth 4000 in
/-- The namespace is taken for the package's name, where its prefix is that of the name. -/
theorem object_name_declaration_seen :
    Respelling (Equiv.swap "DTS" "ObjectName") (tagsOf (eventsOf (Utf8.encode salesDocument))) ∧
    (∀ d, Document.parse (Utf8.encode salesDocument) = .ok d →
      DeclaresPrefixes (tagsOf (eventsOf (Utf8.encode salesDocument))) d.root) ∧
    eventsOf (Utf8.encode objectNameDocument) =
      (eventsOf (Utf8.encode salesDocument)).map (Event.respell (Equiv.swap "DTS" "ObjectName")) ∧
    (surveyPackage {} "p.dtsx" (Utf8.encode salesDocument)).package.name = "Sales" ∧
    (surveyPackage {} "p.dtsx" (Utf8.encode objectNameDocument)).package.name =
      "www.microsoft.com/SqlServer/Dts" := by
  have hsurveyed : (surveyed? {} "p.dtsx" (Utf8.encode salesDocument)).map
      (fun s => s.2.package.name) = some "Sales" := by
    rw [show Utf8.encode salesDocument = _ from Utf8.encode_ofList _]
    decide +kernel
  have hsurveyed' : (surveyed? {} "p.dtsx" (Utf8.encode objectNameDocument)).map
      (fun s => s.2.package.name) = some "www.microsoft.com/SqlServer/Dts" := by
    rw [show Utf8.encode objectNameDocument = _ from Utf8.encode_ofList _]
    decide +kernel
  obtain ⟨_, -, -, hsales⟩ := exists_survey_of_map hsurveyed
  obtain ⟨_, -, -, hobjectName⟩ := exists_survey_of_map hsurveyed'
  refine ⟨respelling_swap ?_ ?_ _, salesDocument_declares, objectNameDocument_events, hsales,
    hobjectName⟩
  · exact ⟨by decide, by decide, by decide⟩
  · exact ⟨by decide, by decide, by decide⟩

end EtlSurvey
