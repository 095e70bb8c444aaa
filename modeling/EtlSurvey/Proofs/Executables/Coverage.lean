import EtlSurvey.Proofs.Executables.Reading
import EtlSurvey.Proofs.Survey.Outcome
import EtlSurvey.Survey.Dependencies

/-! # Which executables of a document are accounted for

The walk enters lists of executables in the root, and lists in the executables that it finds. Of
the executables on its way each one has a record of its own or a note of its own, or one around it
has a note. Executables in any other place, as those of event handlers, it passes by. -/

namespace EtlSurvey
open Text Markup
open scoped List

/-- A list of executables, or an executable. -/
def isTurn (listed : Bool) (e : Element) : Bool :=
  e.isNamed Space.dts (if listed then "Executables" else "Executable")

/-- Executables and lists of executables in turn; the first one is a list or an executable. -/
def alternates : Bool → List Element → Bool
  | _, [] => true
  | listed, e :: above => isTurn listed e && alternates (!listed) above

/-- An executable in a list in the root, or in a list in another such executable. -/
def isListed (s : Site) : Bool := alternates false (s.element :: s.above)

/-- Id of the executable that an element is in. -/
def containerId (s : Site) : String := (nearestExecutableId? s.above).getD packageScope

/-- What becomes of an executable of a document. -/
inductive Fate where
  | recorded (e : Executable)
  | reported (c : Cause)
  /-- It is inside an executable that is reported. -/
  | enclosed

def Fate.record? : Fate → Option Executable
  | .recorded e => some e
  | _ => none

def Fate.cause? : Fate → Option Cause
  | .reported c => some c
  | _ => none

/-- A record and a note say which executable they are about: by its id, or if it has no name by
the id of its container. -/
inductive Fits (causes : List Cause) : Site → Fate → Prop
  | recorded {s e} (hid : e.id = executableId s)
      (hname : s.element.attrText? "ObjectName" = some e.name)
      (hkind : e.kind = .ofTypeName ((s.element.attr? "ExecutableType").getD "")) :
      Fits causes s (.recorded e)
  | nameless {s} (hname : s.element.attrText? "ObjectName" = none) :
      Fits causes s (.reported (.namelessExecutable (containerId s)))
  | repeated {s} : Fits causes s (.reported (.repeatedExecutable (executableId s)))
  | enclosed {s t c} (haround : t.element :: t.above <:+ s.above) (ht : t.element.isExecutable)
      (hreported : Fits causes t (.reported c)) (hc : c ∈ causes) : Fits causes s .enclosed

section Alternation

/-- No element is both a list and an executable. -/
theorem isTurn_unique {listed other : Bool} {e : Element} (h : isTurn listed e)
    (hother : isTurn other e) : listed = other := by
  have hname := beq_iff_eq.mp (Bool.and_eq_true_iff.mp h).1
  have hotherName := beq_iff_eq.mp (Bool.and_eq_true_iff.mp hother).1
  rw [hname] at hotherName
  revert hotherName
  cases listed <;> cases other <;> decide

theorem not_executable_of_list {e : Element} (h : e.isNamed Space.dts "Executables" = true) :
    e.isExecutable = false := by
  by_contra hexecutable
  have hlisted : true = false := isTurn_unique (e := e) h (eq_true_of_ne_false hexecutable)
  cases hlisted

theorem alternates_of_append {first : Bool} {inside above : List Element}
    (h : alternates first (inside ++ above)) : ∃ first, alternates first above := by
  induction inside generalizing first with
  | nil => exact ⟨first, h⟩
  | cons e rest ih => exact ih (Bool.and_eq_true_iff.mp h).2

/-- What stands right below an alternation and continues it is of the kind whose turn it is. -/
theorem turn_of_alternates {first listed : Bool} {e : Element} {above : List Element}
    (h : alternates first (e :: above)) (habove : alternates listed above) (hne : above ≠ []) :
    first = !listed := by
  obtain ⟨f, rest, rfl⟩ := List.exists_cons_of_ne_nil hne
  have hnext : isTurn (!first) f := (Bool.and_eq_true_iff.mp (Bool.and_eq_true_iff.mp h).2).1
  have hturn : isTurn listed f := (Bool.and_eq_true_iff.mp habove).1
  rw [isTurn_unique hturn hnext, Bool.not_not]

theorem suffix_above_of_mem_sites {f : Forest} {above : List Element} {s : Site}
    (h : s ∈ f.sites above) : above <:+ s.above := by
  induction f generalizing above with
  | nil => cases h
  | tree head inner next ihInner ihNext =>
    rw [Forest.sites, List.mem_cons, List.mem_append] at h
    obtain rfl | h | h := h
    · exact List.suffix_rfl
    · exact (List.suffix_cons _ _).trans (ihInner h)
    · exact ihNext h

/-- An element that the walk passes by has no executable of its way in it. -/
theorem filter_sites_of_passed {listed : Bool} {e : Element} {above : List Element}
    (habove : alternates listed above) (hne : above ≠ [])
    (hpassed : alternates (!listed) (e :: above) = false) :
    ((⟨e, above⟩ : Site) :: e.inner.sites (e :: above)).filter isListed = [] := by
  refine List.filter_eq_nil_iff.mpr fun s hs hlisted => ?_
  have haround : e :: above <:+ s.element :: s.above := by
    obtain rfl | hs := List.mem_cons.mp hs
    · exact List.suffix_rfl
    · exact (suffix_above_of_mem_sites hs).trans (List.suffix_cons _ _)
  obtain ⟨inside, hinside⟩ := haround
  rw [isListed, ← hinside] at hlisted
  obtain ⟨first, hfirst⟩ := alternates_of_append hlisted
  rw [turn_of_alternates hfirst habove hne, hpassed] at hfirst
  cases hfirst

end Alternation

section Tracing

/-- The findings of an outline. -/
def outlineCauses (steps : List OutlineStep) : List Cause :=
  steps.filterMap fun | .note c => some c | .node _ => none

@[simp] theorem outlineCauses_append (steps others : List OutlineStep) :
    outlineCauses (steps ++ others) = outlineCauses steps ++ outlineCauses others :=
  List.filterMap_append

variable {policy : RedactionPolicy} {causes : List Cause}

/-- The steps are one for each executable on the way of the walk, but for those that are inside a
reported one. -/
def Traced (policy : RedactionPolicy) (causes : List Cause) (sites : List Site)
    (steps : List OutlineStep) : Prop :=
  ∃ fates, List.Forall₂ (Fits causes) (sites.filter isListed) fates ∧
    fates.filterMap Fate.record? = (outlineNodes steps).map (recordOf policy true) ∧
    fates.filterMap Fate.cause? = outlineCauses steps

theorem Traced.passed {sites : List Site} (h : sites.filter isListed = []) :
    Traced policy causes sites [] := by
  refine ⟨[], ?_, rfl, rfl⟩
  rw [h]
  exact .nil

theorem Traced.append {sites others : List Site} {steps after : List OutlineStep}
    (h : Traced policy causes sites steps) (hothers : Traced policy causes others after) :
    Traced policy causes (sites ++ others) (steps ++ after) := by
  obtain ⟨fates, hfits, hrecords, hcauses⟩ := h
  obtain ⟨fates', hfits', hrecords', hcauses'⟩ := hothers
  refine ⟨fates ++ fates', ?_, ?_, ?_⟩
  · rw [List.filter_append]
    exact List.rel_append hfits hfits'
  · rw [List.filterMap_append, hrecords, hrecords', outlineNodes_append, List.map_append]
  · rw [List.filterMap_append, hcauses, hcauses', outlineCauses_append]

theorem Traced.node {s : Site} {n : OutlineNode} (hlisted : isListed s = true)
    (hid : n.id = executableId s) (hname : s.element.attrText? "ObjectName" = some n.name)
    (hkind : n.kind = .ofTypeName ((s.element.attr? "ExecutableType").getD "")) :
    Traced policy causes [s] [.node n] := by
  refine ⟨[.recorded (recordOf policy true n)], ?_, rfl, rfl⟩
  rw [List.filter_cons_of_pos hlisted]
  refine .cons (.recorded ?_ ?_ ?_) .nil
  · exact (recordOf_id policy true n).trans hid
  · exact hname.trans (congrArg some (recordOf_name policy true n).symm)
  · exact (recordOf_kind policy true n).trans hkind

theorem filterMap_map_enclosed {β : Type} (sites : List Site) (f : Fate → Option β)
    (hf : f .enclosed = none) : (sites.map fun _ => Fate.enclosed).filterMap f = [] := by
  rw [List.filterMap_map]
  exact List.filterMap_eq_nil_iff.mpr fun _ _ => hf

/-- What is inside a reported executable has no step of its own. -/
theorem Traced.note {s : Site} {inside : List Site} {c : Cause} (hlisted : isListed s = true)
    (hc : c ∈ causes) (hfits : Fits causes s (.reported c))
    (hinside : ∀ t ∈ inside, s.element :: s.above <:+ t.above) :
    Traced policy causes (s :: inside) [.note c] := by
  refine ⟨.reported c :: (inside.filter isListed).map fun _ => .enclosed, ?_, ?_, ?_⟩
  · rw [List.filter_cons_of_pos hlisted]
    refine .cons hfits ?_
    rw [List.forall₂_map_right_iff, List.forall₂_same]
    intro t ht
    have hexecutable : s.element.isExecutable := (Bool.and_eq_true_iff.mp hlisted).1
    exact .enclosed (hinside t (List.mem_of_mem_filter ht)) hexecutable hfits hc
  · exact filterMap_map_enclosed _ _ rfl
  · exact congrArg (c :: ·) (filterMap_map_enclosed _ _ rfl)

theorem isListed_of_isExecutable {e : Element} {above : List Element} (he : e.isExecutable = true)
    (habove : alternates true above = true) : isListed ⟨e, above⟩ = true :=
  Bool.and_eq_true_iff.mpr ⟨he, habove⟩

/-- An executable with a name has the id of its node. -/
theorem executableId_node {p : Position} {e : Element} {name : String}
    (he : e.isExecutable = true)
    (hid : nearestExecutableId? p.above = some p.containerId)
    (hname : e.attrText? "ObjectName" = some name) :
    nearestExecutableId? (e :: p.above) = some (p.node e name).id := by
  rw [nearestExecutableId?, he, hid, hname]
  rfl

theorem containerId_eq {p : Position} (hid : nearestExecutableId? p.above = some p.containerId)
    (e : Element) : containerId ⟨e, p.above⟩ = p.containerId := by
  rw [containerId, hid]
  rfl

/-- The place of the walk is on its way, and the walk knows the id of the executable there. -/
structure Position.OnWay (p : Position) (listed : Bool) : Prop where
  alternates : alternates listed p.above = true
  nonempty : p.above ≠ []
  id : nearestExecutableId? p.above = some p.containerId

theorem Position.OnWay.inNode {p : Position} {e : Element} {name : String} (h : p.OnWay true)
    (he : e.isExecutable = true) (hname : e.attrText? "ObjectName" = some name) :
    (p.inNode (p.node e name)).OnWay false where
  alternates := Bool.and_eq_true_iff.mpr ⟨he, h.alternates⟩
  nonempty := List.cons_ne_nil _ _
  id := executableId_node he h.id hname

theorem Position.OnWay.inList {p : Position} {e : Element} (h : p.OnWay false)
    (he : e.isNamed Space.dts "Executables" = true) : (p.inList e).OnWay true where
  alternates := Bool.and_eq_true_iff.mpr ⟨he, h.alternates⟩
  nonempty := List.cons_ne_nil _ _
  id := by
    show nearestExecutableId? (e :: p.above) = some p.containerId
    rw [nearestExecutableId?, not_executable_of_list he]
    exact h.id

theorem Walks.traced {p : Position} {listed : Bool} {seen seen' : List String} {f : Forest}
    {steps : List OutlineStep} (h : Walks p listed seen f steps seen') (hp : p.OnWay listed)
    (hcauses : outlineCauses steps ⊆ causes) : Traced policy causes (f.sites p.above) steps := by
  induction h with
  | done => exact .passed rfl
  | @pass p listed seen head inner next after seen' hexecutable hlist _ ihNext =>
    have hother : isTurn (!listed) ⟨head, inner⟩ = false := by
      cases listed with
      | true => exact hexecutable rfl
      | false => exact hlist rfl
    have hpassed : alternates (!listed) (⟨head, inner⟩ :: p.above) = false :=
      Bool.and_eq_false_iff.mpr (.inl hother)
    exact (Traced.passed (filter_sites_of_passed hp.alternates hp.nonempty hpassed)).append
      (ihNext hp hcauses)
  | @nameless p seen head inner next after seen' hexecutable hname _ ihNext =>
    -- The walk does not enter it, so all that is inside counts as enclosed; likewise below.
    obtain ⟨hc, hafter⟩ := List.cons_subset.mp hcauses
    have hfits : Fits causes ⟨⟨head, inner⟩, p.above⟩
        (.reported (.namelessExecutable p.containerId)) :=
      containerId_eq hp.id ⟨head, inner⟩ ▸ .nameless hname
    exact (Traced.note (isListed_of_isExecutable hexecutable hp.alternates) hc hfits
      fun _ ht => suffix_above_of_mem_sites ht).append (ihNext hp hafter)
  | @repeated p seen head inner next after seen' name hexecutable hname _ _ ihNext =>
    obtain ⟨hc, hafter⟩ := List.cons_subset.mp hcauses
    have hid : executableId ⟨⟨head, inner⟩, p.above⟩ = (p.node ⟨head, inner⟩ name).id :=
      congrArg (·.getD packageScope) (executableId_node hexecutable hp.id hname)
    have hfits : Fits causes ⟨⟨head, inner⟩, p.above⟩
        (.reported (.repeatedExecutable (p.node ⟨head, inner⟩ name).id)) := hid ▸ .repeated
    exact (Traced.note (isListed_of_isExecutable hexecutable hp.alternates) hc hfits
      fun _ ht => suffix_above_of_mem_sites ht).append (ihNext hp hafter)
  | @visited p seen head inner next below seen₁ after seen₂ name hexecutable hname _ _ _ ihBelow
      ihNext =>
    obtain ⟨hbelow, hafter⟩ := List.append_subset.mp (outlineCauses_append below after ▸ hcauses)
    have hid : (p.node ⟨head, inner⟩ name).id = executableId ⟨⟨head, inner⟩, p.above⟩ :=
      (congrArg (·.getD packageScope) (executableId_node hexecutable hp.id hname)).symm
    have hnode : Traced policy causes [⟨⟨head, inner⟩, p.above⟩]
        [.node (p.node ⟨head, inner⟩ name)] :=
      .node (isListed_of_isExecutable hexecutable hp.alternates) hid hname rfl
    exact hnode.append ((ihBelow (hp.inNode hexecutable hname) hbelow).append (ihNext hp hafter))
  | @list p seen head inner next below seen₁ after seen₂ hlist _ _ ihBelow ihNext =>
    obtain ⟨hbelow, hafter⟩ := List.append_subset.mp (outlineCauses_append below after ▸ hcauses)
    have hself : isListed ⟨⟨head, inner⟩, p.above⟩ = false :=
      Bool.and_eq_false_iff.mpr (.inl (not_executable_of_list hlist))
    have hpassed : Traced policy causes [⟨⟨head, inner⟩, p.above⟩] [] :=
      .passed (List.filter_cons_of_neg (by simp [hself]))
    exact hpassed.append ((ihBelow (hp.inList hlist) hbelow).append (ihNext hp hafter))

theorem Position.onWay_ofRoot {root : Element} (h : root.isExecutable = true) :
    (Position.ofRoot root).OnWay false where
  alternates := Bool.and_eq_true_iff.mpr ⟨h, rfl⟩
  nonempty := List.cons_ne_nil _ _
  id := by
    show nearestExecutableId? [root] = _
    rw [nearestExecutableId?, h]
    rfl

theorem traced_outlineOf (policy : RedactionPolicy) {root : Element}
    (h : root.isExecutable = true) :
    Traced policy (outlineCauses (outlineOf root)) root.sites (outlineOf root) := by
  obtain ⟨seen, hwalk⟩ := walks_outlineOf root
  exact hwalk.traced (Position.onWay_ofRoot h) (List.Subset.refl _)

end Tracing

section Diagnostics

theorem Noted.remarks_sublist_bind {x : Noted α} {f : α → Noted β} {remarks : List Remark}
    (h : remarks <+ (f x.value).remarks) : remarks <+ (x >>= f).remarks :=
  h.trans (List.sublist_append_right ..)

theorem Noted.remarks_sublist_bind_left {x : Noted α} {remarks : List Remark}
    (h : remarks <+ x.remarks) (f : α → Noted β) : remarks <+ (x >>= f).remarks :=
  h.trans (List.sublist_append_left ..)

theorem readSteps_findings (policy : RedactionPolicy) (retain : Bool) (steps : List OutlineStep) :
    (foundAll (outlineCauses steps)).remarks <+ (readSteps policy retain steps).remarks := by
  induction steps with
  | nil => exact List.Sublist.slnil
  | cons step rest ih =>
    cases step with
    | note c => exact ih.cons_cons _
    | node n => exact Noted.remarks_sublist_bind (Noted.remarks_sublist_bind_left ih _)

theorem readDocument_findings (config : Config) (policy : RedactionPolicy) (metadata : Metadata)
    (d : Document) : (foundAll (outlineCauses (outlineOf d.root))).remarks <+
      (readDocument config policy metadata d).remarks := by
  have hexecutables : (foundAll (outlineCauses (outlineOf d.root))).remarks <+
      (readExecutables policy config.retainUnsupported d.root).remarks := by
    rw [readExecutables_eq_readSteps]
    exact Noted.remarks_sublist_bind_left (readSteps_findings policy _ _) _
  have hpackage : (foundAll (outlineCauses (outlineOf d.root))).remarks <+
      (readPackage policy config.retainUnsupported metadata d.root).remarks := by
    refine Noted.remarks_sublist_bind (Noted.remarks_sublist_bind ?_)
    exact Noted.remarks_sublist_bind (Noted.remarks_sublist_bind_left hexecutables _)
  exact Noted.remarks_sublist_bind (Noted.remarks_sublist_bind_left hpackage _)

theorem diagnosticsOf_foundAll (config : Config) (source : String) (causes : List Cause) :
    diagnosticsOf config source (foundAll causes).remarks =
      causes.map fun c => c.note.diagnostic config source := by
  rw [diagnosticsOf, notesOf_foundAll, List.map_map]
  rfl

/-- Diagnostics of what the outline finds are in the report, in order. -/
theorem readSurvey_findings (config : Config) (source : String) (policy : RedactionPolicy)
    (metadata : Metadata) (d : Document) :
    ((outlineCauses (outlineOf d.root)).map fun c => c.note.diagnostic config source) <+
      (readSurvey config source policy metadata d).report.diagnostics := by
  rw [← diagnosticsOf_foundAll, readSurvey_report, reportOf_diagnostics]
  refine List.Sublist.map _ (List.Sublist.filterMap _ ?_)
  exact (readDocument_findings config policy metadata d).trans (List.sublist_append_right ..)

end Diagnostics

/-- Each executable has a record or a diagnostic of its own, or is inside one with a diagnostic.
There are no other records, and the records are in the order of the document. -/
structure Accounts (config : Config) (source : String) (sites : List Site)
    (survey : PackageSurvey) (fates : List Fate) : Prop where
  fits : List.Forall₂ (Fits (fates.filterMap Fate.cause?)) sites fates
  records : fates.filterMap Fate.record? = survey.package.executables
  diagnostics : ((fates.filterMap Fate.cause?).map fun c => c.note.diagnostic config source) <+
    survey.report.diagnostics

/-- A record has the executable's id, or a diagnostic says that it or one around it has no name or
repeats an id. -/
def Covered (config : Config) (source : String) (survey : PackageSurvey) (s : Site) : Prop :=
  (∃ e ∈ survey.package.executables, e.id = executableId s) ∨
  ∃ t : Site, t.element :: t.above <:+ s.element :: s.above ∧ t.element.isExecutable ∧
    ∃ c ∈ [Cause.namelessExecutable (containerId t), Cause.repeatedExecutable (executableId t)],
      c.note.diagnostic config source ∈ survey.report.diagnostics

theorem exists_of_forall₂ {R : α → β → Prop} {as : List α} {bs : List β}
    (h : List.Forall₂ R as bs) {a : α} (ha : a ∈ as) : ∃ b ∈ bs, R a b := by
  induction h with
  | nil => cases ha
  | @cons a' b as bs hab _ ih =>
    obtain rfl | ha := List.mem_cons.mp ha
    · exact ⟨b, List.mem_cons_self, hab⟩
    · obtain ⟨b', hb', hab'⟩ := ih ha
      exact ⟨b', .tail _ hb', hab'⟩

theorem Fits.finding_mem {causes : List Cause} {s : Site} {c : Cause}
    (h : Fits causes s (.reported c)) :
    c ∈ [.namelessExecutable (containerId s), .repeatedExecutable (executableId s)] := by
  cases h with
  | nameless => exact List.mem_cons_self
  | repeated => exact .tail _ List.mem_cons_self

/-- Where all executables are accounted for, each one is covered. -/
theorem Accounts.covered {config : Config} {source : String} {sites : List Site}
    {survey : PackageSurvey} {fates : List Fate} (h : Accounts config source sites survey fates)
    {s : Site} (hs : s ∈ sites) (hexecutable : s.element.isExecutable) :
    Covered config source survey s := by
  obtain ⟨fate, hfate, hfits⟩ := exists_of_forall₂ h.fits hs
  have hdiagnostic : ∀ c ∈ fates.filterMap Fate.cause?,
      c.note.diagnostic config source ∈ survey.report.diagnostics :=
    fun c hc => h.diagnostics.subset (List.mem_map_of_mem hc)
  cases fate with
  | recorded e =>
    have he : e ∈ survey.package.executables := by
      rw [← h.records]
      exact List.mem_filterMap.mpr ⟨_, hfate, rfl⟩
    cases hfits with
    | recorded hid => exact .inl ⟨e, he, hid⟩
  | reported c =>
    have hc : c ∈ fates.filterMap Fate.cause? := List.mem_filterMap.mpr ⟨_, hfate, rfl⟩
    exact .inr ⟨s, List.suffix_rfl, hexecutable, c, hfits.finding_mem, hdiagnostic c hc⟩
  | enclosed =>
    cases hfits with
    | @enclosed _ t c haround ht hreported hc =>
      exact .inr ⟨t, haround.trans (List.suffix_cons _ _), ht, c, hreported.finding_mem,
        hdiagnostic c hc⟩

theorem parsePackage_root {bytes : Bytes} {d : Document}
    (h : Document.parsePackage bytes = .ok d) : d.root.isExecutable = true := by
  rw [Document.parsePackage, Document.parseWithRoot] at h
  cases hparse : Document.parse bytes with
  | error e =>
    rw [hparse] at h
    cases h
  | ok document =>
    rw [hparse] at h
    replace h : (if document.root.isNamed Space.dts "Executable" then Except.ok document
      else .error _) = .ok d := h
    split at h
    · next hroot => exact Except.ok.inj h ▸ hroot
    · cases h

/-- No executable on the way of the walk is lost, if those of unknown kinds are retained. -/
theorem listed_executables_accounted (config : Config) (source : String) {bytes : Bytes}
    {d : Document} (hretain : config.retainUnsupported = true)
    (hparse : Document.parsePackage bytes = .ok d)
    (hsuccess : (surveyPackage config source bytes).report.success = true) :
    ∃ fates, Accounts config source (d.root.sites.filter isListed)
      (surveyPackage config source bytes) fates := by
  obtain ⟨policy, metadata, hread⟩ := surveyPackage_of_success hparse hsuccess
  obtain ⟨fates, hfits, hrecords, hcauses⟩ := traced_outlineOf policy (parsePackage_root hparse)
  refine ⟨fates, ?_, ?_, ?_⟩
  · rwa [hcauses]
  · rw [hread, hrecords, readSurvey_package]
    show _ = (readExecutables policy config.retainUnsupported d.root).value.executables
    rw [readExecutables_eq, hretain]
    exact congrArg _ (List.filter_eq_self.mpr fun n _ => n.isKept_true).symm
  · rw [hread, hcauses]
    exact readSurvey_findings config source policy metadata d

/-- A package with a task in its list of executables, and one in that of an event handler. -/
def handlerDocument : String :=
  "<DTS:Executable xmlns:DTS=\"www.microsoft.com/SqlServer/Dts\" DTS:refId=\"Package\"
    DTS:ObjectName=\"Sales\">
  <DTS:EventHandlers><DTS:EventHandler><DTS:Executables>
    <DTS:Executable DTS:refId=\"Package.EventHandlers[OnError]\\Notify\"
      DTS:ObjectName=\"Notify\" DTS:ExecutableType=\"STOCK:SEQUENCE\"/>
  </DTS:Executables></DTS:EventHandler></DTS:EventHandlers>
  <DTS:Executables>
    <DTS:Executable DTS:refId=\"Package\\Load\" DTS:ObjectName=\"Load\"
      DTS:ExecutableType=\"STOCK:SEQUENCE\"/>
  </DTS:Executables>
</DTS:Executable>"

set_option maxRecDepth 4000 in
theorem handlerDocument_sites :
    ∃ d, Document.parsePackage (Utf8.encode handlerDocument) = .ok d ∧
      (d.root.sitesNamed Space.dts "Executable").map executableId =
        ["Package.EventHandlers[OnError]\\Notify", "Package\\Load"] ∧
      (d.root.sites.filter isListed).map executableId = ["Package\\Load"] := by
  have hread : (match Document.parsePackage (Utf8.encode handlerDocument) with
      | .ok d => ((d.root.sitesNamed Space.dts "Executable").map executableId,
          (d.root.sites.filter isListed).map executableId)
      | .error _ => ([], [])) =
        (["Package.EventHandlers[OnError]\\Notify", "Package\\Load"], ["Package\\Load"]) := by
    rw [show Utf8.encode handlerDocument = _ from Utf8.encode_ofList _]
    decide +kernel
  split at hread
  · next d hparse =>
    obtain ⟨hsites, hlisted⟩ := Prod.mk.inj hread
    exact ⟨d, hparse, hsites, hlisted⟩
  · cases hread

set_option maxRecDepth 4000 in
theorem handlerDocument_survey :
    let survey := surveyPackage {} "p.dtsx" (Utf8.encode handlerDocument)
    survey.report.success = true ∧ survey.package.executables.map (·.id) = ["Package\\Load"] ∧
      survey.report.diagnostics.map (·.code) = [.info] := by
  rw [show Utf8.encode handlerDocument = _ from Utf8.encode_ofList _]
  decide +kernel

theorem listed_executables_accounted_handlerDocument :
    ∃ d fates, Document.parsePackage (Utf8.encode handlerDocument) = .ok d ∧
      (d.root.sites.filter isListed).map executableId = ["Package\\Load"] ∧
      Accounts {} "p.dtsx" (d.root.sites.filter isListed)
        (surveyPackage {} "p.dtsx" (Utf8.encode handlerDocument)) fates := by
  obtain ⟨d, hparse, -, hlisted⟩ := handlerDocument_sites
  obtain ⟨fates, haccounts⟩ :=
    listed_executables_accounted {} "p.dtsx" rfl hparse handlerDocument_survey.1
  exact ⟨d, fates, hparse, hlisted, haccounts⟩

/-- The task of an event handler has no record, and no diagnostic tells of it. -/
theorem handler_task_not_covered :
    ∃ d, Document.parsePackage (Utf8.encode handlerDocument) = .ok d ∧
      (surveyPackage {} "p.dtsx" (Utf8.encode handlerDocument)).report.success = true ∧
      ∃ s ∈ d.root.sitesNamed Space.dts "Executable",
        ¬ Covered {} "p.dtsx" (surveyPackage {} "p.dtsx" (Utf8.encode handlerDocument)) s := by
  obtain ⟨d, hparse, hsites, -⟩ := handlerDocument_sites
  obtain ⟨hsuccess, hexecutables, hcodes⟩ := handlerDocument_survey
  have hnotify : "Package.EventHandlers[OnError]\\Notify" ∈
      (d.root.sitesNamed Space.dts "Executable").map executableId := by
    rw [hsites]
    exact List.mem_cons_self
  obtain ⟨s, hs, hid⟩ := List.mem_map.mp hnotify
  refine ⟨d, hparse, hsuccess, s, hs, ?_⟩
  rintro (⟨e, he, heq⟩ | ⟨t, -, -, c, hc, hdiagnostic⟩)
  · have hrecord := List.mem_map_of_mem he (f := (·.id))
    rw [hexecutables, heq, hid] at hrecord
    exact absurd hrecord (by decide)
  · have hcode := List.mem_map_of_mem hdiagnostic (f := (·.code))
    rw [hcodes, List.mem_singleton] at hcode
    -- The one diagnostic is of another code than either finding.
    obtain rfl | hc := List.mem_cons.mp hc
    · cases hcode
    · obtain rfl := List.mem_singleton.mp hc
      cases hcode

end EtlSurvey
