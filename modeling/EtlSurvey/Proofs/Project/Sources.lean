import EtlSurvey.Proofs.Survey.FirstOfKey
import EtlSurvey.Proofs.Survey.Outcome
import EtlSurvey.Proofs.Lists
import EtlSurvey.Survey.Project

/-! # Packages of a project and what is made of them

The sources of a project are the first members of each package name, in ascending order of the
names. Whatever a project holds of its packages is made of the sources one by one: references and
reports stand at the places of the sources, records under their names, and dependencies come from
the source of their parent. -/

namespace EtlSurvey
open Text Markup

/-- A member whose package is surveyed: its package is not excluded, and no package member before
it has the name. -/
structure IsSource (config : Config) (c : Container) (m : String) : Prop where
  first : c.packageMembers.find? (packageNameOf · == packageNameOf m) = some m
  kept : config.excludes (packageNameOf m) = false

/-- The source of the package in a member. -/
def sourceOf (c : Container) (m : String) : PackageSource := ⟨packageNameOf m, m, c.read m⟩

@[simp] theorem sourceOf_name (c : Container) (m : String) :
    (sourceOf c m).name = packageNameOf m := by
  rw [sourceOf]

@[simp] theorem sourceOf_content (c : Container) (m : String) :
    (sourceOf c m).content = c.read m := by
  rw [sourceOf]

@[simp] theorem sourceOf_member (c : Container) (m : String) : (sourceOf c m).member = m := by
  rw [sourceOf]

section Sources

variable {config : Config} {c : Container}

theorem isSource_iff {m : String} :
    (c.packageMembers.filter fun member => !config.excludes (packageNameOf member)).find?
        (packageNameOf · == packageNameOf m) = some m ↔ IsSource config c m := by
  -- whether a package is excluded depends on its name alone
  have hname : config.excludes (packageNameOf m) = false →
      (c.packageMembers.filter fun member => !config.excludes (packageNameOf member)).find?
          (packageNameOf · == packageNameOf m) =
        c.packageMembers.find? (packageNameOf · == packageNameOf m) := by
    intro hkept
    rw [List.find?_filter]
    refine congrArg (List.find? · c.packageMembers) (funext fun member => ?_)
    by_cases h : packageNameOf member = packageNameOf m
    · simp [h, hkept]
    · simp [h]
  constructor
  · intro h
    have hkept := Bool.not_eq_true' _ |>.mp (List.mem_filter.mp (List.mem_of_find?_eq_some h)).2
    rw [hname hkept] at h
    exact ⟨h, hkept⟩
  · rintro ⟨hfirst, hkept⟩
    rw [hname hkept, hfirst]

theorem packageSources_value : (packageSources config c).value =
    sortByKey (·.name) (keepFirst []
      ((c.packageMembers.filter fun member => !config.excludes (packageNameOf member)).map
        fun m => pure (.keyed (packageNameOf m) (Cause.repeatedPackage (packageNameOf m) m).note
          (pure (sourceOf c m))))).value :=
  rfl

theorem mem_packageSources {s : PackageSource} :
    s ∈ (packageSources config c).value ↔ ∃ m, IsSource config c m ∧ sourceOf c m = s := by
  rw [packageSources_value, mem_sortByKey, mem_keepFirst_pure]
  simp only [List.not_mem_nil, not_false_iff, true_and, isSource_iff]

theorem sourceOf_mem (h : IsSource config c m) : sourceOf c m ∈ (packageSources config c).value :=
  mem_packageSources.mpr ⟨m, h, rfl⟩

/-- Names of the sources ascend, so no two of them are the same. -/
theorem packageSources_ascending :
    ((packageSources config c).value.map (·.name)).Pairwise (· < ·) := by
  rw [packageSources_value]
  refine sortByKey_ascending (nodup_keys_keepFirst ?_)
  intro candidate hc key repeated record hvalue
  obtain ⟨m, -, rfl⟩ := List.mem_map.mp hc
  have hkeyed := Candidate.keyed.inj hvalue
  rw [← hkeyed.2.2, ← hkeyed.1]
  exact sourceOf_name c m

theorem packageSources_nodup : ((packageSources config c).value.map (·.name)).Nodup :=
  packageSources_ascending.imp fun h => String.ne_of_lt h

/-- Names of the packages of a project. -/
def packageNames (config : Config) (c : Container) : List String :=
  (packageSources config c).value.map (·.name)

theorem mem_packageNames {name : String} :
    name ∈ packageNames config c ↔ ∃ m, IsSource config c m ∧ packageNameOf m = name := by
  rw [packageNames, List.mem_map]
  constructor
  · rintro ⟨s, hs, rfl⟩
    obtain ⟨m, hm, rfl⟩ := mem_packageSources.mp hs
    exact ⟨m, hm, (sourceOf_name c m).symm⟩
  · rintro ⟨m, hm, rfl⟩
    exact ⟨sourceOf c m, sourceOf_mem hm, sourceOf_name c m⟩

/-- The names of a project are known from which names they are. -/
theorem packageNames_ext {config' : Config} {c' : Container}
    (h : ∀ name, name ∈ packageNames config' c' ↔ name ∈ packageNames config c) :
    packageNames config' c' = packageNames config c :=
  ascending_ext packageSources_ascending packageSources_ascending h

theorem surveySource_of_ok {s : PackageSource} {bytes : Bytes} (h : s.content = .ok bytes) :
    surveySource config s = surveyPackage config s.member bytes := by
  rw [surveySource, h]

theorem surveySource_of_error {s : PackageSource} {e : ContainerError} (h : s.content = .error e) :
    surveySource config s = unreadablePackage s e := by
  rw [surveySource, h]

end Sources

theorem surveySource_source (config : Config) (s : PackageSource) :
    (surveySource config s).report.source = s.member := by
  rw [surveySource]
  split
  · exact surveyPackage_source ..
  · rfl

theorem surveySource_named (config : Config) (s : PackageSource) :
    (surveySource config s).report.package = (surveySource config s).package.name := by
  rw [surveySource]
  split
  · exact surveyPackage_named ..
  · rfl

theorem ProjectReport.foldl_addPackage_packages (reports : List PackageReport) (r : ProjectReport) :
    (reports.foldl addPackage r).packages = r.packages ++ reports := by
  induction reports generalizing r with
  | nil => exact (List.append_nil _).symm
  | cons report rest ih => exact (ih (r.addPackage report)).trans (List.append_assoc ..)

/-- A package may be counted before its report is added or afterwards. -/
theorem ProjectReport.addPackage_counted (reference : PackageReference) (report : PackageReport)
    (r : ProjectReport) (others : Nat) :
    let added :=
      (if reference.transformationOnly then r.countTransformation else r).addPackage report
    { added with
      summary.transformationOnly := added.summary.transformationOnly + others } =
      { r with
        summary.transformationOnly := r.summary.transformationOnly +
          (others + if reference.transformationOnly then 1 else 0) }.addPackage report := by
  cases htransformation : reference.transformationOnly <;> cases hsuccess : report.success <;>
    simp [countTransformation, addPackage, hsuccess, Nat.add_comm, Nat.add_left_comm]

/-- The run over surveyed packages. It adds their references and records, counts those that work
inside the warehouse only, and adds their reports. -/
theorem ProjectSurvey.foldl_addPackage (entryPoints : List String)
    (surveys : List (PackageSource × PackageSurvey)) (p : ProjectSurvey) :
    let references := surveys.map fun (s, survey) => referenceOf entryPoints s survey
    surveys.foldl (fun p (s, survey) => p.addPackage entryPoints s survey) p = {
      project := { p.project with
        packages := p.project.packages ++ references
        packageRecords := (surveys.map fun (s, survey) => (s.name, survey.package)).foldl
          (fun d (name, record) => d.insert name record) p.project.packageRecords }
      report := (surveys.map (·.2.report)).foldl .addPackage { p.report with
        summary.transformationOnly :=
          p.report.summary.transformationOnly + references.countP (·.transformationOnly) } } := by
  induction surveys generalizing p with
  | nil => simp
  | cons first rest ih =>
    obtain ⟨s, survey⟩ := first
    dsimp only at ih ⊢
    rw [List.foldl_cons, ih]
    have hreport := ProjectReport.addPackage_counted (referenceOf entryPoints s survey)
      survey.report p.report ((rest.map fun (s, survey) =>
        referenceOf entryPoints s survey).countP (·.transformationOnly))
    simp only [addPackage, List.map_cons, List.foldl_cons, List.append_assoc, List.singleton_append,
      List.countP_cons, hreport]

namespace ProjectOutline

variable (config : Config) (name : String) (o : ProjectOutline)

/-- Packages leave alone what the files of the project say. -/
theorem fill_files :
    let p := (o.fill config name).project
    p.protectionLevel = o.files.manifest.protectionLevel.getD .dontSaveSensitive ∧
      p.parameters = o.files.parameters ∧ p.connections = o.files.connections := by
  rw [fill, ProjectSurvey.foldl_addPackage]
  exact ⟨rfl, rfl, rfl⟩

theorem fill_packages : (o.fill config name).project.packages =
    o.sources.map fun s => referenceOf o.graph.entryPoints s (surveySource config s) := by
  rw [fill, ProjectSurvey.foldl_addPackage]
  exact List.map_map

theorem fill_records : (o.fill config name).project.packageRecords =
    .ofList (o.sources.map fun s => (s.name, (surveySource config s).package)) := by
  rw [fill, ProjectSurvey.foldl_addPackage]
  exact congrArg (List.foldl _ ∅) List.map_map

theorem fill_reports : (o.fill config name).report.packages =
    o.sources.map fun s => (surveySource config s).report := by
  rw [fill, ProjectSurvey.foldl_addPackage, ProjectReport.foldl_addPackage_packages]
  exact List.map_map

end ProjectOutline

/-- A dictionary of entries whose keys ascend has each of them. -/
theorem Dictionary.get?_ofList {entries : List (String × α)}
    (h : entries.Pairwise fun a b => a.1 < b.1) {key : String} {value : α}
    (hmem : (key, value) ∈ entries) : (ofList entries).get? key = some value := by
  rw [get?, ofList, entries_foldl_insert entries ∅ h]
  obtain ⟨before, after, rfl⟩ := List.append_of_mem hmem
  refine List.lookup_eq_some_iff.mpr ⟨before, after, rfl, fun e he => ?_⟩
  have hlt := (List.pairwise_append.mp h).2.2 e he _ List.mem_cons_self
  exact bne_iff_ne.mpr (String.ne_of_lt hlt).symm

/-- Where the keys of items differ, what is theirs of one key is that of one item. -/
theorem filter_flatMap_of_nodup {keyOf : σ → String} {f : σ → List β} {ownerOf : β → String}
    {items : List σ} (hkeys : (items.map keyOf).Nodup)
    (howner : ∀ s ∈ items, ∀ b ∈ f s, ownerOf b = keyOf s) {s : σ} (hs : s ∈ items) :
    (items.flatMap f).filter (ownerOf · == keyOf s) = f s := by
  obtain ⟨before, after, rfl⟩ := List.append_of_mem hs
  have hothers : ∀ others : List σ, others ⊆ before ++ s :: after →
      (∀ t ∈ others, keyOf t ≠ keyOf s) →
      (others.flatMap f).filter (ownerOf · == keyOf s) = [] := by
    intro others hsub hne
    refine List.filter_eq_nil_iff.mpr fun b hb heq => ?_
    obtain ⟨t, ht, hbt⟩ := List.mem_flatMap.mp hb
    exact hne t ht ((howner t (hsub ht) b hbt).symm.trans (beq_iff_eq.mp heq))
  obtain ⟨-, hafter, hbefore⟩ := List.nodup_append.mp (List.map_append ▸ hkeys)
  have hbefores := hothers before (List.subset_append_left ..) fun t ht =>
    hbefore _ (List.mem_map_of_mem ht) _ List.mem_cons_self
  have hafters := hothers after (fun t ht => List.mem_append_right _ (.tail _ ht))
    fun t ht heq => (List.nodup_cons.mp hafter).1 (heq ▸ List.mem_map_of_mem ht)
  have hself : (f s).filter (ownerOf · == keyOf s) = f s :=
    List.filter_eq_self.mpr fun b hb => beq_iff_eq.mpr (howner s hs b hb)
  rw [List.flatMap_append, List.flatMap_cons, List.filter_append, List.filter_append, hself,
    hbefores, hafters, List.nil_append, List.append_nil]

theorem dependency_parent {package : String} {bytes : Bytes} {dependencies : List Dependency}
    (hscan : scanDependencies package bytes = .ok dependencies) {d : Dependency}
    (hd : d ∈ dependencies) : d.parent = package := by
  cases hparse : Document.parsePackage bytes with
  | error e =>
    rw [scanDependencies, hparse] at hscan
    cases hscan
  | ok document =>
    rw [scanDependencies, hparse] at hscan
    obtain rfl := Except.ok.inj hscan
    obtain ⟨s, -, hs⟩ := List.mem_filterMap.mp hd
    rw [dependencyOf?] at hs
    dsimp only at hs
    split at hs
    · cases hs
    · obtain ⟨child, -, hdependency⟩ := Option.bind_eq_some_iff.mp hs
      cases hdependency
      rfl

/-- What is read of a document that can be scanned; each child goes by its name in the project. -/
theorem sourceDependencies_value (names : List String) (s : PackageSource) :
    (sourceDependencies names s).value =
      ((s.content.toOption.bind fun bytes => (scanDependencies s.name bytes).toOption).getD []).map
        fun d => { d with child := (resolvePackage? names d.child).getD d.child } := by
  rw [sourceDependencies]
  cases s.content with
  | error e => rfl
  | ok bytes =>
    dsimp only [Except.toOption, Option.bind_some]
    cases scanDependencies s.name bytes <;> rfl

theorem sourceDependency_parent {names : List String} {s : PackageSource} {d : Dependency}
    (hd : d ∈ (sourceDependencies names s).value) : d.parent = s.name := by
  rw [sourceDependencies] at hd
  split at hd
  · cases hd
  · split at hd
    · cases hd
    · next dependencies hscan =>
      obtain ⟨scanned, hscanned, rfl⟩ := List.mem_map.mp hd
      exact (dependency_parent hscan hscanned : scanned.parent = s.name)

theorem surveyProject_outlined (config : Config) (c : Container) :
    surveyProject config c = (outlineProject config c).value.survey config c.name
      (diagnosticsOf config c.name (outlineProject config c).remarks) :=
  rfl

section Survey

variable {config : Config} {c : Container}

variable (config c) in
theorem surveyProject_files :
    let files := (readProjectFiles config c).value
    let p := (surveyProject config c).project
    p.protectionLevel = files.manifest.protectionLevel.getD .dontSaveSensitive ∧
      p.parameters = files.parameters ∧ p.connections = files.connections :=
  ProjectOutline.fill_files ..

theorem surveyProject_references : (surveyProject config c).project.packages =
    (packageSources config c).value.map fun s =>
      referenceOf (outlineProject config c).value.graph.entryPoints s (surveySource config s) :=
  ProjectOutline.fill_packages ..

theorem surveyProject_names :
    (surveyProject config c).project.packages.map (·.name) = packageNames config c := by
  rw [surveyProject_references, List.map_map, packageNames]
  rfl

theorem surveyProject_packageRecords : (surveyProject config c).project.packageRecords =
    .ofList ((packageSources config c).value.map fun s =>
      (s.name, (surveySource config s).package)) :=
  ProjectOutline.fill_records ..

theorem surveyProject_reports : (surveyProject config c).report.packages =
    (packageSources config c).value.map fun s => (surveySource config s).report :=
  ProjectOutline.fill_reports ..

theorem surveyProject_dependencies : (surveyProject config c).project.dependencies =
    (packageSources config c).value.flatMap fun s =>
      (sourceDependencies (packageNames config c) s).value := by
  show List.flatten (List.mapM _ _ : Noted _).value = _
  rw [Noted.value_mapM, List.flatMap]
  rfl

theorem surveyProject_diagnostics : (surveyProject config c).report.diagnostics =
    diagnosticsOf config c.name (outlineProject config c).remarks :=
  rfl

/-- The record of a source stands under its name. -/
theorem surveyProject_package? {s : PackageSource} (hs : s ∈ (packageSources config c).value) :
    (surveyProject config c).project.package? s.name = some (surveySource config s).package := by
  rw [Project.package?, surveyProject_packageRecords]
  refine Dictionary.get?_ofList ?_ (List.mem_map.mpr ⟨s, hs, rfl⟩)
  exact List.pairwise_map.mpr (List.pairwise_map.mp packageSources_ascending)

/-- The dependencies with the name of a source as parent are its own. -/
theorem surveyProject_childrenOf {s : PackageSource} (hs : s ∈ (packageSources config c).value) :
    (surveyProject config c).project.childrenOf s.name =
      (sourceDependencies (packageNames config c) s).value := by
  rw [Project.childrenOf, surveyProject_dependencies]
  exact filter_flatMap_of_nodup packageSources_nodup
    (fun t _ d hd => sourceDependency_parent hd) hs

end Survey

end EtlSurvey
