import EtlSurvey.Proofs.Dependencies.Condition
import EtlSurvey.Proofs.Project.Invocations
import EtlSurvey.Proofs.Secrecy.LooseKeys
import EtlSurvey.Proofs.Text.FileName
import Mathlib.Data.List.DropRight

/-! # Tasks that name the file of a package run that package

A package goes by its file name without the extension, and a task that runs it names the file, often
with the folders that it is in. Both ways to the name of the package, and that of the manifest,
agree on every file name, and among packages whose names differ in case the task runs the one that
it names. -/

namespace EtlSurvey
open Text Markup

section Blanks

theorem toLower_of_isBlank {c : Char} (h : isBlank c = true) : c.toLower = c := by
  refine (toLower_cases c).resolve_right ?_
  rintro ⟨hlow, hhigh, -⟩
  simp only [isBlank, inRanges, blankRanges, List.any_cons, List.any_nil, Bool.or_false,
    Bool.or_eq_true, Bool.and_eq_true, decide_eq_true_eq] at h
  omega

/-- Blanks around a path are not part of its file name, if that neither begins nor ends with one. -/
theorem trim_append (before : String) {name : String}
    (hfirst : ∀ c ∈ name.toList.head?, isBlank c = false)
    (hlast : ∀ c ∈ name.toList.getLast?, isBlank c = false) (hname : name ≠ "") :
    ∃ rest, rest.toList <:+ before.toList ∧ trim (before ++ name) = rest ++ name := by
  have hne : name.toList ≠ [] := fun hnil => hname (String.toList_eq_nil_iff.mp hnil)
  have hself : name.toList.dropWhile isBlank = name.toList := by
    obtain ⟨c, rest, hchars⟩ := List.exists_cons_of_ne_nil hne
    rw [hchars] at hfirst ⊢
    exact List.dropWhile_cons_of_neg (Bool.eq_false_iff.mp (hfirst c rfl))
  have hstart : trimStartList (before ++ name).toList =
      before.toList.dropWhile isBlank ++ name.toList := by
    rw [trimStartList, String.toList_append, List.dropWhile_append]
    split
    · next hblank => rw [hself, List.isEmpty_iff.mp hblank, List.nil_append]
    · rfl
  have hend : trimEndList (before.toList.dropWhile isBlank ++ name.toList) =
      before.toList.dropWhile isBlank ++ name.toList := by
    show List.rdropWhile isBlank _ = _
    refine List.rdropWhile_eq_self_iff.mpr fun _ => ?_
    rw [List.getLast_append_of_ne_nil _ hne, hlast _ (List.getLast?_eq_some_getLast hne)]
    exact Bool.false_ne_true
  refine ⟨String.ofList (before.toList.dropWhile isBlank), ?_, ?_⟩
  · rw [String.toList_ofList]
    exact List.dropWhile_suffix _
  · rw [trim, trimList, hstart, hend, String.ofList_append, String.ofList_toList]

end Blanks

section Names

variable {m : String}

/-- Without its extension the file name of a package member is the name of the package. -/
theorem dropPackageExtension_ofMember (h : FileName.hasExtension "dtsx" m = true) :
    FileName.dropPackageExtension (FileName.ofMember m) = packageNameOf m ∧
      packageNameOf m ≠ "" := by
  obtain ⟨stem, found, hstem, hne, hname, hlower⟩ := FileName.ofMember_eq_of_hasExtension h
  have hpackage : packageNameOf m = stem := by
    rw [packageNameOf, fallbackName, hstem, Option.getD_some]
  rw [hpackage]
  exact ⟨FileName.dropPackageExtension_append hname (hlower.trans (by decide)), hne⟩

/-- The file name of a package ends with a letter. -/
theorem getLast?_ofMember_not_blank (h : FileName.hasExtension "dtsx" m = true) :
    ∀ c ∈ (FileName.ofMember m).toList.getLast?, isBlank c = false := by
  intro c hc
  obtain ⟨before, hbefore⟩ := FileName.hasExtension_suffix h
  have hlast := congrArg List.getLast? hbefore
  rw [List.getLast?_map, Option.mem_def.mp hc, List.getLast?_append] at hlast
  have hx : c.toLower = 'x' := (Option.some.inj hlast).symm
  refine Bool.eq_false_iff.mpr fun hblank => ?_
  rw [← toLower_of_isBlank hblank, hx] at hblank
  exact absurd hblank (by decide)

/-- What is left of a path that leads to the file of a package, in whatever folder and with blanks
around it. -/
theorem trimmed?_path (h : FileName.hasExtension "dtsx" m = true)
    (hfirst : ∀ c ∈ (FileName.ofMember m).toList.head?, isBlank c = false) (before : String) :
    ∃ rest, rest.toList <:+ before.toList ∧
      trimmed? (before ++ FileName.ofMember m) = some (rest ++ FileName.ofMember m) := by
  obtain ⟨_, _, -, -, hname, -⟩ := FileName.ofMember_eq_of_hasExtension h
  have hne : FileName.ofMember m ≠ "" := by
    intro hnil
    rw [hnil] at hname
    simp at hname
  obtain ⟨rest, hrest, htrim⟩ := trim_append before hfirst (getLast?_ofMember_not_blank h) hne
  have hsome : (rest ++ FileName.ofMember m).isEmpty = false := by simp [hne]
  exact ⟨rest, hrest, (trimmed?_eq_some hsome).mpr htrim⟩

end Names

/-- The text by which a task names the package that it runs. -/
def packageText? (task : Element) : Option String :=
  ((task.descendantsLocal "PackageName").findSome? Element.text?).or
    (((task.descendantsLocal "Property").filter (·.attr? "Name" == some "PackageName")).findSome?
      Element.text?)

theorem executePackageTarget?_eq (task : Element) : executePackageTarget? task =
    (packageText? task).bind fun raw =>
      nonEmpty? (FileName.dropPackageExtension (FileName.ofMember raw)) :=
  rfl

theorem resolvePackage?_of_mem {names : List String} {name : String} (h : name ∈ names) :
    resolvePackage? names name = some name := by
  cases hexact : names.find? (· == name) with
  | none => exact absurd (List.find?_eq_none.mp hexact name h) (by simp)
  | some found =>
    have hname := List.find?_some (p := (· == name)) hexact
    rw [resolvePackage?, hexact, Option.some_or, eq_of_beq hname]

section Project

variable {config : Config} {c : Container} {m : String}

/-- A package that is not excluded is surveyed, from its member or from one before it. -/
theorem packageNameOf_mem (hm : m ∈ c.packageMembers)
    (hkept : config.excludes (packageNameOf m) = false) :
    packageNameOf m ∈ packageNames config c := by
  cases hfirst : c.packageMembers.find? (packageNameOf · == packageNameOf m) with
  | none => exact absurd (List.find?_eq_none.mp hfirst m hm) (by simp)
  | some first =>
    have hname := eq_of_beq
      (List.find?_some (p := (packageNameOf · == packageNameOf m)) hfirst)
    rw [← hname] at hfirst hkept
    exact mem_packageNames.mpr ⟨first, ⟨hfirst, hkept⟩, hname⟩

theorem executePackageTarget?_path {before : String} {task : Element}
    (h : FileName.hasExtension "dtsx" m = true) (hbefore : FileName.IsFolderPart before)
    (hfirst : ∀ c ∈ (FileName.ofMember m).toList.head?, isBlank c = false)
    (htask : packageText? task = trimmed? (before ++ FileName.ofMember m)) :
    executePackageTarget? task = some (packageNameOf m) := by
  obtain ⟨rest, hrest, hpath⟩ := trimmed?_path h hfirst before
  obtain ⟨hdrop, hne⟩ := dropPackageExtension_ofMember h
  rw [executePackageTarget?_eq, htask, hpath, Option.bind_some,
    FileName.ofMember_append (hbefore.of_suffix hrest), hdrop, nonEmpty?, if_neg]
  simpa [String.isEmpty_iff] using hne

/-- A task that runs a package of the project is a dependency on it, under its own name. -/
theorem dependency_mem {s : PackageSource} (hs : s ∈ (packageSources config c).value)
    {bytes : Bytes} (hbytes : s.content = .ok bytes) {d : Document}
    (hd : Document.parsePackage bytes = .ok d) {site : Site}
    (hsite : site ∈ d.root.sitesNamed Space.dts "Executable") {dependency : Dependency}
    (hdependency : dependencyOf? s.name (incomingConditions d.root) site = some dependency)
    (hchild : dependency.child ∈ packageNames config c) :
    dependency ∈ (surveyProject config c).project.dependencies := by
  refine mem_dependencies.mpr ⟨s, hs, ?_⟩
  rw [sourceDependencies_value, hbytes]
  refine List.mem_map.mpr ⟨dependency, ?_, ?_⟩
  · show dependency ∈ ((scanDependencies s.name bytes).toOption).getD []
    rw [scanDependencies, hd]
    exact List.mem_filterMap.mpr ⟨site, hsite, hdependency⟩
  · rw [resolvePackage?_of_mem hchild, Option.getD_some]

theorem dependencyOf?_eq (package : String) (conditions : List (String × Option Condition))
    {site : Site} {child : String}
    (hkind : ExecutableKind.ofTypeName ((site.element.attr? "ExecutableType").getD "") =
      .executePackage)
    (htarget : executePackageTarget? site.element = some child) :
    ∃ dependency, dependencyOf? package conditions site = some dependency ∧
      dependency.child = child := by
  rw [dependencyOf?, if_neg (by simp [hkind]), htarget]
  exact ⟨_, rfl, rfl⟩

end Project

/-- Whoever names the file of a package means the package: a task that runs the file, by its name or
by a path that leads to it, has the package as its target, a manifest entry with the name of the
file lists the package, and in the survey of the project the task is a dependency on the package. -/
theorem named_file_links_package (config : Config) (c : Container) (m before : String)
    (hm : m ∈ c.packageMembers) (hkept : config.excludes (packageNameOf m) = false)
    (hfirst : ∀ ch ∈ (FileName.ofMember m).toList.head?, isBlank ch = false)
    (hbefore : FileName.IsFolderPart before) :
    packageNameOf m ∈ packageNames config c ∧
    (∀ task, packageText? task = trimmed? (before ++ FileName.ofMember m) →
      executePackageTarget? task = some (packageNameOf m)) ∧
    (∀ entry, fieldText? entry "Name" = trimmed? (FileName.ofMember m) →
      (readManifestEntry entry).value =
        some ⟨packageNameOf m, hasFlag entry "EntryPoint"⟩) ∧
    ∀ s ∈ (packageSources config c).value, ∀ bytes d, s.content = .ok bytes →
      Document.parsePackage bytes = .ok d →
      ∀ site ∈ d.root.sitesNamed Space.dts "Executable",
        ExecutableKind.ofTypeName ((site.element.attr? "ExecutableType").getD "") =
          .executePackage →
        packageText? site.element = trimmed? (before ++ FileName.ofMember m) →
        ∃ dependency, dependencyOf? s.name (incomingConditions d.root) site = some dependency ∧
          dependency.child = packageNameOf m ∧
          dependency ∈ (surveyProject config c).project.dependencies := by
  have hext : FileName.hasExtension "dtsx" m = true := (List.mem_filter.mp hm).2
  have hlisted := packageNameOf_mem hm hkept
  have htarget : ∀ task, packageText? task = trimmed? (before ++ FileName.ofMember m) →
      executePackageTarget? task = some (packageNameOf m) :=
    fun task htask => executePackageTarget?_path hext hbefore hfirst htask
  refine ⟨hlisted, htarget, ?entry, ?dependency⟩
  case entry =>
    intro entry hname
    obtain ⟨rest, hrest, hpath⟩ := trimmed?_path hext hfirst ""
    obtain rfl := String.toList_eq_nil_iff.mp (List.suffix_nil.mp hrest)
    rw [String.empty_append] at hpath
    rw [readManifestEntry, hname, hpath]
    dsimp only
    rw [(dropPackageExtension_ofMember hext).1]
    rfl
  case dependency =>
    intro s hs bytes d hbytes hd site hsite hkind htext
    obtain ⟨dependency, hdependency, hchild⟩ := dependencyOf?_eq s.name
      (incomingConditions d.root) hkind (htarget _ htext)
    exact ⟨dependency, hdependency, hchild,
      dependency_mem hs hbytes hd hsite hdependency (hchild ▸ hlisted)⟩

/-- A package with a task that runs another one by the path of its file. -/
def nightDocument : String :=
  "<DTS:Executable xmlns:DTS=\"www.microsoft.com/SqlServer/Dts\" DTS:refId=\"Package\">
  <DTS:Executables>
    <DTS:Executable DTS:refId=\"Package\\Load\" DTS:ObjectName=\"Load\"
        DTS:ExecutableType=\"Microsoft.ExecutePackageTask\">
      <DTS:ObjectData><ExecutePackageTask>
        <PackageName> C:\\etl/Load.v2.DTSX </PackageName>
      </ExecutePackageTask></DTS:ObjectData>
    </DTS:Executable>
  </DTS:Executables>
</DTS:Executable>"

/-- A project in which the package that is run has a name with a dot, and another package has that
name in another case. -/
def nightProject : Container := ⟨"Night", [("Packages/Load.v2.DTSX", .error (.missingMember "")),
  ("Run.dtsx", .ok (Utf8.encode nightDocument)), ("load.V2.dtsx", .error (.missingMember ""))]⟩

set_option maxRecDepth 4000 in
theorem named_file_links_package_night :
    ∃ dependency ∈ (surveyProject {} nightProject).project.dependencies,
      dependency.child = "Load.v2" := by
  have hsource : sourceOf nightProject "Run.dtsx" ∈ (packageSources {} nightProject).value :=
    sourceOf_mem ⟨by decide +kernel, by decide +kernel⟩
  have hcontent : nightProject.read "Run.dtsx" = .ok (Utf8.encode nightDocument) := rfl
  have hparsed : (Document.parsePackage (Utf8.encode nightDocument)).toOption.any fun d =>
      (d.root.sitesNamed Space.dts "Executable").any fun site =>
        ExecutableKind.ofTypeName ((site.element.attr? "ExecutableType").getD "") ==
            .executePackage &&
          packageText? site.element == trimmed? ("C:\\etl/" ++
            FileName.ofMember "Packages/Load.v2.DTSX") := by
    rw [show Utf8.encode nightDocument = _ from Utf8.encode_ofList _]
    decide +kernel
  obtain ⟨d, hd, hsites⟩ := Option.any_eq_true _ _ |>.mp hparsed
  obtain ⟨site, hsite, hfits⟩ := List.any_eq_true.mp hsites
  obtain ⟨hkind, htext⟩ := Bool.and_eq_true_iff.mp hfits
  have hhead : (FileName.ofMember "Packages/Load.v2.DTSX").toList.head? = some 'L' := by
    decide +kernel
  have hfirst : ∀ ch ∈ (FileName.ofMember "Packages/Load.v2.DTSX").toList.head?,
      isBlank ch = false := by
    intro ch hch
    obtain rfl := Option.some.inj (hhead.symm.trans hch)
    decide
  have hlast : "C:\\etl/".toList.getLast? = some '/' := by decide +kernel
  have hbefore : FileName.IsFolderPart "C:\\etl/" := fun c hc =>
    .inl (Option.some.inj (hlast.symm.trans hc)).symm
  obtain ⟨-, -, -, hlinked⟩ := named_file_links_package {} nightProject "Packages/Load.v2.DTSX"
    "C:\\etl/" (by decide +kernel) (by decide +kernel) hfirst hbefore
  obtain ⟨dependency, -, hchild, hmem⟩ := hlinked _ hsource _ d hcontent
    (eq_ok_of_toOption hd) site hsite (eq_of_beq hkind) (eq_of_beq htext)
  exact ⟨dependency, hmem, hchild.trans (by decide +kernel)⟩

end EtlSurvey
