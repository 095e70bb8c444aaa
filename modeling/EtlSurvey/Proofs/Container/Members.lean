import EtlSurvey.Proofs.Container.Tree
import EtlSurvey.Proofs.Dictionary
import EtlSurvey.Proofs.Lists

/-! # Members of a container and the files that they stand for

Members are listed under other names than their files have: escapes are decoded in the names of an
archive, and the paths in a folder get slashes for backslashes. An archive loses exactly the files
whose decoded name a later file has too. A folder loses none, but what is read under a name is
looked for under the path that the name gives, so that a file with a backslash in its path is listed
and not found. -/

namespace EtlSurvey
open Text

namespace Container

/-- The container has these files, each under the name beside it, and nothing else. -/
structure Shows (c : Container) (files : List (String × Bytes)) : Prop where
  count : c.members.length = files.length
  ascending : c.members.Pairwise (· < ·)
  read : ∀ file ∈ files, file.1 ∈ c.members ∧ c.read file.1 = .ok file.2
  missing : ∀ m, m ∉ c.members → c.read m = .error (.missingMember m)

theorem read_of_not_mem {c : Container} {m : String} (h : m ∉ c.members) :
    c.read m = .error (.missingMember m) := by
  have hnone : c.contents.lookup m = none := by
    refine List.lookup_eq_none_iff.mpr fun entry hentry => ?_
    simpa using (ne_of_mem_of_not_mem (List.mem_map_of_mem hentry) h).symm
  rw [Container.read, hnone, Option.getD_none]

/-- A container with a member for each file shows the files if their names differ and each can be
read. -/
theorem shows_iff_of_perm {c : Container} {files : List (String × Bytes)}
    (hperm : c.members.Perm (files.map (·.1))) (hsorted : c.members.Pairwise (· ≤ ·)) :
    c.Shows files ↔ (files.map (·.1)).Nodup ∧ ∀ file ∈ files, c.read file.1 = .ok file.2 := by
  constructor
  · intro hshows
    have hnodup : c.members.Nodup := hshows.ascending.imp fun hlt => String.ne_of_lt hlt
    exact ⟨hperm.nodup_iff.mp hnodup, fun file hfile => (hshows.read file hfile).2⟩
  · rintro ⟨hnodup, hread⟩
    refine ⟨?count, (hsorted.and (hperm.nodup_iff.mpr hnodup)).imp ?strict, ?read,
      fun m => read_of_not_mem⟩
    case count => rw [hperm.length_eq, List.length_map]
    case strict =>
      rintro a b ⟨hle, hne⟩
      exact (Std.lt_trichotomy a b).resolve_right (not_or.mpr ⟨hne, String.not_lt.mpr hle⟩)
    case read =>
      exact fun file hfile => ⟨hperm.mem_iff.mpr (List.mem_map_of_mem hfile), hread file hfile⟩

end Container

section Archive

theorem names_putNamed (name : String) (e : Zip.Entry) (named : List (String × Zip.Entry)) :
    (Zip.putNamed name e named).map (·.1) =
      if name ∈ named.map (·.1) then named.map (·.1) else named.map (·.1) ++ [name] := by
  induction named with
  | nil => rfl
  | cons head rest ih =>
    obtain ⟨n, f⟩ := head
    rw [Zip.putNamed]
    by_cases hname : n = name
    · simp [hname]
    · rw [if_neg (by simpa using hname), List.map_cons, ih, List.map_cons]
      simp only [List.mem_cons, Ne.symm hname, false_or]
      split <;> rfl

theorem nodup_namedEntries (entries : List Zip.Entry) :
    ((Zip.namedEntries entries).map (·.1)).Nodup := by
  have hstep : ∀ named : List (String × Zip.Entry), (named.map (·.1)).Nodup →
      ∀ e ∈ entries, ((Zip.putNamed e.listing.name e named).map (·.1)).Nodup := by
    intro named hnamed e _
    rw [names_putNamed]
    split
    · exact hnamed
    · next hnew => exact hnamed.append (List.nodup_singleton _) (by simpa using hnew)
  exact List.foldlRecOn entries (fun named e => Zip.putNamed e.listing.name e named)
    (by exact List.nodup_nil) hstep

theorem name_of_file? {bytes : Bytes} {name : String} {e : Zip.Entry} {file : String × Bytes}
    (h : e.file? bytes name = some (some file)) : file.1 = name := by
  simp only [Zip.Entry.file?, Option.bind_eq_bind, Option.bind_eq_some_iff] at h
  obtain ⟨data, -, h⟩ := h
  split at h
  · cases h
  · obtain ⟨content, -, h⟩ := Option.bind_eq_some_iff.mp h
    rw [← Option.some.inj (Option.some.inj h)]

theorem names_opened {bytes : Bytes} {named : List (String × Zip.Entry)}
    {opened : List (Option (String × Bytes))}
    (h : (named.mapM fun (name, e) => e.file? bytes name) = some opened) :
    ((opened.filterMap id).map (·.1)).Sublist (named.map (·.1)) := by
  induction named generalizing opened with
  | nil =>
    obtain rfl := Option.some.inj h
    exact List.Sublist.slnil
  | cons head rest ih =>
    obtain ⟨name, e⟩ := head
    simp only [List.mapM_cons, Option.bind_eq_bind, Option.bind_eq_some_iff] at h
    obtain ⟨file?, hfile, opened, hrest, h⟩ := h
    obtain rfl := Option.some.inj h
    cases file? with
    | none => exact (ih hrest).cons _
    | some file =>
      obtain rfl := name_of_file? hfile
      exact (ih hrest).cons_cons _

/-- No two files of an archive have one name. -/
theorem nodup_files {bytes : Bytes} {files : List (String × Bytes)}
    (h : Zip.files? bytes = some files) : (files.map (·.1)).Nodup := by
  simp only [Zip.files?, Option.bind_eq_bind, Option.bind_eq_some_iff] at h
  obtain ⟨entries, -, opened, hopened, h⟩ := h
  obtain rfl := Option.some.inj h
  exact (nodup_namedEntries entries).sublist (names_opened hopened)

end Archive

namespace Container

/-- Files under the decoded names. -/
def decodedFiles (files : List (String × Bytes)) : List (String × Bytes) :=
  files.map fun (name, content) => (Percent.decode name, content)

/-- A container of the files of an archive: members are the decoded names, and of files with one
decoded name the last is read. -/
structure ListsArchive (c : Container) (files : List (String × Bytes)) : Prop where
  ascending : c.members.Pairwise (· < ·)
  mem_iff : ∀ m, m ∈ c.members ↔ ∃ file ∈ files, Percent.decode file.1 = m
  read_last : ∀ before file after, files = before ++ file :: after →
    (∀ later ∈ after, Percent.decode later.1 ≠ Percent.decode file.1) →
      c.read (Percent.decode file.1) = .ok file.2
  missing : ∀ m, m ∉ c.members → c.read m = .error (.missingMember m)
  shows_iff : c.Shows (decodedFiles files) ↔
    (files.map fun file => Percent.decode file.1).Nodup

section OfMembers

variable (name : String) (d : Dictionary Bytes)

theorem members_ofMembers : (ofMembers name d).members = d.keys := by
  rw [ofMembers, members, List.map_map]
  rfl

theorem read_ofMembers {m : String} {bytes : Bytes} (h : d.get? m = some bytes) :
    (ofMembers name d).read m = .ok bytes := by
  have hlookup : (ofMembers name d).contents.lookup m =
      (d.get? m).map (Except.ok (ε := ContainerError)) :=
    d.get?_mapValues (fun _ => Except.ok (ε := ContainerError)) m
  rw [read, hlookup, h]
  rfl

end OfMembers

section Decoded

variable {files : List (String × Bytes)}

theorem map_decodedFiles :
    (decodedFiles files).map (·.1) = files.map fun file => Percent.decode file.1 := List.map_map

theorem get?_decodedFiles {before after : List (String × Bytes)} {file : String × Bytes}
    (h : ∀ later ∈ after, Percent.decode later.1 ≠ Percent.decode file.1) :
    (Dictionary.ofList (decodedFiles (before ++ file :: after))).get? (Percent.decode file.1) =
      some file.2 := by
  have hafter : (decodedFiles after).reverse.lookup (Percent.decode file.1) = none := by
    refine List.lookup_eq_none_iff.mpr fun entry hentry => ?_
    obtain ⟨later, hlater, rfl⟩ := List.mem_map.mp (List.mem_reverse.mp hentry)
    simpa using (h later hlater).symm
  rw [decodedFiles] at hafter ⊢
  rw [Dictionary.get?_ofList_eq, List.map_append, List.map_cons, List.reverse_append,
    List.reverse_cons, List.append_assoc, List.lookup_append, hafter, List.singleton_append,
    lookup_entry, if_pos rfl, Option.none_or]

theorem listsArchive_ofMembers (name : String) (files : List (String × Bytes)) :
    (ofMembers name (.ofList (decodedFiles files))).ListsArchive files := by
  have hascending : (ofMembers name (.ofList (decodedFiles files))).members.Pairwise (· < ·) := by
    rw [members_ofMembers]
    exact Dictionary.keys_ascending _
  have hmem : ∀ m, m ∈ (ofMembers name (.ofList (decodedFiles files))).members ↔
      ∃ file ∈ files, Percent.decode file.1 = m := by
    intro m
    rw [members_ofMembers, Dictionary.mem_keys_ofList, map_decodedFiles, List.mem_map]
  have hcount : (ofMembers name (.ofList (decodedFiles files))).members.length =
      (decodedFiles files).length ↔ (files.map fun file => Percent.decode file.1).Nodup := by
    rw [members_ofMembers, ← map_decodedFiles, Dictionary.length_keys_ofList_iff]
  have hlast : ∀ before file after, files = before ++ file :: after →
      (∀ later ∈ after, Percent.decode later.1 ≠ Percent.decode file.1) →
        (ofMembers name (.ofList (decodedFiles files))).read (Percent.decode file.1) =
          .ok file.2 := by
    rintro before file after rfl hafter
    exact read_ofMembers _ _ (get?_decodedFiles hafter)
  refine ⟨hascending, hmem, hlast, fun m => read_of_not_mem, fun hshows => ?_, fun hnodup => ?_⟩
  · exact hcount.mp hshows.count
  · refine ⟨hcount.mpr hnodup, hascending, ?_, fun m => read_of_not_mem⟩
    rintro _ hshown
    obtain ⟨file, hfile, rfl⟩ := List.mem_map.mp hshown
    obtain ⟨before, after, rfl⟩ := List.append_of_mem hfile
    refine ⟨(hmem _).mpr ⟨file, hfile, rfl⟩, hlast before file after rfl fun later hlater heq => ?_⟩
    rw [List.map_append, List.map_cons] at hnodup
    have hother := (List.nodup_cons.mp (List.nodup_append.mp hnodup).2.1).1
    exact hother (List.mem_map.mpr ⟨later, hlater, heq⟩)

end Decoded

/-- The files of a folder under the names that they are listed by: paths with slashes for
backslashes. -/
def listedFiles (f : Folder) : List (String × Bytes) :=
  f.keptFiles.map fun file => (memberOfPath ("/".intercalate file.1), file.2)

/-- A container of a folder below a root of the disk: a member for each file, which is read where
the name of the member leads. -/
structure ListsFolder (c : Container) (disk : Folder) (root : String) (f : Folder) : Prop where
  count : c.members.length = f.keptFiles.length
  sorted : c.members.Pairwise (· ≤ ·)
  mem_iff : ∀ m, m ∈ c.members ↔ ∃ file ∈ listedFiles f, file.1 = m
  read_iff : ∀ m ∈ c.members, ∀ bytes,
    c.read m = .ok bytes ↔ disk.read (joinPath root m) = .ok bytes
  read_file : ∀ file ∈ f.keptFiles, '\\' ∉ ("/".intercalate file.1).toList →
    Utf8.size (joinPath root ("/".intercalate file.1)) ≤ longestPath →
      c.read ("/".intercalate file.1) = .ok file.2
  missing : ∀ m, m ∉ c.members → c.read m = .error (.missingMember m)
  shows_iff : c.Shows (listedFiles f) ↔ ((listedFiles f).map (·.1)).Nodup ∧
    ∀ file ∈ listedFiles f, disk.read (joinPath root file.1) = .ok file.2
  shows_plain : (∀ file ∈ f.keptFiles, '\\' ∉ ("/".intercalate file.1).toList ∧
      Utf8.size (joinPath root ("/".intercalate file.1)) ≤ longestPath) →
    c.Shows (listedFiles f)

section OpenFolder

variable {disk f : Folder} {root : String}

theorem memberOfPath_eq_self {path : String} (h : '\\' ∉ path.toList) :
    memberOfPath path = path := by
  have hchars : (path.toList.map fun c => if c == '\\' then '/' else c) = path.toList := by
    refine (List.map_congr_left fun c hc => ?_).trans (List.map_id _)
    rw [if_neg (by simpa using ne_of_mem_of_not_mem hc h), id]
  rw [memberOfPath, hchars, String.ofList_toList]

theorem members_container (i : FolderIndex) : (i.container disk).members = i.members := by
  rw [FolderIndex.container, members, List.map_map]
  exact List.map_id _

theorem read_container {i : FolderIndex} {m : String} (h : m ∈ i.members) :
    (i.container disk).read m = i.read disk m := by
  rw [FolderIndex.container, Container.read, lookup_map_pair (i.read disk) h, Option.getD_some]

theorem read_index_iff {i : FolderIndex} {m : String} (h : m ∈ i.members) (bytes : Bytes) :
    i.read disk m = .ok bytes ↔ disk.read (joinPath i.root m) = .ok bytes := by
  rw [FolderIndex.read, if_neg (by simpa using h), FolderIndex.path]
  cases disk.read (joinPath i.root m) <;> simp

/-- The index of a folder. -/
theorem build_eq_ok_iff (hroot : disk.locate root = .ok (.folder f)) {i : FolderIndex} :
    FolderIndex.build disk root = .ok i ↔
      (∀ path ∈ f.folderPaths "", pathFault? (joinPath root path) = none) ∧
        i = ⟨root, sortByKey id ((f.filePaths "").map memberOfPath)⟩ := by
  have hfaults : (((f.folderPaths "").map (joinPath root)).findSome? fun path =>
      (pathFault? path).map (path, ·)) = none ↔
        ∀ path ∈ f.folderPaths "", pathFault? (joinPath root path) = none := by
    simp [List.findSome?_eq_none_iff]
  rw [← hfaults, FolderIndex.build, hroot]
  dsimp only
  cases ((f.folderPaths "").map (joinPath root)).findSome? fun path =>
      (pathFault? path).map (path, ·) with
  | some fault => simp
  | none => simp [eq_comm]

theorem openFolder_eq_ok_iff (hroot : disk.locate root = .ok (.folder f)) {c : Container} :
    openFolder disk root = .ok c ↔
      (∀ path ∈ f.folderPaths "", pathFault? (joinPath root path) = none) ∧
        c = FolderIndex.container disk
          ⟨root, sortByKey id ((f.filePaths "").map memberOfPath)⟩ := by
  rw [openFolder]
  constructor
  · intro h
    cases hbuild : FolderIndex.build disk root with
    | error e =>
      rw [hbuild] at h
      cases h
    | ok i =>
      obtain ⟨hpaths, rfl⟩ := (build_eq_ok_iff hroot).mp hbuild
      rw [hbuild] at h
      exact ⟨hpaths, (Except.ok.inj h).symm⟩
  · rintro ⟨hpaths, rfl⟩
    rw [(build_eq_ok_iff hroot).mpr ⟨hpaths, rfl⟩]
    rfl

theorem members_perm_listedFiles (disk f : Folder) (root : String) :
    (FolderIndex.container disk
      ⟨root, sortByKey id ((f.filePaths "").map memberOfPath)⟩).members.Perm
        ((listedFiles f).map (·.1)) := by
  have hpaths : (f.filePaths "").map memberOfPath = (listedFiles f).map (·.1) := by
    simp only [listedFiles, Folder.filePaths_eq, List.map_map, Function.comp_def,
      String.empty_append]
  rw [members_container, ← hpaths]
  exact sortByKey_perm id _

/-- With no backslash in them, paths are listed as they are. -/
theorem map_listedFiles (h : ∀ file ∈ f.keptFiles, '\\' ∉ ("/".intercalate file.1).toList) :
    (listedFiles f).map (·.1) = f.keptFiles.map fun file => "/".intercalate file.1 := by
  rw [listedFiles, List.map_map]
  exact List.map_congr_left fun file hfile => memberOfPath_eq_self (h file hfile)

theorem listsFolder_container (hroot : disk.locate root = .ok (.folder f)) (h : f.IsTree) :
    (FolderIndex.container disk
      ⟨root, sortByKey id ((f.filePaths "").map memberOfPath)⟩).ListsFolder disk root f := by
  have hperm := members_perm_listedFiles disk f root
  generalize hi : FolderIndex.mk root (sortByKey id ((f.filePaths "").map memberOfPath)) = i
  rw [hi] at hperm
  have hsorted : (i.container disk).members.Pairwise (· ≤ ·) := by
    rw [members_container, ← hi]
    exact sortByKey_sorted _
  have hread : ∀ m ∈ (i.container disk).members, ∀ bytes,
      (i.container disk).read m = .ok bytes ↔ disk.read (joinPath root m) = .ok bytes := by
    intro m hm bytes
    rw [members_container] at hm
    rw [read_container hm, read_index_iff hm, ← hi]
  have hmem : ∀ m, m ∈ (i.container disk).members ↔ ∃ file ∈ listedFiles f, file.1 = m := by
    intro m
    rw [hperm.mem_iff, List.mem_map]
  have hshows : (i.container disk).Shows (listedFiles f) ↔ ((listedFiles f).map (·.1)).Nodup ∧
      ∀ file ∈ listedFiles f, disk.read (joinPath root file.1) = .ok file.2 := by
    rw [shows_iff_of_perm hperm hsorted]
    refine and_congr_right fun _ => forall₂_congr fun file hfile => ?_
    exact hread _ ((hmem _).mpr ⟨file, hfile, rfl⟩) _
  refine ⟨?count, hsorted, hmem, hread, ?file, fun m => read_of_not_mem, hshows, ?plain⟩
  case count => rw [hperm.length_eq, listedFiles, List.length_map, List.length_map]
  case file =>
    intro file hfile hslash hsize
    have hlisted := (hmem _).mpr ⟨_, List.mem_map_of_mem hfile, memberOfPath_eq_self hslash⟩
    exact (hread _ hlisted _).mpr (h.read_path hfile hroot hsize)
  case plain =>
    intro hplain
    refine hshows.mpr ⟨?_, ?_⟩
    · rw [map_listedFiles fun file hfile => (hplain file hfile).1]
      exact h.nodup_paths
    · rintro _ hlisted
      obtain ⟨file, hfile, rfl⟩ := List.mem_map.mp hlisted
      obtain ⟨hslash, hsize⟩ := hplain file hfile
      dsimp only
      rw [memberOfPath_eq_self hslash]
      exact h.read_path hfile hroot hsize

end OpenFolder

/-- Opened, an archive has a member for each name that a file decodes to, and shows all of its files
if and only if no two decode to one name. A folder has a member for each of its files, and shows all
of them if and only if no two have one listed name and each is where this name leads: so it does if
their paths have no backslash and are not too long. -/
theorem members_account_for_files (name : String) (bytes : Bytes) (disk : Folder) (root : String) :
    (∀ files, Zip.files? bytes = some files → (files.map (·.1)).Nodup ∧
      ∃ c, ofArchive name bytes = .ok c ∧ c.ListsArchive files) ∧
    ∀ f, disk.locate root = .ok (.folder f) → f.IsTree →
      ((∃ c, openFolder disk root = .ok c) ↔
        ∀ path ∈ f.folderPaths "", pathFault? (joinPath root path) = none) ∧
      ∀ c, openFolder disk root = .ok c → c.ListsFolder disk root f := by
  constructor
  · intro files hfiles
    refine ⟨nodup_files hfiles, _, ?_, listsArchive_ofMembers name files⟩
    rw [ofArchive, archiveMembers?, hfiles]
    rfl
  · intro f hroot htree
    refine ⟨⟨?_, fun hpaths => ⟨_, (openFolder_eq_ok_iff hroot).mpr ⟨hpaths, rfl⟩⟩⟩, ?_⟩
    · rintro ⟨c, hc⟩
      exact ((openFolder_eq_ok_iff hroot).mp hc).1
    · intro c hc
      obtain ⟨-, rfl⟩ := (openFolder_eq_ok_iff hroot).mp hc
      exact listsFolder_container hroot htree

/-- Two files whose names mean one member. -/
def escapedFiles : List (String × Bytes) := [("%41.dtsx", [0x31]), ("A.dtsx", [0x32])]

/-- A folder with a package in a folder and another one in a skipped folder. -/
def loadFolder : Folder :=
  .folder "Packages" (.file "Load.dtsx" [0x31] .nil)
    (.folder "bin" (.file "Load.dtsx" [0x32] .nil) .nil)

set_option maxRecDepth 20000 in
theorem members_account_for_files_load :
    (∃ c, ofArchive "Sales" (Zip.print escapedFiles) = .ok c ∧ c.ListsArchive escapedFiles) ∧
    ∃ c, openFolder (.folder "W" loadFolder .nil) "W" = .ok c ∧
      c.ListsFolder (.folder "W" loadFolder .nil) "W" loadFolder := by
  have hroot : (Folder.folder "W" loadFolder .nil).locate "W" = .ok (.folder loadFolder) := by
    decide +kernel
  have htree : loadFolder.IsTree := by decide
  have hpaths : ∀ path ∈ loadFolder.folderPaths "", pathFault? (joinPath "W" path) = none := by
    decide +kernel
  obtain ⟨harchive, hfolder⟩ := members_account_for_files "Sales" (Zip.print escapedFiles)
    (.folder "W" loadFolder .nil) "W"
  obtain ⟨hopens, hlists⟩ := hfolder loadFolder hroot htree
  obtain ⟨c, hc⟩ := hopens.mpr hpaths
  exact ⟨(harchive escapedFiles (by decide +kernel)).2, c, hc, hlists c hc⟩

/-- A folder with a file whose name has a backslash. -/
def ordersFolder : Folder := .file "Load\\Orders.dtsx" [0x31] .nil

/-- Whatever name is taken for it, the file cannot be read under that name. -/
theorem backslash_file_not_shown :
    (Folder.folder "W" ordersFolder .nil).locate "W" = .ok (.folder ordersFolder) ∧
    ordersFolder.IsTree ∧ ordersFolder.keptFiles = [(["Load\\Orders.dtsx"], [0x31])] ∧
    ∃ c, openFolder (.folder "W" ordersFolder .nil) "W" = .ok c ∧
      ¬ ∃ m, c.Shows [(m, [0x31])] := by
  have hroot : (Folder.folder "W" ordersFolder .nil).locate "W" = .ok (.folder ordersFolder) := by
    decide +kernel
  have hindex : FolderIndex.build (.folder "W" ordersFolder .nil) "W" =
      .ok ⟨"W", ["Load/Orders.dtsx"]⟩ := by
    decide +kernel
  refine ⟨hroot, by decide, rfl, _, congrArg (Except.map _) hindex, ?_⟩
  rintro ⟨m, hshows⟩
  obtain ⟨hlisted, hread⟩ := hshows.read _ List.mem_cons_self
  rw [members_container] at hlisted
  obtain rfl := List.mem_singleton.mp hlisted
  rw [read_container hlisted, read_index_iff hlisted] at hread
  have hmissing : (Folder.folder "W" ordersFolder .nil).read "W/Load/Orders.dtsx" =
      .error .missing := by
    decide +kernel
  exact absurd (hmissing.symm.trans hread) (by simp)

end Container
end EtlSurvey
