import EtlSurvey.Container.Folder
import EtlSurvey.Proofs.Text.FileName
import EtlSurvey.Proofs.Text.Utf8
import Mathlib.Data.List.Nodup

/-! # Folders and the paths that lead through them

Under a path that is put together from the names on the way to a file that file is found: the names
in one folder differ, and none of them has a slash or leads elsewhere. -/

namespace EtlSurvey
open Text

namespace Folder

/-- A file or a folder can have the name. -/
def IsName (name : String) : Prop :=
  canName name = true ∧ '/' ∉ name.toList ∧ '\x00' ∉ name.toList

instance : DecidablePred IsName := fun _ => inferInstanceAs (Decidable (_ ∧ _ ∧ _))

/-- Names of what a folder holds. -/
def names : Folder → List String
  | nil => []
  | file name _ next => name :: next.names
  | folder name _ next => name :: next.names

/-- What is in a folder can be told apart by its name, as on a disk. -/
def IsTree : Folder → Prop
  | nil => True
  | file name _ next => IsName name ∧ name ∉ next.names ∧ next.IsTree
  | folder name inner next => IsName name ∧ name ∉ next.names ∧ inner.IsTree ∧ next.IsTree

def decideTree : (f : Folder) → Decidable f.IsTree
  | nil => .isTrue trivial
  | file name _ next =>
    have := decideTree next
    inferInstanceAs (Decidable (IsName name ∧ name ∉ next.names ∧ next.IsTree))
  | folder name inner next =>
    have := decideTree inner
    have := decideTree next
    inferInstanceAs (Decidable (IsName name ∧ name ∉ next.names ∧ inner.IsTree ∧ next.IsTree))

instance : DecidablePred IsTree := decideTree

/-- The files below that are neither hidden nor in a skipped folder, by the names on the way to
them. -/
def keptFiles : Folder → List (List String × Bytes)
  | nil => []
  | file name bytes next => (if isHidden name then [] else [([name], bytes)]) ++ next.keptFiles
  | folder name inner next =>
    (if isHidden name || skippedFolders.contains name then []
      else inner.keptFiles.map fun (way, bytes) => (name :: way, bytes)) ++ next.keptFiles

section Kept

variable {f : Folder}

theorem mem_keptFiles_file {name : String} {bytes : Bytes} {next : Folder}
    {file : List String × Bytes} (h : file ∈ (Folder.file name bytes next).keptFiles) :
    file = ([name], bytes) ∨ file ∈ next.keptFiles := by
  rcases List.mem_append.mp h with h | h
  · split at h
    · cases h
    · exact .inl (List.mem_singleton.mp h)
  · exact .inr h

theorem mem_keptFiles_folder {name : String} {inner next : Folder} {file : List String × Bytes}
    (h : file ∈ (Folder.folder name inner next).keptFiles) :
    (∃ way bytes, (way, bytes) ∈ inner.keptFiles ∧ file = (name :: way, bytes)) ∨
      file ∈ next.keptFiles := by
  rcases List.mem_append.mp h with h | h
  · split at h
    · cases h
    · obtain ⟨⟨way, bytes⟩, hfile, rfl⟩ := List.mem_map.mp h
      exact .inl ⟨way, bytes, hfile, rfl⟩
  · exact .inr h

/-- The way to a file begins with a name in the folder. -/
theorem head_mem_names {file : List String × Bytes} (h : file ∈ f.keptFiles) :
    ∃ name ∈ f.names, file.1.head? = some name := by
  induction f with
  | nil => cases h
  | file name bytes next ih =>
    rcases mem_keptFiles_file h with rfl | h
    · exact ⟨name, List.mem_cons_self, rfl⟩
    · obtain ⟨first, hfirst, hhead⟩ := ih h
      exact ⟨first, List.mem_cons_of_mem _ hfirst, hhead⟩
  | folder name inner next _ ih =>
    rcases mem_keptFiles_folder h with ⟨way, bytes, -, rfl⟩ | h
    · exact ⟨name, List.mem_cons_self, rfl⟩
    · obtain ⟨first, hfirst, hhead⟩ := ih h
      exact ⟨first, List.mem_cons_of_mem _ hfirst, hhead⟩

theorem keptFiles_ne_nil {file : List String × Bytes} (h : file ∈ f.keptFiles) : file.1 ≠ [] := by
  obtain ⟨name, -, hhead⟩ := head_mem_names h
  rintro hnil
  rw [hnil] at hhead
  cases hhead

/-- Paths are the names on the way with slashes between them. -/
theorem filePaths_eq (around : String) (f : Folder) :
    f.filePaths around = f.keptFiles.map fun file => around ++ "/".intercalate file.1 := by
  induction f generalizing around with
  | nil => rfl
  | file name bytes next ih =>
    rw [filePaths, keptFiles, List.map_append, ih]
    split
    · rfl
    · rw [List.map_singleton, String.intercalate_singleton]
  | folder name inner next ihInner ihNext =>
    rw [filePaths, keptFiles, List.map_append, ihNext]
    split
    · rfl
    · rw [ihInner, List.map_map]
      refine congrArg (· ++ _) (List.map_congr_left fun file hfile => ?_)
      show around ++ name ++ "/" ++ "/".intercalate file.1 =
        around ++ "/".intercalate (name :: file.1)
      rw [String.intercalate_cons_of_ne_nil (keptFiles_ne_nil hfile), String.append_assoc,
        String.append_assoc, String.append_assoc]

theorem IsTree.isName_of_mem (h : f.IsTree) {file : List String × Bytes}
    (hfile : file ∈ f.keptFiles) : ∀ name ∈ file.1, IsName name := by
  induction f generalizing file with
  | nil => cases hfile
  | file name bytes next ih =>
    obtain ⟨hname, -, hnext⟩ := h
    rcases mem_keptFiles_file hfile with rfl | hfile
    · exact List.forall_mem_singleton.mpr hname
    · exact ih hnext hfile
  | folder name inner next ihInner ihNext =>
    obtain ⟨hname, -, hinner, hnext⟩ := h
    rcases mem_keptFiles_folder hfile with ⟨way, bytes, hway, rfl⟩ | hfile
    · exact List.forall_mem_cons.mpr ⟨hname, ihInner hinner hway⟩
    · exact ihNext hnext hfile

/-- No two files have one way to them. -/
theorem IsTree.nodup_ways (h : f.IsTree) : (f.keptFiles.map (·.1)).Nodup := by
  have hother : ∀ {name : String} {next : Folder}, name ∉ next.names →
      ∀ way ∈ next.keptFiles.map (·.1), way.head? ≠ some name := by
    intro name next hname way hway heq
    obtain ⟨file, hfile, rfl⟩ := List.mem_map.mp hway
    obtain ⟨first, hfirst, hhead⟩ := head_mem_names hfile
    exact hname (Option.some.inj (heq.symm.trans hhead) ▸ hfirst)
  induction f with
  | nil => exact List.nodup_nil
  | file name bytes next ih =>
    obtain ⟨-, hname, hnext⟩ := h
    rw [keptFiles, List.map_append]
    split
    · exact ih hnext
    · exact List.nodup_cons.mpr ⟨fun hmem => hother hname _ hmem rfl, ih hnext⟩
  | folder name inner next ihInner ihNext =>
    obtain ⟨-, hname, hinner, hnext⟩ := h
    rw [keptFiles, List.map_append]
    split
    · exact ihNext hnext
    · have hways : (inner.keptFiles.map fun (way, bytes) => (name :: way, bytes)).map (·.1) =
          (inner.keptFiles.map (·.1)).map (name :: ·) := by
        rw [List.map_map, List.map_map]
        rfl
      rw [hways]
      refine List.nodup_append.mpr ⟨?_, ihNext hnext, ?_⟩
      · exact List.Nodup.map (fun way way' heq => (List.cons.inj heq).2) (ihInner hinner)
      · rintro _ hway way' hway' rfl
        obtain ⟨way, -, heq⟩ := List.mem_map.mp hway
        exact hother hname _ hway' (heq ▸ rfl)

end Kept

section Follow

theorem follow_append (above : List (String × Folder)) (p : Place) (parts others : List String) :
    follow above p (parts ++ others) =
      (follow above p parts).bind fun reached => follow reached.1 reached.2 others := by
  induction parts generalizing above p with
  | nil => rfl
  | cons part rest ih =>
    cases p with
    | file bytes => rfl
    | folder f =>
      rcases above with _ | ⟨⟨name, outer⟩, above⟩ <;> rw [List.cons_append, follow, follow] <;>
        split_ifs <;> first | exact ih _ _ | rfl | skip
      all_goals
        cases f.child? part with
        | none => rfl
        | some p => exact ih _ _

/-- A name in a folder leads to what has the name. -/
theorem follow_name {name : String} (h : IsName name) (above : List (String × Folder)) {f : Folder}
    {p : Place} (hp : f.child? name = some p) (rest : List String) :
    follow above (.folder f) (name :: rest) = follow ((name, f) :: above) p rest := by
  obtain ⟨hname, -⟩ := h
  simp only [canName, Bool.and_eq_true, bne_iff_ne, ne_eq, decide_eq_true_eq] at hname
  obtain ⟨⟨⟨hempty, hdot⟩, hup⟩, hsize⟩ := hname
  rcases above with _ | ⟨⟨_, outer⟩, above⟩ <;>
    rw [follow, hp, if_neg (by simp [hempty, hdot]), if_neg (by simp [hup]),
      if_neg (Nat.not_lt.mpr hsize)]

/-- The way to a file leads to it, in any folder with the same things under the same names. -/
theorem IsTree.follow_way {f whole : Folder} (h : f.IsTree)
    (hwhole : ∀ name ∈ f.names, whole.child? name = f.child? name) {file : List String × Bytes}
    (hfile : file ∈ f.keptFiles) (above : List (String × Folder)) :
    (follow above (.folder whole) file.1).map (·.2) = .ok (.file file.2) := by
  induction f generalizing whole above file with
  | nil => cases hfile
  | file name bytes next ih =>
    obtain ⟨hname, hother, hnext⟩ := h
    rcases mem_keptFiles_file hfile with rfl | hfile
    · have hchild : whole.child? name = some (.file bytes) := by
        rw [hwhole name List.mem_cons_self, child?, if_pos rfl]
      rw [follow_name hname above hchild]
      rfl
    · refine ih hnext (fun n hn => ?_) hfile above
      rw [hwhole n (List.mem_cons_of_mem _ hn), child?,
        if_neg (ne_of_mem_of_not_mem hn hother).symm]
  | folder name inner next ihInner ihNext =>
    obtain ⟨hname, hother, hinner, hnext⟩ := h
    rcases mem_keptFiles_folder hfile with ⟨way, bytes, hway, rfl⟩ | hfile
    · have hchild : whole.child? name = some (.folder inner) := by
        rw [hwhole name List.mem_cons_self, child?, if_pos rfl]
      rw [follow_name hname above hchild]
      exact ihInner hinner (fun _ _ => rfl) hway _
    · refine ihNext hnext (fun n hn => ?_) hfile above
      rw [hwhole n (List.mem_cons_of_mem _ hn), child?,
        if_neg (ne_of_mem_of_not_mem hn hother).symm]

end Follow

section Locate

variable {disk f : Folder} {root path : String}

theorem pathFault?_eq_none_iff :
    pathFault? path = none ↔ '\x00' ∉ path.toList ∧ Utf8.size path ≤ longestPath := by
  rw [pathFault?]
  split_ifs with hzero hlong
  · simp [List.contains_iff_mem.mp hzero]
  · simp [hlong]
  · exact iff_of_true rfl ⟨fun h => hzero (List.contains_iff_mem.mpr h), Nat.not_lt.mp hlong⟩

/-- What a path that can be used leads to. -/
theorem locate_eq_ok_iff {p : Place} : disk.locate path = .ok p ↔
    pathFault? path = none ∧ path ≠ "" ∧ path.toList.head? ≠ some '/' ∧
      (follow [] (.folder disk) (FileName.split (· == '/') path)).map (·.2) = .ok p := by
  rw [locate, resolve]
  cases pathFault? path with
  | some e => simp [Except.map]
  | none =>
    by_cases hempty : path = ""
    · subst hempty
      simp [Except.map]
    · by_cases hhead : path.toList.head? = some '/'
      · simp [hhead, Except.map]
      · simp only [hempty, hhead, String.isEmpty_iff, beq_iff_eq, Bool.or_eq_true, or_self,
          if_false, true_and, ne_eq, not_false_eq_true]
        cases follow [] (.folder disk) (FileName.split (· == '/') path) <;> rfl

theorem follow_empty (above : List (String × Folder)) (f : Folder) :
    follow above (.folder f) [""] = .ok (above, .folder f) := by
  rcases above with _ | ⟨⟨_, outer⟩, above⟩ <;> rw [follow, if_pos (by decide), follow]

/-- A path that goes on from a folder is followed from there. -/
theorem follow_joinPath {above : List (String × Folder)}
    (h : follow [] (.folder disk) (FileName.split (· == '/') root) = .ok (above, .folder f))
    (hpath : path.toList.head? ≠ some '/') :
    follow [] (.folder disk) (FileName.split (· == '/') (joinPath root path)) =
      follow above (.folder f) (FileName.split (· == '/') path) := by
  rw [joinPath, if_neg (by simpa using hpath)]
  split_ifs with hslash
  · -- a slash at the end of the root leaves an empty part there, which only a folder has
    obtain ⟨before, hbefore⟩ := List.getLast?_eq_some_iff.mp (eq_of_beq hslash)
    have hroot : root = String.ofList before ++ "/" := by
      rw [← String.toList_inj, hbefore, String.toList_append, String.toList_ofList]
      rfl
    have hparts : FileName.split (· == '/') root =
        FileName.split (· == '/') (String.ofList before) ++ [""] := by
      rw [hroot, ← String.append_empty (s := _ ++ "/"), FileName.split_append_slash]
      rfl
    rw [hparts, follow_append] at h
    rw [hroot, FileName.split_append_slash, follow_append]
    cases hreached :
      follow [] (.folder disk) (FileName.split (· == '/') (String.ofList before)) with
    | error e =>
      rw [hreached] at h
      cases h
    | ok reached =>
      obtain ⟨around, p⟩ := reached
      rw [hreached] at h
      cases p with
      | file bytes => cases h
      | folder g =>
        obtain ⟨rfl, hfolder⟩ := Prod.mk.inj (Except.ok.inj ((follow_empty around g).symm.trans h))
        obtain rfl := Place.folder.inj hfolder
        rfl
  · rw [FileName.split_append_slash, follow_append, h]
    rfl

theorem joinPath_eq (root : String) (hpath : path.toList.head? ≠ some '/') : ∃ between,
    joinPath root path = root ++ between ++ path ∧ ∀ c ∈ between.toList, c = '/' := by
  rw [joinPath, if_neg (by simpa using hpath)]
  split_ifs
  · exact ⟨"", by rw [String.append_empty], by simp⟩
  · exact ⟨"/", rfl, by simp⟩

/-- What is found from a folder is found from its root. -/
theorem locate_joinPath {p : Place} (hroot : disk.locate root = .ok (.folder f))
    (hpath : path.toList.head? ≠ some '/') (hzero : '\x00' ∉ path.toList)
    (hsize : Utf8.size (joinPath root path) ≤ longestPath)
    (hfollow : ∀ above,
      (follow above (.folder f) (FileName.split (· == '/') path)).map (·.2) = .ok p) :
    disk.locate (joinPath root path) = .ok p := by
  obtain ⟨hfault, hempty, hhead, hfolder⟩ := locate_eq_ok_iff.mp hroot
  have hfirst : root.toList ≠ [] := fun hnil => hempty (String.toList_eq_nil_iff.mp hnil)
  obtain ⟨between, hjoin, hbetween⟩ := joinPath_eq root hpath
  have hchars : (joinPath root path).toList = root.toList ++ (between.toList ++ path.toList) := by
    rw [hjoin, String.toList_append, String.toList_append, List.append_assoc]
  refine locate_eq_ok_iff.mpr ⟨pathFault?_eq_none_iff.mpr ⟨?zero, hsize⟩, ?nonempty, ?head, ?place⟩
  case zero =>
    rw [hchars, List.mem_append, List.mem_append, not_or, not_or]
    exact ⟨(pathFault?_eq_none_iff.mp hfault).1,
      fun hc => absurd (hbetween _ hc) (by decide), hzero⟩
  case nonempty =>
    intro hnil
    rw [hnil] at hchars
    exact hfirst (List.append_eq_nil_iff.mp hchars.symm).1
  case head =>
    rw [hchars, List.head?_append_of_ne_nil _ hfirst]
    exact hhead
  case place =>
    cases hreached : follow [] (.folder disk) (FileName.split (· == '/') root) with
    | error e =>
      rw [hreached] at hfolder
      cases hfolder
    | ok reached =>
      obtain ⟨above, q⟩ := reached
      rw [hreached] at hfolder
      obtain rfl : q = .folder f := Except.ok.inj hfolder
      rw [follow_joinPath hreached hpath]
      exact hfollow above

theorem mem_intercalate_slash {c : Char} {names : List String}
    (h : c ∈ ("/".intercalate names).toList) : c = '/' ∨ ∃ name ∈ names, c ∈ name.toList := by
  induction names with
  | nil => simp at h
  | cons name rest ih =>
    by_cases hnil : rest = []
    · subst hnil
      rw [String.intercalate_singleton] at h
      exact .inr ⟨name, List.mem_cons_self, h⟩
    · rw [String.intercalate_cons_of_ne_nil hnil, String.toList_append, String.toList_append] at h
      rcases List.mem_append.mp h with h | h
      · rcases List.mem_append.mp h with h | h
        · exact .inr ⟨name, List.mem_cons_self, h⟩
        · exact .inl (List.mem_singleton.mp h)
      · exact (ih h).imp_right fun ⟨other, hother, hc⟩ => ⟨other, .tail _ hother, hc⟩

variable {file : List String × Bytes}

/-- The path of a file from the folder that it is in. -/
theorem IsTree.split_path (h : f.IsTree) (hfile : file ∈ f.keptFiles) :
    FileName.split (· == '/') ("/".intercalate file.1) = file.1 :=
  FileName.split_intercalate (keptFiles_ne_nil hfile) fun name hname =>
    (h.isName_of_mem hfile name hname).2.1

theorem IsTree.head_path_ne (h : f.IsTree) (hfile : file ∈ f.keptFiles) :
    ("/".intercalate file.1).toList.head? ≠ some '/' := by
  intro hslash
  obtain ⟨rest, hrest⟩ := List.head?_eq_some_iff.mp hslash
  -- a slash in front would make the first part empty
  have hempty : "" ∈ file.1 := by
    rw [← h.split_path hfile, FileName.split, hrest, FileName.splitList]
    exact List.mem_cons_self
  have hname := (h.isName_of_mem hfile "" hempty).1
  cases hname

theorem IsTree.nodup_paths (h : f.IsTree) :
    (f.keptFiles.map fun file => "/".intercalate file.1).Nodup := by
  have hpaths : (f.keptFiles.map fun file => "/".intercalate file.1).map
      (FileName.split (· == '/')) = f.keptFiles.map (·.1) := by
    rw [List.map_map]
    exact List.map_congr_left fun file hfile => h.split_path hfile
  refine List.Nodup.of_map (FileName.split (· == '/')) ?_
  rw [hpaths]
  exact h.nodup_ways

/-- Under its path a file of a folder is found, unless the path is too long. -/
theorem IsTree.read_path (h : f.IsTree) (hfile : file ∈ f.keptFiles)
    (hroot : disk.locate root = .ok (.folder f))
    (hsize : Utf8.size (joinPath root ("/".intercalate file.1)) ≤ longestPath) :
    disk.read (joinPath root ("/".intercalate file.1)) = .ok file.2 := by
  have hzero : '\x00' ∉ ("/".intercalate file.1).toList := by
    intro hc
    rcases mem_intercalate_slash hc with hc | ⟨name, hname, hc⟩
    · exact absurd hc (by decide)
    · exact (h.isName_of_mem hfile name hname).2.2 hc
  have hlocate : disk.locate (joinPath root ("/".intercalate file.1)) = .ok (.file file.2) := by
    refine locate_joinPath hroot (h.head_path_ne hfile) hzero hsize fun above => ?_
    rw [h.split_path hfile]
    exact h.follow_way (fun _ _ => rfl) hfile above
  rw [read, hlocate]

end Locate
end Folder
end EtlSurvey
