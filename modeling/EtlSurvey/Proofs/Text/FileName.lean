import EtlSurvey.Text.FileName

/-! # Paths and the extensions of file names

A path is its components with slashes between them. A name without slashes is its own last
component, so its extension is what it ends with. -/

namespace EtlSurvey.Text.FileName

theorem splitList_of_forall {sep : Char → Bool} {s : List Char} (h : ∀ c ∈ s, sep c = false) :
    splitList sep s = [s] := by
  induction s with
  | nil => rfl
  | cons c rest ih =>
    obtain ⟨hc, hrest⟩ := List.forall_mem_cons.mp h
    rw [splitList, hc, ih hrest]
    rfl

theorem splitList_ne_nil (sep : Char → Bool) (s : List Char) : splitList sep s ≠ [] := by
  cases s with
  | nil => exact List.cons_ne_nil _ _
  | cons c rest =>
    rw [splitList]
    split
    · exact List.cons_ne_nil _ _
    · split <;> exact List.cons_ne_nil _ _

/-- A separator separates the pieces before it from those behind it. -/
theorem splitList_append_cons (sep : Char → Bool) {c : Char} (hc : sep c = true)
    (before after : List Char) :
    splitList sep (before ++ c :: after) = splitList sep before ++ splitList sep after := by
  induction before with
  | nil =>
    show splitList sep (c :: after) = [] :: splitList sep after
    rw [splitList, if_pos hc]
  | cons d rest ih =>
    rw [List.cons_append, splitList, splitList, ih]
    split
    · rfl
    · cases hrest : splitList sep rest with
      | nil => exact absurd hrest (splitList_ne_nil sep rest)
      | cons piece more => rfl

theorem split_append_slash (before after : String) :
    split (· == '/') (before ++ "/" ++ after) =
      split (· == '/') before ++ split (· == '/') after := by
  have hslash : (before ++ "/" ++ after).toList = before.toList ++ '/' :: after.toList := by
    rw [String.toList_append, String.toList_append, List.append_assoc]
    rfl
  rw [split, split, split, hslash, splitList_append_cons (· == '/') rfl, List.map_append]

theorem split_of_not_mem {name : String} (h : '/' ∉ name.toList) :
    split (· == '/') name = [name] := by
  rw [split, splitList_of_forall, List.map_singleton, String.ofList_toList]
  intro c hc
  exact beq_eq_false_iff_ne.mpr fun heq => h (heq ▸ hc)

/-- Names without slashes are found again between the slashes that join them. -/
theorem split_intercalate {names : List String} (hne : names ≠ [])
    (h : ∀ name ∈ names, '/' ∉ name.toList) :
    split (· == '/') ("/".intercalate names) = names := by
  induction names with
  | nil => exact absurd rfl hne
  | cons name rest ih =>
    obtain ⟨hname, hrest⟩ := List.forall_mem_cons.mp h
    by_cases hnil : rest = []
    · subst hnil
      rw [String.intercalate_singleton, split_of_not_mem hname]
    · rw [String.intercalate_cons_of_ne_nil hnil, split_append_slash, split_of_not_mem hname,
        ih hnil hrest, List.singleton_append]

/-- Nothing in a file name separates folders. -/
theorem not_separator_of_mem_ofMember {member : String} {c : Char}
    (h : c ∈ (ofMember member).toList) : (c != '/' && c != '\\') = true := by
  rw [ofMember, String.toList_ofList, List.mem_reverse] at h
  exact List.all_eq_true.mp List.all_takeWhile c h

theorem slash_not_mem_ofMember (member : String) : '/' ∉ (ofMember member).toList := fun h =>
  absurd (not_separator_of_mem_ofMember h) (by decide)

/-- What stands in front of a file name in a path: nothing, or something with a separator at its
end. -/
def IsFolderPart (before : String) : Prop := ∀ c ∈ before.toList.getLast?, c = '/' ∨ c = '\\'

theorem IsFolderPart.of_suffix {before rest : String} (h : IsFolderPart before)
    (hrest : rest.toList <:+ before.toList) : IsFolderPart rest := by
  obtain ⟨dropped, hbefore⟩ := hrest
  intro c hc
  refine h c ?_
  rw [← hbefore, List.getLast?_append, Option.mem_def.mp hc, Option.some_or]
  rfl

theorem ofMember_append {before : String} (h : IsFolderPart before) (member : String) :
    ofMember (before ++ ofMember member) = ofMember member := by
  have hname : ∀ c ∈ (ofMember member).toList.reverse, (c != '/' && c != '\\') = true :=
    fun c hc => not_separator_of_mem_ofMember (List.mem_reverse.mp hc)
  have hbefore : before.toList.reverse.takeWhile (fun c => c != '/' && c != '\\') = [] := by
    cases hlast : before.toList.reverse with
    | nil => rfl
    | cons c rest =>
      have hc : c ∈ before.toList.getLast? := by rw [← List.head?_reverse, hlast]; rfl
      obtain rfl | rfl := h c hc <;> rfl
  rw [ofMember, String.toList_append, List.reverse_append, List.takeWhile_append_of_pos hname,
    hbefore, List.append_nil, List.reverse_reverse, String.ofList_toList]

/-- A name with an extension has something, a dot and the extension. -/
theorem toList_of_cut {name extension : String} (h : (cut name).2 = some extension) :
    (cut name).1 ≠ "" ∧ name.toList = (cut name).1.toList ++ '.' :: extension.toList := by
  have hback := List.takeWhile_append_dropWhile (p := (· != '.')) (l := name.toList.reverse)
  rw [cut] at h ⊢
  cases hdrop : name.toList.reverse.dropWhile (· != '.') with
  | nil =>
    rw [hdrop] at h
    cases h
  | cons dot before =>
    rw [hdrop] at h hback
    cases before with
    | nil => cases h
    | cons c before =>
      obtain rfl := Option.some.inj h
      have hdot : dot = '.' := by
        have hhead := List.head?_dropWhile_not (· != '.') name.toList.reverse
        rw [hdrop] at hhead
        simpa using hhead
      refine ⟨by simp, ?_⟩
      have hname := congrArg List.reverse hback
      rw [List.reverse_reverse, hdot, List.reverse_append, List.reverse_cons, List.append_assoc,
        List.singleton_append] at hname
      rw [String.toList_ofList, String.toList_ofList]
      exact hname.symm

theorem last?_of_slash_not_mem {name last : String} (hslash : '/' ∉ name.toList)
    (h : last? name = some last) : last = name := by
  have hmem : last ∈ components name := by
    rw [last?] at h
    split at h
    · cases h
    · exact List.mem_of_getLast? h
  rw [components, split_of_not_mem hslash] at hmem
  exact List.mem_singleton.mp (List.mem_filter.mp hmem).1

/-- The file name of a member with an extension: its stem, a dot and the extension. -/
theorem ofMember_eq_of_hasExtension {extension member : String}
    (h : hasExtension extension member = true) : ∃ stem found,
      stem? (ofMember member) = some stem ∧ stem ≠ "" ∧
      (ofMember member).toList = stem.toList ++ '.' :: found ∧
      found.map Char.toLower = extension.toList.map Char.toLower := by
  rw [hasExtension, Option.any_eq_true] at h
  obtain ⟨found, hfound, heq⟩ := h
  obtain ⟨last, hlast, hcut⟩ := Option.bind_eq_some_iff.mp hfound
  obtain rfl := last?_of_slash_not_mem (slash_not_mem_ofMember member) hlast
  obtain ⟨hstem, hname⟩ := toList_of_cut hcut
  exact ⟨_, found.toList, by rw [stem?, hlast, Option.map_some], hstem, hname, eq_of_beq heq⟩

theorem hasExtension_suffix {extension member : String} (h : hasExtension extension member = true) :
    extension.toList.map Char.toLower <:+ (ofMember member).toList.map Char.toLower := by
  obtain ⟨stem, found, -, -, hname, heq⟩ := ofMember_eq_of_hasExtension h
  refine ⟨(stem.toList ++ ['.']).map Char.toLower, ?_⟩
  rw [← heq, hname, ← List.map_append, List.append_assoc, List.singleton_append]

theorem dropPackageExtension_append {name stem : String} {extension : List Char}
    (hname : name.toList = stem.toList ++ '.' :: extension)
    (h : extension.map Char.toLower = "dtsx".toList) : dropPackageExtension name = stem := by
  have hback : name.toList.reverse = (extension.reverse ++ ['.']) ++ stem.toList.reverse := by
    rw [hname, List.reverse_append, List.reverse_cons]
  have hlength : (extension.reverse ++ ['.']).length = 5 := by
    rw [List.length_append, List.length_reverse, ← List.length_map Char.toLower, h]
    rfl
  have hlower : (extension.reverse ++ ['.']).map Char.toLower = "xstd.".toList := by
    rw [List.map_append, List.map_reverse, h]
    rfl
  rw [dropPackageExtension, hback, List.take_left' hlength, List.drop_left' hlength, hlower,
    if_pos (beq_self_eq_true _), List.reverse_reverse, String.ofList_toList]

end EtlSurvey.Text.FileName
