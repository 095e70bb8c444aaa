import Mathlib.Data.List.Infix
import EtlSurvey.Text.Case

/-! # Characters that lower case moves

Lower case takes no character to one in front of the small letters of ASCII, apart from those that
it leaves where they are. So what a lowered text shows of such characters stood in the text itself,
at the same places among each other. -/

namespace EtlSurvey.Text

/-- Lower case moves the ASCII capital letters and nothing else. -/
theorem toLower_cases (c : Char) :
    c.toLower = c ∨ (65 ≤ c.toNat ∧ c.toNat ≤ 90 ∧ c.toLower.toNat = c.toNat + 32) := by
  by_cases hupper : c.val ≥ 'A'.val ∧ c.val ≤ 'Z'.val
  · right
    have hbounds := hupper
    simp only [ge_iff_le, UInt32.le_iff_toNat_le] at hbounds
    have hlow : 65 ≤ c.toNat := hbounds.1
    have hhigh : c.toNat ≤ 90 := hbounds.2
    have himage : c.toLower.toNat = (c.val + 32).toNat := congrArg Char.toNat (dif_pos hupper)
    refine ⟨hlow, hhigh, ?_⟩
    rw [himage, UInt32.toNat_add]
    show (c.toNat + 32) % _ = _
    omega
  · exact .inl (dif_neg hupper)

/-- Lower case of one character does not see the case of ASCII letters. -/
theorem lowerChar_toLower (c : Char) : lowerChar c.toLower = lowerChar c := by
  rcases toLower_cases c with hsame | ⟨hlow, hhigh, himage⟩
  · rw [hsame]
  · have hascii : c.toNat < 0x80 := by omega
    have hlower : c.toLower.toNat < 0x80 := by omega
    -- the image of a capital letter is behind all capital letters
    have hfixed : c.toLower.toLower = c.toLower :=
      (toLower_cases c.toLower).resolve_right fun hupper => by omega
    rw [lowerChar, lowerChar, if_pos hascii, if_pos hlower, hfixed]

/-- In front of the small letters; the null character is not counted. -/
def IsLow (c : Char) : Prop := 0 < c.toNat ∧ c.toNat < 97

instance (c : Char) : Decidable (IsLow c) := inferInstanceAs (Decidable (_ ∧ _))

theorem not_isLow_ofNat {n : Nat} (h : 97 ≤ n) : ¬ IsLow (Char.ofNat n) := by
  rintro ⟨hpos, hlt⟩
  by_cases hvalid : n.isValidChar
  · have hself : (Char.ofNat n).toNat = n := by
      rw [Char.ofNat, dif_pos hvalid]
      rfl
    omega
  · rw [Char.ofNat, dif_neg hvalid] at hpos
    exact absurd hpos (by decide)

theorem lookupRun_lowerRuns {n image : Nat} (h : lookupRun lowerRuns n = some image) :
    97 ≤ image := by
  obtain ⟨⟨low, high, stride, first⟩, hrun, himage⟩ := List.exists_of_findSome?_eq_some h
  have hfirst : ∀ run ∈ lowerRuns, 97 ≤ run.2.2.2 := by decide +kernel
  have hrun := hfirst _ hrun
  dsimp only at hrun himage
  split at himage
  · obtain rfl := Option.some.inj himage
    omega
  · cases himage

/-- The image of a character is the character itself, or nothing in it is low. -/
theorem lowerChar_cases (c : Char) :
    lowerChar c = [c] ∨ (lowerChar c ≠ [] ∧ ∀ d ∈ lowerChar c, ¬ IsLow d) := by
  rw [lowerChar]
  split
  · rcases toLower_cases c with hsame | ⟨hlow, -, himage⟩
    · exact .inl (congrArg (fun d => [d]) hsame)
    · refine .inr ⟨List.cons_ne_nil _ _, List.forall_mem_singleton.mpr fun h => ?_⟩
      have := h.2
      omega
  split
  · exact .inr ⟨List.cons_ne_nil _ _,
      List.forall_mem_cons.mpr ⟨by decide, List.forall_mem_singleton.mpr (by decide)⟩⟩
  · cases hrun : lookupRun lowerRuns c.toNat with
    | none => exact .inl rfl
    | some image =>
      exact .inr ⟨List.cons_ne_nil _ _,
        List.forall_mem_singleton.mpr (not_isLow_ofNat (lookupRun_lowerRuns hrun))⟩

/-- Lower case goes on behind the image of the first character. -/
theorem lowerFrom_cons (before : List Char) (c : Char) (rest : List Char) :
    ∃ image, lowerFrom before (c :: rest) = image ++ lowerFrom (c :: before) rest ∧
      (image = [c] ∨ (image ≠ [] ∧ ∀ d ∈ image, ¬ IsLow d)) := by
  refine ⟨_, rfl, ?_⟩
  split
  · split <;>
      exact .inr ⟨List.cons_ne_nil _ _, List.forall_mem_singleton.mpr (by decide)⟩
  · exact lowerChar_cases c

variable {part before s : List Char}

theorem prefix_of_prefix_lowerFrom (hpart : ∀ c ∈ part, IsLow c)
    (h : part <+: lowerFrom before s) : part <+: s := by
  induction s generalizing part before with
  | nil => exact h
  | cons c rest ih =>
    match part with
    | [] => exact List.nil_prefix
    | d :: more =>
      obtain ⟨hd, hmore⟩ := List.forall_mem_cons.mp hpart
      obtain ⟨image, hlower, rfl | ⟨hne, himage⟩⟩ := lowerFrom_cons before c rest
      · rw [hlower, List.singleton_append, List.cons_prefix_cons] at h
        exact List.cons_prefix_cons.mpr ⟨h.1, ih hmore h.2⟩
      · obtain ⟨e, others, rfl⟩ := List.exists_cons_of_ne_nil hne
        rw [hlower, List.cons_append, List.cons_prefix_cons] at h
        exact absurd (h.1 ▸ hd) (himage e List.mem_cons_self)

/-- Low characters that stand together in the lowered text stood together before. -/
theorem infix_of_infix_lowerFrom (hpart : ∀ c ∈ part, IsLow c)
    (h : part <:+: lowerFrom before s) : part <:+: s := by
  induction s generalizing before with
  | nil => exact h
  | cons c rest ih =>
    obtain ⟨image, hlower, rfl | ⟨-, himage⟩⟩ := lowerFrom_cons before c rest
    · rw [hlower, List.singleton_append, List.infix_cons_iff] at h
      refine List.infix_cons_iff.mpr (h.imp (fun hfront => ?_) ih)
      exact prefix_of_prefix_lowerFrom hpart (by rwa [hlower, List.singleton_append])
    · -- nothing of the part lies in an image that is not low
      have hnone : ∀ l, l ⊆ part → l ⊆ image → l = [] := fun l hl hl' =>
        List.eq_nil_iff_forall_not_mem.mpr fun d hd => himage d (hl' hd) (hpart d (hl hd))
      rw [hlower, List.infix_append_iff] at h
      refine List.infix_cons_iff.mpr (.inr ?_)
      obtain hin | hin | ⟨l, l', rfl, hl, hl'⟩ := h
      · rw [hnone part (List.Subset.refl _) hin.subset]
        exact List.nil_infix
      · exact ih hin
      · rw [hnone l (List.subset_append_left _ _) hl.subset] at ih ⊢
        exact ih hl'.isInfix

theorem infix_of_infix_lower {text : String} (hpart : ∀ c ∈ part, IsLow c)
    (h : part <:+: (lower text).toList) : part <:+: text.toList := by
  rw [lower, String.toList_ofList] at h
  exact infix_of_infix_lowerFrom hpart h

theorem mem_of_mem_lower {c : Char} {text : String} (hc : IsLow c) (h : c ∈ (lower text).toList) :
    c ∈ text.toList := by
  obtain ⟨front, back, hsplit⟩ := List.append_of_mem h
  have hpart : [c] <:+: (lower text).toList :=
    ⟨front, back, by rw [hsplit, List.append_assoc, List.singleton_append]⟩
  exact (infix_of_infix_lower (List.forall_mem_singleton.mpr hc) hpart).subset
    (List.mem_singleton_self c)

end EtlSurvey.Text
