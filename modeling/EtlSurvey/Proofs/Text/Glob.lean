import Mathlib
import EtlSurvey.Config
import EtlSurvey.Proofs.Lists

/-! # Names that a pattern covers

A pattern without a star covers a name up to the case of ASCII letters. One with a star covers the
names that begin as its front and end as its back, letter by letter. So two spellings of a name may
be decided differently exactly where letters stand beside a star. If the case of all letters were
ignored, a list of patterns would cover the names of which it now covers some spelling. -/

namespace EtlSurvey.Text.Glob

/-- Equal up to the case of ASCII letters. -/
def Alike (a b : List Char) : Prop := a.map Char.toLower = b.map Char.toLower

/-- The name is the pattern up to the case of ASCII letters, or the pattern has a star and the name
is its front, anything, and its back. What it takes to be its front and its back is a parameter. -/
inductive Covers (same : List Char → List Char → Prop) (pattern name : String) : Prop
  | literal (hplain : '*' ∉ pattern.toList) (hname : eqIgnoringCase pattern name = true)
  | star {front back start middle rest : List Char}
      (hpattern : pattern.toList = front ++ '*' :: back)
      (hname : name.toList = start ++ (middle ++ rest))
      (hstart : same front start) (hrest : same back rest)

/-- A pattern covers all spellings of a name or none of them. -/
def CaseBlind (pattern : String) : Prop :=
  ∀ a b, eqIgnoringCase a b = true → isMatch pattern a = isMatch pattern b

section Parts

variable {front back s : List Char} {pattern name : String}

theorem not_mem_front (hpattern : pattern.toList = front ++ '*' :: back)
    (hstars : pattern.toList.count '*' ≤ 1) : '*' ∉ front := by
  rw [hpattern, List.count_append, List.count_cons_self] at hstars
  rw [← List.count_eq_zero]
  omega

/-- The star that a pattern is cut at is its only one. -/
theorem isMatch_of_star (hpattern : pattern.toList = front ++ '*' :: back)
    (hstars : pattern.toList.count '*' ≤ 1) :
    isMatch pattern name = between front back name.toList := by
  have hfront : '*' ∉ front := not_mem_front hpattern hstars
  have hdouble : (pattern.toList == ['*', '*']) = false := by
    rw [beq_eq_false_iff_ne]
    intro heq
    rw [heq] at hstars
    exact absurd hstars (by decide)
  have hstar : pattern.toList.contains '*' = true := by
    rw [List.contains_iff_mem, hpattern]
    simp
  have htake : pattern.toList.takeWhile (· != '*') = front := by
    rw [hpattern, takeWhile_bne_append_cons hfront]
  have hdrop : (pattern.toList.dropWhile (· != '*')).drop 1 = back := by
    rw [hpattern, dropWhile_bne_append_cons hfront]
    rfl
  simp only [isMatch, hstar, hdouble, htake, hdrop, Bool.not_true, Bool.false_or,
    Bool.false_eq_true, if_false]

theorem isMatch_of_not_mem (hplain : '*' ∉ pattern.toList) :
    isMatch pattern name = eqIgnoringCase pattern name := by
  simp only [isMatch, List.contains_eq_mem, hplain, decide_false, Bool.not_false, if_true]

/-- A pattern with at most one star covers names letter by letter beside it. -/
theorem isMatch_iff_covers (hstars : pattern.toList.count '*' ≤ 1) :
    isMatch pattern name = true ↔ Covers Eq pattern name := by
  by_cases hstar : '*' ∈ pattern.toList
  · obtain ⟨front, back, hpattern⟩ := List.append_of_mem hstar
    rw [isMatch_of_star hpattern hstars, between_iff]
    constructor
    · rintro ⟨middle, hname⟩
      exact .star hpattern hname rfl rfl
    · rintro (⟨hplain, -⟩ | ⟨hpattern', hname, rfl, rfl⟩)
      · exact absurd hstar hplain
      · refine between_iff.mp ?_
        rw [← isMatch_of_star hpattern hstars, isMatch_of_star hpattern' hstars, between_iff]
        exact ⟨_, hname⟩
  · rw [isMatch_of_not_mem hstar]
    constructor
    · exact .literal hstar
    · rintro (⟨-, hname⟩ | ⟨hpattern, -, -, -⟩)
      · exact hname
      · rw [hpattern] at hstar
        simp at hstar

end Parts

section Spellings

variable {a b pattern name : String}

theorem eqIgnoringCase_iff : eqIgnoringCase a b = true ↔ Alike a.toList b.toList := beq_iff_eq

theorem eqIgnoringCase_symm (h : eqIgnoringCase a b = true) : eqIgnoringCase b a = true :=
  beq_iff_eq.mpr (beq_iff_eq.mp h).symm

theorem eqIgnoringCase_trans {c : String} (h : eqIgnoringCase a b = true)
    (h' : eqIgnoringCase b c = true) : eqIgnoringCase a c = true :=
  beq_iff_eq.mpr ((beq_iff_eq.mp h).trans (beq_iff_eq.mp h'))

theorem Alike.append {a b c d : List Char} (h : Alike a b) (h' : Alike c d) :
    Alike (a ++ c) (b ++ d) := by
  rw [Alike, List.map_append, List.map_append, h, h']

/-- What is alike to a text of parts has parts that are alike to them. -/
theorem Alike.exists_append {a b s : List Char} (h : Alike (a ++ b) s) :
    ∃ c d, s = c ++ d ∧ Alike a c ∧ Alike b d := by
  rw [Alike, List.map_append] at h
  obtain ⟨c, d, rfl, hc, hd⟩ := List.map_eq_append_iff.mp h.symm
  exact ⟨c, d, rfl, hc.symm, hd.symm⟩

/-- With the case of all letters ignored, a pattern covers the names of which it covers some
spelling. -/
theorem covers_alike_iff :
    Covers Alike pattern name ↔
      ∃ spelling, eqIgnoringCase spelling name = true ∧ Covers Eq pattern spelling := by
  constructor
  · rintro (⟨hplain, hname⟩ |
      @⟨front, back, start, middle, rest, hpattern, hname, hstart, hrest⟩)
    · exact ⟨name, beq_self_eq_true _, .literal hplain hname⟩
    · refine ⟨String.ofList (front ++ (middle ++ back)), ?_,
        .star hpattern String.toList_ofList rfl rfl⟩
      rw [eqIgnoringCase_iff, String.toList_ofList, hname]
      exact hstart.append (.append rfl hrest)
  · rintro ⟨spelling, hspelling, ⟨hplain, hname⟩ | ⟨hpattern, hname, rfl, rfl⟩⟩
    · exact .literal hplain (eqIgnoringCase_trans hname hspelling)
    · rw [eqIgnoringCase_iff, hname] at hspelling
      obtain ⟨start, others, hstart, hfront, hothers⟩ := hspelling.exists_append
      obtain ⟨middle, rest, rfl, -, hback⟩ := hothers.exists_append
      exact .star hpattern hstart hfront hback

theorem isAlpha_eq_false_iff (c : Char) :
    c.isAlpha = false ↔ c.toLower = c ∧ c.toUpper = c := by
  rw [Char.isAlpha, Bool.or_eq_false_iff]
  constructor
  · rintro ⟨hupper, hlower⟩
    exact ⟨Char.toLower_eq_of_not_isUpper (by rw [hupper]; decide),
      Char.toUpper_eq_of_not_isLower (by rw [hlower]; decide)⟩
  · rintro ⟨hupper, hlower⟩
    exact ⟨hupper ▸ Char.isUpper_toLower_eq_false c, hlower ▸ Char.isLower_toUpper_eq_false c⟩

theorem eq_of_toLower_eq {c d : Char} (hc : c.isAlpha = false) (h : c.toLower = d.toLower) :
    c = d := by
  have hd : d.isAlpha = false := by
    rw [← Char.isAlpha_toLower_eq_isAlpha, ← h, Char.isAlpha_toLower_eq_isAlpha, hc]
  rw [((isAlpha_eq_false_iff c).mp hc).1, ((isAlpha_eq_false_iff d).mp hd).1] at h
  exact h

/-- Without letters, to be alike is to be equal. -/
theorem Alike.eq_of_letterless {a b : List Char} (h : Alike a b)
    (ha : ∀ c ∈ a, c.isAlpha = false) : a = b := by
  induction a generalizing b with
  | nil => exact (List.map_eq_nil_iff.mp h.symm).symm
  | cons c rest ih =>
    obtain ⟨hc, hrest⟩ := List.forall_mem_cons.mp ha
    obtain ⟨d, others, rfl, hd, hothers⟩ := List.map_eq_cons_iff.mp h.symm
    rw [eq_of_toLower_eq hc hd.symm, ih hothers.symm hrest]

/-- A text that a starred pattern covers with nothing for its star is covered in another spelling
only if the pattern does not change in it. -/
theorem map_eq_self_of_caseBlind {front back : List Char}
    (hpattern : pattern.toList = front ++ '*' :: back) (hstars : pattern.toList.count '*' ≤ 1)
    (hblind : CaseBlind pattern) {f : Char → Char} (hf : ∀ c, (f c).toLower = c.toLower) :
    ∀ c ∈ front ++ back, f c = c := by
  have halike : eqIgnoringCase (String.ofList (front ++ back))
      (String.ofList ((front ++ back).map f)) = true := by
    rw [eqIgnoringCase_iff, Alike, String.toList_ofList, String.toList_ofList, List.map_map]
    exact List.map_congr_left fun c _ => (hf c).symm
  have hself : isMatch pattern (String.ofList (front ++ back)) = true := by
    rw [isMatch_of_star hpattern hstars, between_iff, String.toList_ofList]
    exact ⟨[], rfl⟩
  rw [hblind _ _ halike, isMatch_of_star hpattern hstars, between_iff, String.toList_ofList]
    at hself
  obtain ⟨middle, heq⟩ := hself
  have hmiddle : middle = [] := by
    have hlength := congrArg List.length heq
    simp only [List.length_map, List.length_append] at hlength
    exact List.eq_nil_of_length_eq_zero (by omega)
  rw [hmiddle, List.nil_append] at heq
  exact List.map_inj_left.mp (heq.trans (List.map_id _).symm)

/-- A pattern with at most one star decides all spellings of a name alike exactly if no letters
stand beside its star. -/
theorem caseBlind_iff (hstars : pattern.toList.count '*' ≤ 1) :
    CaseBlind pattern ↔ ('*' ∈ pattern.toList → ∀ c ∈ pattern.toList, c.isAlpha = false) := by
  constructor
  · intro hblind hstar c hc
    obtain ⟨front, back, hpattern⟩ := List.append_of_mem hstar
    rw [hpattern, List.mem_append, List.mem_cons] at hc
    by_cases hother : c ∈ front ++ back
    · exact (isAlpha_eq_false_iff c).mpr
        ⟨map_eq_self_of_caseBlind hpattern hstars hblind Char.toLower_toLower_eq_toLower c hother,
          map_eq_self_of_caseBlind hpattern hstars hblind Char.toLower_toUpper_eq_toLower c hother⟩
    · rw [List.mem_append] at hother
      obtain rfl : c = '*' := by tauto
      decide
  · intro hletterless a b hab
    by_cases hstar : '*' ∈ pattern.toList
    · obtain ⟨front, back, hpattern⟩ := List.append_of_mem hstar
      have hparts := hletterless hstar
      rw [hpattern, List.forall_mem_append, List.forall_mem_cons] at hparts
      obtain ⟨hfront, -, hback⟩ := hparts
      -- The parts of one name lie at the places of the parts of the other, and are the same.
      have himp : ∀ a b : String, eqIgnoringCase a b = true →
          between front back a.toList = true → between front back b.toList = true := by
        intro a b hab h
        obtain ⟨middle, ha⟩ := between_iff.mp h
        rw [eqIgnoringCase_iff, ha] at hab
        obtain ⟨start, others, hb, hstart, hothers⟩ := hab.exists_append
        obtain ⟨middle', rest, rfl, -, hrest⟩ := hothers.exists_append
        rw [between_iff, hb, ← hstart.eq_of_letterless hfront, ← hrest.eq_of_letterless hback]
        exact ⟨middle', rfl⟩
      rw [isMatch_of_star hpattern hstars, isMatch_of_star hpattern hstars, Bool.eq_iff_iff]
      exact ⟨himp a b hab, himp b a (eqIgnoringCase_symm hab)⟩
    · rw [isMatch_of_not_mem hstar, isMatch_of_not_mem hstar, Bool.eq_iff_iff]
      exact ⟨fun h => eqIgnoringCase_trans h hab,
        fun h => eqIgnoringCase_trans h (eqIgnoringCase_symm hab)⟩

end Spellings

end EtlSurvey.Text.Glob

namespace EtlSurvey.Config
open Text Glob

/-- All patterns have at most one star. -/
def SinglyStarred (c : Config) : Prop :=
  ∀ pattern ∈ c.excludePackages, pattern.toList.count '*' ≤ 1

/-- Some pattern of the list covers the name. -/
def Covered (c : Config) (same : List Char → List Char → Prop) (name : String) : Prop :=
  ∃ pattern ∈ c.excludePackages, Covers same pattern name

/-- The list excludes all spellings of a name or none of them. -/
def ExcludesAlike (c : Config) : Prop :=
  ∀ a b, eqIgnoringCase a b = true → c.excludes a = c.excludes b

variable {c : Config}

theorem excludes_iff (h : c.SinglyStarred) (name : String) :
    c.excludes name = true ↔ c.Covered Eq name := by
  rw [excludes, List.any_eq_true]
  exact exists_congr fun pattern => and_congr_right fun hmem => isMatch_iff_covers (h pattern hmem)

theorem covered_alike_iff (h : c.SinglyStarred) (name : String) :
    c.Covered Alike name ↔
      ∃ spelling, eqIgnoringCase spelling name = true ∧ c.excludes spelling = true := by
  simp only [excludes_iff h, Covered, covers_alike_iff]
  constructor
  · rintro ⟨pattern, hmem, spelling, hspelling, hcovers⟩
    exact ⟨spelling, hspelling, pattern, hmem, hcovers⟩
  · rintro ⟨spelling, hspelling, pattern, hmem, hcovers⟩
    exact ⟨pattern, hmem, spelling, hspelling, hcovers⟩

theorem excludesAlike_iff (h : c.SinglyStarred) :
    c.ExcludesAlike ↔ ∀ name, c.excludes name = true ↔ c.Covered Alike name := by
  constructor
  · intro halike name
    rw [covered_alike_iff h]
    constructor
    · exact fun hname => ⟨name, beq_self_eq_true _, hname⟩
    · rintro ⟨spelling, hspelling, hexcluded⟩
      exact halike spelling name hspelling ▸ hexcluded
  · intro hcovered a b hab
    have himp : ∀ a b, eqIgnoringCase a b = true → c.excludes a = true → c.excludes b = true :=
      fun a b hab ha => (hcovered b).mpr ((covered_alike_iff h b).mpr ⟨a, hab, ha⟩)
    rw [Bool.eq_iff_iff]
    exact ⟨himp a b hab, himp b a (eqIgnoringCase_symm hab)⟩

theorem excludesAlike_of_caseBlind (h : ∀ pattern ∈ c.excludePackages, CaseBlind pattern) :
    c.ExcludesAlike := by
  intro a b hab
  rw [excludes, excludes, Bool.eq_iff_iff, List.any_eq_true, List.any_eq_true]
  refine exists_congr fun pattern => and_congr_right fun hmem => ?_
  rw [h pattern hmem a b hab]

/-- Which names a list excludes whose patterns have at most one star. Beside a star case counts, so
of the names that would be covered with case ignored the list excludes some spelling, and it
excludes all of them exactly if it decides all spellings of a name alike. A pattern does so by
itself if and only if no letters stand beside its star, and a list does if its patterns do. -/
theorem excluded_names_covered (h : c.SinglyStarred) :
    (∀ name, c.excludes name = true ↔ c.Covered Eq name) ∧
    (∀ name, c.Covered Alike name ↔
      ∃ spelling, eqIgnoringCase spelling name = true ∧ c.excludes spelling = true) ∧
    (c.ExcludesAlike ↔ ∀ name, c.excludes name = true ↔ c.Covered Alike name) ∧
    (∀ pattern ∈ c.excludePackages, CaseBlind pattern ↔
      ('*' ∈ pattern.toList → ∀ letter ∈ pattern.toList, letter.isAlpha = false)) ∧
    ((∀ pattern ∈ c.excludePackages, CaseBlind pattern) → c.ExcludesAlike) :=
  ⟨excludes_iff h, covered_alike_iff h, excludesAlike_iff h,
    fun pattern hmem => caseBlind_iff (h pattern hmem), excludesAlike_of_caseBlind⟩

/-- A list that leaves out old packages and one more. -/
def legacyList : Config := { excludePackages := ["Legacy*", "Scratch"] }

theorem excluded_names_covered_legacyList :
    legacyList.SinglyStarred ∧ legacyList.Covered Eq "Legacy_Orders" ∧
      legacyList.Covered Alike "SCRATCH" ∧ CaseBlind "Scratch" := by
  have hstars : legacyList.SinglyStarred := by
    unfold SinglyStarred
    decide
  obtain ⟨hexact, hloose, -, hblind, -⟩ := excluded_names_covered hstars
  refine ⟨hstars, (hexact _).mp (by decide), (hloose _).mpr ⟨"scratch", by decide, by decide⟩, ?_⟩
  exact (hblind "Scratch" (by decide)).mpr (by decide)

/-- A name that the list would cover with case ignored is not excluded, although another spelling
of it is. -/
theorem legacy_spelling_not_excluded :
    legacyList.SinglyStarred ∧ legacyList.Covered Alike "legacy_orders" ∧
      legacyList.excludes "legacy_orders" = false ∧
      eqIgnoringCase "Legacy_Orders" "legacy_orders" = true ∧
      legacyList.excludes "Legacy_Orders" = true := by
  have hpattern : "Legacy*".toList = "Legacy".toList ++ '*' :: [] := by decide
  have hname : "legacy_orders".toList = "legacy".toList ++ ("_orders".toList ++ []) := by decide
  have hfront : Alike "Legacy".toList "legacy".toList := by
    unfold Alike
    decide
  refine ⟨?_, ⟨"Legacy*", by decide, .star hpattern hname hfront rfl⟩, by decide, by decide,
    by decide⟩
  unfold SinglyStarred
  decide

end EtlSurvey.Config
