import EtlSurvey.Expression.Reference
import EtlSurvey.Proofs.Lists

/-! # References as they are written

What a reference looks like is told without the reader. The reader takes the references of a family
from left to right, so it finds none exactly if none is written anywhere in the text. -/

namespace EtlSurvey.Expression
open Text

/-- What stands in front of the name in a reference of the scope. -/
def opening (scope : String) : List Char := '@' :: '[' :: (scope.toList ++ [':', ':'])

/-- The characters of a reference. -/
def Reference.written (r : Reference) : List Char := opening r.scope ++ (r.name.toList ++ [']'])

/-- A complete reference of the family. -/
structure Reference.IsOf (r : Reference) (family : Family) : Prop where
  scope_mem : r.scope ∈ family.scopes
  named : r.name.toList ≠ []
  closed : ']' ∉ r.name.toList

/-- A complete reference of the family stands in front. -/
def BeginsWith (family : Family) (s : List Char) : Prop :=
  ∃ r : Reference, r.IsOf family ∧ r.written <+: s

/-- No complete reference of the families stands anywhere. -/
def Free (families : List Family) (s : List Char) : Prop :=
  ∀ family ∈ families, ∀ r : Reference, r.IsOf family → ¬ r.written <:+: s

section Written

variable {family family' : Family} {r r' : Reference} {s t : List Char}

/-- The scopes are plain words apart from a sign in front. -/
theorem scope_plain (family : Family) : ∀ scope ∈ family.scopes,
    ':' ∉ scope.toList ∧ ']' ∉ scope.toList ∧ '@' ∉ scope.toList := by
  cases family <;> decide

theorem opening_plain (family : Family) : ∀ scope ∈ family.scopes,
    ']' ∉ opening scope ∧ '\x7b' ∉ opening scope := by
  cases family <;> decide

theorem family_eq (h : r.scope ∈ family.scopes) (h' : r.scope ∈ family'.scopes) :
    family = family' := by
  have hdisjoint : ∀ scope ∈ Family.variable.scopes, scope ∉ Family.parameter.scopes := by decide
  cases family <;> cases family'
  · rfl
  · exact absurd h' (hdisjoint _ h)
  · exact absurd h (hdisjoint _ h')
  · rfl

theorem written_append (r : Reference) (s : List Char) :
    r.written ++ s =
      '@' :: '[' :: (r.scope.toList ++ ':' :: ':' :: (r.name.toList ++ ']' :: s)) := by
  simp [Reference.written, opening]

/-- Only one reference can stand in front. -/
theorem Reference.IsOf.eq_of_prefix (h : r.IsOf family) (h' : r'.IsOf family')
    (hr : r.written <+: s) (hr' : r'.written <+: s) : r = r' := by
  obtain ⟨z, rfl⟩ := hr
  obtain ⟨z', heq⟩ := hr'
  rw [written_append, written_append, List.cons_inj_right, List.cons_inj_right] at heq
  obtain ⟨hscope, hrest⟩ := append_cons_inj (scope_plain _ _ h'.scope_mem).1
    (scope_plain _ _ h.scope_mem).1 heq
  obtain ⟨hname, -⟩ := append_cons_inj h'.closed h.closed (List.cons.inj hrest).2
  obtain ⟨scope, name⟩ := r
  obtain rfl := String.toList_inj.mp hscope
  obtain rfl := String.toList_inj.mp hname
  rfl

theorem Reference.IsOf.family_eq_of_beginsWith (h : r.IsOf family)
    (hbegins : BeginsWith family' (r.written ++ s)) : family' = family := by
  obtain ⟨r', h', hpre⟩ := hbegins
  obtain rfl := h.eq_of_prefix h' (List.prefix_append _ _) hpre
  exact family_eq h'.scope_mem h.scope_mem

end Written

section Reader

variable {family : Family} {r : Reference} {s : List Char} {c : Char}

theorem afterText?_eq_some_iff {front : String} {rest : List Char} :
    afterText? front s = some rest ↔ s = front.toList ++ rest := by
  rw [afterText?]
  split
  · next h =>
    obtain ⟨z, rfl⟩ := List.isPrefixOf_iff_prefix.mp h
    rw [List.drop_left, Option.some.injEq, List.append_cancel_left_eq]
  · next h =>
    constructor
    · intro hnone
      cases hnone
    · rintro rfl
      exact absurd (List.isPrefixOf_iff_prefix.mpr (List.prefix_append _ _)) h

theorem bracketed?_eq_some_iff {body : List Char} :
    bracketed? s = some body ↔ body ≠ [] ∧ ']' ∉ body ∧ body ++ [']'] <+: s := by
  by_cases hmem : ']' ∈ s
  · obtain ⟨front, rest, rfl, hfront⟩ := List.eq_append_cons_of_mem hmem
    have hvalue : bracketed? (front ++ ']' :: rest) = if front = [] then none else some front := by
      simp [bracketed?, takeWhile_bne_append_cons hfront]
    rw [hvalue]
    constructor
    · intro hsome
      split at hsome
      · cases hsome
      · next hne =>
        obtain rfl := Option.some.inj hsome
        exact ⟨hne, hfront, rest, by simp⟩
    · rintro ⟨hne, hbody, z, heq⟩
      rw [List.append_assoc, List.singleton_append] at heq
      obtain ⟨rfl, -⟩ := append_cons_inj hbody hfront heq
      exact if_neg hne
  · simp only [bracketed?, takeWhile_bne_of_not_mem hmem, beq_self_eq_true, Bool.or_true, if_true]
    constructor
    · intro hnone
      cases hnone
    · rintro ⟨-, -, hpre⟩
      exact absurd (hpre.subset (List.mem_append_right _ (List.mem_singleton_self _))) hmem

theorem toList_opening (scope : String) : ("@[" ++ scope ++ "::").toList = opening scope := by
  rw [String.toList_append, String.toList_append]
  rfl

theorem of_referenceAt? {n : Nat} (h : referenceAt? family s = some (r, n)) :
    r.IsOf family ∧ r.written <+: s ∧ n = r.written.length := by
  obtain ⟨scope, hscope, hfound⟩ := List.exists_of_findSome?_eq_some h
  simp only [Option.bind_eq_bind, Option.bind_eq_some_iff, afterText?_eq_some_iff,
    bracketed?_eq_some_iff, Option.pure_def, Option.some.injEq, Prod.mk.injEq] at hfound
  obtain ⟨rest, rfl, name, ⟨hne, hclosed, hpre⟩, rfl, rfl⟩ := hfound
  refine ⟨⟨hscope, ?_, ?_⟩, ?_, ?_⟩
  · rwa [String.toList_ofList]
  · rwa [String.toList_ofList]
  · rw [toList_opening, Reference.written, String.toList_ofList]
    exact (List.prefix_append_right_inj _).mpr hpre
  · rw [← String.length_toList, toList_opening, Reference.written, String.toList_ofList,
      List.length_append, List.length_append, List.length_singleton, Nat.add_assoc]

theorem referenceAt?_eq_some_iff {n : Nat} : referenceAt? family s = some (r, n) ↔
    r.IsOf family ∧ r.written <+: s ∧ n = r.written.length := by
  refine ⟨of_referenceAt?, ?_⟩
  rintro ⟨hr, hpre, rfl⟩
  have hsome : (referenceAt? family s).isSome := by
    obtain ⟨z, rfl⟩ := hpre
    refine List.findSome?_isSome_iff.mpr ⟨r.scope, hr.scope_mem, Option.isSome_iff_exists.mpr ?_⟩
    simp only [Option.bind_eq_bind, Option.bind_eq_some_iff, afterText?_eq_some_iff,
      bracketed?_eq_some_iff, Option.pure_def, Option.some.injEq, toList_opening]
    exact ⟨_, _, List.append_assoc _ _ _, _, ⟨hr.named, hr.closed, List.prefix_append _ _⟩, rfl⟩
  obtain ⟨⟨r', n⟩, hfound⟩ := Option.isSome_iff_exists.mp hsome
  obtain ⟨hr', hpre', rfl⟩ := of_referenceAt? hfound
  rw [hfound, hr.eq_of_prefix hr' hpre hpre']

theorem referenceAt?_eq_none_iff : referenceAt? family s = none ↔ ¬ BeginsWith family s := by
  rw [Option.eq_none_iff_forall_ne_some]
  simp only [Prod.forall, ne_eq, referenceAt?_eq_some_iff, BeginsWith]
  constructor
  · rintro h ⟨r, hr, hpre⟩
    exact h r _ ⟨hr, hpre, rfl⟩
  · rintro h r _ ⟨hr, hpre, -⟩
    exact h ⟨r, hr, hpre⟩

theorem piecesFrom_drop (family : Family) (n : Nat) (s : List Char) :
    piecesFrom family n s = piecesFrom family 0 (s.drop n) := by
  induction s generalizing n with
  | nil => cases n <;> rfl
  | cons c rest ih =>
    cases n with
    | zero => rfl
    | succ taken => exact ih taken

theorem piecesFrom_reference (hr : r.IsOf family) (s : List Char) :
    piecesFrom family 0 (r.written ++ s) = .reference r :: piecesFrom family 0 s := by
  have hfound : referenceAt? family (r.written ++ s) = some (r, r.written.length) :=
    referenceAt?_eq_some_iff.mpr ⟨hr, List.prefix_append _ _, rfl⟩
  have hrest : r.written ++ s = '@' :: (r.written.tail ++ s) := rfl
  rw [hrest] at hfound ⊢
  rw [piecesFrom, hfound]
  dsimp only
  rw [piecesFrom_drop, ← List.length_tail, List.drop_left]

theorem piecesFrom_plain (h : ¬ BeginsWith family (c :: s)) :
    piecesFrom family 0 (c :: s) = .plain c :: piecesFrom family 0 s := by
  rw [piecesFrom, referenceAt?_eq_none_iff.mpr h]

end Reader

section Free

variable {families : List Family} {family : Family} {r : Reference} {s : List Char} {c : Char}

theorem free_nil : Free families [] := fun _ _ _ _ h => by
  cases List.infix_nil.mp h

theorem free_cons : Free families (c :: s) ↔
    (∀ family ∈ families, ¬ BeginsWith family (c :: s)) ∧ Free families s := by
  simp only [Free, BeginsWith, List.infix_cons_iff, not_or, not_exists, not_and]
  constructor
  · intro h
    exact ⟨fun family hfamily r hr => (h family hfamily r hr).1,
      fun family hfamily r hr => (h family hfamily r hr).2⟩
  · rintro ⟨hfront, hrest⟩ family hfamily r hr
    exact ⟨hfront family hfamily r hr, hrest family hfamily r hr⟩

theorem not_free_reference (hfamily : family ∈ families) (hr : r.IsOf family) :
    ¬ Free families (r.written ++ s) :=
  fun h => h family hfamily r hr List.infix_append_left

/-- A text is read from left to right by taking a reference where one stands in front, and else one
character. -/
theorem read_induction (families : List Family) {motive : List Char → Prop} (nil : motive [])
    (reference : ∀ family ∈ families, ∀ (r : Reference) (s : List Char), r.IsOf family →
      motive s → motive (r.written ++ s))
    (plain : ∀ (c : Char) (s : List Char), (∀ family ∈ families, ¬ BeginsWith family (c :: s)) →
      motive s → motive (c :: s))
    (s : List Char) : motive s := by
  induction hlength : s.length using Nat.strong_induction_on generalizing s with
  | _ n ih =>
    subst hlength
    by_cases h : ∃ family ∈ families, BeginsWith family s
    · obtain ⟨family, hfamily, r, hr, rest, rfl⟩ := h
      refine reference family hfamily r rest hr (ih rest.length ?_ rest rfl)
      rw [List.length_append]
      exact Nat.lt_add_of_pos_left (Nat.succ_pos _)
    · match s with
      | [] => exact nil
      | c :: rest =>
        exact plain c rest (fun family hfamily hbegins => h ⟨family, hfamily, hbegins⟩)
          (ih rest.length (Nat.lt_succ_self _) rest rfl)

theorem forall_reference_notMem_iff (family : Family) (s : List Char) :
    (∀ r, .reference r ∉ piecesFrom family 0 s) ↔ Free [family] s := by
  induction s using read_induction [family] with
  | nil => exact ⟨fun _ => free_nil, fun _ _ => List.not_mem_nil⟩
  | reference other hother r s hr ih =>
    obtain rfl := List.mem_singleton.mp hother
    rw [piecesFrom_reference hr]
    exact iff_of_false (fun h => h r List.mem_cons_self) (not_free_reference hother hr)
  | plain c s hplain ih =>
    rw [piecesFrom_plain (hplain family (List.mem_singleton_self _)), free_cons, ← ih,
      and_iff_right hplain]
    simp only [List.mem_cons, reduceCtorEq, false_or]

theorem mem_references {text : String} :
    r ∈ references family text ↔ .reference r ∈ piecesFrom family 0 text.toList := by
  rw [references, List.mem_filterMap]
  constructor
  · rintro ⟨piece, hpiece, heq⟩
    cases piece with
    | plain c => cases heq
    | reference other => exact Option.some.inj heq ▸ hpiece
  · exact fun h => ⟨_, h, rfl⟩

/-- No references are listed exactly if none is written in the text. -/
theorem paths_eq_nil_iff (family : Family) (text : String) :
    paths family text = [] ↔ Free [family] text.toList := by
  have hpaths : paths family text = [] ↔ references family text = [] := by
    simp only [paths, List.eq_nil_iff_forall_not_mem, mem_sortedDistinct, List.mem_map, not_exists,
      not_and]
    exact ⟨fun h r hr => h r.path r hr rfl, fun h _ r hr _ => h r hr⟩
  rw [hpaths, ← forall_reference_notMem_iff, List.eq_nil_iff_forall_not_mem]
  exact forall_congr' fun r => not_congr mem_references

/-- What it is for a text to have a bracketed reference, of whatever kind. -/
theorem hasReferencesList_iff : hasReferencesList s = true ↔
    ∃ body : List Char, body ≠ [] ∧ ']' ∉ body ∧ '@' :: '[' :: (body ++ [']']) <:+: s := by
  induction s with
  | nil => simp [hasReferencesList]
  | cons c rest ih =>
    have hfront : ((afterText? "@[" (c :: rest)).bind bracketed?).isSome ↔
        ∃ body : List Char, body ≠ [] ∧ ']' ∉ body ∧
          '@' :: '[' :: (body ++ [']']) <+: c :: rest := by
      simp only [Option.isSome_iff_exists, Option.bind_eq_some_iff, afterText?_eq_some_iff,
        bracketed?_eq_some_iff]
      constructor
      · rintro ⟨body, s, heq, hne, hclosed, z, rfl⟩
        exact ⟨body, hne, hclosed, z, heq.symm⟩
      · rintro ⟨body, hne, hclosed, z, heq⟩
        exact ⟨body, _, heq.symm, hne, hclosed, List.prefix_append _ _⟩
    rw [hasReferencesList, Bool.or_eq_true, hfront, ih, ← exists_or]
    simp only [List.infix_cons_iff, and_or_left]

/-- Where a reference of a family is written, there is a bracketed reference. -/
theorem hasReferences_of_not_free {text : String} (h : ¬ Free families text.toList) :
    hasReferences text = true := by
  simp only [Free, not_forall, not_not] at h
  obtain ⟨family, -, r, hr, hin⟩ := h
  refine hasReferencesList_iff.mpr
    ⟨r.scope.toList ++ ':' :: ':' :: r.name.toList, by simp, ?_, ?_⟩
  · simp only [List.mem_append, List.mem_cons, not_or]
    exact ⟨(scope_plain _ _ hr.scope_mem).2.1, by decide, by decide, hr.closed⟩
  · simpa [Reference.written, opening] using hin

end Free

end EtlSurvey.Expression
