import EtlSurvey.Expression.Template
import EtlSurvey.Proofs.Expression.References
import EtlSurvey.Proofs.Text.Lower

/-! # References replaced by templates

The variables are replaced first and the parameters in what comes of that. A template that the first
pass puts in cannot make a reference for the second: a reference that reached into it would have
stood in the text before, around the one that was replaced. So unless one reference encloses
another, both passes are one simultaneous replacement and no reference is left. In any text the
closing brackets count what is replaced, and nothing changes exactly if there is no reference. -/

namespace EtlSurvey.Expression
open Text

/-- Both families of references. -/
def Family.both : List Family := [.variable, .parameter]

/-- From left to right, each reference of the families goes for its template, and every other
character stays. -/
inductive Replaces (style : TemplateStyle) (families : List Family) : List Char → List Char → Prop
  | done : Replaces style families [] []
  | reference {family r s t} (hfamily : family ∈ families) (hr : r.IsOf family)
      (hrest : Replaces style families s t) :
      Replaces style families (r.written ++ s) ((style.render family r).toList ++ t)
  | plain {c s t} (hplain : ∀ family ∈ families, ¬ BeginsWith family (c :: s))
      (hrest : Replaces style families s t) : Replaces style families (c :: s) (c :: t)

/-- What opens a reference. -/
def mark : List Char := ['@', '[']

/-- No complete reference has a second mark in front of its closing bracket. -/
def Unnested (s : List Char) : Prop :=
  ∀ family, ∀ r : Reference, r.IsOf family → r.written <:+: s → ¬ mark <:+: r.name.toList

/-- No reference begins among these characters, whatever follows them. -/
structure Shut (s : List Char) : Prop where
  inside : ¬ mark <:+: s
  atEnd : ¬ ['@'] <:+ s

section Marks

variable {family : Family} {r : Reference} {a b s t : List Char} {c : Char}

theorem mark_infix_append_iff :
    mark <:+: a ++ b ↔ mark <:+: a ∨ mark <:+: b ∨ (['@'] <:+ a ∧ ['['] <+: b) := by
  rw [List.infix_append_iff_ne_nil]
  refine or_congr_right (or_congr_right ⟨?_, ?_⟩)
  · rintro ⟨front, back, hfront, hback, heq, ha, hb⟩
    obtain ⟨c, front, rfl⟩ := List.exists_cons_of_ne_nil hfront
    obtain ⟨d, back, rfl⟩ := List.exists_cons_of_ne_nil hback
    have hlength := congrArg List.length heq
    simp only [mark, List.length_append, List.length_cons, List.length_nil] at hlength
    obtain rfl := List.eq_nil_of_length_eq_zero (l := front) (by omega)
    obtain rfl := List.eq_nil_of_length_eq_zero (l := back) (by omega)
    obtain ⟨rfl, rfl⟩ : '@' = c ∧ '[' = d := by simpa [mark] using heq
    exact ⟨ha, hb⟩
  · rintro ⟨ha, hb⟩
    exact ⟨_, _, List.cons_ne_nil _ _, List.cons_ne_nil _ _, rfl, ha, hb⟩

theorem mark_infix_of_append_left (hb : '[' ∉ b) (h : mark <:+: a ++ b) : mark <:+: a := by
  obtain ha | hb' | ⟨-, hb'⟩ := mark_infix_append_iff.mp h
  · exact ha
  · exact absurd (hb'.subset (by decide)) hb
  · exact absurd (hb'.subset (by decide)) hb

theorem mark_infix_of_append_right (ha : '@' ∉ a) (h : mark <:+: a ++ b) : mark <:+: b := by
  obtain ha' | hb | ⟨ha', -⟩ := mark_infix_append_iff.mp h
  · exact absurd (ha'.subset (by decide)) ha
  · exact hb
  · exact absurd (ha'.subset (by decide)) ha

theorem BeginsWith.mark_prefix (h : BeginsWith family s) : mark <+: s := by
  obtain ⟨r, -, hpre⟩ := h
  exact List.IsPrefix.trans ⟨r.scope.toList ++ [':', ':'] ++ (r.name.toList ++ [']']), rfl⟩ hpre

theorem Shut.of_suffix (h : Shut s) (hsuffix : t <:+ s) : Shut t :=
  ⟨fun hmark => h.inside (hmark.trans hsuffix.isInfix), fun hend => h.atEnd (hend.trans hsuffix)⟩

theorem Shut.not_mark_prefix (h : Shut s) (hne : s ≠ []) : ¬ mark <+: s ++ t := by
  intro hmark
  match s with
  | [] => exact hne rfl
  | [c] =>
    obtain ⟨rfl, -⟩ := List.cons_prefix_cons.mp hmark
    exact h.atEnd (List.suffix_refl _)
  | c :: d :: rest =>
    obtain ⟨rfl, hmore⟩ := List.cons_prefix_cons.mp hmark
    obtain ⟨rfl, -⟩ := List.cons_prefix_cons.mp hmore
    exact h.inside ⟨[], rest, rfl⟩

theorem Shut.not_beginsWith (h : Shut s) (hne : s ≠ []) : ¬ BeginsWith family (s ++ t) :=
  fun hbegins => h.not_mark_prefix hne hbegins.mark_prefix

/-- Behind its first character, a reference is shut if its name has no mark. -/
theorem Reference.IsOf.shut_tail (hr : r.IsOf family) (hname : ¬ mark <:+: r.name.toList) :
    Shut r.written.tail := by
  have htail : r.written.tail = '[' :: (r.scope.toList ++ [':', ':']) ++ (r.name.toList ++ [']']) :=
    rfl
  have hfront : '@' ∉ '[' :: (r.scope.toList ++ [':', ':']) := by
    simp [(scope_plain _ _ hr.scope_mem).2.2]
  rw [htail]
  refine ⟨fun hmark => hname ?_, ?_⟩
  · exact mark_infix_of_append_left (by decide) (mark_infix_of_append_right hfront hmark)
  · rw [← List.append_assoc, List.singleton_suffix_append_singleton_iff]
    decide

theorem free_append_shut {families : List Family} (ht : Shut t) (hs : Free families s) :
    Free families (t ++ s) := by
  induction t with
  | nil => exact hs
  | cons c rest ih =>
    exact free_cons.mpr ⟨fun _ _ => ht.not_beginsWith (List.cons_ne_nil _ _),
      ih (ht.of_suffix (List.suffix_cons _ _))⟩

/-- What ends in a character that the first part does not have reaches into the second part. -/
theorem exists_of_prefix_append (hc : c ∉ a) (h : t ++ [c] <+: a ++ b) :
    ∃ front, t = a ++ front ∧ front ++ [c] <+: b := by
  obtain ⟨z, heq⟩ := h
  rw [List.append_assoc] at heq
  obtain ⟨front, rfl, hrest⟩ | ⟨front, rfl, hrest⟩ := List.append_eq_append_iff.mp heq
  · match front with
    | [] => exact ⟨[], by simp, z, by simpa using hrest⟩
    | d :: more =>
      obtain ⟨rfl, -⟩ := List.cons.inj hrest
      simp at hc
  · exact ⟨front, rfl, z, by rw [hrest, List.append_assoc]⟩

theorem Unnested.of_suffix (h : Unnested s) (hsuffix : t <:+ s) : Unnested t :=
  fun family r hr hin => h family r hr (hin.trans hsuffix.isInfix)

end Marks

section Templates

variable {style : TemplateStyle} {family : Family} {r : Reference}

/-- A template is the name, lowered or not, between braces and words. -/
theorem render_eq (style : TemplateStyle) (family : Family) (r : Reference) :
    ∃ (front back : List Char) (name : String),
      (style.render family r).toList = '\x7b' :: (front ++ (name.toList ++ (back ++ ['\x7d']))) ∧
      (name = r.name ∨ name = lower r.name) ∧
      '@' ∉ front ∧ '[' ∉ back ∧ ']' ∉ front ∧ ']' ∉ back := by
  cases style with
  | dbt =>
    exact ⟨"\x7b var('".toList, "') \x7d".toList, _, by simp [TemplateStyle.render, braced],
      .inr rfl, by decide⟩
  | airflow =>
    cases family with
    | parameter =>
      exact ⟨"\x7b params.".toList, " \x7d".toList, _, by simp [TemplateStyle.render, braced],
        .inl rfl, by decide⟩
    | «variable» =>
      by_cases huser : r.scope = "User"
      · exact ⟨"\x7b dag_run.conf.get('".toList, "', '') \x7d".toList, _,
          by simp [TemplateStyle.render, braced, huser], .inl rfl, by decide⟩
      · exact ⟨"\x7b var.value.".toList, " \x7d".toList, _,
          by simp [TemplateStyle.render, braced, huser], .inr rfl, by decide⟩

theorem exists_render_cons (style : TemplateStyle) (family : Family) (r : Reference) :
    ∃ rest, (style.render family r).toList = '\x7b' :: rest := by
  obtain ⟨front, back, name, heq, -⟩ := render_eq style family r
  exact ⟨_, heq⟩

theorem not_mem_render (h : ']' ∉ r.name.toList) : ']' ∉ (style.render family r).toList := by
  obtain ⟨front, back, name, heq, hname, -, -, hfront, hback⟩ := render_eq style family r
  have hinside : ']' ∉ name.toList := by
    obtain rfl | rfl := hname
    · exact h
    · exact mt (mem_of_mem_lower (by decide)) h
  rw [heq]
  simp [hinside, hfront, hback]

theorem isLow_mark : ∀ c ∈ mark, IsLow c :=
  List.forall_mem_cons.mpr ⟨by decide, List.forall_mem_singleton.mpr (by decide)⟩

/-- No reference begins in a template if its name has no mark. -/
theorem shut_render (h : ¬ mark <:+: r.name.toList) : Shut (style.render family r).toList := by
  obtain ⟨front, back, name, heq, hname, hfront, hback, -, -⟩ := render_eq style family r
  have hinside : ¬ mark <:+: name.toList := by
    obtain rfl | rfl := hname
    · exact h
    · exact mt (infix_of_infix_lower isLow_mark) h
  have hbefore : '@' ∉ '\x7b' :: front := by simp [hfront]
  have hbehind : '[' ∉ back ++ ['\x7d'] := by simp [hback]
  rw [heq, ← List.cons_append]
  refine ⟨fun hmark => hinside ?_, ?_⟩
  · exact mark_infix_of_append_left hbehind (mark_infix_of_append_right hbefore hmark)
  · rw [← List.append_assoc, ← List.append_assoc, List.singleton_suffix_append_singleton_iff]
    decide

end Templates

namespace Replaces

variable {style : TemplateStyle} {families : List Family} {family : Family} {r : Reference}
  {s t u w : List Char}

theorem exists_replaces (style : TemplateStyle) (families : List Family) (s : List Char) :
    ∃ t, Replaces style families s t := by
  induction s using read_induction families with
  | nil => exact ⟨_, .done⟩
  | reference family hfamily r s hr ih =>
    obtain ⟨t, h⟩ := ih
    exact ⟨_, .reference hfamily hr h⟩
  | plain c s hplain ih =>
    obtain ⟨t, h⟩ := ih
    exact ⟨_, .plain hplain h⟩

/-- Replacing a family is what its pieces come to. -/
theorem eq_flatMap (h : Replaces style [family] s t) :
    t = (piecesFrom family 0 s).flatMap (style.renderPiece family) := by
  induction h with
  | done => rfl
  | reference hfamily hr _ ih =>
    obtain rfl := List.mem_singleton.mp hfamily
    rw [piecesFrom_reference hr, List.flatMap_cons, ← ih]
    rfl
  | plain hplain _ ih =>
    rw [piecesFrom_plain (hplain family (List.mem_singleton_self _)), List.flatMap_cons, ← ih]
    rfl

theorem iff_substitute {text : String} :
    Replaces style [family] text.toList t ↔ t = (substitute style family text).toList := by
  rw [substitute, String.toList_ofList]
  constructor
  · exact eq_flatMap
  · rintro rfl
    obtain ⟨t, h⟩ := exists_replaces style [family] text.toList
    exact h.eq_flatMap ▸ h

/-- Where no reference begins, the characters stay. -/
theorem append_shut (h : Replaces style families s t) (hw : Shut w) :
    Replaces style families (w ++ s) (w ++ t) := by
  induction w with
  | nil => exact h
  | cons c rest ih =>
    exact .plain (fun _ _ => hw.not_beginsWith (List.cons_ne_nil _ _))
      (ih (hw.of_suffix (List.suffix_cons _ _)))

/-- A bracket that closes in the result closed in the text as well, unless something in front of it
has been replaced. -/
theorem closing_prefix (h : Replaces style families s u) (hclosing : w ++ [']'] <+: u) :
    w ++ [']'] <+: s ∨ ∃ (v : List Char) (family : Family) (r : Reference),
      v ++ ['\x7b'] <+: w ∧ r.IsOf family ∧ v ++ r.written <+: s := by
  induction h generalizing w with
  | done => exact absurd (List.prefix_nil.mp hclosing) (by simp)
  | @reference family r s t hfamily hr hrest ih =>
    obtain ⟨rest, hrender⟩ := exists_render_cons style family r
    rw [hrender, List.cons_append] at hclosing
    match w with
    | [] => exact absurd (List.cons_prefix_cons.mp hclosing).1 (by decide)
    | c :: w =>
      obtain ⟨rfl, -⟩ := List.cons_prefix_cons.mp hclosing
      exact .inr ⟨[], family, r, ⟨w, rfl⟩, hr, List.prefix_append _ _⟩
  | @plain c s t hplain hrest ih =>
    match w with
    | [] =>
      obtain ⟨rfl, -⟩ := List.cons_prefix_cons.mp hclosing
      exact .inl ⟨s, rfl⟩
    | d :: w =>
      obtain ⟨rfl, hmore⟩ := List.cons_prefix_cons.mp hclosing
      obtain hin | ⟨v, family, r, hv, hr, hin⟩ := ih hmore
      · exact .inl (List.cons_prefix_cons.mpr ⟨rfl, hin⟩)
      · exact .inr ⟨d :: v, family, r, List.cons_prefix_cons.mpr ⟨rfl, hv⟩, hr,
          List.cons_prefix_cons.mpr ⟨rfl, hin⟩⟩

/-- A reference in front of the result comes from one in front of the text: what is replaced within
it begins behind its opening, so in the text it encloses a reference instead of a template. -/
theorem beginsWith (h : Replaces style families s u) (hbegins : BeginsWith family u) :
    BeginsWith family s := by
  obtain ⟨r, hr, hpre⟩ := hbegins
  rw [Reference.written, ← List.append_assoc] at hpre
  obtain hin | ⟨v, other, inner, hv, hinner, hin⟩ := h.closing_prefix hpre
  · exact ⟨r, hr, by rwa [Reference.written, ← List.append_assoc]⟩
  · obtain ⟨front, rfl, hfront⟩ := exists_of_prefix_append (opening_plain _ _ hr.scope_mem).2 hv
    refine ⟨⟨r.scope, String.ofList (front ++ (opening inner.scope ++ inner.name.toList))⟩,
      ⟨hr.scope_mem, by simp [opening], ?closed⟩, ?written⟩
    case closed =>
      have hfree : ']' ∉ front :=
        fun hmem => hr.closed (hfront.subset (List.mem_append_left _ hmem))
      simp [hfree, (opening_plain _ _ hinner.scope_mem).1, hinner.closed]
    case written =>
      simpa [Reference.written] using hin

/-- Without nested references, both passes together replace the references of both families. -/
theorem passes (h : Replaces style Family.both s t) (hun : Unnested s) :
    ∃ u, Replaces style [.variable] s u ∧ Replaces style [.parameter] u t := by
  induction h with
  | done => exact ⟨[], .done, .done⟩
  | @reference family r s t hfamily hr hrest ih =>
    have hname : ¬ mark <:+: r.name.toList := hun family r hr List.infix_append_left
    obtain ⟨u, hvariables, hparameters⟩ := ih (hun.of_suffix (List.suffix_append _ _))
    cases family with
    | «variable» =>
      exact ⟨_, .reference (List.mem_singleton_self _) hr hvariables,
        hparameters.append_shut (shut_render hname)⟩
    | parameter =>
      refine ⟨r.written ++ u, ?_, .reference (List.mem_singleton_self _) hr hparameters⟩
      refine .plain (fun family hfamily hbegins => ?_)
        (hvariables.append_shut (hr.shut_tail hname))
      obtain rfl := List.mem_singleton.mp hfamily
      exact absurd (hr.family_eq_of_beginsWith hbegins) (by decide)
  | @plain c s t hplain hrest ih =>
    obtain ⟨u, hvariables, hparameters⟩ := ih (hun.of_suffix (List.suffix_cons _ _))
    have hfront : Replaces style [.variable] (c :: s) (c :: u) :=
      .plain (List.forall_mem_singleton.mpr (hplain .variable (by decide))) hvariables
    refine ⟨c :: u, hfront, .plain (fun family hfamily hbegins => ?_) hparameters⟩
    obtain rfl := List.mem_singleton.mp hfamily
    exact hplain .parameter (by decide) (hfront.beginsWith hbegins)

/-- Without nested references, none of those that are replaced is left. -/
theorem free (h : Replaces style families s t) (hun : Unnested s) : Free families t := by
  induction h with
  | done => exact free_nil
  | @reference family r s t hfamily hr hrest ih =>
    have hname : ¬ mark <:+: r.name.toList := hun family r hr List.infix_append_left
    exact free_append_shut (shut_render hname) (ih (hun.of_suffix (List.suffix_append _ _)))
  | @plain c s t hplain hrest ih =>
    have hfront : Replaces style families (c :: s) (c :: t) := .plain hplain hrest
    have hrestFree := ih (hun.of_suffix (List.suffix_cons _ _))
    refine free_cons.mpr ⟨fun family hfamily hbegins => ?_, hrestFree⟩
    exact hplain family hfamily (hfront.beginsWith hbegins)

theorem eq_self (h : Replaces style families s t) (hfree : Free families s) : t = s := by
  induction h with
  | done => rfl
  | reference hfamily hr _ _ => exact absurd hfree (not_free_reference hfamily hr)
  | plain _ _ ih => rw [ih (free_cons.mp hfree).2]

/-- The closing brackets of what is replaced are gone. -/
theorem count_le (h : Replaces style families s t) :
    t.count ']' ≤ s.count ']' ∧ (t.count ']' = s.count ']' → Free families s) := by
  induction h with
  | done => exact ⟨Nat.le_refl _, fun _ => free_nil⟩
  | @reference family r s t hfamily hr hrest ih =>
    have hrender : (style.render family r).toList.count ']' = 0 :=
      List.count_eq_zero.mpr (not_mem_render hr.closed)
    have hwritten : 0 < r.written.count ']' := List.count_pos_iff.mpr (by simp [Reference.written])
    rw [List.count_append, List.count_append]
    omega
  | @plain c s t hplain hrest ih =>
    rw [List.count_cons, List.count_cons, free_cons]
    exact ⟨by omega, fun heq => ⟨hplain, ih.2 (by omega)⟩⟩

end Replaces

section Texts

variable {style : TemplateStyle} {text : String} {s t : List Char}

theorem unnested_iff : Unnested s ↔ ∀ x ∈ s.tails, ∀ family ∈ Family.both,
    ∀ found ∈ referenceAt? family x, ¬ mark <:+: found.1.name.toList := by
  constructor
  · rintro h x hx family - ⟨r, n⟩ hfound
    obtain ⟨hr, hpre, -⟩ := of_referenceAt? hfound
    exact h family r hr (hpre.isInfix.trans ((List.mem_tails _ _).mp hx).isInfix)
  · intro h family r hr hin
    obtain ⟨x, hpre, hx⟩ := List.infix_iff_prefix_suffix.mp hin
    refine h x ((List.mem_tails _ _).mpr hx) family ?_ _
      (referenceAt?_eq_some_iff.mpr ⟨hr, hpre, rfl⟩)
    cases family <;> decide

instance (s : List Char) : Decidable (Unnested s) := decidable_of_iff _ unnested_iff.symm

theorem replaces_toTemplate_iff (hun : Unnested text.toList) :
    Replaces style Family.both text.toList t ↔ t = (toTemplate style text).toList := by
  have hself : ∀ {t}, Replaces style Family.both text.toList t →
      t = (toTemplate style text).toList := by
    intro t h
    obtain ⟨u, hvariables, hparameters⟩ := h.passes hun
    obtain rfl := Replaces.iff_substitute.mp hvariables
    exact Replaces.iff_substitute.mp hparameters
  refine ⟨hself, fun ht => ?_⟩
  obtain ⟨other, h⟩ := Replaces.exists_replaces style Family.both text.toList
  rwa [ht, ← hself h]

theorem paths_toTemplate (hun : Unnested text.toList) (family : Family) :
    paths family (toTemplate style text) = [] := by
  have hreplaces : Replaces style Family.both text.toList (toTemplate style text).toList :=
    (replaces_toTemplate_iff hun).mpr rfl
  have hfree := hreplaces.free hun
  rw [paths_eq_nil_iff]
  intro other hother
  obtain rfl := List.mem_singleton.mp hother
  exact hfree other (by cases other <;> decide)

/-- A text stays as it is exactly if it has no references. -/
theorem toTemplate_eq_self_iff :
    toTemplate style text = text ↔ variableRefs text = [] ∧ parameterRefs text = [] := by
  have hvariables :
      Replaces style [.variable] text.toList (substitute style .variable text).toList :=
    Replaces.iff_substitute.mpr rfl
  have hparameters : Replaces style [.parameter] (substitute style .variable text).toList
      (toTemplate style text).toList := Replaces.iff_substitute.mpr rfl
  rw [variableRefs, parameterRefs, paths_eq_nil_iff, paths_eq_nil_iff]
  constructor
  · intro hself
    rw [hself] at hparameters
    -- neither pass gives a bracket back, so neither takes one away
    obtain ⟨hle, hvariablesFree⟩ := hvariables.count_le
    obtain ⟨hle', hparametersFree⟩ := hparameters.count_le
    have hfree := hvariablesFree (Nat.le_antisymm hle hle')
    refine ⟨hfree, ?_⟩
    rw [← hvariables.eq_self hfree]
    exact hparametersFree (Nat.le_antisymm hle' hle)
  · rintro ⟨hvariablesFree, hparametersFree⟩
    rw [hvariables.eq_self hvariablesFree] at hparameters
    exact String.toList_inj.mp (hparameters.eq_self hparametersFree)

theorem hasReferences_of_paths {family : Family} (h : paths family text ≠ []) :
    hasReferences text = true :=
  hasReferences_of_not_free (mt (paths_eq_nil_iff family text).mpr h)

end Texts

/-- What becomes of the references of a text. If none of them has a second mark in front of its
closing bracket, each is replaced by its template, all at once, nothing else changes and no
reference is left. Whatever the text, it stays as it is exactly if it has no references, and if it
has one, a bracketed reference is seen in it. -/
theorem references_replaced_at_once (style : TemplateStyle) (text : String) :
    (Unnested text.toList →
      (∀ t, Replaces style Family.both text.toList t ↔ t = (toTemplate style text).toList) ∧
      variableRefs (toTemplate style text) = [] ∧ parameterRefs (toTemplate style text) = []) ∧
    (toTemplate style text = text ↔ variableRefs text = [] ∧ parameterRefs text = []) ∧
    (variableRefs text ≠ [] ∨ parameterRefs text ≠ [] → hasReferences text = true) := by
  refine ⟨fun hun => ⟨fun t => replaces_toTemplate_iff hun, ?gone⟩, toTemplate_eq_self_iff, ?seen⟩
  case gone => exact ⟨paths_toTemplate hun .variable, paths_toTemplate hun .parameter⟩
  case seen =>
    rintro (hvariables | hparameters)
    · exact hasReferences_of_paths hvariables
    · exact hasReferences_of_paths hparameters

/-- A name that ends as a mark begins, a parameter right behind it, and a reference that is not
complete. -/
def besideText : String := "@[User::A@]@[$Package::R] @[User::"

theorem references_replaced_at_once_beside :
    Unnested besideText.toList ∧
      Replaces .dbt Family.both besideText.toList
        "\x7b\x7b var('a@') \x7d\x7d\x7b\x7b var('r') \x7d\x7d @[User::".toList ∧
      hasReferences besideText = true := by
  have hun : Unnested besideText.toList := by decide +kernel
  have hresult := references_replaced_at_once .dbt besideText
  exact ⟨hun, ((hresult.1 hun).1 _).mpr (by decide +kernel), hresult.2.2 (.inl (by decide +kernel))⟩

end EtlSurvey.Expression
