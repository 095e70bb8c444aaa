import EtlSurvey.Proofs.Markup.Scope

/-! # Truncated documents

A token is fixed once its closing byte is read, so that the tokens of a document that is cut off
somewhere are the first ones of the whole document, except that the text before the cut may be
shorter. Events only add nodes behind those that are there, and names are resolved by earlier tags
alone: what is recovered of a truncated document is where the whole document begins. -/

namespace EtlSurvey.Markup
open Text

/-! ## Tokens are fixed once they are closed -/

/-- A way to cut bytes in two takes at least one byte, and cuts longer bytes in the same place. -/
def CutsForGood (cut : Bytes → Option (Bytes × Bytes)) : Prop :=
  ∀ ⦃bytes content rest⦄, cut bytes = some (content, rest) →
    rest.length < bytes.length ∧ ∀ more, cut (bytes ++ more) = some (content, rest ++ more)

/-- A reader that goes byte by byte, with some state, and ends at a byte or goes on behind it. -/
theorem cutsForGood_of_step {cut : σ → Bytes → Option (Bytes × Bytes)} (hnil : ∀ s, cut s [] = none)
    (hcons : ∀ s b, (∃ content, ∀ after, cut s (b :: after) = some (content, after)) ∨
      ∃ s' extend, ∀ after, cut s (b :: after) = (cut s' after).map (Prod.map extend id))
    (s : σ) : CutsForGood (cut s) := by
  intro bytes content rest h
  induction bytes generalizing s content with
  | nil =>
    rw [hnil] at h
    cases h
  | cons b after ih =>
    obtain ⟨content', hend⟩ | ⟨s', extend, hgoesOn⟩ := hcons s b
    · rw [hend] at h
      obtain ⟨rfl, rfl⟩ := Prod.mk.inj (Option.some.inj h)
      exact ⟨Nat.lt_succ_self _, fun more => hend _⟩
    · rw [hgoesOn] at h
      obtain ⟨⟨inside, rest⟩, hafter, hcut⟩ := Option.map_eq_some_iff.mp h
      obtain ⟨rfl, rfl⟩ := Prod.mk.inj hcut
      obtain ⟨hlength, hmore⟩ := ih s' hafter
      refine ⟨Nat.lt_succ_of_lt hlength, fun more => ?_⟩
      rw [List.cons_append, hgoesOn, hmore]
      rfl

theorem tagEnd_cutsForGood : ∀ quote, CutsForGood (tagEnd quote) := by
  refine cutsForGood_of_step (fun _ => rfl) fun quote b => ?_
  by_cases hend : (quote.isNone && b == 0x3E) = true
  · exact .inl ⟨[], fun after => if_pos hend⟩
  · exact .inr ⟨_, (b :: ·), fun after => if_neg hend⟩

theorem markEnd_cutsForGood (ending : Bytes) (atLeast : Nat) :
    ∀ seen, CutsForGood (markEnd ending atLeast seen) := by
  refine cutsForGood_of_step (fun _ => rfl) fun seen b => ?_
  by_cases hend : (b == 0x3E && ending.reverse.isPrefixOf seen && atLeast ≤ seen.length) = true
  · exact .inl ⟨seen.reverse, fun after => if_pos hend⟩
  · refine .inr ⟨b :: seen, id, fun after => (if_neg hend).trans ?_⟩
    rw [Prod.map_id, Option.map_id, id]

theorem doctypeEnd_cutsForGood : ∀ depth, CutsForGood (doctypeEnd depth) := by
  refine cutsForGood_of_step (fun _ => rfl) fun depth b => ?_
  by_cases hend : (b == 0x3E && depth == 0) = true
  · exact .inl ⟨[], fun after => if_pos hend⟩
  · exact .inr ⟨_, (b :: ·), fun after => if_neg hend⟩

/-- What a reader makes of the content before a cut, whatever the rest after it. -/
def KeepsRest (after : Bytes → Bytes → Except (Fault × Nat) Cut) : Prop :=
  ∀ ⦃content rest cut⦄, after content rest = .ok cut →
    cut.rest = rest ∧ ∀ rest', after content rest' = .ok { cut with rest := rest' }

namespace KeepsRest

theorem ok (token : Bytes → Option Token) :
    KeepsRest fun content rest => .ok ⟨token content, content.length, rest⟩ := by
  intro content rest cut h
  obtain rfl := Except.ok.inj h
  exact ⟨rfl, fun _ => rfl⟩

theorem error (fault : Bytes → Fault × Nat) :
    KeepsRest fun content _ => .error (fault content) := by
  intro content rest cut h
  cases h

theorem ite {p : Bytes → Prop} [DecidablePred p]
    {after after' : Bytes → Bytes → Except (Fault × Nat) Cut} (h : KeepsRest after)
    (h' : KeepsRest after') : KeepsRest fun content rest =>
      if p content then after content rest else after' content rest := by
  intro content rest cut hcut
  dsimp only at hcut ⊢
  by_cases hp : p content
  · rw [if_pos hp] at hcut
    simp only [if_pos hp]
    exact h hcut
  · rw [if_neg hp] at hcut
    simp only [if_neg hp]
    exact h' hcut

end KeepsRest

/-- Markup that has been read is the same in front of more bytes. -/
def Fixed (read : Bytes → Except (Fault × Nat) Cut) (body : Bytes) : Prop :=
  ∀ ⦃cut⦄, read body = .ok cut → cut.rest.length < body.length ∧
    ∀ more, read (body ++ more) = .ok { cut with rest := cut.rest ++ more }

theorem fixed_of_cut {cut : Bytes → Option (Bytes × Bytes)} (hcut : CutsForGood cut)
    {after : Bytes → Bytes → Except (Fault × Nat) Cut} (hafter : KeepsRest after)
    (fault : Fault × Nat) (body : Bytes) :
    Fixed (fun body =>
      match cut body with
      | some (content, rest) => after content rest
      | none => .error fault) body := by
  intro c h
  dsimp only at h ⊢
  cases hbody : cut body with
  | none =>
    rw [hbody] at h
    cases h
  | some parts =>
    obtain ⟨content, rest⟩ := parts
    rw [hbody] at h
    obtain ⟨hlength, hmore⟩ := hcut hbody
    obtain ⟨rfl, hrest⟩ := hafter h
    refine ⟨hlength, fun more => ?_⟩
    rw [hmore]
    exact hrest _

/-- Markup with a bang that opens neither character data nor a comment is a document type. -/
theorem bangMarkup_of_ne {b : UInt8} (hcdata : b ≠ 0x5B) (hcomment : b ≠ 0x2D) (bang : UInt8)
    (rest : Bytes) : bangMarkup (bang :: b :: rest) =
      if upperByte b != 0x44 then .error (.unknownMarkup, 0)
      else match doctypeEnd 0 (bang :: b :: rest) with
        | some (content, rest) =>
          if !doctypeOpening.isPrefixOf (content.map upperByte) then .error (.openDoctype, 0)
          else if ((content.drop 8).dropWhile isSpaceByte).isEmpty then
            .error (.namelessDoctype, content.length + 1)
          else .ok ⟨none, content.length, rest⟩
        | none => .error (.openDoctype, 0) := by
  rw [bangMarkup]
  split
  · next heq => exact absurd (Option.some.inj heq) hcdata
  · next heq => exact absurd (Option.some.inj heq) hcomment
  · next heq =>
    obtain rfl := Option.some.inj heq
    rfl
  · next heq => cases heq

theorem bangMarkup_fixed (body : Bytes) : Fixed bangMarkup body := by
  intro cut h
  match body with
  | [] => cases h
  | [_] => cases h
  | bang :: b :: rest =>
    by_cases hcdata : b = 0x5B
    · subst hcdata
      exact fixed_of_cut (markEnd_cutsForGood [0x5D, 0x5D] 0 [])
        (.ite (.ok fun content => some (.cdata ((content.drop 8).take (content.length - 10))))
          (.error fun _ => (.openCData, 0))) (.openCData, 0) (bang :: 0x5B :: rest) h
    by_cases hcomment : b = 0x2D
    · subst hcomment
      exact fixed_of_cut (markEnd_cutsForGood [0x2D, 0x2D] 5 [])
        (.ite (.ok fun _ => none) (.error fun _ => (.openComment, 0))) (.openComment, 0)
        (bang :: 0x2D :: rest) h
    rw [bangMarkup_of_ne hcdata hcomment] at h
    by_cases hunknown : (upperByte b != 0x44) = true
    · rw [if_pos hunknown] at h
      cases h
    · rw [if_neg hunknown] at h
      have hfixed := fixed_of_cut (doctypeEnd_cutsForGood 0)
        (.ite (.error fun _ => (.openDoctype, 0))
          (.ite (.error fun content => (.namelessDoctype, content.length + 1))
            (.ok fun _ => none))) (.openDoctype, 0) (bang :: b :: rest) h
      refine ⟨hfixed.1, fun more => ?_⟩
      rw [List.cons_append, List.cons_append, bangMarkup_of_ne hcdata hcomment, if_neg hunknown]
      exact hfixed.2 more

/-- Markup that is neither with a bang nor an instruction is a tag. -/
theorem markup_of_ne {first : UInt8} (hbang : first ≠ 0x21) (hinstruction : first ≠ 0x3F)
    (rest : Bytes) : markup (first :: rest) =
      match tagEnd none (first :: rest) with
      | some (content, rest) =>
        let token :=
          if first == 0x2F then .closing
          else if content.getLast? == some 0x2F then .empty content.dropLast
          else .opening content
        .ok ⟨some token, content.length, rest⟩
      | none => .error (.openTag, 0) := by
  rw [markup.eq_def]
  split
  · next heq => cases heq
  · next heq => exact absurd (List.cons.inj heq).1 hbang
  · next heq => exact absurd (List.cons.inj heq).1 hinstruction
  · next heq =>
    obtain ⟨rfl, rfl⟩ := List.cons.inj heq
    cases tagEnd none (first :: rest) <;> rfl

theorem markup_fixed (body : Bytes) : Fixed markup body := by
  intro cut h
  match body with
  | [] => cases h
  | first :: rest =>
    by_cases hbang : first = 0x21
    · subst hbang
      exact bangMarkup_fixed _ h
    by_cases hinstruction : first = 0x3F
    · subst hinstruction
      exact fixed_of_cut (markEnd_cutsForGood [0x3F] 0 [])
        (.ite (.error fun _ => (.openInstruction, 0)) (.ok fun _ => none))
        (.openInstruction, 0) (0x3F :: rest) h
    rw [markup_of_ne hbang hinstruction] at h
    have hfixed := fixed_of_cut (tagEnd_cutsForGood none)
      (.ok fun content => some (
        if first == 0x2F then .closing
        else if content.getLast? == some 0x2F then .empty content.dropLast
        else .opening content)) (.openTag, 0) (first :: rest) h
    refine ⟨hfixed.1, fun more => ?_⟩
    rw [List.cons_append, markup_of_ne hbang hinstruction]
    exact hfixed.2 more

/-- Tokens of which the last may be text that goes on, or is another token. -/
inductive Precedes : List Token → List Token → Prop
  | nil (tokens : List Token) : Precedes [] tokens
  | text (bytes : Bytes) (tokens : List Token) : Precedes [.text bytes] tokens
  | cons (t : Token) {ts tokens : List Token} (h : Precedes ts tokens) :
      Precedes (t :: ts) (t :: tokens)

theorem Precedes.append (shared : List Token) {ts tokens : List Token} (h : Precedes ts tokens) :
    Precedes (shared ++ ts) (shared ++ tokens) := by
  induction shared with
  | nil => exact h
  | cons t _ ih => exact .cons t ih

theorem scanFrom_nil (fuel position : Nat) : scanFrom fuel position [] = ([], none) := by
  cases fuel <;> rfl

theorem scanFrom_of_blank {bytes : Bytes} (h : bytes.dropWhile isSpaceByte = [])
    (fuel position : Nat) : scanFrom (fuel + 1) position bytes = ([], none) := by
  rw [scanFrom, h]

theorem scanFrom_of_markup {bytes body : Bytes} (h : bytes.dropWhile isSpaceByte = 0x3C :: body)
    (fuel position : Nat) : ∃ next : Cut → Nat, (scanFrom (fuel + 1) position bytes).1 =
      match markup body with
      | .error _ => []
      | .ok cut => cut.token.toList ++ (scanFrom fuel (next cut) cut.rest).1 := by
  refine ⟨fun cut => position + (bytes.takeWhile isSpaceByte).length + cut.size + 2, ?_⟩
  rw [scanFrom, h]
  cases hmarkup : markup body <;> simp only [hmarkup]

theorem scanFrom_of_text {bytes rest : Bytes} {b : UInt8}
    (h : bytes.dropWhile isSpaceByte = b :: rest) (hb : b ≠ 0x3C) (fuel position : Nat) :
    ∃ next, (scanFrom (fuel + 1) position bytes).1 =
      .text (trimEndBytes ((b :: rest).takeWhile (· != 0x3C))) ::
        (scanFrom fuel next ((b :: rest).dropWhile (· != 0x3C))).1 := by
  refine ⟨position + (bytes.takeWhile isSpaceByte).length +
    ((b :: rest).takeWhile (· != 0x3C)).length, ?_⟩
  rw [scanFrom, h]
  split
  · next heq => cases heq
  · next heq => exact absurd (List.cons.inj heq).1 hb
  · rfl

/-- Text takes at least its first byte. -/
theorem length_after_text {b : UInt8} (hb : b ≠ 0x3C) (rest : Bytes) :
    ((b :: rest).dropWhile (· != 0x3C)).length ≤ rest.length := by
  have htext : (b != 0x3C) = true := bne_iff_ne.mpr hb
  rw [List.dropWhile_cons, if_pos htext]
  exact (List.dropWhile_suffix _).length_le

theorem takeWhile_append_of_dropWhile_ne_nil {p : α → Bool} {as : List α}
    (h : as.dropWhile p ≠ []) (more : List α) : (as ++ more).takeWhile p = as.takeWhile p := by
  rw [List.takeWhile_append, if_neg]
  intro hlength
  have hwhole := congrArg List.length (List.takeWhile_append_dropWhile (p := p) (l := as))
  rw [List.length_append, hlength] at hwhole
  exact h (List.length_eq_zero_iff.mp (by omega))

theorem dropWhile_append_of_ne_nil {p : α → Bool} {as : List α} (h : as.dropWhile p ≠ [])
    (more : List α) : (as ++ more).dropWhile p = as.dropWhile p ++ more := by
  rw [List.dropWhile_append, if_neg]
  rwa [List.isEmpty_iff]

/-- Bytes that go on have the tokens of those that stop, up to the last text. -/
theorem scanFrom_precedes {fuel fuel' position position' : Nat} {front more : Bytes}
    (hfuel : front.length < fuel) (hfuel' : (front ++ more).length < fuel') :
    Precedes (scanFrom fuel position front).1 (scanFrom fuel' position' (front ++ more)).1 := by
  induction fuel generalizing fuel' position position' front with
  | zero => exact absurd hfuel (Nat.not_lt_zero _)
  | succ fuel ih =>
    obtain _ | fuel' := fuel'
    · exact absurd hfuel' (Nat.not_lt_zero _)
    cases hfront : front.dropWhile isSpaceByte with
    | nil =>
      rw [scanFrom_of_blank hfront]
      exact .nil _
    | cons b rest =>
      have hwhole : (front ++ more).dropWhile isSpaceByte = b :: (rest ++ more) := by
        rw [dropWhile_append_of_ne_nil (by rw [hfront]; exact List.cons_ne_nil _ _), hfront,
          List.cons_append]
      have hlength : (b :: rest).length ≤ front.length :=
        hfront ▸ (List.dropWhile_suffix _).length_le
      rw [List.length_append] at hfuel'
      by_cases hb : b = 0x3C
      · subst hb
        obtain ⟨next, htokens⟩ := scanFrom_of_markup hfront fuel position
        obtain ⟨next', htokens'⟩ := scanFrom_of_markup hwhole fuel' position'
        rw [htokens, htokens']
        cases hmarkup : markup rest with
        | error fault => exact .nil _
        | ok cut =>
          obtain ⟨hshorter, hmore⟩ := markup_fixed rest hmarkup
          rw [hmore more]
          rw [List.length_cons] at hlength
          refine .append _ (ih ?_ ?_)
          · omega
          · rw [List.length_append]
            omega
      · obtain ⟨next, htokens⟩ := scanFrom_of_text hfront hb fuel position
        obtain ⟨next', htokens'⟩ := scanFrom_of_text hwhole hb fuel' position'
        rw [htokens, htokens', ← List.cons_append]
        cases hstop : (b :: rest).dropWhile (· != 0x3C) with
        | nil =>
          rw [scanFrom_nil]
          exact .text _ _
        | cons c after =>
          have hne : (b :: rest).dropWhile (· != 0x3C) ≠ [] := hstop ▸ List.cons_ne_nil _ _
          have hshorter := length_after_text hb rest
          rw [hstop] at hshorter
          rw [takeWhile_append_of_dropWhile_ne_nil hne, dropWhile_append_of_ne_nil hne, hstop]
          rw [List.length_cons] at hlength
          refine .cons _ (ih ?_ ?_)
          · omega
          · rw [List.length_append]
            omega

theorem scan_precedes (front more : Bytes) :
    Precedes (scan front).1 (scan (front ++ more)).1 := by
  have hscanned : ∀ front : Bytes, Precedes (scanFrom (front.length + 1) 0 front).1
      (scanFrom ((front ++ more).length + 1) 0 (front ++ more)).1 :=
    fun front => scanFrom_precedes (Nat.lt_succ_self _) (Nat.lt_succ_self _)
  rw [scan, scan]
  by_cases hmark : ([0xEF, 0xBB, 0xBF] : Bytes).isPrefixOf front = true
  · have hmark' : ([0xEF, 0xBB, 0xBF] : Bytes).isPrefixOf (front ++ more) = true := by
      rw [List.isPrefixOf_iff_prefix] at hmark ⊢
      exact hmark.trans (List.prefix_append _ _)
    have hlength : 3 ≤ front.length := (List.isPrefixOf_iff_prefix.mp hmark).length_le
    rw [if_pos hmark, if_pos hmark', List.drop_append_of_le_length hlength]
    exact hscanned _
  by_cases hmark' : ([0xEF, 0xBB, 0xBF] : Bytes).isPrefixOf (front ++ more) = true
  · -- bytes that stop inside the mark are text
    rw [List.isPrefixOf_iff_prefix] at hmark hmark'
    have hinside : front <+: [0xEF, 0xBB, 0xBF] :=
      (List.prefix_or_prefix_of_prefix (List.prefix_append _ _) hmark').resolve_right hmark
    have hshort : front = [] ∨ front = [0xEF] ∨ front = [0xEF, 0xBB] := by
      obtain rfl | ⟨rest, rfl, hsecond⟩ := List.prefix_cons_iff.mp hinside
      · exact .inl rfl
      obtain rfl | ⟨rest, rfl, hthird⟩ := List.prefix_cons_iff.mp hsecond
      · exact .inr (.inl rfl)
      obtain rfl | ⟨rest, rfl, -⟩ := List.prefix_cons_iff.mp hthird
      · exact .inr (.inr rfl)
      · exact absurd (List.prefix_append [0xEF, 0xBB, 0xBF] rest) hmark
    obtain rfl | rfl | rfl := hshort
    · exact .nil _
    · exact .text _ _
    · exact .text _ _
  · rw [if_neg hmark, if_neg hmark']
    exact hscanned _

/-! ## Nodes of the first tokens -/

/-- Events only add nodes behind those that are there. -/
theorem Skeleton.bare_prefix_run (s : Skeleton) (es : List Event) :
    s.nodes.map RawNode.bare <+: (s.run es).nodes.map RawNode.bare := by
  induction es generalizing s with
  | nil => exact List.prefix_rfl
  | cons e rest ih =>
    rw [run]
    cases hstep : s.step e with
    | none => exact List.prefix_rfl
    | some s' =>
      refine List.IsPrefix.trans ?_ (ih s')
      rw [bare_step hstep]
      exact List.prefix_append _ _

namespace Precedes

variable {ts tokens : List Token}

theorem bare_run (h : Precedes ts tokens) (s : Skeleton) :
    (s.run (ts.map Event.ofToken)).nodes.map RawNode.bare <+:
      (s.run (tokens.map Event.ofToken)).nodes.map RawNode.bare := by
  induction h generalizing s with
  | nil tokens => exact s.bare_prefix_run _
  | text bytes tokens =>
    show (s.append (textOf bytes)).nodes.map RawNode.bare <+: _
    rw [s.bare_append]
    exact s.bare_prefix_run _
  | cons t _ ih =>
    rw [List.map_cons, List.map_cons, Skeleton.run, Skeleton.run]
    cases s.step (.ofToken t) with
    | none => exact List.prefix_rfl
    | some s' => exact ih s'

theorem tagsOf (h : Precedes ts tokens) :
    tagsOf (ts.map Event.ofToken) <+: Markup.tagsOf (tokens.map Event.ofToken) := by
  induction h with
  | nil => exact List.nil_prefix
  | text => exact List.nil_prefix
  | cons t _ ih =>
    rw [List.map_cons, List.map_cons, Markup.tagsOf, Markup.tagsOf, List.filterMap_cons,
      List.filterMap_cons]
    cases (Event.ofToken t).tag? with
    | none => exact ih
    | some tag => exact (List.prefix_cons_inj tag).mpr ih

end Precedes

/-- Nodes stand inside nodes of the same document. -/
theorem Element.lt_of_mem_above {root : Element} {n : Node} {place : Nat} (hn : n ∈ root.nodes)
    (hplace : place ∈ n.above) : place < root.nodes.length := by
  obtain ⟨i, hi, rfl⟩ := List.getElem_of_mem hn
  have htells := root.nodes_tellOf.get hi (root.nodes_tellOf.length_eq ▸ hi)
  have hmem := List.mem_map_of_mem (f := fun place => root.nodes[place]?.map (·.head)) hplace
  rw [List.get_eq_getElem] at htells
  rw [htells.above] at hmem
  obtain ⟨e, -, he⟩ := List.mem_map.mp hmem
  obtain ⟨m, hm, -⟩ := Option.map_eq_some_iff.mp he.symm
  exact (List.getElem?_eq_some_iff.mp hm).1

/-- A node less the text inside its element. -/
def Node.textless (n : Node) : Node := { n with head.text := "" }

section Events

variable {es es' : List Event} {failure : Option Failure} {d : Document}

theorem exists_ofEvents_of_bare (failure' : Option Failure)
    (hbare : (Skeleton.initial.run es).nodes.map RawNode.bare <+:
      (Skeleton.initial.run es').nodes.map RawNode.bare)
    (h : Document.ofEvents es failure = .ok d) : ∃ d', Document.ofEvents es' failure' = .ok d' := by
  refine ofEvents_isOk_iff.mpr fun hempty => ofEvents_isOk_iff.mp ⟨d, h⟩ ?_
  rw [hempty] at hbare
  exact List.map_eq_nil_iff.mp (List.prefix_nil.mp hbare)

/-- Nodes that are known but for their names are known with them, since names are resolved by the
tags of the nodes around. -/
theorem textless_initial_of_bare {failure' : Option Failure} {d' : Document}
    (hbare : (Skeleton.initial.run es).nodes.map RawNode.bare <+:
      (Skeleton.initial.run es').nodes.map RawNode.bare)
    (htags : tagsOf es <+: tagsOf es') (h : Document.ofEvents es failure = .ok d)
    (h' : Document.ofEvents es' failure' = .ok d') :
    d.root.nodes.map Node.textless <+: d'.root.nodes.map Node.textless := by
  refine List.prefix_iff_getElem?.mpr fun i hi => ?_
  rw [List.length_map] at hi
  have hn : d.root.nodes[i]? = some d.root.nodes[i] := List.getElem?_eq_getElem hi
  obtain ⟨raw, hraw, htag, hresolve⟩ := node_of_ofEvents h hn
  -- the same raw node stands in the other document
  obtain ⟨raw', hraw', hbare⟩ : ∃ raw', (Skeleton.initial.run es').nodes[i]? = some raw' ∧
      raw'.bare = raw.bare := by
    obtain ⟨later, hlater⟩ := hbare
    have hthere := congrArg (·[i]?) hlater
    rw [List.getElem?_append_left (by simpa using (List.getElem?_eq_some_iff.mp hraw).1),
      List.getElem?_map, List.getElem?_map, hraw] at hthere
    exact Option.map_eq_some_iff.mp hthere.symm
  obtain ⟨htag', habove⟩ := Prod.mk.inj hbare
  -- nodes stand inside earlier ones, the tags of which are the same
  have hspaces : spaceAt? (tagsOf es') (i :: raw.above) =
      spaceAt? (tagsOf es) (i :: raw.above) := by
    refine spaceAt?_congr fun place hplace => ?_
    have hlt : place < d.root.nodes.length := by
      obtain rfl | hplace := List.mem_cons.mp hplace
      · exact hi
      · refine Element.lt_of_mem_above (List.getElem_mem hi) ?_
        rw [← hresolve]
        exact hplace
    obtain ⟨later, hlater⟩ := htags
    rw [← hlater, List.getElem?_append_left]
    obtain ⟨raw, -, htag, -⟩ := node_of_ofEvents h (List.getElem?_eq_getElem hlt)
    exact (List.getElem?_eq_some_iff.mp htag).1
  rw [ofEvents_nodes h', Skeleton.resolved, List.getElem?_map, List.getElem?_mapIdx, hraw',
    List.getElem_map, ← hresolve, Option.map_some, Option.map_some, RawNode.resolve,
    RawNode.resolve, htag', habove, hspaces]
  rfl

end Events

/-- What is recovered of a truncated document is where the whole one begins. -/
theorem truncated_nodes_initial {front bytes : Bytes} (hfront : front <+: bytes) {d' : Document}
    (h : Document.parse front = .ok d') : ∃ d, Document.parse bytes = .ok d ∧
      d'.root.nodes.map Node.textless <+: d.root.nodes.map Node.textless := by
  obtain ⟨more, rfl⟩ := hfront
  have hprecedes := scan_precedes front more
  have hbare := hprecedes.bare_run .initial
  obtain ⟨d, hd⟩ := exists_ofEvents_of_bare (scan (front ++ more)).2 hbare h
  exact ⟨d, hd, textless_initial_of_bare hbare hprecedes.tagsOf h hd⟩

/-- A document with a tag at the end of which it may be cut off. -/
def wholeDocument : Bytes :=
  "<p:a xmlns:p='u' k='1'>some <p:b k='2'/>text<c xmlns:p='v'></c></p:a>".toUTF8.toList

theorem cut_document_initial : ∃ d' d,
    Document.parse (wholeDocument.take 58) = .ok d' ∧ Document.parse wholeDocument = .ok d ∧
      d'.root.nodes.map (·.head.name) = ["a", "b"] ∧
      d'.root.nodes.map Node.textless <+: d.root.nodes.map Node.textless := by
  have hnames : (Document.parse (wholeDocument.take 58)).toOption.map
      (fun d => d.root.nodes.map (·.head.name)) = some ["a", "b"] := by
    decide +kernel
  cases hd' : Document.parse (wholeDocument.take 58) with
  | error e =>
    rw [hd'] at hnames
    cases hnames
  | ok d' =>
    rw [hd'] at hnames
    obtain ⟨d, hd, hinitial⟩ := truncated_nodes_initial (List.take_prefix 58 wholeDocument) hd'
    exact ⟨d', d, rfl, hd, Option.some.inj hnames, hinitial⟩

end EtlSurvey.Markup
