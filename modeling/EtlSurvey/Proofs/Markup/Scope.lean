import EtlSurvey.Proofs.Markup.Nodes
import EtlSurvey.Proofs.Markup.Skeleton

/-! # Namespaces are scoped lexically

A builder resolves names while it reads, with a stack of scopes beside the open elements. What it
builds is its skeleton with every name resolved by the tags at the place of its element and at the
places around it, so that declarations count inside their own element and nowhere else. -/

namespace EtlSurvey.Markup
open Text

/-! ## Names in scope -/

/-- What the tag at a place declares. -/
def declarationsAt (tags : List Tag) (place : Nat) : List (String × String) :=
  (tags[place]?.map Tag.declarations).getD []

/-- What the nearest of the places that declares a prefix declares for it first. -/
def nearestDeclaration? (tags : List Tag) (places : List Nat) (name : String) : Option String :=
  places.findSome? fun place => (declarationsAt tags place).lookup name

/-- The namespace of a prefix at a place and those around it: what is declared nearest, or the
well-known namespace if nothing or the empty text is declared. -/
def spaceAt? (tags : List Tag) (places : List Nat) (name : String) : Option String :=
  ((nearestDeclaration? tags places name).bind nonEmpty?).or (Space.ofPrefix? name)

/-- A name whose prefix stands for a namespace; without a prefix it has the given one. -/
def resolveName (space? : String → Option String) (unprefixed : Option String) (raw : String) :
    Option String × String :=
  match splitName raw with
  | (some before, name) => (space? before, name)
  | (none, name) => (unprefixed, name)

/-- Attributes without a prefix have no namespace. -/
def attributeIn (space? : String → Option String) (key value : String) : Attribute :=
  match declaredPrefix? key with
  | some declared => ⟨some Space.declarations, declared, value⟩
  | none =>
    let resolved := resolveName space? none key
    ⟨resolved.1, resolved.2, value⟩

/-- What a tag says of its element where prefixes stand for these namespaces. -/
def Tag.headIn (space? : String → Option String) (tag : Tag) (text : String) : Head :=
  let resolved := resolveName space? (space? "") tag.name
  { space := resolved.1
    name := resolved.2
    attributes := tag.attributes.map fun (key, value) => attributeIn space? key value
    text }

def RawNode.resolve (tags : List Tag) (place : Nat) (n : RawNode) : Node :=
  ⟨n.tag.headIn (spaceAt? tags (place :: n.above)) n.text, n.above⟩

theorem lookup_flatMap (declarations : Nat → List (String × String)) (places : List Nat)
    (name : String) : (places.flatMap declarations).lookup name =
      places.findSome? fun place => (declarations place).lookup name := by
  induction places with
  | nil => rfl
  | cons place rest ih =>
    rw [List.flatMap_cons, List.lookup_append, List.findSome?_cons, ih]
    cases (declarations place).lookup name <;> rfl

theorem resolvePrefix_eq (tags : List Tag) (places : List Nat) (name : String) :
    resolvePrefix (places.flatMap (declarationsAt tags)) name = spaceAt? tags places name := by
  rw [resolvePrefix, lookup_flatMap, spaceAt?, nearestDeclaration?]
  generalize places.findSome? _ = declared
  cases declared.bind nonEmpty? with
  | some space => rfl
  | none =>
    show (if name.isEmpty then none else Space.ofPrefix? name) = Space.ofPrefix? name
    split
    · next hempty =>
      obtain rfl := String.isEmpty_iff.mp hempty
      decide
    · rfl

theorem resolveElement_eq (scope : List (String × String)) (raw : String) :
    resolveElement scope raw = resolveName (resolvePrefix scope) (resolvePrefix scope "") raw :=
  rfl

theorem resolveAttribute_eq (scope : List (String × String)) (key value : String) :
    resolveAttribute scope key value = attributeIn (resolvePrefix scope) key value := by
  rw [resolveAttribute, attributeIn, resolveName]
  cases declaredPrefix? key with
  | some declared => rfl
  | none => rcases splitName key with ⟨_ | before, name⟩ <;> rfl

theorem ofTag_head (outer : List Frame) (tag : Tag) : (Frame.ofTag outer tag).head =
    tag.headIn (resolvePrefix (Frame.ofTag outer tag).scope) "" := by
  rw [Tag.headIn, ← resolveElement_eq]
  simp only [← resolveAttribute_eq]
  rfl

/-! ## Builders and skeletons -/

theorem mapIdx_modify {f : Nat → α → β} {g : α → α} {g' : β → β}
    (h : ∀ i a, f i (g a) = g' (f i a)) (l : List α) (i : Nat) :
    (l.modify i g).mapIdx f = (l.mapIdx f).modify i g' := by
  refine List.ext_getElem? fun j => ?_
  simp only [List.getElem?_mapIdx, List.getElem?_modify, Option.map_eq_map]
  cases l[j]? with
  | none => rfl
  | some a =>
    by_cases hij : i = j
    · simp [hij, h]
    · simp [hij]

/-- What a skeleton comes to with its names resolved among these tags. -/
def Skeleton.resolved (tags : List Tag) (s : Skeleton) : Opened :=
  ⟨s.nodes.mapIdx (RawNode.resolve tags), s.places⟩

theorem Skeleton.length_resolved (tags : List Tag) (s : Skeleton) :
    (s.resolved tags).nodes.length = s.nodes.length :=
  List.length_mapIdx

theorem Skeleton.resolved_push (tags : List Tag) (tag : Tag) (s : Skeleton) :
    (s.push tag).resolved tags =
      ⟨(s.resolved tags).nodes ++
          [⟨tag.headIn (spaceAt? tags (s.nodes.length :: s.places)) "", s.places⟩],
        s.nodes.length :: s.places⟩ := by
  rw [resolved, push, List.mapIdx_concat]
  rfl

theorem Skeleton.resolved_append (tags : List Tag) (text : String) (s : Skeleton) :
    (s.append text).resolved tags = (s.resolved tags).append text := by
  obtain ⟨nodes, places⟩ := s
  cases places with
  | nil => rfl
  | cons place outer =>
    have hwrite : ∀ i (n : RawNode),
        RawNode.resolve tags i { n with text := n.text ++ text } =
          (RawNode.resolve tags i n).write text := fun _ _ => rfl
    exact congrArg (Opened.mk · (place :: outer)) (mapIdx_modify hwrite nodes place)

/-- Frames have in scope what is declared at their places. -/
def Scoped (tags : List Tag) : List Frame → Prop
  | [] => True
  | f :: outer =>
    f.scope = (Opened.ofFrames (f :: outer)).places.flatMap (declarationsAt tags) ∧
      Scoped tags outer

/-- A builder has read what a skeleton says, where names are resolved among these tags. -/
structure Builder.Follows (tags : List Tag) (b : Builder) (s : Skeleton) : Prop where
  rootLast : b.RootLast
  opened : b.opened = s.resolved tags
  scopes : Scoped tags b.frames

namespace Builder.Follows

variable {tags : List Tag} {b : Builder} {s : Skeleton}

theorem root_isSome (h : b.Follows tags s) : b.root.isSome = s.isClosed := by
  have hnodes : s.nodes.isEmpty = b.opened.nodes.isEmpty := by
    rw [h.opened, Skeleton.resolved, Bool.eq_iff_iff, List.isEmpty_iff, List.isEmpty_iff,
      List.mapIdx_eq_nil_iff]
  have hplaces : s.places = b.opened.places := by rw [h.opened, Skeleton.resolved]
  have hroot := h.rootLast
  rw [Skeleton.isClosed, hnodes, hplaces]
  obtain ⟨frames, root⟩ := b
  cases frames with
  | nil => cases root <;> rfl
  | cons f outer =>
    obtain rfl : root = none := hroot (List.cons_ne_nil _ _)
    exact (Bool.and_false _).symm

theorem scoped_ofTag {outer : List Frame} {tag : Tag} (h : Scoped tags outer)
    (htag : tags[(Opened.ofFrames outer).nodes.length]? = some tag) :
    Scoped tags (Frame.ofTag outer tag :: outer) := by
  refine ⟨?_, h⟩
  show tag.declarations ++ (outer.head?.map (·.scope)).getD [] =
    List.flatMap _ ((Opened.ofFrames outer).nodes.length :: (Opened.ofFrames outer).places)
  rw [List.flatMap_cons, declarationsAt, htag]
  cases outer with
  | nil => rfl
  | cons f outer => exact congrArg (tag.declarations ++ ·) h.1

theorem push (h : b.Follows tags s) {tag : Tag} (hroot : b.root = none)
    (htag : tags[s.nodes.length]? = some tag) :
    Follows tags { b with frames := .ofTag b.frames tag :: b.frames } (s.push tag) := by
  have hopened : Opened.ofFrames b.frames = s.resolved tags := by
    rw [← opened_of_root_none hroot, h.opened]
  have hscopes : Scoped tags (.ofTag b.frames tag :: b.frames) := by
    refine scoped_ofTag h.scopes ?_
    rw [hopened, Skeleton.length_resolved, htag]
  have hhead : (Frame.ofTag b.frames tag).head =
      tag.headIn (spaceAt? tags (s.nodes.length :: s.places)) "" := by
    have hplaces : (Opened.ofFrames (.ofTag b.frames tag :: b.frames)).places =
        s.nodes.length :: s.places := by
      rw [Opened.ofFrames_cons, Opened.addFrame, hopened, Skeleton.length_resolved]
      rfl
    rw [ofTag_head, hscopes.1, hplaces]
    exact congrArg (tag.headIn · "") (funext (resolvePrefix_eq tags _))
  refine ⟨fun _ => hroot, ?_, hscopes⟩
  rw [opened_start hroot _ rfl, h.opened, hhead, Skeleton.length_resolved, Skeleton.resolved_push]
  rfl

theorem close (h : b.Follows tags s) : b.close.Follows tags s.close := by
  have hopened : b.close.opened = s.close.resolved tags := by
    rw [opened_close h.rootLast, h.opened]
    rfl
  obtain ⟨hroot, -, hscopes⟩ := h
  obtain ⟨frames, root⟩ := b
  match frames with
  | [] => exact ⟨hroot, hopened, hscopes⟩
  | [f] => exact ⟨fun hne => absurd rfl hne, hopened, trivial⟩
  | f :: g :: outer =>
    exact ⟨fun _ => hroot (List.cons_ne_nil _ _), hopened, hscopes.2.1, hscopes.2.2⟩

theorem append (h : b.Follows tags s) (text : String) :
    (b.append text).Follows tags (s.append text) := by
  have hopened : (b.append text).opened = (s.append text).resolved tags := by
    rw [opened_append h.rootLast, h.opened, Skeleton.resolved_append]
  obtain ⟨hroot, -, hscopes⟩ := h
  obtain ⟨frames, root⟩ := b
  cases frames with
  | nil => exact ⟨hroot, hopened, hscopes⟩
  | cons f outer =>
    exact ⟨fun _ => hroot (List.cons_ne_nil _ _), hopened, hscopes.1, hscopes.2⟩

/-- Builder and skeleton take the same events, and go on alike. -/
theorem step (h : b.Follows tags s) {e : Event}
    (htag : ∀ tag ∈ e.tag?, tags[s.nodes.length]? = some tag) :
    Option.Rel (Follows tags) (b.step e) (s.step e) := by
  cases e with
  | start tag =>
    rw [Builder.step, Skeleton.step, ← h.root_isSome]
    by_cases hroot : b.root.isSome
    · rw [if_pos hroot, if_pos hroot]
      exact .none
    · rw [if_neg hroot, if_neg hroot]
      exact .some (h.push (Option.not_isSome_iff_eq_none.mp hroot) (htag tag rfl))
  | empty tag =>
    rw [Builder.step, Skeleton.step, ← h.root_isSome]
    by_cases hroot : b.root.isSome
    · rw [if_pos hroot, if_pos hroot]
      exact .none
    · rw [if_neg hroot, if_neg hroot]
      exact .some (h.push (Option.not_isSome_iff_eq_none.mp hroot) (htag tag rfl)).close
  | text text => exact .some (h.append text)
  | close => exact .some h.close

/-- So they do in a whole run. -/
theorem run (h : b.Follows tags s) {es : List Event}
    (htags : ∃ later, tags = s.nodes.map (·.tag) ++ es.filterMap Event.tag? ++ later) :
    (b.run es).1.Follows tags (s.run es) := by
  induction es generalizing b s with
  | nil => exact h
  | cons e rest ih =>
    obtain ⟨later, htags⟩ := htags
    have htag : ∀ tag ∈ e.tag?, tags[s.nodes.length]? = some tag := by
      intro tag hmem
      rw [htags, List.filterMap_cons_some hmem]
      simp
    have hstep := h.step htag
    rw [Builder.run, Skeleton.run]
    generalize hb : b.step e = b', hs : s.step e = s' at hstep
    cases hstep with
    | none => exact h
    | some hnext =>
      refine ih hnext ⟨later, ?_⟩
      rw [htags, Skeleton.tags_step hs, List.filterMap_cons]
      cases e.tag? <;> simp

end Builder.Follows

theorem Builder.initial_follows (tags : List Tag) : initial.Follows tags .initial :=
  ⟨fun h => absurd rfl h, rfl, trivial⟩

/-! ## Documents -/

theorem finish_run_nodes (es : List Event) :
    ((Builder.initial.run es).1.finish.map Element.nodes).getD [] =
      ((Skeleton.initial.run es).resolved (tagsOf es)).nodes := by
  have hfollows : (Builder.initial.run es).1.Follows (tagsOf es) (Skeleton.initial.run es) :=
    (Builder.initial_follows (tagsOf es)).run ⟨[], (List.append_nil _).symm⟩
  rw [Builder.finish_nodes, hfollows.opened]

section Documents

variable {es : List Event} {failure : Option Failure}

theorem exists_ofEvents_iff {root : Element} :
    (∃ d, Document.ofEvents es failure = .ok d ∧ d.root = root) ↔
      (Builder.initial.run es).1.finish = some root := by
  rw [Document.ofEvents]
  rcases Builder.initial.run es with ⟨b, complete⟩
  dsimp only
  cases b.finish with
  | some root =>
    constructor
    · rintro ⟨d, hd, rfl⟩
      obtain rfl := Except.ok.inj hd
      rfl
    · intro hroot
      exact ⟨_, rfl, Option.some.inj hroot⟩
  | none =>
    refine iff_of_false ?_ (by simp)
    rintro ⟨d, hd, -⟩
    split at hd
    · next h => cases h
    · cases hd
    · cases hd

theorem ofEvents_nodes {d : Document} (h : Document.ofEvents es failure = .ok d) :
    d.root.nodes = ((Skeleton.initial.run es).resolved (tagsOf es)).nodes := by
  rw [← finish_run_nodes, exists_ofEvents_iff.mp ⟨d, h, rfl⟩]
  rfl

/-- Events make a document if they begin an element. -/
theorem ofEvents_isOk_iff :
    (∃ d, Document.ofEvents es failure = .ok d) ↔ (Skeleton.initial.run es).nodes ≠ [] := by
  have hnodes := finish_run_nodes es
  rw [Skeleton.resolved] at hnodes
  constructor
  · rintro ⟨d, hd⟩ hempty
    rw [exists_ofEvents_iff.mp ⟨d, hd, rfl⟩, hempty] at hnodes
    cases hnodes
  · intro hne
    cases hfinish : (Builder.initial.run es).1.finish with
    | some root =>
      obtain ⟨d, hd, -⟩ := exists_ofEvents_iff.mpr hfinish
      exact ⟨d, hd⟩
    | none =>
      rw [hfinish] at hnodes
      exact absurd (List.mapIdx_eq_nil_iff.mp hnodes.symm) hne

end Documents

theorem spaceAt?_congr {tags tags' : List Tag} {places : List Nat}
    (h : ∀ place ∈ places, tags'[place]? = tags[place]?) :
    spaceAt? tags' places = spaceAt? tags places := by
  have hnearest : nearestDeclaration? tags' places = nearestDeclaration? tags places := by
    funext name
    induction places with
    | nil => rfl
    | cons place rest ih =>
      obtain ⟨hplace, hrest⟩ := List.forall_mem_cons.mp h
      have hnear := ih hrest
      rw [nearestDeclaration?] at hnear ⊢
      rw [List.findSome?_cons, hnear, declarationsAt, hplace]
      rfl
  funext name
  rw [spaceAt?, spaceAt?, hnearest]

/-- The node at a place is made of the tag and the text that are there. -/
theorem node_of_ofEvents {es : List Event} {failure : Option Failure} {d : Document}
    (h : Document.ofEvents es failure = .ok d) {i : Nat} {n : Node}
    (hn : d.root.nodes[i]? = some n) :
    ∃ raw, (Skeleton.initial.run es).nodes[i]? = some raw ∧ (tagsOf es)[i]? = some raw.tag ∧
      raw.resolve (tagsOf es) i = n := by
  rw [ofEvents_nodes h, Skeleton.resolved, List.getElem?_mapIdx, Option.map_eq_some_iff] at hn
  obtain ⟨raw, hraw, hresolve⟩ := hn
  refine ⟨raw, hraw, ?_, hresolve⟩
  obtain ⟨later, hlater⟩ := Skeleton.tags_run .initial es
  have htag : (tagsOf es)[i]? = (((Skeleton.initial.run es).nodes.map (·.tag)) ++ later)[i]? := by
    rw [hlater]
    rfl
  rw [htag, List.getElem?_append_left, List.getElem?_map, hraw]
  · rfl
  · rw [List.length_map]
    exact (List.getElem?_eq_some_iff.mp hraw).1

/-- What a node says is what the tag at its place says in the scope of the place. -/
theorem head_of_ofEvents {es : List Event} {failure : Option Failure} {d : Document}
    (h : Document.ofEvents es failure = .ok d) {i : Nat} {n : Node}
    (hn : d.root.nodes[i]? = some n) :
    ∃ tag, (tagsOf es)[i]? = some tag ∧
      n.head = tag.headIn (spaceAt? (tagsOf es) (i :: n.above)) n.head.text := by
  obtain ⟨raw, -, htag, rfl⟩ := node_of_ofEvents h hn
  exact ⟨raw.tag, htag, rfl⟩

section SameShape

variable {es es' : List Event} {failure : Option Failure} (failure' : Option Failure)
  (hes : List.Forall₂ Event.SameShape es es')

include hes

theorem run_sameShape : (Skeleton.initial.run es).SameShape (Skeleton.initial.run es') :=
  Skeleton.SameShape.run ⟨.nil, rfl⟩ hes

/-- Tags do not matter for whether events make a document. -/
theorem isOk_sameShape : (∃ d', Document.ofEvents es' failure' = .ok d') ↔
    ∃ d, Document.ofEvents es failure = .ok d := by
  rw [ofEvents_isOk_iff, ofEvents_isOk_iff, ← List.length_pos_iff, ← List.length_pos_iff,
    (run_sameShape hes).nodes.length_eq]

/-- Events that differ in their tags at most make documents of one shape. -/
theorem ofEvents_sameShape {d : Document} (h : Document.ofEvents es failure = .ok d) :
    ∃ d', Document.ofEvents es' failure' = .ok d' ∧
      List.Forall₂ (fun n n' => n'.above = n.above ∧ n'.head.text = n.head.text)
        d.root.nodes d'.root.nodes := by
  obtain ⟨d', hd'⟩ := (isOk_sameShape failure' hes).mpr ⟨d, h⟩
  refine ⟨d', hd', ?_⟩
  have hnodes := (run_sameShape hes).nodes
  rw [ofEvents_nodes h, ofEvents_nodes hd']
  refine List.forall₂_iff_get.mpr ⟨?_, fun i hi hi' => ?_⟩
  · rw [Skeleton.length_resolved, Skeleton.length_resolved, hnodes.length_eq]
  · rw [Skeleton.length_resolved] at hi hi'
    obtain ⟨habove, htext⟩ := hnodes.get hi hi'
    simp only [List.get_eq_getElem, Skeleton.resolved, List.getElem_mapIdx]
    exact ⟨habove, htext⟩

end SameShape

/-- Names have the namespaces of their scope. A node stands for an element with its ancestors, and
its places are theirs; the tag at its place says what it is, with each prefix standing for what is
declared for it nearest, at that place or those around it. Whatever other tags declare, the nodes
outside their elements are the same. -/
theorem namespaces_scoped_lexically {es : List Event} {failure : Option Failure} {d : Document}
    (h : Document.ofEvents es failure = .ok d) :
    List.Forall₂ (Node.TellsOf d.root.nodes) d.root.nodes (⟨d.root, []⟩ :: d.root.sites) ∧
    (∀ (i : Nat) (n : Node), d.root.nodes[i]? = some n → ∃ tag, (tagsOf es)[i]? = some tag ∧
      n.head = tag.headIn (spaceAt? (tagsOf es) (i :: n.above)) n.head.text) ∧
    ∀ es', List.Forall₂ Event.SameShape es es' → ∃ d', Document.ofEvents es' failure = .ok d' ∧
      ∀ (i : Nat) (n : Node), d.root.nodes[i]? = some n →
        (∀ place ∈ i :: n.above, (tagsOf es')[place]? = (tagsOf es)[place]?) →
          d'.root.nodes[i]? = some n := by
  refine ⟨Element.nodes_tellOf d.root, fun i n hn => head_of_ofEvents h hn, fun es' hes => ?_⟩
  obtain ⟨d', hd', hshape⟩ := ofEvents_sameShape failure hes h
  refine ⟨d', hd', fun i n hn htags => ?_⟩
  have hi := (List.getElem?_eq_some_iff.mp hn).1
  obtain ⟨n', hn'⟩ : ∃ n', d'.root.nodes[i]? = some n' :=
    ⟨_, List.getElem?_eq_getElem (hshape.length_eq ▸ hi)⟩
  -- the same place, the same text, and the same tags to resolve names by
  obtain ⟨habove, htext⟩ : n'.above = n.above ∧ n'.head.text = n.head.text := by
    have hget := hshape.get hi (hshape.length_eq ▸ hi)
    rw [List.getElem?_eq_some_iff] at hn hn'
    rwa [List.get_eq_getElem, List.get_eq_getElem, hn.2, hn'.2] at hget
  obtain ⟨tag, htag, hhead⟩ := head_of_ofEvents h hn
  obtain ⟨tag', htag', hhead'⟩ := head_of_ofEvents hd' hn'
  have hspaces := spaceAt?_congr htags
  rw [htags i (List.mem_cons_self ..), htag] at htag'
  obtain rfl := Option.some.inj htag'
  rw [habove, htext, hspaces, ← hhead] at hhead'
  obtain ⟨head, above⟩ := n
  obtain ⟨head', above'⟩ := n'
  obtain rfl : head' = head := hhead'
  obtain rfl : above' = above := habove
  exact hn'

/-- A prefix that is declared twice by one tag, shadowed by another and taken back by a third, and
more ends than starts. -/
def shadowedEvents : List Event := [
  .start ⟨"a:r", [("xmlns:a", "u"), ("xmlns", "d"), ("xmlns:a", "w")]⟩,
  .empty ⟨"a:s", [("xmlns:a", "v"), ("a:k", "1")]⟩,
  .start ⟨"t", [("xmlns:a", ""), ("a:k", "1"), ("k", "2")]⟩,
  .text "x", .close, .close, .close]

/-- Namespaces of an element and of its attributes, and where it stands. -/
def Node.spaces (n : Node) : Option String × List (Option String) × List Nat :=
  (n.head.space, n.head.attributes.map (·.space), n.above)

theorem shadowed_namespaces_scoped : ∃ d, Document.ofEvents shadowedEvents none = .ok d ∧
    d.root.nodes.map Node.spaces = [
      (some "u", [some Space.declarations, some Space.declarations, some Space.declarations], []),
      (some "v", [some Space.declarations, some "v"], [0]),
      (some "d", [some Space.declarations, none, none], [0])] ∧
    ∀ (i : Nat) (n : Node), d.root.nodes[i]? = some n →
      ∃ tag, (tagsOf shadowedEvents)[i]? = some tag ∧
        n.head = tag.headIn (spaceAt? (tagsOf shadowedEvents) (i :: n.above)) n.head.text := by
  have hspaces : (Document.ofEvents shadowedEvents none).toOption.map
      (fun d => d.root.nodes.map Node.spaces) = some [
        (some "u", [some Space.declarations, some Space.declarations, some Space.declarations], []),
        (some "v", [some Space.declarations, some "v"], [0]),
        (some "d", [some Space.declarations, none, none], [0])] := by
    decide +kernel
  cases hd : Document.ofEvents shadowedEvents none with
  | error e =>
    rw [hd] at hspaces
    cases hspaces
  | ok d =>
    rw [hd] at hspaces
    exact ⟨d, rfl, Option.some.inj hspaces, (namespaces_scoped_lexically hd).2.1⟩

end EtlSurvey.Markup
