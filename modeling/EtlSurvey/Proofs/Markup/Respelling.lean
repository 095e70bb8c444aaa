import EtlSurvey.Proofs.Markup.Scope
import EtlSurvey.Proofs.Lists
import Mathlib.Data.Set.Function
import Mathlib.Logic.Equiv.Basic

/-! # Prefixes spelled otherwise

Two documents with the same events but for the spelling of their prefixes have trees of one shape,
the elements and attributes of which have the same namespaces, local names and values. Only the
declarations are kept under their prefixes, and so under other names. -/

namespace EtlSurvey.Markup
open Text

/-! ## Names and keys -/

theorem toList_prefixed (before name : String) :
    (before ++ ":" ++ name).toList = before.toList ++ ':' :: name.toList := by
  rw [String.toList_append, String.toList_append, List.append_assoc]
  rfl

theorem splitName_append {before : String} (h : ':' ∉ before.toList) (name : String) :
    splitName (before ++ ":" ++ name) = (some before, name) := by
  have hbefore : (before ++ ":" ++ name).toList.takeWhile (· != ':') = before.toList := by
    rw [toList_prefixed, takeWhile_bne_append_cons h]
  rw [splitName, hbefore, toList_prefixed, List.drop_left]
  exact congrArg₂ (some · , ·) String.ofList_toList String.ofList_toList

theorem splitName_of_not_mem {raw : String} (h : ':' ∉ raw.toList) :
    splitName raw = (none, raw) := by
  rw [splitName, takeWhile_bne_of_not_mem h, List.drop_length]

/-- A name has a prefix or no colon. -/
theorem prefixed_or_not_mem (raw : String) :
    (∃ before name, raw = before ++ ":" ++ name ∧ ':' ∉ before.toList) ∨ ':' ∉ raw.toList := by
  by_cases h : ':' ∈ raw.toList
  · obtain ⟨before, after, hraw, hbefore⟩ := List.eq_append_cons_of_mem h
    refine .inl ⟨String.ofList before, String.ofList after, String.ext ?_, ?_⟩
    · rw [toList_prefixed, String.toList_ofList, String.toList_ofList, hraw]
    · rwa [String.toList_ofList]
  · exact .inr h

theorem declaration_beq_xmlns (declared : String) : ("xmlns:" ++ declared == "xmlns") = false := by
  refine beq_eq_false_iff_ne.mpr fun heq => ?_
  have hlength := congrArg (fun s : String => s.toList.length) heq
  simp at hlength

theorem declaredPrefix?_append (declared : String) :
    declaredPrefix? ("xmlns:" ++ declared) = some declared := by
  have hmark : "xmlns:".toList.isPrefixOf ("xmlns:" ++ declared).toList = true := by
    rw [List.isPrefixOf_iff_prefix, String.toList_append]
    exact List.prefix_append _ _
  rw [declaredPrefix?, declaration_beq_xmlns, hmark, String.toList_append]
  exact congrArg some String.ofList_toList

/-- Other prefixes declare nothing. -/
theorem declaredPrefix?_of_ne {before : String} (hne : before ≠ "xmlns")
    (hcolon : ':' ∉ before.toList) (name : String) :
    declaredPrefix? (before ++ ":" ++ name) = none := by
  rw [declaredPrefix?, if_neg, if_neg]
  · intro hmark
    obtain ⟨after, hafter⟩ := List.isPrefixOf_iff_prefix.mp hmark
    have hkey : before ++ ":" ++ name = "xmlns" ++ ":" ++ String.ofList after := by
      refine String.ext ?_
      rw [← hafter, toList_prefixed, String.toList_ofList (l := after)]
      rfl
    have hsplit := splitName_append hcolon name
    rw [hkey, splitName_append (by decide)] at hsplit
    exact hne (Option.some.inj (Prod.mk.inj hsplit).1).symm
  · intro hkey
    have hmem : ':' ∈ (before ++ ":" ++ name).toList := by
      rw [toList_prefixed]
      exact List.mem_append_right _ (List.mem_cons_self ..)
    rw [eq_of_beq hkey] at hmem
    exact absurd hmem (by decide)

theorem declaredPrefix?_of_not_mem {key : String} (hne : key ≠ "xmlns") (h : ':' ∉ key.toList) :
    declaredPrefix? key = none := by
  rw [declaredPrefix?, if_neg (by rwa [beq_iff_eq]), if_neg]
  intro hmark
  obtain ⟨after, hafter⟩ := List.isPrefixOf_iff_prefix.mp hmark
  rw [← hafter] at h
  exact h (List.mem_append_left _ (by decide))

/-- A key declares the default namespace or a prefix, or else it has a prefix or no colon. -/
inductive KeyForm : String → Prop
  | default : KeyForm "xmlns"
  | declaration (declared : String) : KeyForm ("xmlns:" ++ declared)
  | prefixed {before : String} (hne : before ≠ "xmlns") (hcolon : ':' ∉ before.toList)
      (name : String) : KeyForm (before ++ ":" ++ name)
  | plain {key : String} (hne : key ≠ "xmlns") (hcolon : ':' ∉ key.toList) : KeyForm key

theorem keyForm (key : String) : KeyForm key := by
  by_cases hkey : key = "xmlns"
  · subst hkey
    exact .default
  obtain ⟨before, name, rfl, hcolon⟩ | hcolon := prefixed_or_not_mem key
  · by_cases hbefore : before = "xmlns"
    · subst hbefore
      exact .declaration name
    · exact .prefixed hbefore hcolon name
  · exact .plain hkey hcolon

/-! ## Respelling -/

/-- A name with another prefix. -/
def respellName (f : String → String) (raw : String) : String :=
  match splitName raw with
  | (some before, name) => f before ++ ":" ++ name
  | (none, _) => raw

/-- The key of an attribute with another prefix, or one that declares another prefix. -/
def respellKey (f : String → String) (key : String) : String :=
  if key == "xmlns" then key
  else match declaredPrefix? key with
    | some declared => "xmlns:" ++ f declared
    | none => respellName f key

def Tag.respell (f : String → String) (tag : Tag) : Tag where
  name := respellName f tag.name
  attributes := tag.attributes.map fun (key, value) => (respellKey f key, value)

def Event.respell (f : String → String) : Event → Event
  | .start tag => .start (tag.respell f)
  | .empty tag => .empty (tag.respell f)
  | e => e

/-- Prefix that a key has, unless it declares one. -/
def usedPrefix? (key : String) : Option String :=
  if (declaredPrefix? key).isSome then none else (splitName key).1

/-- Prefixes that a tag has in its name and its attributes. -/
def Tag.used (tag : Tag) : List String :=
  (splitName tag.name).1.toList ++ tag.attributes.filterMap fun (key, _) => usedPrefix? key

def Tag.declared (tag : Tag) : List String := tag.declarations.map (·.1)

def usedBy (tags : List Tag) : List String := tags.flatMap Tag.used

def declaredBy (tags : List Tag) : List String := tags.flatMap Tag.declared

/-- A way to spell the prefixes of tags. Names without a prefix keep none, and the prefix of
declarations stands for nothing else. -/
structure Respelling (f : String → String) (tags : List Tag) : Prop where
  unprefixed : f "" = ""
  reserved : f "xmlns" = "xmlns"
  colonless : ∀ p ∈ usedBy tags, ':' ∉ (f p).toList
  injective : Set.InjOn f
    {p | p = "" ∨ p = "xmlns" ∨ p ∈ declaredBy tags ∨ p ∈ usedBy tags}

theorem respellName_append (f : String → String) {before : String} (h : ':' ∉ before.toList)
    (name : String) : respellName f (before ++ ":" ++ name) = f before ++ ":" ++ name := by
  rw [respellName, splitName_append h]

theorem respellName_of_not_mem (f : String → String) {raw : String} (h : ':' ∉ raw.toList) :
    respellName f raw = raw := by
  rw [respellName, splitName_of_not_mem h]

theorem respellKey_of_none (f : String → String) {key : String} (h : declaredPrefix? key = none) :
    respellKey f key = respellName f key := by
  have hne : (key == "xmlns") = false := by
    refine beq_eq_false_iff_ne.mpr fun heq => ?_
    rw [heq] at h
    cases h
  rw [respellKey, hne, h]
  rfl

theorem respellKey_append (f : String → String) (declared : String) :
    respellKey f ("xmlns:" ++ declared) = "xmlns:" ++ f declared := by
  rw [respellKey, declaration_beq_xmlns, declaredPrefix?_append]
  rfl

/-- An attribute that is the same, or declares a prefix that is spelled otherwise. -/
inductive Attribute.Respelled (f : String → String) (declared : List String) :
    Attribute → Attribute → Prop
  | same (a : Attribute) : Respelled f declared a a
  | declaration {p : String} (hp : p ∈ declared) (space : String) :
      Respelled f declared ⟨some Space.declarations, p, space⟩ ⟨some Space.declarations, f p, space⟩

/-- Heads that are the same but for the spelling of what they declare. -/
structure Head.Respelled (f : String → String) (declared : List String) (h h' : Head) : Prop where
  space : h'.space = h.space
  name : h'.name = h.name
  text : h'.text = h.text
  attributes : List.Forall₂ (Attribute.Respelled f declared) h.attributes h'.attributes

namespace Respelling

variable {f : String → String} {tags : List Tag}

/-- Where a prefix of a tag is spelled, nothing is declared. -/
theorem ne_xmlns (hf : Respelling f tags) {tag : Tag} (htag : tag ∈ tags) {p : String}
    (hp : p ∈ tag.used) (hne : p ≠ "xmlns") : f p ≠ "xmlns" := by
  intro heq
  rw [← hf.reserved] at heq
  exact hne (hf.injective (.inr (.inr (.inr (List.mem_flatMap.mpr ⟨tag, htag, hp⟩))))
    (.inr (.inl rfl)) heq)

theorem mem_used_of_key {tag : Tag} {key value before name : String}
    (hkey : (key, value) ∈ tag.attributes) (hbefore : key = before ++ ":" ++ name)
    (hne : before ≠ "xmlns") (hcolon : ':' ∉ before.toList) : before ∈ tag.used := by
  refine List.mem_append_right _ (List.mem_filterMap.mpr ⟨_, hkey, ?_⟩)
  show usedPrefix? key = some before
  rw [usedPrefix?, hbefore, declaredPrefix?_of_ne hne hcolon, splitName_append hcolon]
  rfl

/-- What a key declares is respelled with it. -/
theorem declaredPrefix?_respellKey (hf : Respelling f tags) {tag : Tag} (htag : tag ∈ tags)
    {key value : String} (hkey : (key, value) ∈ tag.attributes) :
    declaredPrefix? (respellKey f key) = (declaredPrefix? key).map f := by
  obtain _ | declared | ⟨hne, hcolon, name⟩ | ⟨hne, hcolon⟩ := keyForm key
  · exact congrArg some hf.unprefixed.symm
  · rw [respellKey_append, declaredPrefix?_append, declaredPrefix?_append, Option.map_some]
  · have hused := mem_used_of_key hkey rfl hne hcolon
    have hnone := declaredPrefix?_of_ne hne hcolon name
    rw [respellKey_of_none f hnone, respellName_append f hcolon, hnone]
    exact declaredPrefix?_of_ne (hf.ne_xmlns htag hused hne)
      (hf.colonless _ (List.mem_flatMap.mpr ⟨tag, htag, hused⟩)) name
  · have hnone := declaredPrefix?_of_not_mem hne hcolon
    rw [respellKey_of_none f hnone, respellName_of_not_mem f hcolon, hnone, Option.map_none]

theorem declarations_respell (hf : Respelling f tags) {tag : Tag} (htag : tag ∈ tags) :
    (tag.respell f).declarations = tag.declarations.map (Prod.map f id) := by
  rw [Tag.declarations, Tag.declarations, Tag.respell, List.filterMap_map, List.map_filterMap]
  refine List.filterMap_congr fun (key, value) hkey => ?_
  show (declaredPrefix? (respellKey f key)).map (·, value) =
    ((declaredPrefix? key).map (·, value)).map (Prod.map f id)
  rw [hf.declaredPrefix?_respellKey htag hkey, Option.map_map, Option.map_map]
  rfl

theorem lookup_map_of_injOn {declarations : List (String × String)} {p : String}
    (hp : ∀ q ∈ declarations.map (·.1), f p = f q → p = q) :
    (declarations.map (Prod.map f id)).lookup (f p) = declarations.lookup p := by
  induction declarations with
  | nil => rfl
  | cons d rest ih =>
    obtain ⟨q, space⟩ := d
    have hbeq : (f p == f q) = (p == q) := by
      rw [Bool.eq_iff_iff, beq_iff_eq, beq_iff_eq]
      exact ⟨hp q (List.mem_cons_self ..), congrArg f⟩
    rw [List.map_cons, Prod.map_apply, List.lookup_cons, List.lookup_cons, hbeq,
      ih fun q hq => hp q (List.mem_cons_of_mem _ hq)]
    rfl

/-- Prefixes that are declared or used, and the default one. -/
def Occurs (tags : List Tag) (p : String) : Prop :=
  p = "" ∨ p ∈ usedBy tags

/-- What is declared nearest for a prefix is so for the other spelling. -/
theorem nearestDeclaration?_respell (hf : Respelling f tags) {p : String} (hp : Occurs tags p)
    (places : List Nat) :
    nearestDeclaration? (tags.map (Tag.respell f)) places (f p) =
      nearestDeclaration? tags places p := by
  have hat : ∀ place, (declarationsAt (tags.map (Tag.respell f)) place).lookup (f p) =
      (declarationsAt tags place).lookup p := by
    intro place
    rw [declarationsAt, declarationsAt, List.getElem?_map]
    cases htag : tags[place]? with
    | none => rfl
    | some tag =>
      have hmem := List.mem_of_getElem? htag
      show (tag.respell f).declarations.lookup (f p) = tag.declarations.lookup p
      rw [hf.declarations_respell hmem]
      refine lookup_map_of_injOn fun q hq => hf.injective ?_ ?_
      · exact hp.imp id fun hused => .inr (.inr hused)
      · exact .inr (.inr (.inl (List.mem_flatMap.mpr ⟨tag, hmem, hq⟩)))
  rw [nearestDeclaration?, nearestDeclaration?, funext hat]

/-- A prefix stands for a namespace that its spelling does not matter for: one that is declared,
or one that either spelling is known by. -/
def SpaceKept (f : String → String) (tags : List Tag) (places : List Nat) (p : String) : Prop :=
  ((nearestDeclaration? tags places p).bind nonEmpty?).isSome ∨
    Space.ofPrefix? (f p) = Space.ofPrefix? p

theorem spaceAt?_respell (hf : Respelling f tags) {p : String} (hp : Occurs tags p)
    {places : List Nat} (hkept : SpaceKept f tags places p) :
    spaceAt? (tags.map (Tag.respell f)) places (f p) = spaceAt? tags places p := by
  rw [spaceAt?, spaceAt?, hf.nearestDeclaration?_respell hp]
  obtain hdeclared | hknown := hkept
  · obtain ⟨space, hspace⟩ := Option.isSome_iff_exists.mp hdeclared
    rw [hspace]
    rfl
  · rw [hknown]

section Heads

variable {tag : Tag} {space? space'? : String → Option String}

theorem attributeIn_respell (hf : Respelling f tags) (htag : tag ∈ tags)
    (hspace : ∀ p ∈ tag.used, space'? (f p) = space? p) {key value : String}
    (hkey : (key, value) ∈ tag.attributes) :
    Attribute.Respelled f (declaredBy tags) (attributeIn space? key value)
      (attributeIn space'? (respellKey f key) value) := by
  have hdeclares := hf.declaredPrefix?_respellKey htag hkey
  rw [attributeIn, attributeIn, hdeclares]
  cases hdeclared : declaredPrefix? key with
  | some declared =>
    refine .declaration (List.mem_flatMap.mpr ⟨tag, htag, ?_⟩) value
    refine List.mem_map.mpr ⟨(declared, value), List.mem_filterMap.mpr ⟨_, hkey, ?_⟩, rfl⟩
    exact congrArg (Option.map (·, value)) hdeclared
  | none =>
    dsimp only [Option.map_none]
    rw [respellKey_of_none f hdeclared]
    obtain ⟨before, name, rfl, hcolon⟩ | hcolon := prefixed_or_not_mem key
    · have hne : before ≠ "xmlns" := by
        rintro rfl
        rw [show "xmlns" ++ ":" ++ name = "xmlns:" ++ name from rfl, declaredPrefix?_append]
          at hdeclared
        cases hdeclared
      have hused := mem_used_of_key hkey rfl hne hcolon
      rw [respellName_append f hcolon, resolveName, resolveName, splitName_append hcolon,
        splitName_append (hf.colonless _ (List.mem_flatMap.mpr ⟨tag, htag, hused⟩))]
      dsimp only
      rw [hspace before hused]
      exact .same _
    · rw [respellName_of_not_mem f hcolon, resolveName, resolveName, splitName_of_not_mem hcolon]
      exact .same _

theorem headIn_respell (hf : Respelling f tags) (htag : tag ∈ tags)
    (hspace : ∀ p ∈ tag.used, space'? (f p) = space? p) (hdefault : space'? "" = space? "")
    (text : String) :
    Head.Respelled f (declaredBy tags) (tag.headIn space? text)
      ((tag.respell f).headIn space'? text) := by
  have hname : resolveName space'? (space'? "") (respellName f tag.name) =
      resolveName space? (space? "") tag.name := by
    obtain ⟨before, name, hraw, hcolon⟩ | hcolon := prefixed_or_not_mem tag.name
    · have hused : before ∈ tag.used := by
        rw [Tag.used, hraw, splitName_append hcolon]
        exact List.mem_append_left _ (List.mem_cons_self ..)
      rw [hraw, respellName_append f hcolon, resolveName, resolveName, splitName_append hcolon,
        splitName_append (hf.colonless _ (List.mem_flatMap.mpr ⟨tag, htag, hused⟩))]
      dsimp only
      rw [hspace before hused]
    · rw [respellName_of_not_mem f hcolon, resolveName, resolveName, splitName_of_not_mem hcolon]
      dsimp only
      rw [hdefault]
  rw [Tag.headIn, Tag.headIn, Tag.respell]
  dsimp only
  rw [hname, List.map_map]
  refine ⟨rfl, rfl, rfl, List.forall₂_map_left_iff.mpr (List.forall₂_map_right_iff.mpr ?_)⟩
  exact List.forall₂_same.mpr fun _ hattribute => hf.attributeIn_respell htag hspace hattribute

end Heads

end Respelling

theorem Tag.colon_not_mem_of_used {tag : Tag} {p : String} (h : p ∈ tag.used) : ':' ∉ p.toList := by
  have hsplit : ∀ raw, p ∈ (splitName raw).1 → ':' ∉ p.toList := by
    intro raw hp
    obtain ⟨before, name, rfl, hcolon⟩ | hcolon := prefixed_or_not_mem raw
    · rw [splitName_append hcolon] at hp
      exact Option.some.inj hp ▸ hcolon
    · rw [splitName_of_not_mem hcolon] at hp
      cases hp
  obtain h | h := List.mem_append.mp h
  · exact hsplit tag.name (Option.mem_toList.mp h)
  · obtain ⟨⟨key, value⟩, -, hkey⟩ := List.mem_filterMap.mp h
    have hused : usedPrefix? key = some p := hkey
    rw [usedPrefix?] at hused
    exact hsplit key (Option.ite_none_left_eq_some.mp hused).2

/-- What may stand as a prefix. -/
def IsPrefixName (p : String) : Prop := p ≠ "" ∧ p ≠ "xmlns" ∧ ':' ∉ p.toList

/-- Two prefixes may change places. -/
theorem respelling_swap {p q : String} (hp : IsPrefixName p) (hq : IsPrefixName q)
    (tags : List Tag) : Respelling (Equiv.swap p q) tags where
  unprefixed := Equiv.swap_apply_of_ne_of_ne hp.1.symm hq.1.symm
  reserved := Equiv.swap_apply_of_ne_of_ne hp.2.1.symm hq.2.1.symm
  colonless r hr := by
    obtain ⟨tag, -, hused⟩ := List.mem_flatMap.mp hr
    rw [Equiv.swap_apply_def]
    split
    · exact hq.2.2
    split
    · exact hp.2.2
    · exact Tag.colon_not_mem_of_used hused
  injective := (Equiv.injective _).injOn

/-! ## Documents -/

/-- Every prefix that an element or its attributes have is declared in their scope. -/
def DeclaresPrefixes (tags : List Tag) (root : Element) : Prop :=
  ∀ n ∈ root.nodes.zipIdx, ∀ tag ∈ tags[n.2]?, ∀ p ∈ tag.used,
    ((nearestDeclaration? tags (n.2 :: n.1.above) p).bind nonEmpty?).isSome

instance (tags : List Tag) (root : Element) : Decidable (DeclaresPrefixes tags root) :=
  inferInstanceAs (Decidable (∀ n ∈ root.nodes.zipIdx, ∀ tag ∈ tags[n.2]?, ∀ p ∈ tag.used,
    ((nearestDeclaration? tags (n.2 :: n.1.above) p).bind nonEmpty?).isSome))

/-- Or at least it stands for the same namespace with either spelling. -/
def KeepsSpaces (f : String → String) (tags : List Tag) (root : Element) : Prop :=
  ∀ n ∈ root.nodes.zipIdx, ∀ tag ∈ tags[n.2]?, ∀ p ∈ tag.used,
    Respelling.SpaceKept f tags (n.2 :: n.1.above) p

theorem DeclaresPrefixes.keepsSpaces {tags : List Tag} {root : Element}
    (h : DeclaresPrefixes tags root) (f : String → String) : KeepsSpaces f tags root :=
  fun n hn tag htag p hp => .inl (h n hn tag htag p hp)

theorem tagsOf_respell (f : String → String) (es : List Event) :
    tagsOf (es.map (Event.respell f)) = (tagsOf es).map (Tag.respell f) := by
  rw [tagsOf, tagsOf, List.filterMap_map, List.map_filterMap]
  refine List.filterMap_congr fun e _ => ?_
  cases e <;> rfl

theorem sameShape_respell (f : String → String) (es : List Event) :
    List.Forall₂ Event.SameShape es (es.map (Event.respell f)) := by
  refine List.forall₂_map_right_iff.mpr (List.forall₂_same.mpr fun e _ => ?_)
  cases e <;> constructor

/-- Documents with the same events but for the spelling of prefixes have related elements in the
same places. -/
theorem ofEvents_respell {f : String → String} {es : List Event} {failure : Option Failure}
    {d : Document} (hf : Respelling f (tagsOf es)) (h : Document.ofEvents es failure = .ok d)
    (hkept : KeepsSpaces f (tagsOf es) d.root) (failure' : Option Failure) :
    ∃ d', Document.ofEvents (es.map (Event.respell f)) failure' = .ok d' ∧
      Head.Respelled f (declaredBy (tagsOf es)) d.root.head d'.root.head ∧
      Forest.Rel (Head.Respelled f (declaredBy (tagsOf es))) d.root.inner d'.root.inner := by
  obtain ⟨d', hd', hshape⟩ := ofEvents_sameShape failure' (sameShape_respell f es) h
  have hnodes : List.Forall₂ (Node.Rel (Head.Respelled f (declaredBy (tagsOf es))))
      d.root.nodes d'.root.nodes := by
    refine List.forall₂_iff_get.mpr ⟨hshape.length_eq, fun i hi hi' => ?_⟩
    have hhere := hshape.get hi hi'
    rw [List.get_eq_getElem, List.get_eq_getElem] at hhere ⊢
    have hn := List.getElem?_eq_getElem hi
    generalize d.root.nodes[i] = n at hn hhere ⊢
    have hn' := List.getElem?_eq_getElem hi'
    generalize d'.root.nodes[i] = n' at hn' hhere ⊢
    obtain ⟨tag, htag, hhead⟩ := head_of_ofEvents h hn
    obtain ⟨tag', htag', hhead'⟩ := head_of_ofEvents hd' hn'
    rw [tagsOf_respell, List.getElem?_map, htag] at htag'
    obtain rfl := Option.some.inj htag'
    have hmem := List.mem_of_getElem? htag
    refine ⟨hhere.1, ?_⟩
    rw [hhead, hhead', hhere.1, hhere.2, tagsOf_respell]
    refine hf.headIn_respell hmem (fun p hp => ?_) ?_ _
    · refine hf.spaceAt?_respell (.inr (List.mem_flatMap.mpr ⟨tag, hmem, hp⟩)) ?_
      exact hkept (n, i) (List.mem_zipIdx_iff_getElem?.mpr hn) tag htag p hp
    · have hkept : Respelling.SpaceKept f (tagsOf es) (i :: n.above) "" :=
        .inr (congrArg Space.ofPrefix? hf.unprefixed)
      have hdefault := hf.spaceAt?_respell (.inl rfl) hkept
      rwa [hf.unprefixed] at hdefault
  obtain _ | ⟨hroot, hinner⟩ := Forest.rel_of_nodes hnodes
  exact ⟨d', hd', hroot, hinner⟩

/-! ## Questions -/

/-- No prefix that is spelled otherwise is this name or comes to it. -/
def Unmoved (f : String → String) (declared : List String) (name : String) : Prop :=
  ∀ p ∈ declared, p = name ∨ f p = name → f p = p

/-- Elements that give the same answers, except to questions for attributes of certain names that
declarations may answer. -/
structure Element.AnswersAlike (safe : String → Prop) (e e' : Element) : Prop where
  space : e'.head.space = e.head.space
  name : e'.name = e.name
  text : e'.head.text = e.head.text
  attributes : e'.attributes = e.attributes
  attr? : ∀ name, safe name → e'.attr? name = e.attr? name
  attrText? : ∀ name, safe name → e'.attrText? name = e.attrText? name
  attrIn? : ∀ space name, safe name ∨ eqIgnoringCase Space.declarations space = false →
    e'.attrIn? space name = e.attrIn? space name

/-- Elements that give the same answers, as their children do, and theirs in turn. -/
inductive Element.Alike (safe : String → Prop) : Element → Element → Prop
  | mk {e e' : Element} (answers : e.AnswersAlike safe e')
      (children : List.Forall₂ (Element.Alike safe) e.children e'.children) : Alike safe e e'

section Questions

variable {f : String → String} {declared : List String}

theorem find?_respelled {as as' : List Attribute} {q : Attribute → Bool}
    (h : List.Forall₂ (Attribute.Respelled f declared) as as')
    (hq : ∀ p ∈ declared, ∀ space,
      q ⟨some Space.declarations, f p, space⟩ = q ⟨some Space.declarations, p, space⟩) :
    (as'.find? q).map (·.value) = (as.find? q).map (·.value) := by
  induction h with
  | nil => rfl
  | @cons a a' rest rest' ha _ ih =>
    rw [List.find?_cons, List.find?_cons]
    cases ha with
    | same =>
      cases q a with
      | true => rfl
      | false => exact ih
    | @declaration p hp space =>
      rw [hq p hp]
      cases q ⟨some Space.declarations, p, space⟩ with
      | true => rfl
      | false => exact ih

theorem attributes_respelled {as as' : List Attribute}
    (h : List.Forall₂ (Attribute.Respelled f declared) as as') :
    (as'.filter (·.space != some Space.declarations)).map (fun a => (a.name, a.value)) =
      (as.filter (·.space != some Space.declarations)).map fun a => (a.name, a.value) := by
  induction h with
  | nil => rfl
  | @cons a a' rest rest' ha _ ih =>
    cases ha with
    | same =>
      rw [List.filter_cons, List.filter_cons]
      split
      · rw [List.map_cons, List.map_cons, ih]
      · exact ih
    | declaration =>
      rw [List.filter_cons_of_neg (by simp), List.filter_cons_of_neg (by simp)]
      exact ih

theorem Unmoved.beq_eq {name : String} (h : Unmoved f declared name) {p : String}
    (hp : p ∈ declared) : (f p == name) = (p == name) := by
  rw [Bool.eq_iff_iff, beq_iff_eq, beq_iff_eq]
  constructor
  · intro hname
    rw [← h p hp (.inr hname), hname]
  · intro hname
    rw [h p hp (.inl hname), hname]

theorem Head.Respelled.answersAlike {head head' : Head} (h : head.Respelled f declared head')
    (inner inner' : Forest) :
    Element.AnswersAlike (Unmoved f declared) ⟨head, inner⟩ ⟨head', inner'⟩ := by
  have hattr : ∀ name, Unmoved f declared name →
      Element.attr? ⟨head', inner'⟩ name = Element.attr? ⟨head, inner⟩ name :=
    fun name hname => find?_respelled h.attributes fun p hp _ => hname.beq_eq hp
  refine ⟨h.space, h.name, h.text, ?_, hattr, fun name hname => ?_, fun space name hname => ?_⟩
  · exact attributes_respelled h.attributes
  · exact congrArg (·.bind trimmed?) (hattr name hname)
  · refine find?_respelled h.attributes fun p hp _ => ?_
    obtain hname | hspace := hname
    · dsimp only
      rw [hname.beq_eq hp]
    · show (_ && eqIgnoringCase Space.declarations space) =
        (_ && eqIgnoringCase Space.declarations space)
      rw [hspace, Bool.and_false, Bool.and_false]

theorem Forest.Rel.alike {forest forest' : Forest}
    (h : Rel (Head.Respelled f declared) forest forest') :
    List.Forall₂ (Element.Alike (Unmoved f declared)) forest.elements forest'.elements := by
  induction h with
  | nil => exact .nil
  | tree hhead _ _ ihInner ihNext => exact .cons (.mk (hhead.answersAlike _ _) ihInner) ihNext

end Questions

end EtlSurvey.Markup
