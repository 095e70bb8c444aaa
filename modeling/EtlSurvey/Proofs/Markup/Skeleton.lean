import EtlSurvey.Markup.Event
import Mathlib.Data.List.Forall2

/-! # Events without names

Where the elements of a document stand and which text is in them does not depend on tags: an event
that begins an element adds a raw node inside the elements that are open, an end closes the
innermost of them whatever its name, and text goes to it. The tags of the raw nodes are those of
the events, in order. -/

namespace EtlSurvey.Markup
open Text

/-- What is known of an element before names are resolved: its tag, the places of the elements
around it, and the text directly inside. -/
structure RawNode where
  tag : Tag
  above : List Nat
  text : String
  deriving DecidableEq, Repr

/-- The raw nodes of a document so far, and the places of those that are open, innermost first. -/
structure Skeleton where
  nodes : List RawNode
  places : List Nat
  deriving DecidableEq, Repr

namespace Skeleton

def initial : Skeleton := ⟨[], []⟩

def push (tag : Tag) (s : Skeleton) : Skeleton :=
  ⟨s.nodes ++ [⟨tag, s.places, ""⟩], s.nodes.length :: s.places⟩

def close (s : Skeleton) : Skeleton := { s with places := s.places.tail }

def append (text : String) (s : Skeleton) : Skeleton :=
  match s.places with
  | [] => s
  | place :: _ =>
    { s with nodes := s.nodes.modify place fun n => { n with text := n.text ++ text } }

/-- The root is there and no longer open. -/
def isClosed (s : Skeleton) : Bool := !s.nodes.isEmpty && s.places.isEmpty

/-- One event; none if it ends the document. -/
def step (s : Skeleton) : Event → Option Skeleton
  | .start tag => if s.isClosed then none else some (s.push tag)
  | .empty tag => if s.isClosed then none else some (s.push tag).close
  | .text text => some (s.append text)
  | .close => some s.close

def run (s : Skeleton) : List Event → Skeleton
  | [] => s
  | e :: rest =>
    match s.step e with
    | some s => s.run rest
    | none => s

end Skeleton

/-- The tag of an event that begins an element. -/
def Event.tag? : Event → Option Tag
  | .start tag => some tag
  | .empty tag => some tag
  | .text _ => none
  | .close => none

/-- The tags of events, in order. -/
def tagsOf (es : List Event) : List Tag := es.filterMap Event.tag?

/-- A raw node without its text. -/
def RawNode.bare (n : RawNode) : Tag × List Nat := (n.tag, n.above)

theorem Skeleton.bare_append (s : Skeleton) (text : String) :
    (s.append text).nodes.map RawNode.bare = s.nodes.map RawNode.bare := by
  rw [append]
  split
  · rfl
  · refine List.ext_getElem? fun i => ?_
    simp only [List.getElem?_map, List.getElem?_modify]
    cases s.nodes[i]? with
    | none => rfl
    | some n => simp only [Option.map_eq_map, Option.map_some]; split <;> rfl

/-- An event adds at most one node, at the end and inside the elements that are open. -/
theorem Skeleton.bare_step {s s' : Skeleton} {e : Event} (h : s.step e = some s') :
    s'.nodes.map RawNode.bare =
      s.nodes.map RawNode.bare ++ e.tag?.toList.map (·, s.places) := by
  cases e with
  | start tag =>
    obtain rfl := Option.some.inj (Option.ite_none_left_eq_some.mp h).2
    exact List.map_append
  | empty tag =>
    obtain rfl := Option.some.inj (Option.ite_none_left_eq_some.mp h).2
    exact List.map_append
  | text text =>
    obtain rfl := Option.some.inj h
    exact (s.bare_append text).trans (List.append_nil _).symm
  | close =>
    obtain rfl := Option.some.inj h
    exact (List.append_nil _).symm

theorem Skeleton.tags_step {s s' : Skeleton} {e : Event} (h : s.step e = some s') :
    s'.nodes.map (·.tag) = s.nodes.map (·.tag) ++ e.tag?.toList := by
  have htags := congrArg (List.map Prod.fst) (bare_step h)
  rw [List.map_append, List.map_map, List.map_map, List.map_map] at htags
  exact htags.trans (congrArg _ (List.map_id _))

/-- The nodes have the tags of the events, one by one. -/
theorem Skeleton.tags_run (s : Skeleton) (es : List Event) :
    (s.run es).nodes.map (·.tag) <+: s.nodes.map (·.tag) ++ es.filterMap Event.tag? := by
  induction es generalizing s with
  | nil => exact List.prefix_append _ _
  | cons e rest ih =>
    rw [run]
    split
    · next s' hs =>
      refine (ih s').trans ?_
      rw [tags_step hs, List.append_assoc, List.filterMap_cons]
      cases e.tag? <;> exact List.prefix_rfl
    · exact List.prefix_append _ _

/-! ## Tags of one shape -/

/-- Events that differ in their tags at most. -/
inductive Event.SameShape : Event → Event → Prop
  | start (tag tag' : Tag) : SameShape (.start tag) (.start tag')
  | empty (tag tag' : Tag) : SameShape (.empty tag) (.empty tag')
  | text (text : String) : SameShape (.text text) (.text text)
  | close : SameShape .close .close

/-- Raw nodes that differ in their tags at most. -/
structure RawNode.SameShape (n n' : RawNode) : Prop where
  above : n'.above = n.above
  text : n'.text = n.text

/-- Skeletons that differ in their tags at most. -/
structure Skeleton.SameShape (s s' : Skeleton) : Prop where
  nodes : List.Forall₂ RawNode.SameShape s.nodes s'.nodes
  places : s'.places = s.places

namespace Skeleton.SameShape

variable {s s' : Skeleton}

theorem isClosed (h : s.SameShape s') : s'.isClosed = s.isClosed := by
  have hnodes := h.nodes
  rw [Skeleton.isClosed, Skeleton.isClosed, h.places]
  generalize s.nodes = nodes, s'.nodes = nodes' at hnodes
  cases hnodes <;> rfl

theorem push (h : s.SameShape s') (tag tag' : Tag) : (s.push tag).SameShape (s'.push tag') where
  nodes := List.rel_append h.nodes (.cons ⟨h.places, rfl⟩ .nil)
  places := by
    rw [Skeleton.push, Skeleton.push, h.places, h.nodes.length_eq]

theorem close (h : s.SameShape s') : s.close.SameShape s'.close :=
  ⟨h.nodes, congrArg List.tail h.places⟩

theorem forall₂_modify {R : α → α → Prop} {f : α → α} (hf : ∀ a b, R a b → R (f a) (f b))
    {as bs : List α} (h : List.Forall₂ R as bs) (i : Nat) :
    List.Forall₂ R (as.modify i f) (bs.modify i f) := by
  induction h generalizing i with
  | nil => cases i <;> exact .nil
  | cons hab hrest ih =>
    cases i with
    | zero => exact .cons (hf _ _ hab) hrest
    | succ i => exact .cons hab (ih i)

theorem append (h : s.SameShape s') (text : String) :
    (s.append text).SameShape (s'.append text) := by
  rw [Skeleton.append, Skeleton.append, h.places]
  split
  · exact h
  · refine ⟨forall₂_modify ?_ h.nodes _, rfl⟩
    exact fun n n' hn => ⟨hn.above, congrArg (· ++ text) hn.text⟩

theorem step (h : s.SameShape s') {e e' : Event} (he : e.SameShape e') :
    Option.Rel SameShape (s.step e) (s'.step e') := by
  cases he with
  | start tag tag' =>
    rw [Skeleton.step, Skeleton.step, h.isClosed]
    split
    · exact .none
    · exact .some (h.push tag tag')
  | empty tag tag' =>
    rw [Skeleton.step, Skeleton.step, h.isClosed]
    split
    · exact .none
    · exact .some (h.push tag tag').close
  | text text => exact .some (h.append text)
  | close => exact .some h.close

theorem run (h : s.SameShape s') {es es' : List Event} (hes : List.Forall₂ Event.SameShape es es') :
    (s.run es).SameShape (s'.run es') := by
  induction hes generalizing s s' with
  | nil => exact h
  | @cons e e' rest rest' he _ ih =>
    have hstep := h.step he
    rw [Skeleton.run, Skeleton.run]
    generalize s.step e = t, s'.step e' = t' at hstep
    cases hstep with
    | none => exact h
    | some hnext => exact ih hnext

end Skeleton.SameShape

end EtlSurvey.Markup
