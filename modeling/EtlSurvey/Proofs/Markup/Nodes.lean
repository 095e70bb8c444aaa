import EtlSurvey.Markup.Document
import Mathlib.Data.List.Forall2

/-! # Documents as lists of nodes

The elements of a document in order, each with the places of the elements that it stands in, say
all that the tree says. Events add to this list at its end: a tag adds a node inside the elements
that are open, and what else comes changes at most the text of the innermost one. -/

namespace EtlSurvey.Markup
open Text

/-- An element without its children, and the places of its ancestors, nearest first. Places count
the elements of a document in order. -/
structure Node where
  head : Head
  above : List Nat
  deriving DecidableEq, Repr

/-- The node with more text inside its element. -/
def Node.write (text : String) (n : Node) : Node := { n with head.text := n.head.text ++ text }

/-- Nodes in one place, with related heads. -/
structure Node.Rel (R : Head → Head → Prop) (n n' : Node) : Prop where
  above : n'.above = n.above
  head : R n.head n'.head

/-- Nodes of sibling elements, of which the first has the given place. -/
def Forest.nodes (above : List Nat) (place : Nat) : Forest → List Node
  | .nil => []
  | .tree head inner next =>
    ⟨head, above⟩ :: (inner.nodes (place :: above) (place + 1) ++
      next.nodes above (place + 1 + inner.all.length))

/-- Nodes of a document from its root. -/
def Element.nodes (root : Element) : List Node := (Forest.tree root.head root.inner .nil).nodes [] 0

namespace Forest

@[simp] theorem length_nodes (above : List Nat) (place : Nat) (f : Forest) :
    (f.nodes above place).length = f.all.length := by
  induction f generalizing above place with
  | nil => rfl
  | tree head inner next ihInner ihNext => simp [nodes, all, ihInner, ihNext]

/-- The nodes of a forest stand at least as deep as its trees. -/
theorem above_suffix_of_mem_nodes {above : List Nat} {place : Nat} {f : Forest} {n : Node}
    (h : n ∈ f.nodes above place) : above <:+ n.above := by
  induction f generalizing above place with
  | nil => cases h
  | tree head inner next ihInner ihNext =>
    obtain rfl | h := List.mem_cons.mp h
    · exact List.suffix_rfl
    obtain h | h := List.mem_append.mp h
    · exact (List.suffix_cons place above).trans (ihInner h)
    · exact ihNext h

theorem takeWhile_nodes (above : List Nat) (place : Nat) (inner next : Forest) (start : Nat) :
    (inner.nodes (place :: above) (place + 1) ++ next.nodes above start).takeWhile
        (fun n => above.length < n.above.length) =
      inner.nodes (place :: above) (place + 1) := by
  rw [List.takeWhile_append_of_pos]
  · cases next with
    | nil => exact List.append_nil _
    | tree head inner next =>
      rw [nodes, List.takeWhile_cons_of_neg (by simp), List.append_nil]
  · intro n hn
    have hlength := (above_suffix_of_mem_nodes hn).length_le
    exact decide_eq_true hlength

/-- Forests of one shape, with related heads. -/
inductive Rel (R : Head → Head → Prop) : Forest → Forest → Prop
  | nil : Rel R .nil .nil
  | tree {head head' : Head} {inner inner' next next' : Forest} (hhead : R head head')
      (hinner : Rel R inner inner') (hnext : Rel R next next') :
      Rel R (.tree head inner next) (.tree head' inner' next')

theorem forall₂_takeWhile {R : α → β → Prop} {p : α → Bool} {q : β → Bool}
    (hpq : ∀ a b, R a b → p a = q b) {as : List α} {bs : List β} (h : List.Forall₂ R as bs) :
    List.Forall₂ R (as.takeWhile p) (bs.takeWhile q) := by
  induction h with
  | nil => exact .nil
  | @cons a b as bs hab _ ih =>
    rw [List.takeWhile_cons, List.takeWhile_cons, ← hpq a b hab]
    cases p a with
    | true => exact .cons hab ih
    | false => exact .nil

/-- Nodes tell the shape of the trees that they are of. -/
theorem rel_of_nodes {R : Head → Head → Prop} {above : List Nat} {place : Nat} {f g : Forest}
    (h : List.Forall₂ (Node.Rel R) (f.nodes above place) (g.nodes above place)) : Rel R f g := by
  induction f generalizing above place g with
  | nil =>
    cases g with
    | nil => exact .nil
    | tree => cases h
  | tree head inner next ihInner ihNext =>
    cases g with
    | nil => cases h
    | tree head' inner' next' =>
      obtain _ | ⟨hnode, hrest⟩ := h
      -- what is inside the first tree is deeper than what follows
      have hdeeper := forall₂_takeWhile (p := fun n => above.length < n.above.length)
        (q := fun n => above.length < n.above.length) (fun n n' hn => by rw [hn.above]) hrest
      rw [takeWhile_nodes, takeWhile_nodes] at hdeeper
      have hlength := hdeeper.length_eq
      have hafter := List.forall₂_drop (inner.nodes (place :: above) (place + 1)).length hrest
      rw [List.drop_left, hlength, List.drop_left] at hafter
      rw [length_nodes, length_nodes] at hlength
      rw [hlength] at hafter
      exact .tree hnode.head (ihInner hdeeper) (ihNext hafter)

end Forest

theorem Forest.nodes_ofElements_append (above : List Nat) (place : Nat)
    (es others : List Element) :
    (ofElements (es ++ others)).nodes above place =
      (ofElements es).nodes above place ++
        (ofElements others).nodes above (place + (ofElements es).all.length) := by
  induction es generalizing place with
  | nil => rfl
  | cons e rest ih =>
    simp only [List.cons_append, ofElements, nodes, ih, List.append_assoc, all, List.length_cons,
      List.length_append, Nat.add_assoc, Nat.add_comm]

/-- A node among others tells of a site: of its element, and of the elements around it. -/
structure Node.TellsOf (nodes : List Node) (n : Node) (s : Site) : Prop where
  head : n.head = s.element.head
  above : n.above.map (fun place => nodes[place]?.map (·.head)) = s.above.map (some ·.head)

theorem Forest.nodes_tellOf {nodes : List Node} {places : List Nat} {above : List Element}
    {place : Nat} {f : Forest} (hf : f.nodes places place <+: nodes.drop place)
    (habove : places.map (fun place => nodes[place]?.map (·.head)) = above.map (some ·.head)) :
    List.Forall₂ (Node.TellsOf nodes) (f.nodes places place) (f.sites above) := by
  induction f generalizing places above place with
  | nil => exact .nil
  | tree head inner next ihInner ihNext =>
    obtain ⟨after, hafter⟩ := hf
    rw [Forest.nodes, List.cons_append, List.append_assoc] at hafter
    have hdrop : ∀ n, nodes.drop (place + 1 + n) =
        (inner.nodes (place :: places) (place + 1) ++
          (next.nodes places (place + 1 + inner.all.length) ++ after)).drop n := fun n => by
      rw [Nat.add_assoc, ← List.drop_drop, ← hafter, Nat.add_comm 1 n, List.drop_succ_cons]
    have hhere : nodes[place]? = some ⟨head, places⟩ := by
      rw [← Nat.add_zero place, ← List.getElem?_drop, ← hafter, List.getElem?_cons_zero]
    refine .cons ⟨rfl, habove⟩ (List.rel_append (ihInner ?_ ?_) (ihNext ?_ habove))
    · rw [← Nat.add_zero (place + 1), hdrop, List.drop_zero]
      exact List.prefix_append _ _
    · rw [List.map_cons, List.map_cons, habove, hhere, Option.map_some]
    · rw [hdrop, ← length_nodes (place :: places) (place + 1), List.drop_left]
      exact List.prefix_append _ _

/-- The nodes of a document tell of its root and of all that is below. -/
theorem Element.nodes_tellOf (root : Element) :
    List.Forall₂ (Node.TellsOf root.nodes) root.nodes (⟨root, []⟩ :: root.sites) := by
  have htold : List.Forall₂ (Node.TellsOf root.nodes)
      ((Forest.tree root.head root.inner .nil).nodes [] 0)
      ((Forest.tree root.head root.inner .nil).sites []) :=
    Forest.nodes_tellOf (List.prefix_refl root.nodes) rfl
  rw [Forest.sites, Forest.sites, List.append_nil] at htold
  exact htold

/-! ## Nodes of documents that are being built -/

/-- The nodes of what has been read, and the places of the elements that are open, innermost
first. -/
structure Opened where
  nodes : List Node
  places : List Nat

namespace Opened

/-- A frame inside others: its element follows theirs, and what is finished in it follows it. -/
def addFrame (f : Frame) (o : Opened) : Opened where
  nodes := o.nodes ++ ⟨f.head, o.places⟩ :: (Forest.ofElements f.finished.reverse).nodes
    (o.nodes.length :: o.places) (o.nodes.length + 1)
  places := o.nodes.length :: o.places

def ofFrames (frames : List Frame) : Opened := frames.foldr addFrame ⟨[], []⟩

@[simp] theorem ofFrames_cons (f : Frame) (outer : List Frame) :
    ofFrames (f :: outer) = (ofFrames outer).addFrame f :=
  rfl

/-- Finishing an element keeps its nodes. -/
theorem addFrame_finished (f : Frame) (e : Element) (o : Opened) :
    (o.addFrame { f with finished := e :: f.finished }).nodes =
      (o.addFrame f).nodes ++ (Forest.ofElements [e]).nodes (o.addFrame f).places
        (o.addFrame f).nodes.length := by
  simp only [addFrame, List.reverse_cons, Forest.nodes_ofElements_append, List.append_assoc,
    List.cons_append, List.length_append, List.length_cons, Forest.length_nodes]
  congr 4
  omega

/-- So does closing it. -/
theorem addFrame_close (f : Frame) (o : Opened) :
    (o.addFrame f).nodes =
      o.nodes ++ (Forest.ofElements [f.close]).nodes o.places o.nodes.length := by
  simp only [addFrame, Frame.close, Forest.ofElements, Forest.nodes, List.append_nil]

/-- Text goes to the innermost open element. -/
def append (text : String) (o : Opened) : Opened :=
  match o.places with
  | [] => o
  | place :: _ => { o with nodes := o.nodes.modify place (Node.write text) }

theorem append_addFrame (text : String) (f : Frame) (o : Opened) :
    (o.addFrame f).append text = o.addFrame { f with head.text := f.head.text ++ text } := by
  rw [append, addFrame, addFrame]
  simp only [List.modify_eq_take_drop, List.take_left, List.drop_left]
  rfl

end Opened

namespace Builder

def opened (b : Builder) : Opened :=
  if b.frames.isEmpty then ⟨(b.root.map Element.nodes).getD [], []⟩ else .ofFrames b.frames

theorem finishFrom_nodes (frames : List Frame) (last : Option Element) :
    ((finishFrom frames last).map Element.nodes).getD [] =
      (Opened.ofFrames frames).nodes ++ (Forest.ofElements last.toList).nodes
        (Opened.ofFrames frames).places (Opened.ofFrames frames).nodes.length := by
  induction frames generalizing last with
  | nil => cases last <;> rfl
  | cons f outer ih =>
    rw [finishFrom, ih, Opened.ofFrames_cons, Option.toList_some, ← Opened.addFrame_close]
    cases last with
    | none => exact (List.append_nil _).symm
    | some e => exact Opened.addFrame_finished f e _

/-- The nodes of a document are those that had been read. -/
theorem finish_nodes (b : Builder) :
    (b.finish.map Element.nodes).getD [] = b.opened.nodes := by
  rw [finish, opened]
  split
  · next h => rw [h]; rfl
  · next frames h =>
    rw [finishFrom_nodes, if_neg (by simpa using h)]
    exact List.append_nil _

/-- The root is there only after all else is closed. -/
def RootLast (b : Builder) : Prop := b.frames ≠ [] → b.root = none

variable {b : Builder}

theorem opened_of_root_none (h : b.root = none) : b.opened = .ofFrames b.frames := by
  rw [opened]
  split
  · next hframes =>
    rw [h, List.isEmpty_iff.mp hframes]
    rfl
  · rfl

/-- A tag adds a node inside the elements that are open. -/
theorem opened_start (h : b.root = none) (f : Frame) (hf : f.finished = []) :
    opened { b with frames := f :: b.frames } =
      ⟨b.opened.nodes ++ [⟨f.head, b.opened.places⟩],
        b.opened.nodes.length :: b.opened.places⟩ := by
  rw [opened_of_root_none h, opened_of_root_none (b := { b with frames := f :: b.frames }) h,
    Opened.ofFrames_cons, Opened.addFrame, hf]
  rfl

theorem opened_close (h : b.RootLast) :
    b.close.opened = ⟨b.opened.nodes, b.opened.places.tail⟩ := by
  obtain ⟨frames, root⟩ := b
  match frames with
  | [] => rfl
  | [f] =>
    show Opened.mk (Element.nodes f.close) [] = ⟨(Opened.addFrame f ⟨[], []⟩).nodes, []⟩
    rw [Opened.addFrame_close]
    rfl
  | f :: g :: outer =>
    obtain rfl : root = none := h (List.cons_ne_nil _ _)
    show Opened.mk (Opened.addFrame { g with finished := f.close :: g.finished } _).nodes _ =
      ⟨(Opened.addFrame f (Opened.addFrame g (.ofFrames outer))).nodes, _⟩
    rw [Opened.addFrame_finished, Opened.addFrame_close f]
    rfl

theorem opened_append (h : b.RootLast) (text : String) :
    (b.append text).opened = b.opened.append text := by
  obtain ⟨frames, root⟩ := b
  cases frames with
  | nil => rfl
  | cons f outer =>
    obtain rfl : root = none := h (List.cons_ne_nil _ _)
    exact (Opened.append_addFrame text f (.ofFrames outer)).symm

end Builder

end EtlSurvey.Markup
