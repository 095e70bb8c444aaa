import EtlSurvey.Graph.Traversal
import EtlSurvey.Proofs.Lists
import Mathlib.Data.List.Chain
import Mathlib.Logic.Relation

/-! # The depth-first search closes a cycle exactly when there is one

What the search hands on from one node to the next is a set of finished nodes: it is closed under
successors, none of its nodes is on a cycle, and it has no node of the path under way. A cycle
can only be closed on the path, since an edge into the finished nodes never leaves them. The fuel
is enough because a path repeats no node. -/

namespace EtlSurvey.Graph

open Relation (TransGen ReflTransGen)

variable {α : Type}

/-- An edge of the graph. -/
def Leads (next : α → List α) (a b : α) : Prop := b ∈ next a

def Acyclic (r : α → α → Prop) : Prop := ∀ n, ¬ TransGen r n n

/-- A cycle written out: closed on its first node, which is the only one that comes twice. -/
structure IsCycle (r : α → α → Prop) (cycle : List α) : Prop where
  two_le : 2 ≤ cycle.length
  closed : cycle.head? = cycle.getLast?
  nodup : cycle.dropLast.Nodup
  chain : cycle.IsChain r

theorem trans_of_chain {r : α → α → Prop} {a b : α} {between : List α}
    (h : (a :: (between ++ [b])).IsChain r) : TransGen r a b := by
  induction between generalizing a with
  | nil => exact .single (List.isChain_cons_cons.mp h).1
  | cons m rest ih =>
    obtain ⟨hm, hrest⟩ := List.isChain_cons_cons.mp h
    exact .head hm (ih hrest)

theorem IsCycle.on_cycle {r : α → α → Prop} {cycle : List α} (h : IsCycle r cycle) :
    ∃ n, TransGen r n n := by
  obtain ⟨hlen, hclosed, -, hchain⟩ := h
  obtain ⟨n, rest, rfl⟩ : ∃ n rest, cycle = n :: rest :=
    List.exists_cons_of_length_pos (by omega)
  obtain rfl | ⟨between, b, rfl⟩ := List.eq_nil_or_concat rest
  · simp at hlen
  · rw [List.concat_eq_append] at hclosed hchain
    rw [← List.cons_append, List.getLast?_concat, List.cons_append, List.head?_cons] at hclosed
    obtain rfl := Option.some.inj hclosed
    exact ⟨n, trans_of_chain hchain⟩

/-- From every node on a cycle there is a way back to it. -/
theorem IsCycle.returns {r : α → α → Prop} {cycle : List α} (h : IsCycle r cycle) {n : α}
    (hn : n ∈ cycle) : TransGen r n n := by
  obtain ⟨hlen, hclosed, -, hchain⟩ := h
  obtain ⟨before, after, rfl⟩ := List.append_of_mem hn
  have hpairs : (before ++ n :: after).Pairwise (TransGen r) :=
    List.isChain_iff_pairwise.mp (hchain.imp fun _ _ => .single)
  obtain ⟨-, hfrom, hto⟩ := List.pairwise_append.mp hpairs
  have hafter := (List.pairwise_cons.mp hfrom).1
  cases before with
  | nil =>
    -- the cycle begins with the node, so it comes to it again at its end
    obtain ⟨m, rest, rfl⟩ : ∃ m rest, after = m :: rest :=
      List.exists_cons_of_length_pos (Nat.lt_of_succ_lt_succ hlen)
    rw [List.nil_append, List.getLast?_cons_cons] at hclosed
    exact hafter n (List.mem_of_getLast? hclosed.symm)
  | cons first before =>
    have hfirst : TransGen r first n := hto first List.mem_cons_self n List.mem_cons_self
    have hlast : first ∈ n :: after := by
      rw [List.getLast?_append_cons] at hclosed
      exact List.mem_of_getLast? hclosed.symm
    obtain rfl | hlast := List.mem_cons.mp hlast
    · exact hfirst
    · exact (hafter first hlast).trans hfirst

/-- Some node of a finite set has no edge into it from the set. -/
theorem Acyclic.exists_source {r : α → α → Prop} (h : Acyclic r) (nodes : List α)
    (hne : nodes ≠ []) : ∃ n ∈ nodes, ∀ a ∈ nodes, ¬ TransGen r a n := by
  induction nodes with
  | nil => exact absurd rfl hne
  | cons first rest ih =>
    by_cases hrest : rest = []
    · subst hrest
      exact ⟨first, List.mem_cons_self, by simpa using h first⟩
    obtain ⟨n, hn, hsource⟩ := ih hrest
    -- an edge path from the first node makes it the earlier one
    by_cases hfirst : TransGen r first n
    · refine ⟨first, List.mem_cons_self, fun a ha hpath => ?_⟩
      obtain rfl | ha := List.mem_cons.mp ha
      · exact h a hpath
      · exact hsource a ha (hpath.trans hfirst)
    · refine ⟨n, .tail _ hn, fun a ha hpath => ?_⟩
      obtain rfl | ha := List.mem_cons.mp ha
      · exact hfirst hpath
      · exact hsource a ha hpath

/-- Going backwards in a finite graph without cycles ends at a node without edges into it. -/
theorem Acyclic.exists_root {r : α → α → Prop} (h : Acyclic r) {nodes : List α}
    (hleaves : ∀ a b, r a b → a ∈ nodes) {n : α} (hn : n ∈ nodes) :
    ∃ root ∈ nodes, ReflTransGen r root n ∧ ∀ a, ¬ r a root := by
  classical
  have hmem : ∀ a, a ∈ nodes.filter (ReflTransGen r · n) ↔ a ∈ nodes ∧ ReflTransGen r a n := by
    intro a
    rw [List.mem_filter, decide_eq_true_eq]
  obtain ⟨root, hroot, hsource⟩ := h.exists_source (nodes.filter (ReflTransGen r · n))
    (List.ne_nil_of_mem ((hmem n).mpr ⟨hn, .refl⟩))
  obtain ⟨hin, hreach⟩ := (hmem root).mp hroot
  refine ⟨root, hin, hreach, fun a ha => ?_⟩
  exact hsource a ((hmem a).mpr ⟨hleaves a root ha, .head ha hreach⟩) (.single ha)

/-- A path under way, last node first. -/
structure Trail (next : α → List α) (all path : List α) : Prop where
  nodup : path.Nodup
  within : path ⊆ all
  chain : path.IsChain fun a b => Leads next b a

theorem Trail.empty (next : α → List α) (all : List α) : Trail next all [] :=
  ⟨List.nodup_nil, List.nil_subset _, .nil⟩

theorem Trail.length_le {next : α → List α} {all path : List α} (h : Trail next all path) :
    path.length ≤ all.length :=
  h.nodup.length_le_of_subset h.within

theorem Trail.cons {next : α → List α} {all path : List α} {node : α} (h : Trail next all path)
    (hall : node ∈ all) (hnew : node ∉ path) (hlast : ∀ a ∈ path.head?, Leads next a node) :
    Trail next all (node :: path) where
  nodup := List.nodup_cons.mpr ⟨hnew, h.nodup⟩
  within := List.cons_subset.mpr ⟨hall, h.within⟩
  chain := List.isChain_cons.mpr ⟨hlast, h.chain⟩

/-- Nodes that the search is through with, while the nodes of `path` are under way. -/
structure Finished (next : α → List α) (path done : List α) : Prop where
  closed : ∀ n ∈ done, next n ⊆ done
  acyclic : ∀ n ∈ done, ¬ TransGen (Leads next) n n
  apart : ∀ n ∈ done, n ∉ path

theorem Finished.empty (next : α → List α) (path : List α) : Finished next path [] := by
  constructor <;> intro n hn <;> cases hn

theorem Finished.reaches {next : α → List α} {path done : List α} (h : Finished next path done)
    {a b : α} (ha : a ∈ done) (hab : ReflTransGen (Leads next) a b) : b ∈ done := by
  induction hab with
  | refl => exact ha
  | tail _ hstep ih => exact h.closed _ ih hstep

theorem Finished.enter {next : α → List α} {path done : List α} {node : α}
    (h : Finished next path done) (hnew : node ∉ done) : Finished next (node :: path) done where
  closed := h.closed
  acyclic := h.acyclic
  apart n hn hmem := by
    obtain rfl | hpath := List.mem_cons.mp hmem
    · exact hnew hn
    · exact h.apart n hn hpath

/-- A node whose successors are all finished is finished: a cycle through it would come back out
of the finished nodes. -/
theorem Finished.leave {next : α → List α} {path done : List α} {node : α}
    (h : Finished next (node :: path) done) (hnext : next node ⊆ done) (hnew : node ∉ path) :
    Finished next path (node :: done) where
  closed n hn m hm := by
    obtain rfl | hn := List.mem_cons.mp hn
    · exact .tail _ (hnext hm)
    · exact .tail _ (h.closed n hn hm)
  acyclic n hn hcycle := by
    obtain rfl | hn := List.mem_cons.mp hn
    · obtain ⟨m, hm, hback⟩ := Relation.TransGen.head'_iff.mp hcycle
      exact h.apart n (h.reaches (hnext hm) hback) List.mem_cons_self
    · exact h.acyclic n hn hcycle
  apart n hn := by
    obtain rfl | hn := List.mem_cons.mp hn
    · exact hnew
    · exact fun hpath => h.apart n hn (.tail _ hpath)

/-- What a search from some nodes comes to: a cycle, or more finished nodes, among them those. -/
def Outcome (next : α → List α) (path done starts : List α) : Except (List α) (List α) → Prop
  | .ok done' => Finished next path done' ∧ done ⊆ done' ∧ starts ⊆ done'
  | .error cycle => IsCycle (Leads next) cycle

theorem foldlM_outcome {next : α → List α} {path nodes : List α}
    {f : List α → α → Except (List α) (List α)}
    (hf : ∀ node ∈ nodes, ∀ done, Finished next path done →
      Outcome next path done [node] (f done node))
    {done : List α} (h : Finished next path done) :
    Outcome next path done nodes (nodes.foldlM f done) := by
  induction nodes generalizing done with
  | nil => exact ⟨h, fun _ hn => hn, List.nil_subset _⟩
  | cons node rest ih =>
    rw [List.foldlM_cons]
    have hnode := hf node List.mem_cons_self done h
    cases hone : f done node with
    | error cycle =>
      rw [hone] at hnode
      exact hnode
    | ok done₁ =>
      rw [hone] at hnode
      obtain ⟨h₁, hmore₁, hin₁⟩ := hnode
      have hrest := ih (fun n hn => hf n (.tail _ hn)) h₁
      show Outcome next path done (node :: rest) (rest.foldlM f done₁)
      cases hall : rest.foldlM f done₁ with
      | error cycle =>
        rw [hall] at hrest
        exact hrest
      | ok done₂ =>
        rw [hall] at hrest
        obtain ⟨h₂, hmore₂, hin₂⟩ := hrest
        refine ⟨h₂, fun _ hn => hmore₂ (hmore₁ hn), List.cons_subset.mpr ⟨?_, hin₂⟩⟩
        exact hmore₂ (hin₁ List.mem_cons_self)

variable [BEq α] [LawfulBEq α]

theorem closeCycle_isCycle {next : α → List α} {all path : List α} {node : α}
    (h : Trail next all path) (hmem : node ∈ path) (hlast : ∀ a ∈ path.head?, Leads next a node) :
    IsCycle (Leads next) (closeCycle path node) := by
  obtain ⟨upper, below, rfl, hupper⟩ := List.eq_append_cons_of_mem hmem
  have htake : (upper ++ node :: below).takeWhile (· != node) = upper :=
    takeWhile_bne_append_cons hupper
  -- read backwards, the cycle is a first part of the path with the node put before it
  have hpath : (node :: (upper ++ node :: below)).IsChain fun a b => Leads next b a :=
    List.isChain_cons.mpr ⟨hlast, h.chain⟩
  have hback : (node :: (upper ++ [node])).IsChain fun a b => Leads next b a :=
    hpath.prefix ⟨below, by simp⟩
  rw [closeCycle, htake]
  constructor
  · simp
  · rw [List.getLast?_concat]
    rfl
  · rw [List.dropLast_concat, List.nodup_cons, List.mem_reverse,
      (List.reverse_perm upper).nodup_iff]
    exact ⟨hupper, h.nodup.sublist (List.sublist_append_left _ _)⟩
  · rw [← List.isChain_reverse]
    simpa using hback

/-- Fuel for the nodes that are not on the path is fuel enough. -/
theorem search_outcome {next : α → List α} {all : List α} (hall : ∀ n ∈ all, next n ⊆ all)
    (fuel : Nat) {path done : List α} {node : α} (hfuel : all.length < fuel + path.length)
    (htrail : Trail next all path) (hdone : Finished next path done) (hnode : node ∈ all)
    (hlast : ∀ a ∈ path.head?, Leads next a node) :
    Outcome next path done [node] (search next fuel path done node) := by
  induction fuel generalizing path done node with
  | zero =>
    have := htrail.length_le
    omega
  | succ fuel ih =>
    rw [search]
    split
    next hold =>
      have hmem : node ∈ done := List.contains_iff_mem.mp hold
      exact ⟨hdone, fun _ hn => hn, by simpa using hmem⟩
    next hnew =>
    have hnew : node ∉ done := fun hmem => hnew (List.contains_iff_mem.mpr hmem)
    split
    next hold =>
      exact closeCycle_isCycle htrail (List.contains_iff_mem.mp hold) hlast
    next hfresh =>
    have hfresh : node ∉ path := fun hmem => hfresh (List.contains_iff_mem.mpr hmem)
    have hbelow : Outcome next (node :: path) done (next node)
        ((next node).foldlM (search next fuel (node :: path)) done) := by
      refine foldlM_outcome (fun m hm done₁ hdone₁ => ?_) (hdone.enter hnew)
      refine ih ?_ (htrail.cons hnode hfresh hlast) hdone₁ (hall node hnode hm) ?_
      · rw [List.length_cons]
        omega
      · rintro a ⟨⟩
        exact hm
    cases hfold : (next node).foldlM (search next fuel (node :: path)) done with
    | error cycle =>
      rw [hfold] at hbelow
      exact hbelow
    | ok done₁ =>
      rw [hfold] at hbelow
      obtain ⟨h₁, hmore, hnext⟩ := hbelow
      refine ⟨h₁.leave hnext hfresh, fun n hn => .tail _ (hmore hn), ?_⟩
      exact List.cons_subset.mpr ⟨List.mem_cons_self, List.nil_subset _⟩

section FindCycle

variable {next : α → List α} {fuel : Nat} {starts all : List α}

theorem findCycle_outcome (hall : ∀ n ∈ all, next n ⊆ all) (hfuel : all.length < fuel)
    (hstarts : starts ⊆ all) :
    Outcome next [] [] starts (starts.foldlM (search next fuel []) []) := by
  refine foldlM_outcome (fun node hnode done hdone => ?_) (Finished.empty next [])
  exact search_outcome hall fuel hfuel (Trail.empty next all) hdone (hstarts hnode) (by simp)

theorem findCycle_isCycle (hall : ∀ n ∈ all, next n ⊆ all) (hfuel : all.length < fuel)
    (hstarts : starts ⊆ all) {cycle : List α} (h : findCycle next fuel starts = some cycle) :
    IsCycle (Leads next) cycle := by
  have hout := findCycle_outcome hall hfuel hstarts
  rw [findCycle] at h
  split at h
  next heq =>
    rw [heq] at hout
    obtain rfl := Option.some.inj h
    exact hout
  next => cases h

/-- It is enough to start from every node that an edge leaves. -/
theorem findCycle_eq_none_iff (hall : ∀ n ∈ all, next n ⊆ all) (hfuel : all.length < fuel)
    (hstarts : starts ⊆ all) (hleaves : ∀ n, next n ≠ [] → n ∈ starts) :
    findCycle next fuel starts = none ↔ Acyclic (Leads next) := by
  constructor
  · intro h n hcycle
    have hout := findCycle_outcome hall hfuel hstarts
    rw [findCycle] at h
    split at h
    next => cases h
    next done heq =>
    rw [heq] at hout
    obtain ⟨hdone, -, hin⟩ := hout
    obtain ⟨m, hm, -⟩ := Relation.TransGen.head'_iff.mp hcycle
    exact hdone.acyclic n (hin (hleaves n (List.ne_nil_of_mem hm))) hcycle
  · intro h
    cases hfind : findCycle next fuel starts with
    | none => rfl
    | some cycle =>
      obtain ⟨n, hn⟩ := (findCycle_isCycle hall hfuel hstarts hfind).on_cycle
      exact absurd hn (h n)

end FindCycle

end EtlSurvey.Graph
