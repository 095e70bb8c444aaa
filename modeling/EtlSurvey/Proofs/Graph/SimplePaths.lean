import EtlSurvey.Proofs.Graph.Cycle
import Mathlib.Data.Set.Card

/-! # Paths without repetition reach everything that can be reached

A walk that carries the nodes of its branch follows every path that repeats no node, and whatever
can be reached at all is reached by such a path. The fuel is enough because the path has no more
nodes than the graph. The walk comes to a path before those that go on from its end, and to paths
that part in the order of the successors at which they part. -/

namespace EtlSurvey.Graph

open Relation (ReflTransGen TransGen)

variable {α : Type} {next : α → List α}

/-- A path without repetition that begins at a node. -/
structure IsSimplePath (r : α → α → Prop) (start : α) (path : List α) : Prop where
  begins : path.head? = some start
  chain : path.IsChain r
  nodup : path.Nodup

/-- A path without repetition from a node on, which meets none of the nodes before it. -/
structure SimplePath (next : α → List α) (before : List α) (start : α) (rest : List α) : Prop where
  chain : (start :: rest).IsChain (Leads next)
  nodup : (start :: rest).Nodup
  apart : ∀ n ∈ start :: rest, n ∉ before

theorem SimplePath.leave {before rest : List α} {start m : α}
    (h : SimplePath next before start (m :: rest)) : SimplePath next (start :: before) m rest where
  chain := (List.isChain_cons_cons.mp h.chain).2
  nodup := (List.nodup_cons.mp h.nodup).2
  apart n hn hbefore := by
    obtain rfl | hbefore := List.mem_cons.mp hbefore
    · exact (List.nodup_cons.mp h.nodup).1 hn
    · exact h.apart n (.tail _ hn) hbefore

theorem SimplePath.enter {before rest : List α} {start m : α} (hstart : start ∉ before)
    (hm : m ∈ next start) (h : SimplePath next (start :: before) m rest) :
    SimplePath next before start (m :: rest) where
  chain := List.isChain_cons_cons.mpr ⟨hm, h.chain⟩
  nodup := List.nodup_cons.mpr ⟨fun hmem => h.apart start hmem List.mem_cons_self, h.nodup⟩
  apart n hn hbefore := by
    obtain rfl | hn := List.mem_cons.mp hn
    · exact hstart hbefore
    · exact h.apart n hn (.tail _ hbefore)

theorem isSimplePath_iff {start : α} {path : List α} : IsSimplePath (Leads next) start path ↔
    ∃ rest, path = start :: rest ∧ SimplePath next [] start rest := by
  constructor
  · rintro ⟨hbegins, hchain, hnodup⟩
    obtain ⟨rest, rfl⟩ := List.head?_eq_some_iff.mp hbegins
    exact ⟨rest, rfl, hchain, hnodup, fun _ _ => List.not_mem_nil⟩
  · rintro ⟨rest, rfl, h⟩
    exact ⟨rfl, h.chain, h.nodup⟩

/-- Where a path comes back to its start, what lies between is left out. -/
theorem exists_simplePath {a b : α} (h : ReflTransGen (Leads next) a b) :
    ∃ rest, SimplePath next [] a rest ∧ (a :: rest).getLast? = some b := by
  induction h using ReflTransGen.head_induction_on with
  | refl => exact ⟨[], ⟨.singleton _, by simp, by simp⟩, rfl⟩
  | @head a m hstep _ ih =>
    obtain ⟨rest, hpath, hlast⟩ := ih
    by_cases ha : a ∈ m :: rest
    · obtain ⟨left, right, heq⟩ := List.append_of_mem ha
      have hsuffix : a :: right <:+ m :: rest := ⟨left, heq.symm⟩
      refine ⟨right, ⟨hpath.chain.suffix hsuffix, hpath.nodup.sublist hsuffix.sublist, by simp⟩, ?_⟩
      rw [← hlast, heq, List.getLast?_append_cons]
    · refine ⟨m :: rest, ⟨List.isChain_cons_cons.mpr ⟨hstep, hpath.chain⟩,
        List.nodup_cons.mpr ⟨ha, hpath.nodup⟩, by simp⟩, ?_⟩
      rw [List.getLast?_cons_cons, hlast]

/-- A node leads back to itself exactly if it is on a cycle. -/
theorem transGen_self_iff {n : α} :
    TransGen (Leads next) n n ↔ ∃ cycle, IsCycle (Leads next) cycle ∧ n ∈ cycle := by
  constructor
  · intro h
    obtain ⟨m, hm, hback⟩ := TransGen.head'_iff.mp h
    obtain ⟨rest, hpath, hlast⟩ := exists_simplePath hback
    refine ⟨n :: m :: rest, ⟨by simp, ?closed, ?nodup, ?chain⟩, List.mem_cons_self⟩
    case closed => rw [List.head?_cons, List.getLast?_cons_cons, hlast]
    case nodup =>
      have hnodup := hpath.nodup
      rw [← List.dropLast_append_getLast? n hlast, List.nodup_append] at hnodup
      rw [List.dropLast_cons_cons, List.nodup_cons]
      exact ⟨fun hmem => hnodup.2.2 n hmem n (List.mem_singleton_self n) rfl, hnodup.1⟩
    case chain => exact List.isChain_cons_cons.mpr ⟨hm, hpath.chain⟩
  · rintro ⟨cycle, hcycle, hn⟩
    exact hcycle.returns hn

theorem chain_subset {all rest : List α} {start : α} (hall : ∀ n ∈ all, next n ⊆ all)
    (hstart : start ∈ all) (h : (start :: rest).IsChain (Leads next)) : start :: rest ⊆ all := by
  induction rest generalizing start with
  | nil => exact List.cons_subset.mpr ⟨hstart, List.nil_subset _⟩
  | cons m rest ih =>
    obtain ⟨hstep, hrest⟩ := List.isChain_cons_cons.mp h
    exact List.cons_subset.mpr ⟨hstart, ih (hall start hstart hstep) hrest⟩

/-- Depth-first order of paths from one node: a path comes before those that go on from its end,
and of two that part, the one that goes on to the earlier successor comes first. -/
inductive Earlier (next : α → List α) : List α → List α → Prop
  | stop (node m : α) (rest : List α) : Earlier next [node] (node :: m :: rest)
  | part (node : α) {a b : α} (rest other : List α) (h : [a, b].Sublist (next node)) :
      Earlier next (node :: a :: rest) (node :: b :: other)
  | goOn (node : α) {path other : List α} (h : Earlier next path other) :
      Earlier next (node :: path) (node :: other)

theorem Earlier.ne {path other : List α} (hnext : ∀ n, (next n).Nodup)
    (h : Earlier next path other) : path ≠ other := by
  induction h with
  | stop node m rest => simp
  | @part node a b rest other h =>
    have hne : a ≠ b := by simpa using (hnext node).sublist h
    simp [hne]
  | goOn node _ ih => simpa using ih

variable [BEq α] [LawfulBEq α]

/-- The paths whose ends a walk lists, in its order. -/
def simplePaths (next : α → List α) : Nat → List α → α → List (List α)
  | 0, _, _ => []
  | fuel + 1, before, node =>
    if before.contains node then []
    else [node] :: ((next node).flatMap (simplePaths next fuel (node :: before))).map (node :: ·)

section Paths

variable {fuel : Nat} {before path : List α} {start n : α}

theorem exists_of_mem_simplePaths (h : path ∈ simplePaths next fuel before start) :
    ∃ rest, path = start :: rest ∧ SimplePath next before start rest := by
  induction fuel generalizing before path start with
  | zero => cases h
  | succ fuel ih =>
    rw [simplePaths] at h
    split at h
    next => cases h
    next hnew =>
    have hnew : start ∉ before := fun hmem => hnew (List.contains_iff_mem.mpr hmem)
    obtain rfl | h := List.mem_cons.mp h
    · exact ⟨[], rfl, .singleton _, List.nodup_singleton _, by simpa using hnew⟩
    · obtain ⟨onward, honward, rfl⟩ := List.mem_map.mp h
      obtain ⟨m, hm, honward⟩ := List.mem_flatMap.mp honward
      obtain ⟨rest, rfl, hrest⟩ := ih honward
      exact ⟨m :: rest, rfl, hrest.enter hnew hm⟩

theorem SimplePath.mem_simplePaths {rest : List α} (h : SimplePath next before start rest)
    (hfuel : rest.length < fuel) : start :: rest ∈ simplePaths next fuel before start := by
  induction rest generalizing fuel before start with
  | nil =>
    obtain ⟨fuel, rfl⟩ := Nat.exists_eq_add_one.mpr hfuel
    have hnew : start ∉ before := h.apart start List.mem_cons_self
    simp [simplePaths, hnew]
  | cons m rest ih =>
    obtain ⟨fuel, rfl⟩ := Nat.exists_eq_add_one.mpr (Nat.zero_lt_of_lt hfuel)
    have hnew : start ∉ before := h.apart start List.mem_cons_self
    have hm : m ∈ next start := (List.isChain_cons_cons.mp h.chain).1
    have hrest : m :: rest ∈ simplePaths next fuel (start :: before) m :=
      ih h.leave (Nat.lt_of_succ_lt_succ hfuel)
    rw [simplePaths, if_neg (by simpa using hnew)]
    exact .tail _ (List.mem_map_of_mem (List.mem_flatMap.mpr ⟨m, hm, hrest⟩))

/-- Fuel for all nodes of the graph is fuel enough. -/
theorem mem_simplePaths_iff {all : List α} (hall : ∀ n ∈ all, next n ⊆ all)
    (hfuel : all.length ≤ fuel) (hstart : start ∈ all) :
    path ∈ simplePaths next fuel [] start ↔ IsSimplePath (Leads next) start path := by
  rw [isSimplePath_iff]
  constructor
  · exact exists_of_mem_simplePaths
  · rintro ⟨rest, rfl, hpath⟩
    have hlength : (start :: rest).length ≤ all.length :=
      hpath.nodup.length_le_of_subset (chain_subset hall hstart hpath.chain)
    exact hpath.mem_simplePaths (Nat.lt_of_lt_of_le hlength hfuel)

theorem simplePaths_earlier : (simplePaths next fuel before start).Pairwise (Earlier next) := by
  induction fuel generalizing before start with
  | zero => exact .nil
  | succ fuel ih =>
    rw [simplePaths]
    split
    next => exact .nil
    next =>
    refine List.pairwise_cons.mpr ⟨fun path h => ?_, ?_⟩
    · obtain ⟨onward, honward, rfl⟩ := List.mem_map.mp h
      obtain ⟨m, -, honward⟩ := List.mem_flatMap.mp honward
      obtain ⟨rest, rfl, -⟩ := exists_of_mem_simplePaths honward
      exact .stop start m rest
    · rw [List.pairwise_map, List.pairwise_flatMap]
      refine ⟨fun m _ => ih.imp (.goOn start), List.pairwise_iff_forall_sublist.mpr ?_⟩
      intro a b hab path hpath other hother
      obtain ⟨rest, rfl, -⟩ := exists_of_mem_simplePaths hpath
      obtain ⟨rest', rfl, -⟩ := exists_of_mem_simplePaths hother
      exact .part start rest rest' hab

theorem map_some_simplePathEnds : (simplePathEnds next fuel before start).map some =
    (simplePaths next fuel before start).map List.getLast? := by
  induction fuel generalizing before start with
  | zero => rfl
  | succ fuel ih =>
    rw [simplePathEnds, simplePaths]
    split
    next => rfl
    next =>
    have hlast : ∀ onward ∈ (next start).flatMap (simplePaths next fuel (start :: before)),
        (start :: onward).getLast? = onward.getLast? := by
      intro onward honward
      obtain ⟨m, -, honward⟩ := List.mem_flatMap.mp honward
      obtain ⟨rest, rfl, -⟩ := exists_of_mem_simplePaths honward
      exact List.getLast?_cons_cons
    have hrest : ((next start).flatMap (simplePathEnds next fuel (start :: before))).map some =
        ((next start).flatMap (simplePaths next fuel (start :: before))).map List.getLast? := by
      simp only [List.map_flatMap, ih]
    rw [List.map_cons, hrest, List.map_cons, List.map_map]
    exact congrArg _ (List.map_congr_left hlast).symm

theorem mem_simplePathEnds_iff : n ∈ simplePathEnds next fuel before start ↔
    ∃ path ∈ simplePaths next fuel before start, path.getLast? = some n := by
  rw [← List.mem_map_of_injective (Option.some_injective α), map_some_simplePathEnds, List.mem_map]

theorem count_simplePathEnds : (simplePathEnds next fuel before start).count n =
    (simplePaths next fuel before start).countP (·.getLast? == some n) := by
  rw [← List.count_map_of_injective _ some (Option.some_injective α), map_some_simplePathEnds,
    List.count, List.countP_map]
  rfl

end Paths

section Complete

variable {all : List α} {fuel : Nat} {a b : α}

/-- What is reached is the end of a path that repeats no node. -/
theorem mem_simplePathEnds (hall : ∀ n ∈ all, next n ⊆ all) (hfuel : all.length ≤ fuel)
    (ha : a ∈ all) (h : ReflTransGen (Leads next) a b) : b ∈ simplePathEnds next fuel [] a := by
  obtain ⟨rest, hpath, hlast⟩ := exists_simplePath h
  refine mem_simplePathEnds_iff.mpr ⟨a :: rest, ?_, hlast⟩
  exact (mem_simplePaths_iff hall hfuel ha).mpr (isSimplePath_iff.mpr ⟨rest, rfl, hpath⟩)

theorem reaches_of_mem_simplePathEnds {before : List α} (h : b ∈ simplePathEnds next fuel before a) :
    ReflTransGen (Leads next) a b := by
  obtain ⟨path, hmem, hlast⟩ := mem_simplePathEnds_iff.mp h
  obtain ⟨rest, rfl, hpath⟩ := exists_of_mem_simplePaths hmem
  exact List.relationReflTransGen_of_exists_isChain_cons rest hpath.chain
    ((List.getLast_eq_iff_getLast?_eq_some _).mpr hlast)

/-- A node is listed once for each path to it. -/
theorem count_simplePathEnds_eq_encard (hall : ∀ n ∈ all, next n ⊆ all) (hfuel : all.length ≤ fuel)
    (ha : a ∈ all) (hnext : ∀ n, (next n).Nodup) :
    ((simplePathEnds next fuel [] a).count b : ℕ∞) =
      {path | IsSimplePath (Leads next) a path ∧ path.getLast? = some b}.encard := by
  classical
  have hnodup : (simplePaths next fuel [] a).Nodup := simplePaths_earlier.imp (Earlier.ne hnext)
  have hset : {path | IsSimplePath (Leads next) a path ∧ path.getLast? = some b} =
      (((simplePaths next fuel [] a).filter (·.getLast? == some b)).toFinset : Set (List α)) := by
    ext path
    simp [mem_simplePaths_iff hall hfuel ha]
  rw [hset, Set.encard_coe_eq_coe_finsetCard, List.toFinset_card_of_nodup (hnodup.filter _),
    count_simplePathEnds, List.countP_eq_length_filter]

end Complete

/-- No more fuel is used than there are nodes that are not on the path. -/
theorem simplePathEnds_of_le {all : List α} (hall : ∀ n ∈ all, next n ⊆ all) {fuel more : Nat}
    {before : List α} {start : α} (hfuel : all.length < fuel + before.length) (hmore : fuel ≤ more)
    (hnodup : before.Nodup) (hwithin : before ⊆ all) (hstart : start ∈ all) :
    simplePathEnds next more before start = simplePathEnds next fuel before start := by
  induction fuel generalizing more before start with
  | zero =>
    have hlength := hnodup.length_le_of_subset hwithin
    omega
  | succ fuel ih =>
    obtain ⟨more, rfl⟩ := Nat.exists_eq_add_one.mpr (Nat.lt_of_lt_of_le fuel.succ_pos hmore)
    rw [simplePathEnds, simplePathEnds]
    split
    next => rfl
    next hnew =>
    have hnew : start ∉ before := fun hmem => hnew (List.contains_iff_mem.mpr hmem)
    refine congrArg (start :: ·) (List.flatMap_congr fun m hm => ?_)
    refine ih ?_ (Nat.le_of_succ_le_succ hmore) (List.nodup_cons.mpr ⟨hnew, hnodup⟩)
      (List.cons_subset.mpr ⟨hstart, hwithin⟩) (hall start hstart hm)
    rw [List.length_cons]
    omega

end EtlSurvey.Graph
