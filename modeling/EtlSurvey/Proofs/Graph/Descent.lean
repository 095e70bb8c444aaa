import EtlSurvey.Proofs.Graph.Cycle

/-! # Two ways of writing down a depth-first search

One search keeps the nodes that are finished apart from the path under way, and looks at a node
when it has come to it. The other keeps one set of all visited nodes beside the way, and looks at a
node before it goes there. What has been visited is what is finished or under way, so that both
close the same cycle. -/

namespace EtlSurvey.Graph

variable {α : Type}

/-- A state of the second search that goes with one of the first. -/
structure Follows (path done : List α) (d : Descent α) : Prop where
  stack : d.stack = path.reverse
  visited : ∀ n, n ∈ d.visited ↔ n ∈ done ∨ n ∈ path
  apart : ∀ n ∈ path, n ∉ done

namespace Follows

variable {path done : List α} {d : Descent α} {node : α}

theorem empty : Follows (α := α) [] [] {} := by
  constructor <;> simp

theorem enter (h : Follows path done d) (hdone : node ∉ done) :
    Follows (node :: path) done { visited := node :: d.visited, stack := d.stack ++ [node] } where
  stack := by rw [h.stack, List.reverse_cons]
  visited n := by
    simp only [List.mem_cons, h.visited]
    exact or_left_comm
  apart := List.forall_mem_cons.mpr ⟨hdone, h.apart⟩

theorem leave (h : Follows (node :: path) done d) (hpath : node ∉ path) :
    Follows path (node :: done) { d with stack := d.stack.dropLast } where
  stack := by rw [h.stack, List.reverse_cons, List.dropLast_concat]
  visited n := by
    simp only [h.visited, List.mem_cons]
    rw [or_assoc]
    exact or_left_comm
  apart n hn hmem := by
    obtain rfl | hdone := List.mem_cons.mp hmem
    · exact hpath hn
    · exact h.apart n (.tail _ hn) hdone

end Follows

/-- Results of the two searches that go together: the same cycle, or states that do. -/
inductive Agree (path : List α) :
    Except (List α) (List α) → Except (List α) (Descent α) → Prop
  | cycle (cycle : List α) : Agree path (.error cycle) (.error cycle)
  | state {done d} (h : Follows path done d) : Agree path (.ok done) (.ok d)

/-- Searches that go on from agreeing results agree if they do so from states that go together. -/
theorem Agree.bind {path path' : List α} {x : Except (List α) (List α)}
    {y : Except (List α) (Descent α)} {f : List α → Except (List α) (List α)}
    {g : Descent α → Except (List α) (Descent α)} (h : Agree path x y)
    (hnext : ∀ done d, Follows path done d → Agree path' (f done) (g d)) :
    Agree path' (x >>= f) (y >>= g) := by
  cases h with
  | cycle cycle => exact .cycle cycle
  | state h => exact hnext _ _ h

theorem Agree.foldlM {path nodes : List α} {f : List α → α → Except (List α) (List α)}
    {g : Descent α → α → Except (List α) (Descent α)}
    (hstep : ∀ n ∈ nodes, ∀ done d, Follows path done d → Agree path (f done n) (g d n))
    {done : List α} {d : Descent α} (h : Follows path done d) :
    Agree path (nodes.foldlM f done) (nodes.foldlM g d) := by
  induction nodes generalizing done d with
  | nil => exact .state h
  | cons n rest ih =>
    rw [List.foldlM_cons, List.foldlM_cons]
    exact (hstep n List.mem_cons_self done d h).bind fun _ _ h₁ =>
      ih (fun m hm => hstep m (.tail _ hm)) h₁

section Search

variable [BEq α]

/-- What the second search does about a node that an edge leads to. -/
def visitFrom (next : α → List α) (fuel : Nat) (d : Descent α) (node : α) :
    Except (List α) (Descent α) :=
  match d.stack.idxOf? node with
  | some start => .error (d.stack.drop start ++ [node])
  | none => descend next fuel d node

theorem cycleFrom_succ (next : α → List α) (fuel : Nat) (d : Descent α) (node : α) :
    cycleFrom next (fuel + 1) d node = (do
      let d ← (next node).foldlM (visitFrom next fuel)
        { visited := node :: d.visited, stack := d.stack ++ [node] }
      return { d with stack := d.stack.dropLast }) :=
  rfl

end Search

variable [BEq α] [LawfulBEq α]

theorem idxOf?_append_cons {before after : List α} {node : α} (h : node ∉ before) :
    (before ++ node :: after).idxOf? node = some before.length := by
  rw [List.idxOf?_eq_some_iff]
  refine ⟨by simp, by simp, fun j hj => ?_⟩
  rw [List.getElem_append_left hj]
  exact fun heq => h (heq ▸ List.getElem_mem hj)

/-- From the place of the node the way is the cycle that the path closes. -/
theorem closeCycle_eq_drop {path : List α} {node : α} (hpath : path.Nodup) (hmem : node ∈ path) :
    ∃ start, path.reverse.idxOf? node = some start ∧
      path.reverse.drop start ++ [node] = closeCycle path node := by
  obtain ⟨upper, below, rfl, hupper⟩ := List.eq_append_cons_of_mem hmem
  have hbelow : node ∉ below.reverse := by
    rw [List.mem_reverse]
    exact (List.nodup_cons.mp (List.nodup_append.mp hpath).2.1).1
  have hreverse : (upper ++ node :: below).reverse = below.reverse ++ node :: upper.reverse := by
    simp
  refine ⟨below.reverse.length, ?_, ?_⟩
  · rw [hreverse, idxOf?_append_cons hbelow]
  · rw [hreverse, List.drop_left, closeCycle, takeWhile_bne_append_cons hupper]

variable {next : α → List α} {all : List α}

/-- Where the fuel is enough, both searches agree below a node. -/
theorem search_agrees (hall : ∀ n ∈ all, next n ⊆ all) (fuel : Nat) {path done : List α}
    {d : Descent α} {node : α} (hfuel : all.length < fuel + path.length)
    (htrail : Trail next all path) (h : Follows path done d) (hnode : node ∈ all)
    (hlast : ∀ a ∈ path.head?, Leads next a node) :
    Agree path (search next fuel path done node) (visitFrom next fuel d node) := by
  induction fuel generalizing path done d node with
  | zero =>
    have := htrail.length_le
    omega
  | succ fuel ih =>
    rw [search, visitFrom]
    by_cases hpath : node ∈ path
    · obtain ⟨start, hstart, hcycle⟩ := closeCycle_eq_drop htrail.nodup hpath
      simp only [List.contains_iff_mem, h.apart node hpath, hpath, if_false, if_true, h.stack,
        hstart, hcycle]
      exact .cycle _
    have hstack : d.stack.idxOf? node = none := by
      rw [List.idxOf?_eq_none_iff, h.stack, List.mem_reverse]
      exact hpath
    by_cases hdone : node ∈ done
    · have hvisited : node ∈ d.visited := (h.visited node).mpr (.inl hdone)
      simp only [descend, List.contains_iff_mem, hstack, hvisited, hdone, if_true]
      exact .state h
    have hnew : node ∉ d.visited := fun hold => ((h.visited node).mp hold).elim hdone hpath
    simp only [descend, List.contains_iff_mem, hstack, hnew, hdone, hpath, if_false]
    have hbelow : Agree (node :: path)
        ((next node).foldlM (search next fuel (node :: path)) done)
        ((next node).foldlM (visitFrom next fuel)
          { visited := node :: d.visited, stack := d.stack ++ [node] }) := by
      refine Agree.foldlM (fun m hm done₁ d₁ h₁ => ?_) (h.enter hdone)
      refine ih ?_ (htrail.cons hnode hpath hlast) h₁ (hall node hnode hm) ?_
      · rw [List.length_cons]
        omega
      · rintro a ⟨⟩
        exact hm
    rw [cycleFrom_succ]
    exact hbelow.bind fun _ _ h₁ => .state (h₁.leave hpath)

/-- Both ways of writing down the search find the same cycle. -/
theorem firstCycle_eq_findCycle (hall : ∀ n ∈ all, next n ⊆ all) {fuel : Nat}
    (hfuel : all.length < fuel) {starts : List α} (hstarts : starts ⊆ all) :
    firstCycle next fuel starts = findCycle next fuel starts := by
  have hagree : Agree [] (starts.foldlM (search next fuel []) [])
      (starts.foldlM (descend next fuel) {}) := by
    refine Agree.foldlM (fun n hn done d h => ?_) .empty
    have hvisit : visitFrom next fuel d n = descend next fuel d n := by
      rw [visitFrom, h.stack]
      rfl
    rw [← hvisit]
    exact search_agrees hall fuel hfuel (Trail.empty next all) h (hstarts hn) (by simp)
  rw [firstCycle, findCycle]
  generalize starts.foldlM (search next fuel []) [] = found,
    starts.foldlM (descend next fuel) {} = found' at hagree ⊢
  cases hagree <;> rfl

end EtlSurvey.Graph
