import EtlSurvey.Proofs.Graph.Cycle
import Mathlib.Order.Lattice.Nat

/-! # A queue lists what can be reached, nearest first

The nodes that wait are of two distances: those in front are as far away as the node whose turn it
is, those behind them are one step further. All nodes that are nearer have had their turn, as the
last step to a node comes from one that is nearer by one. So the distance never goes down along
the list, and when the queue runs empty, whatever can be reached has been seen. -/

namespace EtlSurvey.Graph

open Relation (TransGen)

section Distance

variable {α : Type} {r : α → α → Prop} {a b m : α} {n : Nat}

/-- A way of so many steps from one node to another. -/
def Steps (r : α → α → Prop) : Nat → α → α → Prop
  | 0, a, b => a = b
  | n + 1, a, b => ∃ m, Steps r n a m ∧ r m b

/-- Least number of steps, one or more, from one node to another that it leads to. -/
noncomputable def distance (r : α → α → Prop) (a b : α) : Nat := sInf {n | 0 < n ∧ Steps r n a b}

theorem transGen_iff_steps : TransGen r a b ↔ ∃ n, 0 < n ∧ Steps r n a b := by
  constructor
  · intro h
    induction h with
    | single hstep => exact ⟨1, Nat.one_pos, a, rfl, hstep⟩
    | tail _ hstep ih =>
      obtain ⟨n, -, hsteps⟩ := ih
      exact ⟨n + 1, n.succ_pos, _, hsteps, hstep⟩
  · rintro ⟨n, hpos, hsteps⟩
    induction n generalizing b with
    | zero => exact absurd hpos (Nat.lt_irrefl 0)
    | succ n ih =>
      obtain ⟨m, hbefore, hstep⟩ := hsteps
      obtain rfl | hn := Nat.eq_zero_or_pos n
      · obtain rfl : a = m := hbefore
        exact .single hstep
      · exact .tail (ih hn hbefore) hstep

theorem distance_le (hpos : 0 < n) (h : Steps r n a b) : distance r a b ≤ n :=
  Nat.sInf_le ⟨hpos, h⟩

theorem steps_distance (h : TransGen r a b) :
    0 < distance r a b ∧ Steps r (distance r a b) a b :=
  Nat.sInf_mem (transGen_iff_steps.mp h)

theorem distance_step (h : TransGen r a m) (hstep : r m b) :
    distance r a b ≤ distance r a m + 1 :=
  distance_le (Nat.succ_pos _) ⟨m, (steps_distance h).2, hstep⟩

theorem distance_of_step (h : r a b) : distance r a b = 1 :=
  Nat.le_antisymm (distance_le Nat.one_pos ⟨a, rfl, h⟩) (steps_distance (.single h)).1

theorem step_of_distance (h : TransGen r a b) (hone : distance r a b ≤ 1) : r a b := by
  obtain ⟨hpos, hsteps⟩ := steps_distance h
  rw [Nat.le_antisymm hone hpos] at hsteps
  obtain ⟨m, rfl, hstep⟩ := hsteps
  exact hstep

/-- The last step of a shortest way comes from a node that is nearer by one. -/
theorem exists_nearer (h : TransGen r a b) (hn : 0 < n) (hdistance : distance r a b = n + 1) :
    ∃ m, TransGen r a m ∧ distance r a m = n ∧ r m b := by
  have hsteps := (steps_distance h).2
  rw [hdistance] at hsteps
  obtain ⟨m, hbefore, hstep⟩ := hsteps
  have hm : TransGen r a m := transGen_iff_steps.mpr ⟨n, hn, hbefore⟩
  refine ⟨m, hm, Nat.le_antisymm (distance_le hn hbefore) ?_, hstep⟩
  have hback := distance_step hm hstep
  omega

/-- The list names the nodes with a property, each once, in the order of their distances from a
node. -/
structure ListsByDistance (r : α → α → Prop) (a : α) (p : α → Prop) (items : List α) : Prop where
  nodup : items.Nodup
  mem_iff : ∀ b, b ∈ items ↔ p b
  nearest_first : items.Pairwise fun b c => distance r a b ≤ distance r a c

end Distance

section Queue

variable {α : Type} {next : α → List α}

/-- A run of a queue: from the nodes that have been seen and those that wait to the nodes that it
lists. Whether nodes that have been seen queue up again is left open. -/
inductive Visits (next : α → List α) : List α → List α → List α → Prop
  | done (seen : List α) : Visits next seen [] []
  | pass {seen queue order : List α} (node : α) (hseen : node ∈ seen)
      (h : Visits next seen queue order) : Visits next seen (node :: queue) order
  | take {seen queue more order : List α} (node : α) (hnew : node ∉ seen)
      (hmore : more ⊆ next node) (hall : next node ⊆ node :: (seen ++ more))
      (h : Visits next (node :: seen) (queue ++ more) order) :
      Visits next seen (node :: queue) (node :: order)

/-- The nodes that wait are near or one step further, and all nodes that are nearer have been
seen. -/
structure Layered (next : α → List α) (a : α) (d : Nat) (seen near far : List α) : Prop where
  pos : 0 < d
  reached : ∀ n ∈ near ++ far, TransGen (Leads next) a n
  near_at : ∀ n ∈ near, n ∈ seen ∨ distance (Leads next) a n = d
  far_at : ∀ n ∈ far, n ∈ seen ∨ n ∈ near ∨ distance (Leads next) a n = d + 1
  inner : ∀ n, TransGen (Leads next) a n → distance (Leads next) a n ≤ d → n ∈ seen ∨ n ∈ near
  closed : ∀ n ∈ seen, next n ⊆ seen ++ (near ++ far)

variable {a node : α} {d : Nat} {seen near far more queue order : List α}

/-- To begin with, the successors of the node wait, and no other one has been seen. -/
theorem Layered.start (h : seen ⊆ [a]) : Layered next a 1 seen (next a) [] where
  pos := Nat.one_pos
  reached n hn := by
    rw [List.append_nil] at hn
    exact .single hn
  near_at _ hn := .inr (distance_of_step hn)
  far_at _ hn := absurd hn List.not_mem_nil
  inner _ hn hone := .inr (step_of_distance hn hone)
  closed n hn := by
    rw [List.mem_singleton.mp (h hn), List.append_nil]
    exact List.subset_append_right ..

/-- When the near nodes have had their turn, those behind them are the near ones. -/
theorem Layered.advance (h : Layered next a d seen [] far) :
    Layered next a (d + 1) seen far [] where
  pos := d.succ_pos
  reached := by simpa using h.reached
  near_at n hn := by simpa using h.far_at n hn
  far_at _ hn := absurd hn List.not_mem_nil
  inner n hn hle := by
    have hinner : ∀ m, TransGen (Leads next) a m → distance (Leads next) a m ≤ d → m ∈ seen := by
      simpa using h.inner
    obtain hlt | heq := Nat.lt_or_eq_of_le hle
    · exact .inl (hinner n hn (Nat.le_of_lt_succ hlt))
    · obtain ⟨m, hm, hdistance, hstep⟩ := exists_nearer hn h.pos heq
      have hnext := h.closed m (hinner m hm hdistance.le) hstep
      simpa using hnext
  closed := by simpa using h.closed

/-- The node whose turn it is stands among the near ones. -/
theorem Layered.exists_near (h : Layered next a d seen near far)
    (hqueue : near ++ far = node :: queue) :
    ∃ d near far, Layered next a d seen (node :: near) far ∧ near ++ far = queue := by
  cases near with
  | cons first near =>
    obtain ⟨rfl, rfl⟩ := List.cons.inj hqueue
    exact ⟨d, near, far, h, rfl⟩
  | nil =>
    obtain rfl : far = node :: queue := hqueue
    exact ⟨d + 1, queue, [], h.advance, List.append_nil _⟩

theorem Layered.pass (h : Layered next a d seen (node :: near) far) (hseen : node ∈ seen) :
    Layered next a d seen near far where
  pos := h.pos
  reached n hn := h.reached n (.tail _ hn)
  near_at n hn := h.near_at n (.tail _ hn)
  far_at n hn := by
    obtain hmem | hmem | hdistance := h.far_at n hn
    · exact .inl hmem
    · obtain rfl | hmem := List.mem_cons.mp hmem
      · exact .inl hseen
      · exact .inr (.inl hmem)
    · exact .inr (.inr hdistance)
  inner n hn hle := by
    obtain hmem | hmem := h.inner n hn hle
    · exact .inl hmem
    · obtain rfl | hmem := List.mem_cons.mp hmem
      · exact .inl hseen
      · exact .inr hmem
  closed n hn m hm := by
    have hwaiting := h.closed n hn hm
    rw [List.cons_append, List.mem_append, List.mem_cons] at hwaiting
    obtain hmem | rfl | hmem := hwaiting
    · exact List.mem_append_left _ hmem
    · exact List.mem_append_left _ hseen
    · exact List.mem_append_right _ hmem

/-- A successor that is not further away than the node has been seen or waits among the near
ones. -/
theorem Layered.take (h : Layered next a d seen (node :: near) far) (hnew : node ∉ seen)
    (hmore : more ⊆ next node) (hall : next node ⊆ node :: (seen ++ more)) :
    Layered next a d (node :: seen) near (far ++ more) where
  pos := h.pos
  reached n hn := by
    rw [← List.append_assoc, List.mem_append] at hn
    obtain hn | hn := hn
    · exact h.reached n (.tail _ hn)
    · exact .tail (h.reached node List.mem_cons_self) (hmore hn)
  near_at n hn := (h.near_at n (.tail _ hn)).imp_left (.tail _)
  far_at n hn := by
    have hinner : ∀ m, TransGen (Leads next) a m → distance (Leads next) a m ≤ d →
        m ∈ node :: seen ∨ m ∈ near := by
      intro m hm hle
      have hor := h.inner m hm hle
      simp only [List.mem_cons] at hor ⊢
      tauto
    obtain hn | hn := List.mem_append.mp hn
    · have hor := h.far_at n hn
      simp only [List.mem_cons] at hor ⊢
      tauto
    · have hnode := h.reached node List.mem_cons_self
      have hdistance := (h.near_at node List.mem_cons_self).resolve_left hnew
      have hle : distance (Leads next) a n ≤ d + 1 := hdistance ▸ distance_step hnode (hmore hn)
      obtain hlt | heq := Nat.lt_or_eq_of_le hle
      · exact (hinner n (.tail hnode (hmore hn)) (Nat.le_of_lt_succ hlt)).imp_right .inl
      · exact .inr (.inr heq)
  inner n hn hle := by
    have hor := h.inner n hn hle
    simp only [List.mem_cons] at hor ⊢
    tauto
  closed n hn m hm := by
    simp only [List.mem_append, List.mem_cons]
    obtain rfl | hn := List.mem_cons.mp hn
    · have hmem := hall hm
      simp only [List.mem_append, List.mem_cons] at hmem
      tauto
    · have hmem := h.closed n hn hm
      simp only [List.mem_append, List.mem_cons] at hmem
      tauto

/-- When nothing waits, everything has been seen: a way to a node that has not been would have to
leave the nodes that have been seen. -/
theorem Layered.complete (h : Layered next a d seen [] []) {n : α}
    (hn : TransGen (Leads next) a n) : n ∈ seen := by
  induction hn with
  | single hstep => simpa using h.inner _ (.single hstep) ((distance_of_step hstep).le.trans h.pos)
  | tail _ hstep ih => simpa using h.closed _ ih hstep

/-- What is listed from some point of the run on. -/
theorem Visits.listsByDistance (h : Visits next seen queue order)
    (hlayered : Layered next a d seen near far) (hqueue : near ++ far = queue) :
    ListsByDistance (Leads next) a (fun n => n ∉ seen ∧ TransGen (Leads next) a n) order := by
  induction h generalizing d near far with
  | done seen =>
    obtain ⟨rfl, rfl⟩ := List.append_eq_nil_iff.mp hqueue
    refine ⟨List.nodup_nil, fun n => iff_of_false List.not_mem_nil ?_, .nil⟩
    exact fun hn => hn.1 (hlayered.complete hn.2)
  | pass node hseen _ ih =>
    obtain ⟨d, near, far, hlayered, hqueue⟩ := hlayered.exists_near hqueue
    exact ih (hlayered.pass hseen) hqueue
  | @take seen queue more order node hnew hmore hall _ ih =>
    obtain ⟨d, near, far, hlayered, rfl⟩ := hlayered.exists_near hqueue
    obtain ⟨hnodup, hmem, hascending⟩ :=
      ih (hlayered.take hnew hmore hall) (List.append_assoc ..).symm
    have hnode := hlayered.reached node List.mem_cons_self
    refine ⟨List.nodup_cons.mpr ⟨fun hlater => ?_, hnodup⟩, fun n => ?_,
      List.pairwise_cons.mpr ⟨fun n hlater => ?_, hascending⟩⟩
    · exact ((hmem node).mp hlater).1 List.mem_cons_self
    · rw [List.mem_cons, hmem, List.mem_cons, not_or]
      by_cases heq : n = node
      · simp [heq, hnew, hnode]
      · simp [heq]
    · obtain ⟨hlater, hreached⟩ := (hmem n).mp hlater
      rw [(hlayered.near_at node List.mem_cons_self).resolve_left hnew]
      by_contra hlt
      -- a nearer node would have had its turn
      have hle : distance (Leads next) a n ≤ d := (Nat.lt_of_not_le hlt).le
      obtain hmem | hmem := hlayered.inner n hreached hle
      · exact hlater (.tail _ hmem)
      · obtain hmem | hdistance := hlayered.near_at n hmem
        · exact hlater (.tail _ hmem)
        · exact hlt hdistance.ge

/-- A run that begins with the successors of a node lists what it leads to, the node itself left
out if it counts as seen. -/
theorem Visits.listsReached (h : Visits next seen (next a) order) (hseen : seen ⊆ [a]) :
    ListsByDistance (Leads next) a (fun n => n ∉ seen ∧ TransGen (Leads next) a n) order :=
  h.listsByDistance (.start hseen) (List.append_nil _)

end Queue

section Fuel

variable {α ε : Type} [BEq α] {next : α → List α} (edges : List ε) (source : ε → α)

/-- Edges from nodes that have not been seen. -/
def unused (seen : List α) : List ε :=
  edges.filter fun e => !seen.contains (source e)

variable [LawfulBEq α]

/-- The edges of a node are used up when it is seen. -/
theorem length_unused_cons {seen : List α} {node : α} (hnew : node ∉ seen) :
    (edges.filter (source · == node)).length + (unused edges source (node :: seen)).length =
      (unused edges source seen).length := by
  rw [List.length_eq_length_filter_add (l := unused edges source seen) (source · == node)]
  have hhere : (unused edges source seen).filter (source · == node) =
      edges.filter (source · == node) := by
    rw [unused, List.filter_filter]
    refine List.filter_congr fun e _ => ?_
    by_cases heq : source e = node
    · simp [heq, hnew]
    · simp [heq]
  have hrest : (unused edges source seen).filter (fun e => !(source e == node)) =
      unused edges source (node :: seen) := by
    rw [unused, List.filter_filter, unused]
    refine List.filter_congr fun e _ => ?_
    rw [List.contains_cons, Bool.not_or]
  rw [hhere, hrest]

/-- Listing a node takes one from the nodes that wait and the edges that are not used. -/
theorem waiting_take {seen queue more : List α} {node : α} {fuel : Nat}
    (hnext : ∀ n, (next n).length = (edges.filter (source · == n)).length) (hnew : node ∉ seen)
    (hmore : more.length ≤ (next node).length)
    (hfuel : (node :: queue).length + (unused edges source seen).length ≤ fuel + 1) :
    (queue ++ more).length + (unused edges source (node :: seen)).length ≤ fuel := by
  have hunused := length_unused_cons edges source hnew
  rw [hnext] at hmore
  rw [List.length_cons] at hfuel
  rw [List.length_append]
  omega

/-- Fuel for the nodes that wait and the edges that are not used is fuel enough for a loop that takes
a node from the queue in each round, whichever of its successors it puts there, as long as it leaves
out none that has not been seen. -/
theorem loop_visits {loop : Nat → List α → List α → List α} (more : List α → α → List α)
    (hnil : ∀ fuel seen, loop fuel seen [] = [])
    (hcons : ∀ fuel seen node queue, loop (fuel + 1) seen (node :: queue) =
      if seen.contains node then loop fuel seen queue
      else node :: loop fuel (node :: seen) (queue ++ more (node :: seen) node))
    (hmore : ∀ seen node, (more seen node).Sublist (next node))
    (hall : ∀ seen node, next node ⊆ seen ++ more seen node)
    (hnext : ∀ n, (next n).length = (edges.filter (source · == n)).length)
    (fuel : Nat) {seen queue : List α}
    (hfuel : queue.length + (unused edges source seen).length ≤ fuel) :
    Visits next seen queue (loop fuel seen queue) := by
  induction fuel generalizing seen queue with
  | zero =>
    obtain rfl : queue = [] := List.eq_nil_of_length_eq_zero (by omega)
    rw [hnil]
    exact .done seen
  | succ fuel ih =>
    cases queue with
    | nil =>
      rw [hnil]
      exact .done seen
    | cons node queue =>
      rw [hcons]
      split
      next hold =>
        rw [List.length_cons] at hfuel
        exact .pass node (List.contains_iff_mem.mp hold) (ih (by omega))
      next hnew =>
        have hnew : node ∉ seen := fun hmem => hnew (List.contains_iff_mem.mpr hmem)
        exact .take node hnew (hmore (node :: seen) node).subset (hall (node :: seen) node)
          (ih (waiting_take edges source hnext hnew (hmore (node :: seen) node).length_le hfuel))

theorem spread_visits (hnext : ∀ n, (next n).length = (edges.filter (source · == n)).length)
    (fuel : Nat) {seen queue : List α}
    (hfuel : queue.length + (unused edges source seen).length ≤ fuel) :
    Visits next seen queue (spread next fuel seen queue) := by
  refine loop_visits edges source (fun _ => next) (fun fuel seen => ?_) (fun _ _ _ _ => rfl)
    (fun _ _ => .refl _) (fun _ _ => List.subset_append_right ..) hnext fuel hfuel
  cases fuel <;> rfl

/-- What does not queue up has been seen. -/
theorem spreadUnseen_visits (hnext : ∀ n, (next n).length = (edges.filter (source · == n)).length)
    (fuel : Nat) {seen queue : List α}
    (hfuel : queue.length + (unused edges source seen).length ≤ fuel) :
    Visits next seen queue (spreadUnseen next fuel seen queue) := by
  refine loop_visits edges source (fun seen node => (next node).filter fun n => !seen.contains n)
    (fun fuel seen => ?_) (fun _ _ _ _ => rfl) (fun _ _ => List.filter_sublist)
    (fun seen node n hn => ?_) hnext fuel hfuel
  · cases fuel <;> rfl
  · by_cases hmem : n ∈ seen
    · exact List.mem_append_left _ hmem
    · exact List.mem_append_right _ (List.mem_filter.mpr ⟨hn, by simpa using hmem⟩)

end Fuel

end EtlSurvey.Graph
