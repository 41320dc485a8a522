import Mathlib

/-!
# Search with a queue

A search visits what can be reached from a start, one after the other, and looks at the
successors of what it has visited in the same order.  The visited nodes are a list; those before
`head` have been looked at.  When all have been, the visited nodes are the reachable ones.
-/

namespace AsterYggdrasil.Search

open Relation

variable {α : Type} {succ : α → α → Prop} {start : α} {visited : List α} {head : Nat}

/-- The state of a search. -/
structure Searching (succ : α → α → Prop) (start : α) (visited : List α) (head : Nat) : Prop where
  start_mem : start ∈ visited
  nodup : visited.Nodup
  reached : ∀ v ∈ visited, ReflTransGen succ start v
  looked : ∀ v ∈ visited.take head, ∀ w, succ v w → w ∈ visited

namespace Searching

theorem init : Searching succ start [start] 0 where
  start_mem := List.mem_singleton_self start
  nodup := List.nodup_singleton start
  reached v hv := by
    rw [List.mem_singleton.mp hv]
  looked v hv := by
    cases hv

/-- One more node is visited. -/
theorem visit {v w : α} (h : Searching succ start visited head) (hv : v ∈ visited)
    (hsucc : succ v w) (hw : w ∉ visited) (hhead : head ≤ visited.length) :
    Searching succ start (visited ++ [w]) head where
  start_mem := List.mem_append_left _ h.start_mem
  nodup := List.nodup_append.mpr ⟨h.nodup, List.nodup_singleton w, fun a ha b hb => by
    rw [List.mem_singleton.mp hb]
    exact fun heq => hw (heq ▸ ha)⟩
  reached u hu := by
    rcases List.mem_append.mp hu with hold | hnew
    · exact h.reached u hold
    · rw [List.mem_singleton.mp hnew]
      exact (h.reached v hv).tail hsucc
  looked u hu x hx := by
    rw [List.take_append_of_le_length hhead] at hu
    exact List.mem_append_left _ (h.looked u hu x hx)

/-- The successors of the next node have been looked at. -/
theorem advance (h : Searching succ start visited head) (hhead : head < visited.length)
    (hall : ∀ w, succ visited[head] w → w ∈ visited) :
    Searching succ start visited (head + 1) where
  start_mem := h.start_mem
  nodup := h.nodup
  reached := h.reached
  looked v hv := by
    rw [List.take_succ_eq_append_getElem hhead] at hv
    rcases List.mem_append.mp hv with hold | hnew
    · exact h.looked v hold
    · rw [List.mem_singleton.mp hnew]
      exact hall

/-- **A search that has looked at everything has visited what can be reached.** -/
theorem complete (h : Searching succ start visited visited.length) {w : α} :
    w ∈ visited ↔ ReflTransGen succ start w := by
  refine ⟨h.reached w, fun hreach => ?_⟩
  induction hreach with
  | refl => exact h.start_mem
  | tail _ hsucc ih =>
      rw [← List.take_length (l := visited)] at ih
      exact h.looked _ ih _ hsucc

end Searching

/-- Different numbers below a bound are not more than the bound. -/
theorem length_le_of_nodup {l : List Nat} {n : Nat} (hnodup : l.Nodup) (hlt : ∀ i ∈ l, i < n) :
    l.length ≤ n := by
  have hsub : l ⊆ List.range n := fun i hi => List.mem_range.mpr (hlt i hi)
  have hle := (hnodup.subperm hsub).length_le
  rwa [List.length_range] at hle

end AsterYggdrasil.Search
