import Mathlib

/-!
# Undo histories

Two stacks of entries lead from what is shown to what was shown before and after it.  Restoring
an entry gives the entry that leads back, which goes to the other stack.  A stack may forget
entries, and the oldest ones go first.

The meaning of the stacks is a timeline.  **`Follows`**: what is shown is the present of the
timeline, and each stack leads along a beginning of the past or of the future.
-/

namespace AsterYggdrasil.UndoHistory

/-! ## Timelines -/

/-- A present between a past and a future, both nearest first. -/
structure Timeline (α : Type) where
  past : List α
  present : α
  future : List α

namespace Timeline

variable {α : Type} {t : Timeline α} {k j : Nat}

/-- Something new happens, and the future is forgotten. -/
def edit (t : Timeline α) (a : α) : Timeline α := ⟨t.present :: t.past, a, []⟩

def back (t : Timeline α) : Timeline α :=
  match t.past with
  | [] => t
  | a :: past => ⟨past, a, t.present :: t.future⟩

def forth (t : Timeline α) : Timeline α :=
  match t.future with
  | [] => t
  | a :: future => ⟨t.present :: t.past, a, future⟩

/-- Everything on the timeline. -/
def all (t : Timeline α) : List α := t.past ++ t.present :: t.future

theorem forth_back (h : t.past ≠ []) : t.back.forth = t := by
  obtain ⟨past, present, future⟩ := t
  cases past with
  | nil => exact absurd rfl h
  | cons a past => rfl

theorem length_past_back : t.back.past.length = t.past.length - 1 := by
  obtain ⟨past, present, future⟩ := t
  cases past <;> rfl

theorem length_past_iterate_back : (back^[k] t).past.length = t.past.length - k := by
  induction k with
  | zero => rfl
  | succ k ih =>
      rw [Function.iterate_succ_apply', length_past_back, ih]
      omega

/-- **The present after some steps back.** -/
theorem present_iterate_back (h : k ≤ t.past.length) :
    (t.present :: t.past)[k]? = some (back^[k] t).present := by
  induction k generalizing t with
  | zero => rfl
  | succ k ih =>
      obtain ⟨past, present, future⟩ := t
      cases past with
      | nil => cases h
      | cons a past => exact ih (t := ⟨past, a, present :: future⟩) (Nat.le_of_succ_le_succ h)

/-- **Steps forth undo steps back.** -/
theorem iterate_forth_back (hk : k ≤ t.past.length) (hj : j ≤ k) :
    forth^[j] (back^[k] t) = back^[k - j] t := by
  induction j with
  | zero => rfl
  | succ j ih =>
      have hstep : k - j = k - (j + 1) + 1 := by omega
      have hpast : (back^[k - (j + 1)] t).past ≠ [] := by
        rw [← List.length_pos_iff, length_past_iterate_back]
        omega
      rw [Function.iterate_succ_apply', ih (Nat.le_of_succ_le hj), hstep,
        Function.iterate_succ_apply', forth_back hpast]

theorem mem_all_back {a : α} : a ∈ t.back.all ↔ a ∈ t.all := by
  obtain ⟨past, present, future⟩ := t
  cases past with
  | nil => rfl
  | cons b past =>
      simp only [back, all, List.mem_append, List.mem_cons]
      tauto

theorem mem_all_forth {a : α} : a ∈ t.forth.all ↔ a ∈ t.all := by
  obtain ⟨past, present, future⟩ := t
  cases future with
  | nil => rfl
  | cons b future =>
      simp only [forth, all, List.mem_append, List.mem_cons]
      tauto

theorem mem_all_edit {a b : α} (h : b ∈ (t.edit a).all) : b = a ∨ b ∈ t.all := by
  simp only [edit, all, List.mem_append, List.mem_cons, List.not_mem_nil, or_false] at h ⊢
  tauto

end Timeline

/-! ## Stacks -/

/-- The loop that forgets the oldest entries, which come first: while there are more than `limit`
of them, or they are larger than `memoryLimit`. -/
def dropOldest {ε : Type} (limit memoryLimit : Nat) (size : ε → Nat) : List ε → List ε
  | [] => []
  | [entry] => [entry]
  | oldest :: entry :: entries =>
      if limit < (oldest :: entry :: entries).length ||
          memoryLimit < ((oldest :: entry :: entries).map size).sum then
        dropOldest limit memoryLimit size (entry :: entries)
      else oldest :: entry :: entries

theorem dropOldest_suffix {ε : Type} (limit memoryLimit : Nat) (size : ε → Nat)
    (entries : List ε) : dropOldest limit memoryLimit size entries <:+ entries := by
  induction entries with
  | nil => exact List.suffix_refl _
  | cons oldest entries ih =>
      cases entries with
      | nil => exact List.suffix_refl _
      | cons entry entries =>
          rw [dropOldest]
          split
          · exact ih.trans (List.suffix_cons _ _)
          · exact List.suffix_refl _

theorem dropOldest_of_fits {ε : Type} {limit memoryLimit : Nat} {size : ε → Nat}
    {entries : List ε} (hlimit : entries.length ≤ limit)
    (hmemory : (entries.map size).sum ≤ memoryLimit) :
    dropOldest limit memoryLimit size entries = entries := by
  match entries with
  | [] | [_] => rfl
  | oldest :: entry :: entries =>
      have hcount := Nat.not_lt.mpr hlimit
      have hbytes := Nat.not_lt.mpr hmemory
      rw [dropOldest, if_neg (by simp only [Bool.or_eq_true, decide_eq_true_eq, hcount, hbytes,
        or_self, not_false_eq_true])]

/-- How entries are restored and pushed, and what they lead from and to. -/
structure Mechanism (σ ε : Type) where
  restore : ε → σ → Option (σ × ε)
  push : List ε → ε → List ε
  Leads : ε → σ → σ → Prop
  /-- An entry is restored, and the one that leads back is left. -/
  restore_leads : ∀ {entry s target}, Leads entry s target →
    ∃ inverse, restore entry s = some (target, inverse) ∧ Leads inverse target s
  push_suffix : ∀ entries entry, push entries entry <:+ entries ++ [entry]

/-- What is shown, and the stacks, of which the newest entry comes last. -/
structure Stacks (σ ε : Type) where
  state : σ
  history : List ε
  redo : List ε

namespace Stacks

variable {σ ε : Type} (m : Mechanism σ ε)

/-- An edit. -/
def commit (s : Stacks σ ε) (entry : ε) (state : σ) : Stacks σ ε :=
  ⟨state, m.push s.history entry, []⟩

/-- An entry that cannot be restored is gone. -/
def undo (s : Stacks σ ε) : Stacks σ ε :=
  match s.history.getLast? with
  | none => s
  | some previous =>
      match m.restore previous s.state with
      | none => { s with history := s.history.dropLast }
      | some (state, inverse) => ⟨state, s.history.dropLast, m.push s.redo inverse⟩

def redoUndone (s : Stacks σ ε) : Stacks σ ε :=
  match s.redo.getLast? with
  | none => s
  | some next =>
      match m.restore next s.state with
      | none => { s with redo := s.redo.dropLast }
      | some (state, inverse) => ⟨state, m.push s.history inverse, s.redo.dropLast⟩

end Stacks

section Follows

variable {σ ε : Type} {m : Mechanism σ ε}

/-- The entries lead along the states, one after the other.  The newest entry comes first. -/
def Path (m : Mechanism σ ε) : σ → List ε → List σ → Prop
  | _, [], _ => True
  | _, _ :: _, [] => False
  | s, entry :: entries, target :: states => m.Leads entry s target ∧ Path m target entries states

theorem Path.of_prefix {s : σ} {entries entries' : List ε} {states : List σ}
    (h : Path m s entries' states) (hbegin : entries <+: entries') : Path m s entries states := by
  induction entries generalizing s entries' states with
  | nil => trivial
  | cons entry entries ih =>
      obtain ⟨rest, rfl⟩ := hbegin
      cases states with
      | nil => exact h.elim
      | cons target states => exact ⟨h.1, ih h.2 (List.prefix_append ..)⟩

theorem Path.length_le {s : σ} {entries : List ε} {states : List σ} (h : Path m s entries states) :
    entries.length ≤ states.length := by
  induction entries generalizing s states with
  | nil => exact Nat.zero_le _
  | cons entry entries ih =>
      cases states with
      | nil => exact h.elim
      | cons target states => exact Nat.succ_le_succ (ih h.2)

/-- A new entry goes on top. -/
theorem Path.push {s target : σ} {entry : ε} {entries : List ε} {states : List σ}
    (hentry : m.Leads entry s target) (h : Path m target entries.reverse states) :
    Path m s (m.push entries entry).reverse (target :: states) := by
  have hbegin := List.reverse_prefix.mpr (m.push_suffix entries entry)
  rw [List.reverse_append] at hbegin
  have hpath : Path m s (entry :: entries.reverse) (target :: states) := ⟨hentry, h⟩
  exact hpath.of_prefix hbegin

/-- The newest entry. -/
theorem Path.pop {s : σ} {entries : List ε} {states : List σ} {entry : ε}
    (h : Path m s entries.reverse states) (hlast : entries.getLast? = some entry) :
    ∃ target rest, states = target :: rest ∧ m.Leads entry s target ∧
      Path m target entries.dropLast.reverse rest := by
  have hsplit : entries.dropLast ++ [entry] = entries :=
    List.dropLast_append_getLast? entry hlast
  rw [← hsplit, List.reverse_append] at h
  cases states with
  | nil => exact h.elim
  | cons target rest => exact ⟨target, rest, rfl, h.1, h.2⟩

/-- **The stacks follow a timeline.** -/
structure Follows (m : Mechanism σ ε) (s : Stacks σ ε) (t : Timeline σ) : Prop where
  present : t.present = s.state
  history : Path m s.state s.history.reverse t.past
  redo : Path m s.state s.redo.reverse t.future

namespace Follows

variable {s : Stacks σ ε} {t : Timeline σ}

theorem commit (h : Follows m s t) {entry : ε} {state : σ} (hentry : m.Leads entry state s.state) :
    Follows m (s.commit m entry state) (t.edit state) := by
  refine ⟨rfl, ?_, trivial⟩
  rw [Timeline.edit, h.present]
  exact Path.push hentry h.history

/-- **Undo is a step back.** -/
theorem undo (h : Follows m s t) (hne : s.history ≠ []) :
    Follows m (s.undo m) t.back ∧ (s.undo m).history = s.history.dropLast := by
  obtain ⟨past, present, future⟩ := t
  obtain rfl : present = s.state := h.present
  have hlast : s.history.getLast? = some (s.history.getLast hne) := List.getLast?_eq_some_getLast hne
  obtain ⟨target, rest, rfl, hleads, hrest⟩ := h.history.pop hlast
  obtain ⟨inverse, hrestored, hback⟩ := m.restore_leads hleads
  have hundo : s.undo m = ⟨target, s.history.dropLast, m.push s.redo inverse⟩ := by
    simp only [Stacks.undo, hlast, hrestored]
  rw [hundo]
  exact ⟨⟨rfl, hrest, Path.push hback h.redo⟩, rfl⟩

/-- **Redo is a step forth.** -/
theorem redoUndone (h : Follows m s t) (hne : s.redo ≠ []) :
    Follows m (s.redoUndone m) t.forth ∧ (s.redoUndone m).redo = s.redo.dropLast := by
  obtain ⟨past, present, future⟩ := t
  obtain rfl : present = s.state := h.present
  have hlast : s.redo.getLast? = some (s.redo.getLast hne) := List.getLast?_eq_some_getLast hne
  obtain ⟨target, rest, rfl, hleads, hrest⟩ := h.redo.pop hlast
  obtain ⟨inverse, hrestored, hback⟩ := m.restore_leads hleads
  have hredo : s.redoUndone m = ⟨target, m.push s.history inverse, s.redo.dropLast⟩ := by
    simp only [Stacks.redoUndone, hlast, hrestored]
  rw [hredo]
  exact ⟨⟨rfl, Path.push hback h.history, hrest⟩, rfl⟩

/-- **Some undos** are as many steps back, while there are entries. -/
theorem iterate_undo (h : Follows m s t) {k : Nat} (hk : k ≤ s.history.length) :
    Follows m ((Stacks.undo m)^[k] s) (Timeline.back^[k] t) ∧
      ((Stacks.undo m)^[k] s).history.length = s.history.length - k := by
  induction k with
  | zero => exact ⟨h, rfl⟩
  | succ k ih =>
      obtain ⟨hfollows, hlength⟩ := ih (Nat.le_of_succ_le hk)
      have hne : ((Stacks.undo m)^[k] s).history ≠ [] := by
        rw [← List.length_pos_iff, hlength]
        omega
      obtain ⟨hnext, hhistory⟩ := hfollows.undo hne
      rw [Function.iterate_succ_apply', Function.iterate_succ_apply']
      refine ⟨hnext, ?_⟩
      rw [hhistory, List.length_dropLast, hlength]
      omega

/-- **Some redos** are as many steps forth, while there are entries. -/
theorem iterate_redoUndone (h : Follows m s t) {k : Nat} (hk : k ≤ s.redo.length) :
    Follows m ((Stacks.redoUndone m)^[k] s) (Timeline.forth^[k] t) ∧
      ((Stacks.redoUndone m)^[k] s).redo.length = s.redo.length - k := by
  induction k with
  | zero => exact ⟨h, rfl⟩
  | succ k ih =>
      obtain ⟨hfollows, hlength⟩ := ih (Nat.le_of_succ_le hk)
      have hne : ((Stacks.redoUndone m)^[k] s).redo ≠ [] := by
        rw [← List.length_pos_iff, hlength]
        omega
      obtain ⟨hnext, hredo⟩ := hfollows.redoUndone hne
      rw [Function.iterate_succ_apply', Function.iterate_succ_apply']
      refine ⟨hnext, ?_⟩
      rw [hredo, List.length_dropLast, hlength]
      omega

/-- **Undos restore what was shown that many steps ago.** -/
theorem state_iterate_undo (h : Follows m s t) {k : Nat} (hk : k ≤ s.history.length) :
    (t.present :: t.past)[k]? = some ((Stacks.undo m)^[k] s).state := by
  have hpast : k ≤ t.past.length := by
    have hlength := h.history.length_le
    rw [List.length_reverse] at hlength
    exact Nat.le_trans hk hlength
  rw [Timeline.present_iterate_back hpast, (h.iterate_undo hk).1.present]

/-- **Redos after undos restore what was shown before these.** -/
theorem state_iterate_redoUndone (h : Follows m s t) {k j : Nat} (hk : k ≤ s.history.length)
    (hj : j ≤ k) (hredo : j ≤ ((Stacks.undo m)^[k] s).redo.length) :
    ((Stacks.redoUndone m)^[j] ((Stacks.undo m)^[k] s)).state =
      ((Stacks.undo m)^[k - j] s).state := by
  have hpast : k ≤ t.past.length := by
    have hlength := h.history.length_le
    rw [List.length_reverse] at hlength
    exact Nat.le_trans hk hlength
  have hforth := ((h.iterate_undo hk).1.iterate_redoUndone hredo).1.present
  have hback := (h.iterate_undo (Nat.le_trans (Nat.sub_le k j) hk)).1.present
  rw [← hforth, ← hback, Timeline.iterate_forth_back hpast hj]

end Follows

end Follows

end AsterYggdrasil.UndoHistory
