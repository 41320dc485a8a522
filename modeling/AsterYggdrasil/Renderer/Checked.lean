import Mathlib

/-!
# Checked arithmetic

The operations of unsigned machine integers as a debug build performs them: a result that
does not fit, a difference below zero and a division by zero are `none`, and a loop whose
body fails fails.
-/

namespace AsterYggdrasil.Renderer

/-- A result of type `u32`. -/
def u32 (n : Nat) : Option Nat := if n < 2 ^ 32 then some n else none

/-- A difference. -/
def minus (a b : Nat) : Option Nat := if b ≤ a then some (a - b) else none

/-- A quotient. -/
def quotient (a b : Nat) : Option Nat := if b = 0 then none else some (a / b)

/-- `for i in 0..n`. -/
def times {σ : Type} (n : Nat) (body : Nat → σ → Option σ) (s : σ) : Option σ :=
  (List.range n).foldlM (fun s i => body i s) s

theorem u32_of_lt {n : Nat} (h : n < 2 ^ 32) : u32 n = some n := if_pos h

theorem u32_eq_some {n m : Nat} (h : u32 n = some m) : m = n ∧ n < 2 ^ 32 := by
  unfold u32 at h
  split at h
  · next hlt => exact ⟨(Option.some.inj h).symm, hlt⟩
  · cases h

theorem minus_of_le {a b : Nat} (h : b ≤ a) : minus a b = some (a - b) := if_pos h

theorem minus_eq_some {a b c : Nat} (h : minus a b = some c) : c = a - b ∧ b ≤ a := by
  unfold minus at h
  split at h
  · next hle => exact ⟨(Option.some.inj h).symm, hle⟩
  · cases h

theorem quotient_of_pos {a b : Nat} (h : 0 < b) : quotient a b = some (a / b) :=
  if_neg (Nat.ne_of_gt h)

section Loops

variable {σ : Type} {f : Nat → σ → Option σ} {s : σ} {n : Nat}

@[simp] theorem times_zero : times 0 f s = some s := rfl

theorem times_succ : times (n + 1) f s = (times n f s).bind (f n) := by
  simp only [times, List.range_succ, List.foldlM_append, List.foldlM_cons, List.foldlM_nil]
  cases (List.range n).foldlM (fun s i => f i s) s with
  | none => rfl
  | some s' =>
      show (f n s').bind some = f n s'
      cases f n s' <;> rfl

theorem times_succ' : times (n + 1) f s = (f 0 s).bind (times n fun i => f (i + 1)) := by
  simp only [times, List.range_succ_eq_map, List.foldlM_cons, List.foldlM_map]
  rfl

/-- A loop over the indices of two lists. -/
theorem times_zip {α β : Type} {as : List α} {bs : List β} {f : α → β → σ → Option σ}
    (h : as.length = bs.length) :
    times as.length (fun i s => do
        let a ← as[i]?
        let b ← bs[i]?
        f a b s) s =
      (as.zip bs).foldlM (fun s p => f p.1 p.2 s) s := by
  induction as generalizing bs s with
  | nil => rfl
  | cons a as ih =>
      cases bs with
      | nil => cases h
      | cons b bs =>
          rw [List.length_cons, times_succ', List.zip_cons_cons, List.foldlM_cons]
          show (f a b s).bind _ = (f a b s).bind _
          cases f a b s with
          | none => rfl
          | some s' => exact ih (Nat.succ.inj h)

/-- **Loop rule.**  `I i` holds before round `i`. -/
theorem times_ok {I : Nat → σ → Prop}
    (hbody : ∀ i < n, ∀ s, I i s → ∃ s', f i s = some s' ∧ I (i + 1) s') (hs : I 0 s) :
    ∃ s', times n f s = some s' ∧ I n s' := by
  induction n with
  | zero => exact ⟨s, rfl, hs⟩
  | succ n ih =>
      obtain ⟨s', htimes, hs'⟩ := ih fun i hi => hbody i (Nat.lt_succ_of_lt hi)
      obtain ⟨s'', hstep, hs''⟩ := hbody n (Nat.lt_succ_self n) s' hs'
      refine ⟨s'', ?_, hs''⟩
      rw [times_succ, htimes, Option.bind_some]
      exact hstep

/-- A round that fails makes the loop fail. -/
theorem times_none {i : Nat} (hi : i < n) (hbody : ∀ s, f i s = none) :
    times n f s = none := by
  induction n with
  | zero => exact absurd hi (Nat.not_lt_zero i)
  | succ n ih =>
      rw [times_succ]
      rcases Nat.lt_succ_iff_lt_or_eq.mp hi with hlt | rfl
      · rw [ih hlt]
        rfl
      · cases times i f s with
        | none => rfl
        | some s' => exact hbody s'

/-- A loop whose rounds succeed, with a body that does the same in such a round. -/
theorem times_agree {g : Nat → σ → Option σ} {s' : σ}
    (h : ∀ i < n, ∀ s s', f i s = some s' → g i s = some s') (htimes : times n f s = some s') :
    times n g s = some s' := by
  induction n generalizing s' with
  | zero => exact htimes
  | succ n ih =>
      rw [times_succ] at htimes ⊢
      obtain ⟨s₁, hfirst, hlast⟩ := Option.bind_eq_some_iff.mp htimes
      rw [ih (fun i hi => h i (Nat.lt_succ_of_lt hi)) hfirst]
      exact h n (Nat.lt_succ_self n) s₁ s' hlast

/-- Two loops, of which the second takes the steps of the first where that succeeds. -/
theorem times_map {τ : Type} {g : σ → τ} {k : Nat → τ → Option τ} {s' : σ}
    (hbody : ∀ i < n, ∀ s s', f i s = some s' → k i (g s) = some (g s'))
    (h : times n f s = some s') : times n k (g s) = some (g s') := by
  induction n generalizing s' with
  | zero =>
      cases h
      rfl
  | succ n ih =>
      rw [times_succ] at h ⊢
      obtain ⟨t, htimes, hstep⟩ := Option.bind_eq_some_iff.mp h
      rw [ih (fun i hi => hbody i (Nat.lt_succ_of_lt hi)) htimes, Option.bind_some]
      exact hbody n (Nat.lt_succ_self n) t s' hstep

/-- **Painting.**  What a state shows at coordinates is `look`; nested loops of which each round
paints one place paint a rectangle, and nothing else. -/
theorem times_paint {γ : Type} (look : σ → Nat → Nat → γ) (valid : σ → Prop)
    (inside : Nat → Nat → Prop) (left top width height : Nat) (color : Nat → Nat → γ)
    (body : Nat → Nat → σ → Option σ)
    (hbody : ∀ y < height, ∀ x < width, ∀ s, valid s → ∃ s', body y x s = some s' ∧ valid s' ∧
      ∀ u v, inside u v →
        look s' u v = if u = left + x ∧ v = top + y then color x y else look s u v)
    (hs : valid s) :
    ∃ s', times height (fun y => times width (body y)) s = some s' ∧ valid s' ∧
      ∀ u v, inside u v → look s' u v =
        if left ≤ u ∧ u < left + width ∧ top ≤ v ∧ v < top + height then
          color (u - left) (v - top)
        else look s u v := by
  -- the rows that are painted, and then the places of the next row
  have hrows := times_ok (n := height) (s := s) (f := fun y => times width (body y))
    (I := fun rows s' => valid s' ∧ ∀ u v, inside u v → look s' u v =
      if left ≤ u ∧ u < left + width ∧ top ≤ v ∧ v < top + rows then color (u - left) (v - top)
      else look s u v)
  refine hrows (fun row hrow t ht => ?_) ⟨hs, fun u v _ => (if_neg (by omega)).symm⟩
  obtain ⟨t', htimes, hvalid, hlook⟩ := times_ok (n := width) (s := t) (f := body row)
    (I := fun columns s' => valid s' ∧ ∀ u v, inside u v → look s' u v =
      if (left ≤ u ∧ u < left + width ∧ top ≤ v ∧ v < top + row) ∨
          (left ≤ u ∧ u < left + columns ∧ v = top + row) then color (u - left) (v - top)
      else look s u v)
    (fun column hcolumn r hr => by
      obtain ⟨r', hround, hvalid, hlook⟩ := hbody row hrow column hcolumn r hr.1
      refine ⟨r', hround, hvalid, fun u v huv => ?_⟩
      rw [hlook u v huv, hr.2 u v huv]
      by_cases hsame : u = left + column ∧ v = top + row
      · obtain ⟨rfl, rfl⟩ := hsame
        rw [if_pos ⟨rfl, rfl⟩, if_pos (by omega), Nat.add_sub_cancel_left,
          Nat.add_sub_cancel_left]
      · rw [if_neg hsame]
        exact if_congr (by omega) rfl rfl)
    ⟨ht.1, fun u v huv => by
      rw [ht.2 u v huv]
      exact if_congr (by omega) rfl rfl⟩
  refine ⟨t', htimes, hvalid, fun u v huv => ?_⟩
  rw [hlook u v huv]
  exact if_congr (by omega) rfl rfl

end Loops

end AsterYggdrasil.Renderer
