import Mathlib

/-!
# Walking a straight line on a grid

A walk from the origin to `(a, b)` keeps an error term and decides from its
double whether the next step goes across, up, or both.

Along the longer side it moves in every step (`Flat.next`); the error term then
stays in a window that is narrower than the longer side, and this pins down how
far the walk has come on the shorter one.  **After `max a b` steps, and not
before, it is at `(a, b)`** (`walk_onCourse`).
-/

namespace Raster

/-- How far a walk has come, and its error term. -/
@[ext] structure Walk where
  across : Nat
  up : Nat
  error : Int
  deriving DecidableEq, Repr

namespace Walk

def start (a b : Nat) : Walk := ⟨0, 0, a - b⟩

/-- Across unless the error is too low, up unless it is too high. -/
def next (a b : Nat) (w : Walk) : Walk where
  across := if -(b : Int) < 2 * w.error then w.across + 1 else w.across
  up := if 2 * w.error < a then w.up + 1 else w.up
  error :=
    let lowered := if -(b : Int) < 2 * w.error then w.error - b else w.error
    if 2 * w.error < a then lowered + a else lowered

/-- The same walk with its sides exchanged. -/
def swap (w : Walk) : Walk := ⟨w.up, w.across, -w.error⟩

/-- The walk of the mirrored line starts mirrored. -/
theorem swap_start (a b : Nat) : (start a b).swap = start b a := by
  simp [start, swap]

/-- And steps mirrored. -/
theorem swap_next (a b : Nat) (w : Walk) : (w.next a b).swap = w.swap.next b a := by
  ext
  · change (if 2 * w.error < (a : Int) then w.up + 1 else w.up) =
      if -(a : Int) < 2 * -w.error then w.up + 1 else w.up
    split_ifs <;> omega
  · change (if -(b : Int) < 2 * w.error then w.across + 1 else w.across) =
      if 2 * -w.error < (b : Int) then w.across + 1 else w.across
    split_ifs <;> omega
  · simp only [next, swap]
    split_ifs <;> omega

end Walk

/-- The walk after `k` steps. -/
def walk (a b : Nat) : Nat → Walk
  | 0 => Walk.start a b
  | k + 1 => (walk a b k).next a b

/-- So it is the mirrored walk. -/
theorem swap_walk (a b k : Nat) : (walk a b k).swap = walk b a k := by
  induction k with
  | zero => exact Walk.swap_start a b
  | succ k ih => rw [walk, walk, Walk.swap_next, ih]

/-! ## The longer side -/

/-- A walk that is not steep, after `k` steps: it went across every time, and
the error is in a window narrower than `2 * a`. -/
structure Flat (a b k : Nat) (w : Walk) : Prop where
  across : w.across = k
  error : w.error = a - b - k * b + w.up * a
  low : -(b : Int) < 2 * w.error
  high : 2 * w.error < 3 * a - 2 * b

variable {a b k : Nat} {w : Walk}

/-- A flat line is on its course at the start. -/
theorem Flat.start (hflat : b ≤ a) (hlong : 0 < a) : Flat a b 0 (Walk.start a b) where
  across := rfl
  error := by simp [Walk.start]
  low := by
    have hpos : (0 : Int) < a := by omega
    change -(b : Int) < 2 * ((a : Int) - b)
    omega
  high := by
    change 2 * ((a : Int) - b) < 3 * a - 2 * b
    omega

/-- **A flat walk goes across in every step.** -/
theorem Flat.next (hflat : b ≤ a) (h : Flat a b k w) : Flat a b (k + 1) (w.next a b) := by
  have hlow := h.low
  have hhigh := h.high
  have herror := h.error
  have hacross : (w.next a b).across = k + 1 := by
    change (if -(b : Int) < 2 * w.error then w.across + 1 else w.across) = k + 1
    rw [if_pos hlow, h.across]
  by_cases hup : 2 * w.error < (a : Int)
  · have hnext : w.next a b = ⟨w.across + 1, w.up + 1, w.error - b + a⟩ := by
      simp only [Walk.next, if_pos hlow, if_pos hup]
    rw [hnext] at hacross ⊢
    refine ⟨hacross, ?_, ?_, ?_⟩
    · push_cast
      linarith
    · change -(b : Int) < 2 * (w.error - b + a)
      omega
    · change 2 * (w.error - b + a) < 3 * (a : Int) - 2 * b
      omega
  · have hnext : w.next a b = ⟨w.across + 1, w.up, w.error - b⟩ := by
      simp only [Walk.next, if_pos hlow, if_neg hup]
    rw [hnext] at hacross ⊢
    refine ⟨hacross, ?_, ?_, ?_⟩
    · push_cast
      linarith
    · change -(b : Int) < 2 * (w.error - b)
      omega
    · change 2 * (w.error - b) < 3 * (a : Int) - 2 * b
      omega

/-- The window leaves room for one height at the end of the longer side, and
for none above it before. -/
theorem Flat.up_le (h : Flat a b k w) (hk : k ≤ a) : w.up ≤ b := by
  have herror := h.error
  have hhigh := h.high
  have hkb : (k : Int) * b ≤ a * b := by
    exact_mod_cast Nat.mul_le_mul_right b hk
  by_contra hmore
  have hup : ((b : Int) + 1) * a ≤ w.up * a := by
    exact_mod_cast Nat.mul_le_mul_right a (by omega : b + 1 ≤ w.up)
  have hab : (a : Int) * b = b * a := Int.mul_comm ..
  have hexpand : ((b : Int) + 1) * a = b * a + a := by ring
  omega

/-- At the end it has climbed all the way. -/
theorem Flat.le_up (h : Flat a b a w) : b ≤ w.up := by
  have herror := h.error
  have hlow := h.low
  by_contra hless
  have hup : ((w.up : Int) + 1) * a ≤ b * a := by
    exact_mod_cast Nat.mul_le_mul_right a (by omega : w.up + 1 ≤ b)
  have hab : (a : Int) * b = b * a := Int.mul_comm ..
  have hexpand : ((w.up : Int) + 1) * a = w.up * a + a := by ring
  omega

/-- In between it stays on its course, step by step. -/
theorem flat_walk (hflat : b ≤ a) (hlong : 0 < a) (k : Nat) : Flat a b k (walk a b k) := by
  induction k with
  | zero => exact Flat.start hflat hlong
  | succ k ih => exact ih.next hflat

/-! ## Any line -/

/-- What is known of a walk after `k` steps. -/
structure OnCourse (a b k : Nat) (w : Walk) : Prop where
  across_le : w.across ≤ a
  up_le : w.up ≤ b
  arrived : w.across = a ∧ w.up = b ↔ k = max a b
  error_le : 2 * w.error ≤ 3 * max a b
  le_error : -(3 * max a b : Int) ≤ 2 * w.error

/-- A mirrored walk is on the mirrored course. -/
theorem OnCourse.swap (h : OnCourse a b k w) : OnCourse b a k w.swap where
  across_le := h.up_le
  up_le := h.across_le
  arrived := by
    rw [Nat.max_comm, ← h.arrived]
    exact And.comm
  error_le := by
    have hle := h.le_error
    rw [max_comm]
    change 2 * -w.error ≤ _
    omega
  le_error := by
    have hle := h.error_le
    rw [max_comm]
    change _ ≤ 2 * -w.error
    omega

/-- A flat walk is on course until its end. -/
theorem onCourse_flat (hflat : b ≤ a) (hk : k ≤ a) : OnCourse a b k (walk a b k) := by
  by_cases hlong : 0 < a
  · have h := flat_walk hflat hlong k
    have hlow := h.low
    have hhigh := h.high
    have hup := h.up_le hk
    refine ⟨by rw [h.across]; exact hk, hup, ?_, by omega, by omega⟩
    rw [Nat.max_eq_left hflat, h.across]
    constructor
    · intro hboth
      exact hboth.1
    · rintro rfl
      exact ⟨rfl, Nat.le_antisymm hup h.le_up⟩
  · have ha : a = 0 := by omega
    have hb : b = 0 := by omega
    have hzero : k = 0 := by omega
    subst ha hb hzero
    exact ⟨Nat.le_refl _, Nat.le_refl _, by decide, by decide, by decide⟩

/-- **A walk stays in the rectangle, and arrives after `max a b` steps and not
before.** -/
theorem walk_onCourse (hk : k ≤ max a b) : OnCourse a b k (walk a b k) := by
  by_cases hflat : b ≤ a
  · rw [Nat.max_eq_left hflat] at hk
    exact onCourse_flat hflat hk
  · rw [Nat.max_eq_right (by omega)] at hk
    have h := (onCourse_flat (by omega : a ≤ b) hk).swap
    rwa [swap_walk] at h

/-! ## Towards a point -/

/-- `n` steps from `p` towards `q`. -/
def along (p q : Int) (n : Nat) : Int := p + (if p < q then 1 else -1) * n

section Along

variable {p q : Int} {m n : Nat}

/-- A coordinate that grows. -/
theorem along_of_lt (h : p < q) (n : Nat) : along p q n = p + n := by
  rw [along, if_pos h, one_mul]

/-- A coordinate that does not. -/
theorem along_of_le (h : q ≤ p) (n : Nat) : along p q n = p - n := by
  rw [along, if_neg (by omega)]
  ring

/-- It reaches its end after as many steps as it is away. -/
theorem along_eq_iff (hn : n ≤ (q - p).natAbs) : along p q n = q ↔ n = (q - p).natAbs := by
  by_cases h : p < q
  · rw [along_of_lt h]
    omega
  · rw [along_of_le (by omega)]
    omega

/-- Going on leads to a place between here and there. -/
theorem along_mem (hm : m ≤ n) (hn : n ≤ (q - p).natAbs) :
    along p q n ∈ Set.uIcc (along p q m) q := by
  by_cases h : p < q
  · rw [along_of_lt h, along_of_lt h, Set.uIcc_of_le (by omega)]
    exact ⟨by omega, by omega⟩
  · rw [along_of_le (by omega), along_of_le (by omega), Set.uIcc_of_ge (by omega)]
    exact ⟨by omega, by omega⟩

/-- Until then it stays between its ends. -/
theorem along_mem_box (hn : n ≤ (q - p).natAbs) : along p q n ∈ Set.uIcc p q := by
  have h := along_mem (Nat.zero_le n) hn
  rwa [show along p q 0 = p by simp [along]] at h

/-- One step moves it by one at most. -/
theorem along_step (hm : m ≤ n) (hn : n ≤ m + 1) : |along p q n - along p q m| ≤ 1 := by
  rw [abs_le]
  by_cases h : p < q
  · rw [along_of_lt h, along_of_lt h]
    omega
  · rw [along_of_le (by omega), along_of_le (by omega)]
    omega

end Along

/-- From one pixel to a neighbour that is no farther from `q`, on either axis. -/
structure StepTowards (q r r' : Int × Int) : Prop where
  stepX : |r'.1 - r.1| ≤ 1
  stepY : |r'.2 - r.2| ≤ 1
  towardsX : r'.1 ∈ Set.uIcc r.1 q.1
  towardsY : r'.2 ∈ Set.uIcc r.2 q.2

/-- A line from `p` to `q` without gaps and without detours. -/
structure IsLine (p q : Int × Int) (pixels : List (Int × Int)) : Prop where
  length : pixels.length = max (q.1 - p.1).natAbs (q.2 - p.2).natAbs + 1
  head : pixels.head? = some p
  last : pixels.getLast? = some q
  steps : pixels.IsChain (StepTowards q)
  box : ∀ r ∈ pixels, r.1 ∈ Set.uIcc p.1 q.1 ∧ r.2 ∈ Set.uIcc p.2 q.2

/-- The pixel after `k` steps. -/
def lineAt (p q : Int × Int) (k : Nat) : Int × Int :=
  let w := walk (q.1 - p.1).natAbs (q.2 - p.2).natAbs k
  (along p.1 q.1 w.across, along p.2 q.2 w.up)

/-- The pixels of the walk from `p` to `q`. -/
def linePixels (p q : Int × Int) : List (Int × Int) :=
  (List.range (max (q.1 - p.1).natAbs (q.2 - p.2).natAbs + 1)).map (lineAt p q)

/-- One step goes one place across at most. -/
theorem Walk.across_next (a b : Nat) (w : Walk) :
    w.across ≤ (w.next a b).across ∧ (w.next a b).across ≤ w.across + 1 := by
  have hnext : (w.next a b).across = if -(b : Int) < 2 * w.error then w.across + 1 else w.across :=
    rfl
  rw [hnext]
  split_ifs <;> omega

/-- And one place up at most. -/
theorem Walk.up_next (a b : Nat) (w : Walk) :
    w.up ≤ (w.next a b).up ∧ (w.next a b).up ≤ w.up + 1 := by
  have hnext : (w.next a b).up = if 2 * w.error < (a : Int) then w.up + 1 else w.up := rfl
  rw [hnext]
  split_ifs <;> omega

/-- **Each step** of the line goes towards its end. -/
theorem stepTowards_lineAt {p q : Int × Int} {k : Nat}
    (hk : k + 1 ≤ max (q.1 - p.1).natAbs (q.2 - p.2).natAbs) :
    StepTowards q (lineAt p q k) (lineAt p q (k + 1)) := by
  have hnext := walk_onCourse hk
  have hacross := Walk.across_next (q.1 - p.1).natAbs (q.2 - p.2).natAbs
    (walk (q.1 - p.1).natAbs (q.2 - p.2).natAbs k)
  have hup := Walk.up_next (q.1 - p.1).natAbs (q.2 - p.2).natAbs
    (walk (q.1 - p.1).natAbs (q.2 - p.2).natAbs k)
  exact ⟨along_step hacross.1 hacross.2, along_step hup.1 hup.2,
    along_mem hacross.1 hnext.across_le, along_mem hup.1 hnext.up_le⟩

/-- The walk is at `q` at its end, and not before. -/
theorem lineAt_eq_iff {p q : Int × Int} {k : Nat}
    (hk : k ≤ max (q.1 - p.1).natAbs (q.2 - p.2).natAbs) :
    lineAt p q k = q ↔ k = max (q.1 - p.1).natAbs (q.2 - p.2).natAbs := by
  have h := walk_onCourse hk
  rw [← h.arrived, lineAt, Prod.ext_iff]
  exact and_congr (along_eq_iff h.across_le) (along_eq_iff h.up_le)

/-- **The walk draws a line.** -/
theorem isLine_linePixels (p q : Int × Int) : IsLine p q (linePixels p q) where
  length := by rw [linePixels, List.length_map, List.length_range]
  head := by
    have hfirst : lineAt p q 0 = p := by simp [lineAt, walk, Walk.start, along]
    rw [linePixels, List.range_succ_eq_map, List.map_cons, List.head?_cons, hfirst]
  last := by
    rw [linePixels, List.range_succ, List.map_append, List.map_singleton,
      List.getLast?_concat, (lineAt_eq_iff (Nat.le_refl _)).mpr rfl]
  steps := by
    rw [linePixels, List.isChain_map]
    refine (List.isChain_range_succ _ _).mpr fun k hk => ?_
    exact stepTowards_lineAt hk
  box := by
    intro r hr
    obtain ⟨k, hk, rfl⟩ := List.mem_map.mp hr
    have h := walk_onCourse (Nat.le_of_lt_succ (List.mem_range.mp hk))
    exact ⟨along_mem_box h.across_le, along_mem_box h.up_le⟩

end Raster
