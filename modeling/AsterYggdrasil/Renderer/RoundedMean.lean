import Mathlib

/-!
# Rounded means

The quotient that is rounded to the nearest integer, and weighted means with it: the mean of
values with natural weights lies between the values whose weight is not zero, is the value
where all of these are equal, and does not depend on values of weight zero.
-/

namespace AsterYggdrasil.RoundedMean

/-- The quotient, rounded to the nearest integer; a half is rounded up. -/
def roundDiv (a b : Nat) : Nat := (a + b / 2) / b

/-- The weighted sum of the values. -/
def weighted {ι : Type} (w v : ι → Nat) (l : List ι) : Nat := (l.map fun i => v i * w i).sum

/-- The sum of the weights. -/
def weight {ι : Type} (w : ι → Nat) (l : List ι) : Nat := (l.map w).sum

/-- **The quotient is the nearest integer.** -/
theorem roundDiv_nearest {b : Nat} (a : Nat) (hb : 0 < b) :
    2 * (b * roundDiv a b) ≤ 2 * a + b ∧ 2 * a < 2 * (b * roundDiv a b) + b := by
  have hmod := Nat.mod_lt (a + b / 2) hb
  have hdiv := Nat.div_add_mod (a + b / 2) b
  unfold roundDiv
  omega

theorem le_roundDiv {a b v : Nat} (hb : 0 < b) (h : v * b ≤ a) : v ≤ roundDiv a b := by
  rw [roundDiv, Nat.le_div_iff_mul_le hb]
  exact Nat.le_trans h (Nat.le_add_right a (b / 2))

theorem roundDiv_le {a b v : Nat} (hb : 0 < b) (h : a ≤ v * b) : roundDiv a b ≤ v := by
  have hhalf : b / 2 < b := Nat.div_lt_self hb (by decide)
  apply Nat.le_of_lt_succ
  rw [roundDiv, Nat.div_lt_iff_lt_mul hb, Nat.succ_mul]
  omega

/-- A multiple is divided exactly. -/
theorem roundDiv_mul {b : Nat} (v : Nat) (hb : 0 < b) : roundDiv (v * b) b = v :=
  Nat.le_antisymm (roundDiv_le hb (Nat.le_refl _)) (le_roundDiv hb (Nat.le_refl _))

section Weights

variable {ι : Type} {w v : ι → Nat} {l : List ι}

@[simp] theorem weighted_nil : weighted w v [] = 0 := rfl

@[simp] theorem weight_nil : weight w [] = 0 := rfl

@[simp] theorem weighted_append (l l' : List ι) :
    weighted w v (l ++ l') = weighted w v l + weighted w v l' := by
  simp only [weighted, List.map_append, List.sum_append]

@[simp] theorem weight_append (l l' : List ι) :
    weight w (l ++ l') = weight w l + weight w l' := by
  simp only [weight, List.map_append, List.sum_append]

/-- A bound of the values with weight bounds the weighted sum. -/
theorem weighted_le {hi : Nat} (h : ∀ i ∈ l, w i ≠ 0 → v i ≤ hi) :
    weighted w v l ≤ hi * weight w l := by
  induction l with
  | nil => exact Nat.zero_le _
  | cons i l ih =>
      have hrest := ih fun j hj => h j (List.mem_cons_of_mem i hj)
      have hfirst : v i * w i ≤ hi * w i := by
        by_cases hzero : w i = 0
        · rw [hzero]
          exact Nat.zero_le _
        · exact Nat.mul_le_mul_right _ (h i List.mem_cons_self hzero)
      simp only [weighted, weight, List.map_cons, List.sum_cons] at hrest ⊢
      rw [Nat.mul_add]
      exact Nat.add_le_add hfirst hrest

theorem le_weighted {lo : Nat} (h : ∀ i ∈ l, w i ≠ 0 → lo ≤ v i) :
    lo * weight w l ≤ weighted w v l := by
  induction l with
  | nil => exact Nat.zero_le _
  | cons i l ih =>
      have hrest := ih fun j hj => h j (List.mem_cons_of_mem i hj)
      have hfirst : lo * w i ≤ v i * w i := by
        by_cases hzero : w i = 0
        · rw [hzero]
          exact Nat.zero_le _
        · exact Nat.mul_le_mul_right _ (h i List.mem_cons_self hzero)
      simp only [weighted, weight, List.map_cons, List.sum_cons] at hrest ⊢
      rw [Nat.mul_add]
      exact Nat.add_le_add hfirst hrest

/-- A bound of the weights bounds their sum. -/
theorem weight_le {hi : Nat} (h : ∀ i ∈ l, w i ≤ hi) : weight w l ≤ hi * l.length := by
  induction l with
  | nil => exact Nat.zero_le _
  | cons i l ih =>
      have hrest := ih fun j hj => h j (List.mem_cons_of_mem i hj)
      have hfirst := h i List.mem_cons_self
      simp only [weight, List.map_cons, List.sum_cons, List.length_cons] at hrest ⊢
      rw [Nat.mul_add]
      omega

/-- **The mean lies between the values with weight.** -/
theorem mean_le {hi : Nat} (hpos : 0 < weight w l) (h : ∀ i ∈ l, w i ≠ 0 → v i ≤ hi) :
    roundDiv (weighted w v l) (weight w l) ≤ hi := roundDiv_le hpos (weighted_le h)

theorem le_mean {n : Nat} (hpos : 0 < weight w l) (h : ∀ i ∈ l, w i ≠ 0 → n ≤ v i) :
    n ≤ roundDiv (weighted w v l) (weight w l) := le_roundDiv hpos (le_weighted h)

end Weights

end AsterYggdrasil.RoundedMean
