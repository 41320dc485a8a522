import AsterYggdrasil.Renderer.Checked

/-!
# Painting rectangles

A painting gives the places of a rectangle their colors.  What is shown after some paintings is
what the last one that has a place shows there (`overpaint`), so that the order of paintings
whose rectangles are apart does not matter (`overpaint_of_mem`).

An operation on any state paints (`Paints`), if it succeeds and changes what the state shows in
this way.  Sequences and loops of operations that paint do so, too.
-/

namespace AsterYggdrasil.Painting

open Renderer

/-- A rectangle of places. -/
structure Rect where
  x : Nat
  y : Nat
  width : Nat
  height : Nat
  deriving DecidableEq, Repr

namespace Rect

def Contains (r : Rect) (u v : Nat) : Prop :=
  r.x ≤ u ∧ u < r.x + r.width ∧ r.y ≤ v ∧ v < r.y + r.height

/-- One is beside, above or below the other. -/
def Apart (r s : Rect) : Prop :=
  r.x + r.width ≤ s.x ∨ s.x + s.width ≤ r.x ∨ r.y + r.height ≤ s.y ∨ s.y + s.height ≤ r.y

def Within (r s : Rect) : Prop :=
  s.x ≤ r.x ∧ r.x + r.width ≤ s.x + s.width ∧ s.y ≤ r.y ∧ r.y + r.height ≤ s.y + s.height

instance (r : Rect) (u v : Nat) : Decidable (r.Contains u v) :=
  inferInstanceAs (Decidable (_ ∧ _ ∧ _ ∧ _))

instance (r s : Rect) : Decidable (r.Apart s) :=
  inferInstanceAs (Decidable (_ ∨ _ ∨ _ ∨ _))

instance (r s : Rect) : Decidable (r.Within s) :=
  inferInstanceAs (Decidable (_ ∧ _ ∧ _ ∧ _))

/-- All lengths are multiplied. -/
def scale (k : Nat) (r : Rect) : Rect := ⟨r.x * k, r.y * k, r.width * k, r.height * k⟩

section

variable {r s : Rect} {u v k : Nat}

theorem Apart.not_contains (h : r.Apart s) (hr : r.Contains u v) : ¬s.Contains u v := by
  unfold Apart at h
  unfold Contains at hr ⊢
  omega

theorem Within.contains (h : r.Within s) (hr : r.Contains u v) : s.Contains u v := by
  unfold Within at h
  unfold Contains at hr ⊢
  omega

theorem Within.trans {t : Rect} (h : r.Within s) (h' : s.Within t) : r.Within t := by
  unfold Within at h h' ⊢
  omega

theorem Apart.scale (h : r.Apart s) (k : Nat) : (r.scale k).Apart (s.scale k) := by
  have hmul : ∀ {a b c : Nat}, a + b ≤ c → a * k + b * k ≤ c * k := by
    intro a b c hle
    rw [← Nat.add_mul]
    exact Nat.mul_le_mul_right k hle
  rcases h with h | h | h | h
  · exact Or.inl (hmul h)
  · exact Or.inr (Or.inl (hmul h))
  · exact Or.inr (Or.inr (Or.inl (hmul h)))
  · exact Or.inr (Or.inr (Or.inr (hmul h)))

theorem Within.scale (h : r.Within s) (k : Nat) : (r.scale k).Within (s.scale k) := by
  obtain ⟨hleft, hright, htop, hbottom⟩ := h
  refine ⟨Nat.mul_le_mul_right k hleft, ?_, Nat.mul_le_mul_right k htop, ?_⟩
  · simp only [Rect.scale, ← Nat.add_mul]
    exact Nat.mul_le_mul_right k hright
  · simp only [Rect.scale, ← Nat.add_mul]
    exact Nat.mul_le_mul_right k hbottom

end

end Rect

/-- A rectangle and the colors of its places, which are counted from its corner. -/
structure Paint (γ : Type) where
  rect : Rect
  color : Nat → Nat → γ

section Overpaint

variable {γ : Type} {paint : Paint γ} {paints paints' : List (Paint γ)}
  {look look' : Nat → Nat → γ} {u v : Nat}

/-- What is shown after a painting. -/
def Paint.on (paint : Paint γ) (look : Nat → Nat → γ) (u v : Nat) : γ :=
  if paint.rect.Contains u v then paint.color (u - paint.rect.x) (v - paint.rect.y) else look u v

/-- What is shown after some paintings. -/
def overpaint : List (Paint γ) → (Nat → Nat → γ) → Nat → Nat → γ
  | [], look => look
  | paint :: paints, look => overpaint paints (paint.on look)

theorem overpaint_append :
    overpaint (paints ++ paints') look = overpaint paints' (overpaint paints look) := by
  induction paints generalizing look with
  | nil => rfl
  | cons paint paints ih => exact ih

/-- What was shown at other places does not matter. -/
theorem overpaint_congr (h : look u v = look' u v) :
    overpaint paints look u v = overpaint paints look' u v := by
  induction paints generalizing look look' with
  | nil => exact h
  | cons paint paints ih =>
      apply ih
      rw [Paint.on, Paint.on, h]

/-- **Frame.**  Places outside of all rectangles show what they did. -/
theorem overpaint_of_not_contains (h : ∀ p ∈ paints, ¬p.rect.Contains u v)
    (look : Nat → Nat → γ) : overpaint paints look u v = look u v := by
  induction paints generalizing look with
  | nil => rfl
  | cons paint paints ih =>
      have hpaint : ¬paint.rect.Contains u v := h paint List.mem_cons_self
      have hrest := ih (fun p hp => h p (List.mem_cons_of_mem _ hp)) (paint.on look)
      calc overpaint paints (paint.on look) u v = paint.on look u v := hrest
        _ = look u v := if_neg hpaint

/-- **Paintings that are apart** all remain. -/
theorem overpaint_of_mem (hapart : paints.Pairwise fun p q => p.rect.Apart q.rect)
    (hp : paint ∈ paints) (h : paint.rect.Contains u v) :
    overpaint paints look u v = paint.color (u - paint.rect.x) (v - paint.rect.y) := by
  induction paints generalizing look with
  | nil => cases hp
  | cons first paints ih =>
      obtain ⟨hfirst, hrest⟩ := List.pairwise_cons.mp hapart
      rcases List.mem_cons.mp hp with rfl | hmem
      · have hothers : ∀ q ∈ paints, ¬q.rect.Contains u v := fun q hq =>
          (hfirst q hq).not_contains h
        calc overpaint paints (paint.on look) u v = paint.on look u v :=
              overpaint_of_not_contains hothers _
          _ = paint.color (u - paint.rect.x) (v - paint.rect.y) := if_pos h
      · exact ih hrest hmem

end Overpaint

/-! ## Operations that paint -/

section Paints

variable {σ γ : Type}

/-- A state that shows something at the places inside of some range. -/
structure View (σ γ : Type) where
  look : σ → Nat → Nat → γ
  valid : σ → Prop
  inside : Nat → Nat → Prop

/-- The operation succeeds, and changes what is shown by paintings. -/
def Paints (view : View σ γ) (operation : σ → Option σ) (paints : List (Paint γ)) : Prop :=
  ∀ s, view.valid s → ∃ s', operation s = some s' ∧ view.valid s' ∧
    ∀ u v, view.inside u v → view.look s' u v = overpaint paints (view.look s) u v

variable {view : View σ γ} {operation operation' : σ → Option σ} {paints paints' : List (Paint γ)}

theorem paints_some : Paints view some [] := fun s hs => ⟨s, rfl, hs, fun _ _ _ => rfl⟩

/-- **One after the other.** -/
theorem Paints.bind (h : Paints view operation paints) (h' : Paints view operation' paints') :
    Paints view (fun s => (operation s).bind operation') (paints ++ paints') := by
  intro s hs
  obtain ⟨t, hfirst, ht, hlook⟩ := h s hs
  obtain ⟨t', hsecond, ht', hlook'⟩ := h' t ht
  refine ⟨t', ?_, ht', fun u v huv => ?_⟩
  · show (operation s).bind operation' = some t'
    rw [hfirst, Option.bind_some, hsecond]
  · rw [hlook' u v huv, overpaint_append]
    exact overpaint_congr (hlook u v huv)

/-- **A loop over a list.** -/
theorem paints_foldlM {ι : Type} {body : σ → ι → Option σ} {painted : ι → List (Paint γ)}
    {items : List ι} (h : ∀ i ∈ items, Paints view (fun s => body s i) (painted i)) :
    Paints view (fun s => items.foldlM body s) (items.flatMap painted) := by
  induction items with
  | nil => exact paints_some
  | cons i items ih =>
      have hfirst := h i List.mem_cons_self
      have hrest := ih fun j hj => h j (List.mem_cons_of_mem i hj)
      exact hfirst.bind hrest

/-- **A rectangle.**  Two nested loops of which each round sets one place. -/
theorem paints_rect {rect : Rect} {color : Nat → Nat → γ} {body : Nat → Nat → σ → Option σ}
    (hbody : ∀ y < rect.height, ∀ x < rect.width, ∀ s, view.valid s →
      ∃ s', body y x s = some s' ∧ view.valid s' ∧ ∀ u v, view.inside u v →
        view.look s' u v =
          if u = rect.x + x ∧ v = rect.y + y then color x y else view.look s u v) :
    Paints view (times rect.height fun y => times rect.width (body y)) [⟨rect, color⟩] :=
  fun _ hs => times_paint view.look view.valid view.inside rect.x rect.y rect.width rect.height
    color body hbody hs

end Paints

end AsterYggdrasil.Painting
