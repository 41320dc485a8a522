import AsterYggdrasil.Relational.Table

/-!
# What one statement does to a table

An update, a deletion and an insert with a new primary key have one shape: every
row that was there is rewritten or removed, and whatever else is there afterwards
has a key that was never handed out before.  `Rewrites` is that shape.  From it
follow both directions that proofs about runs need: where a later row comes from,
and which rows are still there.
-/

namespace Relational.Table

variable {α : Type} {σ : Schema α} {R : α → α → Prop} {t t' : Table σ} {f : α → Option α}

/-- Each row `r` of `t` has become `f r`; all other rows of `t'` are new. -/
structure Rewrites (t t' : Table σ) (f : α → Option α) : Prop where
  seq : t.seq ≤ t'.seq
  origin : ∀ r' ∈ t'.rows, (∃ r ∈ t.rows, f r = some r') ∨ t.seq ≤ σ.ident r'
  kept : ∀ r ∈ t.rows, ∀ r', f r = some r' → r' ∈ t'.rows

namespace Rewrites

theorem refl (t : Table σ) : Rewrites t t some where
  seq := Nat.le_refl _
  origin r' hr' := Or.inl ⟨r', hr', rfl⟩
  kept r hr r' h := by
    cases h
    exact hr

theorem of_modify (p : α → Bool) (g : α → α) (h₁ h₂) :
    Rewrites t (t.modify p g h₁ h₂) fun r => some (if p r then g r else r) where
  seq := Nat.le_refl _
  origin r' hr' := by
    obtain ⟨r, hr, heq⟩ := List.mem_map.mp hr'
    exact Or.inl ⟨r, hr, congrArg some heq⟩
  kept r hr r' h := by
    cases h
    exact List.mem_map_of_mem hr

theorem of_delete (q : α → Prop) [DecidablePred q] :
    Rewrites t (t.delete fun r => q r) fun r => if q r then none else some r where
  seq := Nat.le_refl _
  origin r' hr' := by
    obtain ⟨hr, hq⟩ := List.mem_filter.mp hr'
    refine Or.inl ⟨r', hr, ?_⟩
    exact if_neg (by simpa using hq)
  kept r hr r' h := by
    by_cases hq : q r
    · rw [if_pos hq] at h
      cases h
    · rw [if_neg hq] at h
      cases h
      exact List.mem_filter.mpr ⟨hr, by simpa using hq⟩

/-- A key is drawn, and nothing inserted under it. -/
theorem of_nextId : Rewrites t t.nextId.2 some where
  seq := Nat.le_succ _
  origin r' hr' := Or.inl ⟨r', hr', rfl⟩
  kept r hr r' h := by
    cases h
    exact hr

/-- A key is drawn, and a row inserted under it. -/
theorem of_insert? {r : α} (hid : σ.ident r = t.seq)
    (h : t.nextId.2.insert? r = some t') : Rewrites t t' some := by
  obtain ⟨hrows, hseq, -, -⟩ := insert?_eq_some h
  refine ⟨?_, fun r' hr' => ?_, fun a ha r' heq => ?_⟩
  · rw [hseq, nextId_seq]
    exact Nat.le_succ _
  · rw [hrows] at hr'
    rcases List.mem_append.mp hr' with hold | hnew
    · exact Or.inl ⟨r', hold, rfl⟩
    · rw [List.mem_singleton.mp hnew]
      exact Or.inr (Nat.le_of_eq hid.symm)
  · cases heq
    rw [hrows]
    exact List.mem_append_left _ ha

/-- Rows that are rewritten along `R` evolve along it. -/
theorem evolves (h : Rewrites t t' f)
    (hf : ∀ r r', f r = some r' → σ.ident r = σ.ident r' ∧ R r r') :
    Evolves R t t' := by
  refine ⟨h.seq, fun r' hr' hlt => ?_⟩
  rcases h.origin r' hr' with ⟨r, hr, heq⟩ | hnew
  · exact ⟨r, hr, (hf r r' heq).1, (hf r r' heq).2⟩
  · omega

end Rewrites

/-! ## Keys that have been used up -/

/-- The key has been handed out, and its row satisfies `p` if it is still there. -/
def Spent (p : α → Prop) (n : Nat) (t : Table σ) : Prop :=
  n < t.seq ∧ ∀ r ∈ t.rows, σ.ident r = n → p r

variable {p : α → Prop} {n : Nat}

theorem spent_of_mem {r : α} (hr : r ∈ t.rows) (hp : p r) : t.Spent p (σ.ident r) := by
  refine ⟨t.fresh r hr, fun a ha hid => ?_⟩
  rwa [t.eq_of_ident ha hr hid]

theorem not_spent_of_mem {r : α} (hr : r ∈ t.rows) (hp : ¬ p r) :
    ¬ t.Spent p (σ.ident r) :=
  fun h => hp (h.2 r hr rfl)

/-- What evolution keeps is true of a key for ever: keys are not handed out twice. -/
theorem Spent.evolves (h : t.Spent p n) (hev : Evolves R t t')
    (hR : ∀ r r', R r r' → p r → p r') : t'.Spent p n := by
  refine ⟨Nat.lt_of_lt_of_le h.1 hev.seq, fun r' hr' hid => ?_⟩
  obtain ⟨r, hr, hid', hrel⟩ := hev.rows r' hr' (hid ▸ h.1)
  exact hR r r' hrel (h.2 r hr (hid'.trans hid))

end Relational.Table
