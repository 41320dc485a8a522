import Mathlib.Data.List.Basic

/-!
# Tables with unique keys

A `Table` is a list of rows together with the two facts its database keeps for
it: no two rows clash on a unique key, and every primary key was handed out by
the table's own sequence, so a key that was once used never comes back.  An
insert or an update that would break a unique key is refused; there is no way
to build a table that violates one.
-/

namespace Relational

/-- The keys of a table: the primary key, and when two rows may not stand in
the table together. -/
structure Schema (α : Type) where
  ident : α → Nat
  clash : α → α → Bool
  clash_symm : ∀ a b, clash a b = clash b a
  clash_of_ident : ∀ a b, ident a = ident b → clash a b = true

/-- The rows of a table and its primary-key sequence. -/
structure Table {α : Type} (σ : Schema α) where
  rows : List α
  seq : Nat
  unique : rows.Pairwise fun a b => σ.clash a b = false
  fresh : ∀ r ∈ rows, σ.ident r < seq

namespace Table

variable {α : Type} {σ : Schema α}

/-- The table without rows. -/
def empty : Table σ := ⟨[], 1, List.Pairwise.nil, by simp⟩

/-- The first row that satisfies `p`. -/
def find? (t : Table σ) (p : α → Bool) : Option α := t.rows.find? p

/-- All rows that satisfy `p`. -/
def select (t : Table σ) (p : α → Bool) : List α := t.rows.filter p

/-- Draw the next primary key. -/
def nextId (t : Table σ) : Nat × Table σ :=
  (t.seq, { t with
    seq := t.seq + 1
    fresh := fun r hr => Nat.lt_succ_of_lt (t.fresh r hr) })

/-- Insert a row whose primary key has been drawn; a clash refuses it. -/
def insert? (t : Table σ) (r : α) : Option (Table σ) :=
  if h : (∀ a ∈ t.rows, σ.clash a r = false) ∧ σ.ident r < t.seq then
    some { t with
      rows := t.rows ++ [r]
      unique := by
        rw [List.pairwise_append]
        refine ⟨t.unique, List.pairwise_singleton _ _, fun a ha b hb => ?_⟩
        rw [List.mem_singleton.mp hb]
        exact h.1 a ha
      fresh := by
        intro a ha
        rcases List.mem_append.mp ha with ha | ha
        · exact t.fresh a ha
        · rw [List.mem_singleton.mp ha]
          exact h.2 }
  else none

/-- Update columns outside of every key, in the rows that satisfy `p`. -/
def modify (t : Table σ) (p : α → Bool) (f : α → α)
    (hident : ∀ a, σ.ident (f a) = σ.ident a)
    (hclash : ∀ a b, σ.clash (f a) b = σ.clash a b) : Table σ where
  rows := t.rows.map fun r => if p r then f r else r
  seq := t.seq
  unique := by
    rw [List.pairwise_map]
    refine t.unique.imp fun {a b} hab => ?_
    have hclash' : ∀ a b, σ.clash a (f b) = σ.clash a b := fun a b => by
      rw [σ.clash_symm, hclash, σ.clash_symm]
    split <;> split <;> simp [hclash, hclash', hab]
  fresh := by
    intro r hr
    obtain ⟨a, ha, rfl⟩ := List.mem_map.mp hr
    split
    · rw [hident]
      exact t.fresh a ha
    · exact t.fresh a ha

/-- Update the rows that satisfy `p` in a way that can only free keys. -/
def release (t : Table σ) (p : α → Bool) (f : α → α)
    (hident : ∀ a, σ.ident (f a) = σ.ident a)
    (hclash : ∀ a b, σ.clash a b = false → σ.clash (f a) b = false) : Table σ where
  rows := t.rows.map fun r => if p r then f r else r
  seq := t.seq
  unique := by
    rw [List.pairwise_map]
    refine t.unique.imp fun {a b} hab => ?_
    have hright : ∀ a b, σ.clash a b = false → σ.clash a (f b) = false := fun a b h => by
      rw [σ.clash_symm]
      exact hclash b a (σ.clash_symm a b ▸ h)
    split <;> split
    · exact hclash _ _ (hright _ _ hab)
    · exact hclash _ _ hab
    · exact hright _ _ hab
    · exact hab
  fresh := by
    intro r hr
    obtain ⟨a, ha, rfl⟩ := List.mem_map.mp hr
    split
    · rw [hident]
      exact t.fresh a ha
    · exact t.fresh a ha

/-- Update rows that satisfy `p` in columns that may belong to a key; a clash
refuses the whole update. -/
def update? (t : Table σ) (p : α → Bool) (f : α → α)
    (hident : ∀ a, σ.ident (f a) = σ.ident a) : Option (Table σ) :=
  let rows := t.rows.map fun r => if p r then f r else r
  if h : rows.Pairwise fun a b => σ.clash a b = false then
    some
      { rows := rows
        seq := t.seq
        unique := h
        fresh := by
          intro r hr
          obtain ⟨a, ha, rfl⟩ := List.mem_map.mp hr
          split
          · rw [hident]
            exact t.fresh a ha
          · exact t.fresh a ha }
  else none

/-- Delete the rows that satisfy `p`. -/
def delete (t : Table σ) (p : α → Bool) : Table σ where
  rows := t.rows.filter fun r => !p r
  seq := t.seq
  unique := t.unique.filter _
  fresh := fun r hr => t.fresh r (List.mem_filter.mp hr).1

/-! ## What each operation does to the rows -/

/-- Two rows that clash are one row. -/
theorem eq_of_clash (t : Table σ) {a b : α} (ha : a ∈ t.rows) (hb : b ∈ t.rows)
    (h : σ.clash a b = true) : a = b := by
  by_contra hne
  obtain ⟨i, hi, rfl⟩ := List.getElem_of_mem ha
  obtain ⟨j, hj, rfl⟩ := List.getElem_of_mem hb
  have hpair := List.pairwise_iff_getElem.mp t.unique
  rcases Nat.lt_trichotomy i j with hlt | heq | hgt
  · simp [hpair i j hi hj hlt] at h
  · subst heq; exact hne rfl
  · rw [σ.clash_symm, hpair j i hj hi hgt] at h
    cases h

/-- Two rows with one primary key are one row. -/
theorem eq_of_ident (t : Table σ) {a b : α} (ha : a ∈ t.rows) (hb : b ∈ t.rows)
    (h : σ.ident a = σ.ident b) : a = b :=
  t.eq_of_clash ha hb (σ.clash_of_ident a b h)

theorem find?_eq_none {t : Table σ} {p : α → Bool} :
    t.find? p = none ↔ ∀ r ∈ t.rows, p r = false := by
  simp [find?, List.find?_eq_none]

theorem of_find? {t : Table σ} {p : α → Bool} {r : α} (h : t.find? p = some r) :
    r ∈ t.rows ∧ p r = true :=
  ⟨List.mem_of_find?_eq_some h, List.find?_some h⟩

@[simp] theorem mem_select {t : Table σ} {p : α → Bool} {r : α} :
    r ∈ t.select p ↔ r ∈ t.rows ∧ p r = true := by
  simp [select]

/-- A condition that only clashing rows share selects at most one row. -/
theorem length_select_le_one (t : Table σ) {p : α → Bool}
    (h : ∀ a b, p a = true → p b = true → σ.clash a b = true) :
    (t.select p).length ≤ 1 := by
  have hpair : (t.select p).Pairwise fun a b => σ.clash a b = false := t.unique.filter p
  match hrows : t.select p with
  | [] => exact Nat.zero_le 1
  | [_] => exact Nat.le_refl 1
  | a :: b :: rest =>
      have ha : a ∈ t.select p := by simp [hrows]
      have hb : b ∈ t.select p := by simp [hrows]
      have hclash := h a b (mem_select.mp ha).2 (mem_select.mp hb).2
      rw [hrows] at hpair
      have hfree := (List.pairwise_cons.mp hpair).1 b (List.mem_cons_self ..)
      rw [hclash] at hfree
      cases hfree

/-- An update gives a property to no more rows than it changes. -/
theorem countP_update_le (t : Table σ) (p q : α → Bool) (f : α → α) :
    (t.rows.map fun r => if p r then f r else r).countP q ≤
      t.rows.countP q + (t.select p).length := by
  rw [select]
  induction t.rows with
  | nil => exact Nat.le_refl 0
  | cons r rows ih =>
      simp only [List.map_cons, List.countP_cons, List.filter_cons]
      by_cases hr : p r = true
      · simp only [hr, if_true, List.length_cons]
        have hnew : (if q (f r) = true then 1 else 0) ≤ 1 := by split <;> omega
        omega
      · rw [if_neg hr, if_neg hr]
        omega

@[simp] theorem nextId_fst (t : Table σ) : t.nextId.1 = t.seq := rfl
@[simp] theorem nextId_rows (t : Table σ) : t.nextId.2.rows = t.rows := rfl
@[simp] theorem nextId_seq (t : Table σ) : t.nextId.2.seq = t.seq + 1 := rfl

theorem insert?_eq_some {t t' : Table σ} {r : α} (h : t.insert? r = some t') :
    t'.rows = t.rows ++ [r] ∧ t'.seq = t.seq ∧ σ.ident r < t.seq ∧
      ∀ a ∈ t.rows, σ.clash a r = false := by
  unfold insert? at h
  split at h
  · next hr => cases h; exact ⟨rfl, rfl, hr.2, hr.1⟩
  · cases h

/-- A row that clashes with none goes in. -/
theorem exists_insert? {t : Table σ} {r : α} (hclash : ∀ a ∈ t.rows, σ.clash a r = false)
    (hident : σ.ident r < t.seq) : ∃ t', t.insert? r = some t' := by
  unfold insert?
  rw [dif_pos ⟨hclash, hident⟩]
  exact ⟨_, rfl⟩

@[simp] theorem modify_rows (t : Table σ) (p : α → Bool) (f : α → α) (h₁ h₂) :
    (t.modify p f h₁ h₂).rows = t.rows.map fun r => if p r then f r else r := rfl
@[simp] theorem modify_seq (t : Table σ) (p : α → Bool) (f : α → α) (h₁ h₂) :
    (t.modify p f h₁ h₂).seq = t.seq := rfl

@[simp] theorem release_rows (t : Table σ) (p : α → Bool) (f : α → α) (h₁ h₂) :
    (t.release p f h₁ h₂).rows = t.rows.map fun r => if p r then f r else r := rfl
@[simp] theorem release_seq (t : Table σ) (p : α → Bool) (f : α → α) (h₁ h₂) :
    (t.release p f h₁ h₂).seq = t.seq := rfl

/-- An update that leaves no two rows in each other's way is accepted. -/
theorem exists_update? {t : Table σ} {p : α → Bool} {f : α → α}
    (hf : ∀ a, σ.ident (f a) = σ.ident a)
    (h : (t.rows.map fun r => if p r then f r else r).Pairwise
      fun a b => σ.clash a b = false) : ∃ t', t.update? p f hf = some t' := by
  unfold update?
  rw [dif_pos h]
  exact ⟨_, rfl⟩

theorem update?_eq_some {t t' : Table σ} {p : α → Bool} {f : α → α} {hf}
    (h : t.update? p f hf = some t') :
    t'.rows = (t.rows.map fun r => if p r then f r else r) ∧ t'.seq = t.seq := by
  unfold update? at h
  simp only at h
  split at h
  · cases h; exact ⟨rfl, rfl⟩
  · cases h

@[simp] theorem delete_rows (t : Table σ) (p : α → Bool) :
    (t.delete p).rows = t.rows.filter fun r => !p r := rfl
@[simp] theorem delete_seq (t : Table σ) (p : α → Bool) :
    (t.delete p).seq = t.seq := rfl

/-! ## How rows evolve -/

variable {R : α → α → Prop}

/-- A row that may have been in `t` was in `t`, and has moved along `R`; a row
that was not has a new primary key. -/
structure Evolves (R : α → α → Prop) (t t' : Table σ) : Prop where
  seq : t.seq ≤ t'.seq
  rows : ∀ r' ∈ t'.rows, σ.ident r' < t.seq →
    ∃ r ∈ t.rows, σ.ident r = σ.ident r' ∧ R r r'

namespace Evolves

theorem refl (hR : ∀ r, R r r) (t : Table σ) : Evolves R t t :=
  ⟨Nat.le_refl _, fun r hr _ => ⟨r, hr, rfl, hR r⟩⟩

theorem trans (hR : ∀ a b c, R a b → R b c → R a c) {t t' t'' : Table σ}
    (h : Evolves R t t') (h' : Evolves R t' t'') : Evolves R t t'' := by
  refine ⟨Nat.le_trans h.seq h'.seq, fun r'' hr'' hlt => ?_⟩
  obtain ⟨r', hr', hid', hrel'⟩ := h'.rows r'' hr'' (Nat.lt_of_lt_of_le hlt h.seq)
  obtain ⟨r, hr, hid, hrel⟩ := h.rows r' hr' (hid' ▸ hlt)
  exact ⟨r, hr, hid.trans hid', hR _ _ _ hrel hrel'⟩

/-- Rows are deleted, or nothing happens. -/
theorem of_subset (hR : ∀ r, R r r) {t t' : Table σ} (hseq : t.seq ≤ t'.seq)
    (hrows : ∀ r ∈ t'.rows, r ∈ t.rows) : Evolves R t t' :=
  ⟨hseq, fun r hr _ => ⟨r, hrows r hr, rfl, hR r⟩⟩

/-- A row with a new primary key is added. -/
theorem of_append (hR : ∀ r, R r r) {t t' : Table σ} (row : α)
    (hseq : t.seq ≤ t'.seq) (hid : t.seq ≤ σ.ident row)
    (hrows : t'.rows = t.rows ++ [row]) : Evolves R t t' := by
  refine ⟨hseq, fun r' hr' hlt => ?_⟩
  rw [hrows] at hr'
  rcases List.mem_append.mp hr' with hr' | hr'
  · exact ⟨r', hr', rfl, hR r'⟩
  · rw [List.mem_singleton.mp hr'] at hlt
    omega

/-- Rows are updated. -/
theorem of_map {t t' : Table σ} {f : α → α} (hseq : t'.seq = t.seq)
    (hrows : t'.rows = t.rows.map f)
    (hf : ∀ r ∈ t.rows, σ.ident (f r) = σ.ident r ∧ R r (f r)) : Evolves R t t' := by
  refine ⟨Nat.le_of_eq hseq.symm, fun r' hr' _ => ?_⟩
  rw [hrows] at hr'
  obtain ⟨r, hr, rfl⟩ := List.mem_map.mp hr'
  exact ⟨r, hr, (hf r hr).1.symm, (hf r hr).2⟩

/-- The row with the primary key of an earlier row has evolved from it. -/
theorem row {t t' : Table σ} (h : Evolves R t t') {a b : α} (ha : a ∈ t.rows)
    (hb : b ∈ t'.rows) (hid : σ.ident a = σ.ident b) : R a b := by
  obtain ⟨r, hr, hid', hrel⟩ := h.rows b hb (hid ▸ t.fresh a ha)
  rw [t.eq_of_ident ha hr (hid.trans hid'.symm)]
  exact hrel

end Evolves

end Table

end Relational
