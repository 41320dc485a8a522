import AsterYggdrasil.Yggdrasil.Footprint

/-!
# How profile rows change

The owner of a profile never changes, a name changes only by a rename, and an
id that has been handed out is not handed out again.  `exec_profileEffect` is
the only place that looks at the statements one by one; `ColumnKept` turns it
into what a caller may rely on while others create, rename and delete
profiles.
-/

namespace AsterYggdrasil

open Interleave Relational Prog

/-- What one statement can do to the profile table. -/
inductive ProfileEffect (i : DbStmt) (db db' : Db) : Prop
  | same (seq : db.profiles.seq ≤ db'.profiles.seq)
      (rows : db'.profiles.rows = db.profiles.rows)
  | delete (which : i.kind = .deleteProfile ∨ i.kind = .deleteAccount)
      (seq : db.profiles.seq ≤ db'.profiles.seq)
      (rows : ∀ q ∈ db'.profiles.rows, q ∈ db.profiles.rows)
  | insert (row : MinecraftProfile) (id : row.id = db.profiles.seq)
      (seq : db'.profiles.seq = db.profiles.seq + 1)
      (rows : db'.profiles.rows = db.profiles.rows ++ [row])
      (named : row.normalizedName = normalizeProfileName row.name)
  | rename (id : Nat) (name : String) (renameCount : Int32)
      (which : i = .profileUpdateName id name renameCount)
      (seq : db'.profiles.seq = db.profiles.seq)
      (rows : db'.profiles.rows = db.profiles.rows.map fun q =>
        if q.id = id then Db.renamedProfile db.now name renameCount q else q)

/-- Every statement has one of the effects. -/
theorem exec_profileEffect (i : DbStmt) (db : Db) :
    ProfileEffect i db (i.exec db).2 := by
  cases i with
  | profileInsert input =>
      simp only [DbStmt.exec]
      split
      · exact .same (Nat.le_succ _) rfl
      · split
        · next profiles hinsert =>
            obtain ⟨hrows, hseq, -, -⟩ := Table.insert?_eq_some hinsert
            exact .insert _ rfl hseq hrows rfl
        · exact .same (Nat.le_succ _) rfl
  | profileUpdateName id name renameCount =>
      simp only [DbStmt.exec]
      split
      · exact .same (Nat.le_refl _) rfl
      · split
        · next profiles hupdate =>
            obtain ⟨hrows, hseq⟩ := Table.update?_eq_some hupdate
            refine .rename id name renameCount rfl hseq ?_
            simpa using hrows
        · exact .same (Nat.le_refl _) rfl
  | profileDelete id =>
      exact .delete (Or.inl rfl) (Nat.le_refl _) fun q hq => (List.mem_filter.mp hq).1
  | userDelete id =>
      exact .delete (Or.inr rfl) (Nat.le_refl _) fun q hq => (List.mem_filter.mp hq).1
  | userInsert input =>
      simp only [DbStmt.exec]
      split <;> exact .same (Nat.le_refl _) rfl
  | userUpdate id patch =>
      simp only [DbStmt.exec]
      split
      · exact .same (Nat.le_refl _) rfl
      · split <;> exact .same (Nat.le_refl _) rfl
  | tokenInsert id input =>
      simp only [DbStmt.exec]
      split
      · split <;> exact .same (Nat.le_refl _) rfl
      · exact .same (Nat.le_refl _) rfl
  | banInsert input =>
      simp only [DbStmt.exec]
      split
      · exact .same (Nat.le_refl _) rfl
      · split <;> exact .same (Nat.le_refl _) rfl
  | _ => exact .same (Nat.le_refl _) rfl

/-- Every profile of `db'` is new or was in `db` with the same value of the
column. -/
structure ColumnKept {β : Type} (column : MinecraftProfile → β) (db db' : Db) : Prop where
  seq : db.profiles.seq ≤ db'.profiles.seq
  rows : ∀ q' ∈ db'.profiles.rows, db.profiles.seq ≤ q'.id ∨
    ∃ q ∈ db.profiles.rows, q.id = q'.id ∧ column q = column q'

section Column

variable {β : Type} {column : MinecraftProfile → β}

theorem ColumnKept.refl (db : Db) : ColumnKept column db db :=
  ⟨Nat.le_refl _, fun q hq => Or.inr ⟨q, hq, rfl, rfl⟩⟩

theorem ColumnKept.trans {a b c : Db} (hab : ColumnKept column a b)
    (hbc : ColumnKept column b c) : ColumnKept column a c := by
  refine ⟨Nat.le_trans hab.seq hbc.seq, fun q'' hq'' => ?_⟩
  rcases hbc.rows q'' hq'' with hnew | ⟨q', hq', hid, hcolumn⟩
  · exact Or.inl (Nat.le_trans hab.seq hnew)
  · rcases hab.rows q' hq' with hnew | ⟨q, hq, hid', hcolumn'⟩
    · exact Or.inl (hid ▸ hnew)
    · exact Or.inr ⟨q, hq, hid'.trans hid, hcolumn'.trans hcolumn⟩

/-- A statement keeps every column that a rename keeps, and all columns if it
is no rename. -/
theorem ProfileEffect.columnKept {i : DbStmt} {db db' : Db} (h : ProfileEffect i db db')
    (hrename : i.kind = .rename → ∀ now name renameCount q,
      column (Db.renamedProfile now name renameCount q) = column q) :
    ColumnKept column db db' := by
  cases h with
  | same seq rows => exact ⟨seq, fun q hq => Or.inr ⟨q, rows ▸ hq, rfl, rfl⟩⟩
  | delete which seq rows => exact ⟨seq, fun q hq => Or.inr ⟨q, rows q hq, rfl, rfl⟩⟩
  | insert row id seq rows =>
      refine ⟨by omega, fun q hq => ?_⟩
      rw [rows, List.mem_append, List.mem_singleton] at hq
      rcases hq with hq | rfl
      · exact Or.inr ⟨q, hq, rfl, rfl⟩
      · exact Or.inl (Nat.le_of_eq id.symm)
  | rename id name renameCount which seq rows =>
      refine ⟨Nat.le_of_eq seq.symm, fun q' hq' => Or.inr ?_⟩
      rw [rows] at hq'
      obtain ⟨q, hq, rfl⟩ := List.mem_map.mp hq'
      refine ⟨q, hq, ?_⟩
      subst which
      split
      · exact ⟨rfl, (hrename rfl _ _ _ q).symm⟩
      · exact ⟨rfl, rfl⟩

end Column

/-- Owners never change. -/
abbrev OwnersKept : Db → Db → Prop := ColumnKept MinecraftProfile.userId

/-- Names have not changed. -/
abbrev NamesKept : Db → Db → Prop := ColumnKept MinecraftProfile.name

theorem exec_ownersKept (i : DbStmt) (db : Db) : OwnersKept db (i.exec db).2 :=
  (exec_profileEffect i db).columnKept fun _ _ _ _ _ => rfl

theorem exec_namesKept {i : DbStmt} (h : i.kind ≠ .rename) (db : Db) :
    NamesKept db (i.exec db).2 :=
  (exec_profileEffect i db).columnKept fun hrename => absurd hrename h

/-- Every profile of `db` is still in `db'`, under the same uuid and owner, except for
those whose owner and uuid are doomed. -/
def StaysBut (doomed : Nat → String → Prop) (db db' : Db) : Prop :=
  ∀ p ∈ db.profiles.rows, ¬ doomed p.userId p.uuid →
    ∃ p' ∈ db'.profiles.rows, p'.id = p.id ∧ p'.userId = p.userId ∧ p'.uuid = p.uuid

section Stays

variable {doomed : Nat → String → Prop}

theorem StaysBut.refl (db : Db) : StaysBut doomed db db :=
  fun p hp _ => ⟨p, hp, rfl, rfl, rfl⟩

theorem StaysBut.trans {a b c : Db} (hab : StaysBut doomed a b) (hbc : StaysBut doomed b c) :
    StaysBut doomed a c := by
  intro p hp hspared
  obtain ⟨p', hp', hid, howner, huuid⟩ := hab p hp hspared
  rw [← howner, ← huuid] at hspared
  obtain ⟨p'', hp'', hid', howner', huuid'⟩ := hbc p' hp' hspared
  exact ⟨p'', hp'', hid'.trans hid, howner'.trans howner, huuid'.trans huuid⟩

theorem StaysBut.mono {doomed' : Nat → String → Prop} {db db' : Db}
    (h : StaysBut doomed db db') (hdoomed : ∀ owner uuid, doomed owner uuid → doomed' owner uuid) :
    StaysBut doomed' db db' :=
  fun p hp hspared => h p hp fun hp => hspared (hdoomed _ _ hp)

/-- A statement that deletes neither a profile nor an account keeps all profiles. -/
theorem exec_staysBut {i : DbStmt} (hprofile : i.kind ≠ .deleteProfile)
    (haccount : i.kind ≠ .deleteAccount) (db : Db) : StaysBut doomed db (i.exec db).2 := by
  intro p hp _
  cases exec_profileEffect i db with
  | same seq rows => exact ⟨p, rows ▸ hp, rfl, rfl, rfl⟩
  | delete which seq rows => exact absurd which (not_or.mpr ⟨hprofile, haccount⟩)
  | insert row id seq rows =>
      refine ⟨p, ?_, rfl, rfl, rfl⟩
      rw [rows]
      exact List.mem_append_left _ hp
  | rename id name renameCount which seq rows =>
      refine ⟨if p.id = id then Db.renamedProfile db.now name renameCount p else p, ?_, ?_⟩
      · rw [rows]
        exact List.mem_map_of_mem hp
      · split <;> exact ⟨rfl, rfl, rfl⟩

/-- The profile with the id is deleted. -/
theorem exec_profileDelete_staysBut {db : Db} {id : Nat}
    (h : ∀ p ∈ db.profiles.rows, p.id = id → doomed p.userId p.uuid) :
    StaysBut doomed db (DbStmt.exec (.profileDelete id) db).2 := by
  intro p hp hspared
  refine ⟨p, List.mem_filter.mpr ⟨hp, ?_⟩, rfl, rfl, rfl⟩
  have hne : p.id ≠ id := fun hid => hspared (h p hp hid)
  simp [hne]

/-- The profiles of the account go with it. -/
theorem exec_userDelete_staysBut (db : Db) (userId : Nat) :
    StaysBut (fun owner _ => owner = userId) db (DbStmt.exec (.userDelete userId) db).2 := by
  intro p hp hspared
  exact ⟨p, List.mem_filter.mpr ⟨hp, by simp [hspared]⟩, rfl, rfl, rfl⟩

end Stays

/-- The clock does not go back. -/
theorem exec_now_le (i : DbStmt) (db : Db) : db.now ≤ (i.exec db).2.now := by
  cases i with
  | advanceClock ms => exact Nat.le_add_right _ _
  | userInsert input =>
      simp only [DbStmt.exec]
      split <;> exact Nat.le_refl _
  | userUpdate id patch | profileInsert input | profileUpdateName id name renameCount
  | tokenInsert id input | banInsert input =>
      simp only [DbStmt.exec]
      split
      · first | exact Nat.le_refl _ | (split <;> exact Nat.le_refl _)
      · first | exact Nat.le_refl _ | (split <;> exact Nat.le_refl _)
  | _ => exact Nat.le_refl _

/-- A transaction that renames nothing keeps names, and every transaction
keeps owners. -/
theorem Txn.commit_namesKept {t : Txn} (h : .rename ∉ t.kinds) (db : Db) :
    NamesKept db (t.commit db).2 :=
  t.commit_respects .refl (fun _ _ _ => .trans)
    (fun _ hi db => exec_namesKept (ne_kind hi (by decide) h) db) db

theorem Txn.commit_ownersKept (t : Txn) (db : Db) : OwnersKept db (t.commit db).2 :=
  t.commit_respects .refl (fun _ _ _ => .trans) (fun i _ db => exec_ownersKept i db) db

theorem Txn.commit_now_le (t : Txn) (db : Db) : db.now ≤ (t.commit db).2.now :=
  t.commit_respects (r := fun a b => a.now ≤ b.now) (fun _ => Nat.le_refl _)
    (fun _ _ _ => Nat.le_trans) (fun i _ db => exec_now_le i db) db

end AsterYggdrasil
