import AsterYggdrasil.Yggdrasil.Revocation
import AsterYggdrasil.Yggdrasil.SingleUse
import Mathlib

/-!
# What a bulk revocation reports

`revoke_all_for_user_returning_hashes` puts its report together from three
reads around the update: the tokens that are active before, and those whose
`revoked_at` lies in a window of ten seconds after the update but not already
before it.  Its callers run it on the pool, each statement for itself.

The update waits for the rows that an open transaction has locked, so a
transaction that revokes a row later writes a later time (`Holds`).  With this
the report is complete in every run.  It is exact in every run in which no
update sets `revoked_at` of a row that has been revoked for more than ten
seconds (`RevokesRecent`); `old_revocation_reported` is a run with such an
update.
-/

namespace AsterYggdrasil

open Interleave Relational

/-! ## Calls -/

/-- What runs concurrently: bulk revocations, all calls of the service that
delete no account, and the database aborting a transaction. -/
inductive BulkCall
  | revokeAll (userId : Nat)
  | request (call : TokenCall)
  | abort (x : Nat)

section Body

-- `verify_password` of the cryptography library
variable (verifyPassword : String → String → Except AsterError Bool)

def BulkCall.body : BulkCall → TokenProg (Option (Nat × List String))
  | .revokeAll userId => do
      let out ← inTokenStore (onPool .ofAster (revokeAllForUserReturningHashes userId))
      pure (some out)
  | .request call => do
      let _ ← inTokenStore (call.body verifyPassword)
      pure none
  | .abort x => do
      Prog.stmt (S := tokenStore.signature) (.rollback x)
      pure none

end Body

/-- The statement revokes many rows at once. -/
def DbStmt.bulk : DbStmt → Bool
  | .tokenRevokeAllForUser _ | .tokenRevokeAllForSelectedProfile _ => true
  | _ => false

/-- A statement of a transaction: it deletes no account, and what it revokes is
one row. -/
def ServiceStmt.rowwise : ServiceStmt → Bool
  | .db i => !i.deletesAccount && !i.bulk
  | .txn _ => false
  | _ => true

/-! ## What a commit does to the token rows -/

/-- Another version of the row of one token. -/
structure SameToken (t t' : YggdrasilToken) : Prop where
  id : t'.id = t.id
  userId : t'.userId = t.userId
  hash : t'.accessTokenHash = t.accessTokenHash

theorem SameToken.refl (t : YggdrasilToken) : SameToken t t := ⟨rfl, rfl, rfl⟩

theorem SameToken.trans {a b c : YggdrasilToken} (hab : SameToken a b)
    (hbc : SameToken b c) : SameToken a c :=
  ⟨hbc.id.trans hab.id, hbc.userId.trans hab.userId, hbc.hash.trans hab.hash⟩

/-- From `db` to `db'` revocations `(id, time)` of `ws` were written: every row
is still there, and its `revoked_at` is the old one or one of these. -/
structure Stamped (ws : List (Nat × Nat)) (db db' : Db) : Prop where
  clock : db.now ≤ db'.now
  rows : ∀ t ∈ db.tokens.rows, ∃ t' ∈ db'.tokens.rows, SameToken t t' ∧
    (t'.revokedAt = t.revokedAt ∨ ∃ r, (t.id, r) ∈ ws ∧ t'.revokedAt = some r)
  back : ∀ t' ∈ db'.tokens.rows, ∀ r, t'.revokedAt = some r →
    (∃ t ∈ db.tokens.rows, t.id = t'.id ∧ t.revokedAt = some r) ∨ (t'.id, r) ∈ ws

theorem Stamped.refl (db : Db) : Stamped [] db db :=
  ⟨Nat.le_refl _, fun t ht => ⟨t, ht, .refl t, Or.inl rfl⟩,
    fun t ht _ hr => Or.inl ⟨t, ht, rfl, hr⟩⟩

theorem Stamped.mono {ws ws' : List (Nat × Nat)} {db db' : Db} (h : Stamped ws db db')
    (hsub : ws ⊆ ws') : Stamped ws' db db' := by
  refine ⟨h.clock, fun t ht => ?_, fun t' ht' r hr => ?_⟩
  · obtain ⟨t', ht', hsame, hrev⟩ := h.rows t ht
    exact ⟨t', ht', hsame, hrev.imp_right fun ⟨r, hr, hrev⟩ => ⟨r, hsub hr, hrev⟩⟩
  · exact (h.back t' ht' r hr).imp_right fun hmem => hsub hmem

theorem Stamped.trans {ws ws' : List (Nat × Nat)} {a b c : Db} (hab : Stamped ws a b)
    (hbc : Stamped ws' b c) : Stamped (ws ++ ws') a c := by
  constructor
  · exact Nat.le_trans hab.clock hbc.clock
  · intro t ht
    obtain ⟨t', ht', hsame, hrev⟩ := hab.rows t ht
    obtain ⟨t'', ht'', hsame', hrev'⟩ := hbc.rows t' ht'
    refine ⟨t'', ht'', hsame.trans hsame', ?_⟩
    rcases hrev' with hrev' | ⟨r, hr, hrev'⟩
    · rcases hrev with hrev | ⟨r, hr, hrev⟩
      · exact Or.inl (hrev'.trans hrev)
      · exact Or.inr ⟨r, List.mem_append_left _ hr, hrev'.trans hrev⟩
    · exact Or.inr ⟨r, List.mem_append_right _ (hsame.id ▸ hr), hrev'⟩
  · intro t'' ht'' r hr
    rcases hbc.back t'' ht'' r hr with ⟨t', ht', hid, hr'⟩ | hmem
    · rcases hab.back t' ht' r hr' with ⟨t, ht, hid', hr''⟩ | hmem
      · exact Or.inl ⟨t, ht, hid'.trans hid, hr''⟩
      · exact Or.inr (List.mem_append_left _ (hid ▸ hmem))
    · exact Or.inr (List.mem_append_right _ hmem)

/-- A row-wise update whose new revocations are `ws`. -/
theorem Stamped.of_map {ws : List (Nat × Nat)} {db db' : Db}
    {f : YggdrasilToken → YggdrasilToken}
    (hrows : db'.tokens.rows = db.tokens.rows.map f) (hclock : db.now ≤ db'.now)
    (hf : ∀ t ∈ db.tokens.rows, SameToken t (f t) ∧
      ((f t).revokedAt = t.revokedAt ∨ ∃ r, (t.id, r) ∈ ws ∧ (f t).revokedAt = some r)) :
    Stamped ws db db' := by
  constructor
  · exact hclock
  · intro t ht
    exact ⟨f t, hrows ▸ List.mem_map_of_mem ht, hf t ht⟩
  · intro t' ht' r hr
    rw [hrows] at ht'
    obtain ⟨t, ht, rfl⟩ := List.mem_map.mp ht'
    obtain ⟨hsame, hrev | ⟨r', hmem, hrev⟩⟩ := hf t ht
    · exact Or.inl ⟨t, ht, hsame.id.symm, hrev ▸ hr⟩
    · rw [hrev] at hr
      cases hr
      exact Or.inr (hsame.id ▸ hmem)

/-- The rows that a statement revokes, with the time. -/
def DbStmt.revocations (i : DbStmt) (db : Db) : List (Nat × Nat) :=
  match i.revokes with
  | some p => (db.tokens.select p).map fun t => (t.id, db.now)
  | none => []

/-- One statement. -/
theorem TokenEffect.stamped {i : DbStmt} {db db' : Db} (h : TokenEffect i db db')
    (hi : i.deletesAccount = false) : Stamped (i.revocations db) db db' := by
  have hsame : db'.tokens.rows = db.tokens.rows.map id → db.now ≤ db'.now →
      Stamped (i.revocations db) db db' := fun hrows hclock =>
    .of_map hrows hclock fun t _ => ⟨.refl t, Or.inl rfl⟩
  cases h with
  | keep rows clock => exact hsame (by rw [rows, List.map_id]) clock
  | insert id input rows clock free which =>
      constructor
      · exact Nat.le_of_eq clock.symm
      · exact fun t ht => ⟨t, rows ▸ List.mem_append_left _ ht, .refl t, Or.inl rfl⟩
      · intro t' ht' r hr
        rw [rows, List.mem_append, List.mem_singleton] at ht'
        rcases ht' with ht' | rfl
        · exact Or.inl ⟨t', ht', rfl, hr⟩
        · cases hr
  | revoke p which rows clock =>
      refine .of_map rows (Nat.le_of_eq clock.symm) fun t ht => ?_
      by_cases hp : p t = true
      · have hmem : (t.id, db.now) ∈ i.revocations db := by
          rw [DbStmt.revocations, which]
          exact List.mem_map.mpr ⟨t, Table.mem_select.mpr ⟨ht, hp⟩, rfl⟩
        rw [if_pos hp]
        exact ⟨⟨rfl, rfl, rfl⟩, Or.inr ⟨db.now, hmem, rfl⟩⟩
      · rw [if_neg hp]
        exact ⟨.refl t, Or.inl rfl⟩
  | invalidate p rows clock =>
      refine .of_map rows (Nat.le_of_eq clock.symm) fun t ht => ?_
      split <;> exact ⟨⟨rfl, rfl, rfl⟩, Or.inl rfl⟩
  | unselect p rows clock =>
      refine .of_map rows (Nat.le_of_eq clock.symm) fun t ht => ?_
      split <;> exact ⟨⟨rfl, rfl, rfl⟩, Or.inl rfl⟩
  | account h rows clock => simp [hi] at h

/-- The revocations among the writes of a transaction. -/
def revocationsOf (buf : tokenStore.Buffer) : List (Nat × Nat) :=
  buf.filterMap fun w =>
    match w.1 with
    | .db (.tokenSetRevoked id) => some (id, w.2)
    | _ => none

theorem revocationsOf_append (buf buf' : tokenStore.Buffer) :
    revocationsOf (buf ++ buf') = revocationsOf buf ++ revocationsOf buf' :=
  List.filterMap_append ..

theorem mem_revocationsOf {buf : tokenStore.Buffer} {id r : Nat} :
    (id, r) ∈ revocationsOf buf ↔ (.db (.tokenSetRevoked id), r) ∈ buf := by
  simp only [revocationsOf, List.mem_filterMap]
  constructor
  · rintro ⟨⟨i, r'⟩, hmem, hw⟩
    split at hw
    · next id' heq =>
        simp only at heq
        subst heq
        cases hw
        exact hmem
    · cases hw
  · exact fun hmem => ⟨_, hmem, rfl⟩

/-- A redone write. -/
theorem rewrite_stamped {w : ServiceStmt × Nat} (hw : w.1.rowwise = true)
    (s : ServiceState) :
    Stamped (revocationsOf [w]) s.db (tokenStore.rewrite w s).db := by
  have hquiet : ∀ s' : ServiceState, s'.db = s.db →
      Stamped (revocationsOf [w]) s.db s'.db := by
    intro s' h
    rw [h]
    exact (Stamped.refl s.db).mono (List.nil_subset _)
  unfold Store.rewrite
  split
  · exact hquiet s rfl
  · obtain ⟨i, n⟩ := w
    cases i with
    | db i =>
        obtain ⟨haccount, hbulk⟩ : i.deletesAccount = false ∧ i.bulk = false := by
          simpa [ServiceStmt.rowwise] using hw
        have hstamped := (exec_tokenEffect i { s.db with now := n }).stamped haccount
        have hsub : i.revocations { s.db with now := n } ⊆ revocationsOf [(.db i, n)] := by
          cases i <;> first | exact List.nil_subset _ | cases hbulk
          rintro ⟨id', r⟩ hmem
          obtain ⟨t, ht, heq⟩ := List.mem_map.mp hmem
          have hid := (Table.mem_select.mp ht).2
          simp only [decide_eq_true_eq] at hid
          cases heq
          rw [hid]
          exact List.mem_singleton.mpr rfl
        have hmoved := hstamped.mono hsub
        exact ⟨Nat.le_refl _, hmoved.rows, hmoved.back⟩
    | txn t => cases hw
    | _ => exact hquiet s rfl

/-- A commit writes the revocations of the transaction. -/
theorem replay_stamped {buf : tokenStore.Buffer} (hbuf : ∀ w ∈ buf, w.1.rowwise = true)
    (s : ServiceState) :
    Stamped (revocationsOf buf) s.db (tokenStore.replay buf s).db := by
  induction buf generalizing s with
  | nil => exact .refl s.db
  | cons w buf ih =>
      have hhead := rewrite_stamped (hbuf w (List.mem_cons_self ..)) s
      have htail := ih (fun w' hw' => hbuf w' (List.mem_cons_of_mem _ hw'))
        (tokenStore.rewrite w s)
      have hboth := hhead.trans htail
      rwa [← revocationsOf_append] at hboth

/-- Redone writes leave the clock alone. -/
theorem replay_now (buf : tokenStore.Buffer) (s : ServiceState) :
    (tokenStore.replay buf s).db.now = s.db.now := by
  have hone : ∀ w ∈ buf, ∀ s : ServiceState,
      (tokenStore.rewrite w s).db.now = s.db.now := by
    rintro ⟨i, n⟩ - s
    unfold Store.rewrite
    split
    · rfl
    · cases i <;> rfl
  exact Store.replay_respects (σ := tokenStore) (r := fun a b => b.db.now = a.db.now)
    (fun _ => rfl) (fun _ _ _ hab hbc => Eq.trans hbc hab) hone s

/-! ## Locked rows -/

/-- Transaction `x` has locked the row of token `id` and writes the revocation
time `r`, which is not before the one that is there. -/
structure Holds (s : TokenShared) (x id r : Nat) : Prop where
  held : s.holder (.token id) = some x
  past : r ≤ s.committed.db.now
  later : ∀ t ∈ s.committed.db.tokens.rows, t.id = id → ∀ r', t.revokedAt = some r' → r' ≤ r

/-- What a transaction may commit. -/
structure Revocable (s : TokenShared) (x : Nat) (buf : tokenStore.Buffer) : Prop where
  rowwise : ∀ w ∈ buf, w.1.rowwise = true
  holds : x ∈ s.closed ∨ ∀ id r, (id, r) ∈ revocationsOf buf → Holds s x id r

/-- An update of `revoked_at` hits no row that has been revoked for more than
ten seconds. -/
def HitsRecent (db : Db) (id : Nat) : Prop :=
  ∀ t ∈ db.tokens.rows, t.id = id → ∀ r ∈ t.revokedAt, db.now ≤ r + 10000

/-- No update that takes effect in this step sets `revoked_at` of a row that
has been revoked for more than ten seconds. -/
def RevokesRecent : tokenStore.Stmt → TokenShared → Prop
  | .commit x buf, s =>
      x ∈ s.closed ∨ ∀ w ∈ revocationsOf buf, HitsRecent s.committed.db w.1
  | .auto (.db (.tokenSetRevoked id)), s => HitsRecent s.committed.db id
  | _, _ => True

/-- What the others may do between two statements of a call. -/
structure BulkMoves (s s' : TokenShared) : Prop where
  clock : s.committed.db.now ≤ s'.committed.db.now
  closed : ∀ x ∈ s.closed, x ∈ s'.closed
  locks : ∀ x k, s.holder k = some x → s'.holder k = some x ∨ x ∈ s'.closed
  /-- Rows stay, revocation times grow, and only those of the last ten seconds
  change. -/
  rows : ∀ t ∈ s.committed.db.tokens.rows, ∃ t' ∈ s'.committed.db.tokens.rows,
    SameToken t t' ∧ ∀ r, t.revokedAt = some r → ∃ r', t'.revokedAt = some r' ∧ r ≤ r' ∧
      (r' = r ∨ s.committed.db.now ≤ r + 10000)
  /-- A row that a transaction holds is revoked by nobody else. -/
  held : ∀ x id, s.holder (.token id) = some x → x ∈ s'.closed ∨
    ∀ t' ∈ s'.committed.db.tokens.rows, t'.id = id → ∀ r, t'.revokedAt = some r →
      ∃ t ∈ s.committed.db.tokens.rows, t.id = id ∧ t.revokedAt = some r

theorem BulkMoves.refl (s : TokenShared) : BulkMoves s s :=
  ⟨Nat.le_refl _, fun _ h => h, fun _ _ h => Or.inl h,
    fun t ht => ⟨t, ht, .refl t, fun r hr => ⟨r, hr, Nat.le_refl r, Or.inl rfl⟩⟩,
    fun _ _ _ => Or.inr fun t ht hid _ hr => ⟨t, ht, hid, hr⟩⟩

theorem BulkMoves.trans {a b c : TokenShared} (hab : BulkMoves a b) (hbc : BulkMoves b c) :
    BulkMoves a c := by
  constructor
  · exact Nat.le_trans hab.clock hbc.clock
  · intro x hx
    exact hbc.closed x (hab.closed x hx)
  · intro x k hk
    rcases hab.locks x k hk with hheld | hclosed
    · exact hbc.locks x k hheld
    · exact Or.inr (hbc.closed x hclosed)
  · intro t ht
    obtain ⟨t', ht', hsame, hrev⟩ := hab.rows t ht
    obtain ⟨t'', ht'', hsame', hrev'⟩ := hbc.rows t' ht'
    refine ⟨t'', ht'', hsame.trans hsame', fun r hr => ?_⟩
    obtain ⟨r', hr', hle, hnew⟩ := hrev r hr
    obtain ⟨r'', hr'', hle', hnew'⟩ := hrev' r' hr'
    refine ⟨r'', hr'', Nat.le_trans hle hle', ?_⟩
    have hclock := hab.clock
    rcases hnew with rfl | hrecent
    · exact hnew'.imp_right fun h => Nat.le_trans hclock h
    · exact Or.inr hrecent
  · intro x id hk
    rcases hab.held x id hk with hclosed | hback
    · exact Or.inl (hbc.closed x hclosed)
    · rcases hab.locks x _ hk with hheld | hclosed
      · rcases hbc.held x id hheld with hclosed | hback'
        · exact Or.inl hclosed
        · refine Or.inr fun t'' ht'' hid r hr => ?_
          obtain ⟨t', ht', hid', hr'⟩ := hback' t'' ht'' hid r hr
          exact hback t' ht' hid' r hr'
      · exact Or.inl (hbc.closed x hclosed)

/-- A step that touches no revocation. -/
theorem BulkMoves.of_quiet {s s' : TokenShared}
    (hmoved : Stamped [] s.committed.db s'.committed.db)
    (hclosed : ∀ x ∈ s.closed, x ∈ s'.closed)
    (hlocks : ∀ x k, s.holder k = some x → s'.holder k = some x ∨ x ∈ s'.closed) :
    BulkMoves s s' := by
  refine ⟨hmoved.clock, hclosed, hlocks, fun t ht => ?_, fun x id _ => Or.inr ?_⟩
  · obtain ⟨t', ht', hsame, hrev⟩ := hmoved.rows t ht
    refine ⟨t', ht', hsame, fun r hr => ⟨r, ?_, Nat.le_refl r, Or.inl rfl⟩⟩
    exact (hrev.resolve_right (by simp)).trans hr
  · intro t' ht' hid r hr
    obtain ⟨t, ht, hid', hr'⟩ := (hmoved.back t' ht' r hr).resolve_right (by simp)
    exact ⟨t, ht, hid'.trans hid, hr'⟩

/-- A step whose revocations hit rows that are unrevoked or were revoked a
moment ago, and that nobody else has locked. -/
theorem BulkMoves.of_stamped {ws : List (Nat × Nat)} {s s' : TokenShared}
    (hmoved : Stamped ws s.committed.db s'.committed.db)
    (hclosed : ∀ x ∈ s.closed, x ∈ s'.closed)
    (hlocks : ∀ x k, s.holder k = some x → s'.holder k = some x ∨ x ∈ s'.closed)
    (hlater : ∀ id r, (id, r) ∈ ws → ∀ t ∈ s.committed.db.tokens.rows, t.id = id →
      ∀ r', t.revokedAt = some r' → r' ≤ r)
    (hrecent : ∀ id r, (id, r) ∈ ws → HitsRecent s.committed.db id)
    (hfree : ∀ id r, (id, r) ∈ ws → ∀ x, s.holder (.token id) = some x → x ∈ s'.closed) :
    BulkMoves s s' := by
  refine ⟨hmoved.clock, hclosed, hlocks, fun t ht => ?_, fun x id hk => ?_⟩
  · obtain ⟨t', ht', hsame, hrev⟩ := hmoved.rows t ht
    refine ⟨t', ht', hsame, fun r hr => ?_⟩
    rcases hrev with hrev | ⟨r', hmem, hrev⟩
    · exact ⟨r, hrev.trans hr, Nat.le_refl r, Or.inl rfl⟩
    · exact ⟨r', hrev, hlater _ _ hmem t ht rfl r hr, Or.inr (hrecent _ _ hmem t ht rfl r hr)⟩
  · by_cases hopen : x ∈ s'.closed
    · exact Or.inl hopen
    · refine Or.inr fun t' ht' hid r hr => ?_
      rcases hmoved.back t' ht' r hr with ⟨t, ht, hid', hr'⟩ | hmem
      · exact ⟨t, ht, hid'.trans hid, hr'⟩
      · exact absurd (hfree _ _ hmem x (hid ▸ hk)) hopen

/-- A locked row stays locked and keeps its time. -/
theorem Holds.moves {s s' : TokenShared} {x id r : Nat} (h : Holds s x id r)
    (hmoves : BulkMoves s s') : x ∈ s'.closed ∨ Holds s' x id r := by
  rcases hmoves.locks x _ h.held with hheld | hclosed
  · rcases hmoves.held x id h.held with hclosed | hback
    · exact Or.inl hclosed
    · refine Or.inr ⟨hheld, Nat.le_trans h.past hmoves.clock, fun t' ht' hid r' hr' => ?_⟩
      obtain ⟨t, ht, hid', hr⟩ := hback t' ht' hid r' hr'
      exact h.later t ht hid' r' hr
  · exact Or.inl hclosed

theorem Revocable.moves {s s' : TokenShared} {x : Nat} {buf : tokenStore.Buffer}
    (h : Revocable s x buf) (hmoves : BulkMoves s s') : Revocable s' x buf := by
  refine ⟨h.rowwise, ?_⟩
  by_cases hopen : x ∈ s'.closed
  · exact Or.inl hopen
  · rcases h.holds with hclosed | hholds
    · exact Or.inl (hmoves.closed x hclosed)
    · exact Or.inr fun id r hmem => ((hholds id r hmem).moves hmoves).resolve_left hopen

/-! ## The discipline -/

/-- What everybody promises. -/
def BulkGuarantee : tokenStore.Stmt → TokenShared → Prop
  | .exec _ _ i, _ => i.rowwise = true
  | .commit x buf, s => Revocable s x buf
  | .auto (.db i), _ => i.deletesAccount = false
  | .auto (.txn _), _ => False
  | _, _ => True

/-- A statement that is not undone moves the clock at most. -/
theorem immediate_stamped {i : ServiceStmt} (h : i.immediate = true) (s : ServiceState) :
    Stamped [] s.db (i.exec s).2.db := by
  cases i with
  | db i =>
      have hdeletes : i.deletesAccount = false := by cases i <;> first | rfl | cases h
      have hnone : i.revocations s.db = [] := by cases i <;> first | rfl | cases h
      have hstamped := (exec_tokenEffect i s.db).stamped hdeletes
      rwa [hnone] at hstamped
  | txn t => cases h
  | _ => exact .refl s.db

/-- A statement inside of a transaction. -/
theorem bulkMoves_execIn {x : Nat} {buf : tokenStore.Buffer} {i : ServiceStmt}
    {s : TokenShared} (hfree : tokenStore.available (some x)
      (tokenStore.locks i (tokenStore.replay buf s.committed)) s = true) :
    Stamped [] s.committed.db (tokenStore.execIn x buf i s).2.committed.db ∧
      BulkMoves s (tokenStore.execIn x buf i s).2 := by
  have hmoved : Stamped [] s.committed.db
      (tokenStore.execIn x buf i s).2.committed.db := by
    simp only [Store.execIn, Store.lock]
    split
    · next himm => exact immediate_stamped himm s.committed
    · exact .refl _
  exact ⟨hmoved, .of_quiet hmoved (fun _ h => h) fun y k hk =>
    Or.inl (Store.lock_keeps hfree hk _)⟩

/-- Revocation times stay in the past. -/
theorem ClockOk.stamped {ws : List (Nat × Nat)} {db db' : Db} (h : ClockOk db)
    (hmoved : Stamped ws db db') (hws : ∀ id r, (id, r) ∈ ws → r ≤ db.now) : ClockOk db' := by
  intro t' ht' r hr
  rcases hmoved.back t' ht' r hr with ⟨t, ht, -, hr'⟩ | hmem
  · exact Nat.le_trans (h t ht r hr') hmoved.clock
  · exact Nat.le_trans (hws _ _ hmem) hmoved.clock

/-- The commit of a transaction. -/
theorem bulkMoves_commit {x : Nat} {buf : tokenStore.Buffer} {s : TokenShared}
    (hinv : ClockOk s.committed.db) (hopen : x ∉ s.closed) (h : Revocable s x buf)
    (hrecent : ∀ w ∈ revocationsOf buf, HitsRecent s.committed.db w.1) :
    ClockOk (tokenStore.replay buf s.committed).db ∧
      BulkMoves s (tokenStore.close x
        { s with committed := tokenStore.replay buf s.committed }) := by
  have hmoved := replay_stamped h.rowwise s.committed
  have hholds := h.holds.resolve_left hopen
  refine ⟨hinv.stamped hmoved fun id r hmem => (hholds id r hmem).past, ?_⟩
  refine .of_stamped hmoved (fun _ hy => List.mem_cons_of_mem _ hy)
    (fun _ _ hk => Store.close_keeps hk) (fun id r hmem => (hholds id r hmem).later)
    (fun id r hmem => hrecent _ hmem) fun id r hmem y hk => ?_
  have hheld := (hholds id r hmem).held
  rw [hk] at hheld
  cases hheld
  exact List.mem_cons_self ..

/-- An update of `revoked_at` either names a row or hits unrevoked rows only. -/
theorem revokes_cases {i : DbStmt} {p : YggdrasilToken → Bool} (h : i.revokes = some p) :
    (∃ id, i = .tokenSetRevoked id ∧ ∀ t, p t = true ↔ t.id = id) ∨
    ((∀ t, p t = true → t.revokedAt = none) ∧ ∀ db, i.locks db = db.tokenKeys p) := by
  cases i with
  | tokenSetRevoked id =>
      cases h
      exact Or.inl ⟨id, rfl, fun t => by simp⟩
  | tokenRevokeAllForUser userId =>
      cases h
      refine Or.inr ⟨fun t ht => ?_, fun _ => rfl⟩
      simp only [YggdrasilToken.activeFor, YggdrasilToken.unrevoked, Bool.and_eq_true] at ht
      exact Option.isNone_iff_eq_none.mp ht.2
  | tokenRevokeAllForSelectedProfile profileId =>
      cases h
      refine Or.inr ⟨fun t ht => ?_, fun _ => rfl⟩
      simp only [YggdrasilToken.activeOn, YggdrasilToken.unrevoked, Bool.and_eq_true] at ht
      exact Option.isNone_iff_eq_none.mp ht.2
  | _ => cases h

/-- The rows an update of `revoked_at` hits are among those it locks. -/
theorem revokes_locks {i : DbStmt} {p : YggdrasilToken → Bool} (h : i.revokes = some p)
    {db : Db} {t : YggdrasilToken} (ht : t ∈ db.tokens.rows) (hp : p t = true) :
    .token t.id ∈ i.locks db := by
  rcases revokes_cases h with ⟨id, rfl, hid⟩ | ⟨-, hlocks⟩
  · rw [(hid t).mp hp]
    exact List.mem_singleton.mpr rfl
  · rw [hlocks]
    exact List.mem_map.mpr ⟨t, Table.mem_select.mpr ⟨ht, hp⟩, rfl⟩

/-- A statement of its own: the rows it revokes are locked by nobody. -/
theorem bulkMoves_auto {i : DbStmt} {s : TokenShared} (hinv : ClockOk s.committed.db)
    (hfree : tokenStore.available none (i.locks s.committed.db) s = true)
    (hdeletes : i.deletesAccount = false) (hrecent : RevokesRecent (.auto (.db i)) s) :
    ClockOk (i.exec s.committed.db).2 ∧
      BulkMoves s { s with committed := { s.committed with
        db := (i.exec s.committed.db).2 } } := by
  have hmoved := (exec_tokenEffect i s.committed.db).stamped hdeletes
  have hrow : ∀ id r, (id, r) ∈ i.revocations s.committed.db → r = s.committed.db.now ∧
      ∃ p, i.revokes = some p ∧ ∃ t ∈ s.committed.db.tokens.rows, t.id = id ∧ p t = true := by
    intro id r hmem
    unfold DbStmt.revocations at hmem
    split at hmem
    · next p hp =>
        obtain ⟨t, ht, heq⟩ := List.mem_map.mp hmem
        obtain ⟨ht, hpt⟩ := Table.mem_select.mp ht
        cases heq
        exact ⟨rfl, p, hp, t, ht, rfl, hpt⟩
    · cases hmem
  refine ⟨hinv.stamped hmoved fun id r hmem => Nat.le_of_eq (hrow id r hmem).1, ?_⟩
  refine .of_stamped hmoved (fun _ h => h) (fun _ _ h => Or.inl h) ?_ ?_ ?_
  · intro id r hmem t ht hid r' hr'
    rw [(hrow id r hmem).1]
    exact hinv t ht r' hr'
  · intro id r hmem
    obtain ⟨-, p, hp, t, ht, rfl, hpt⟩ := hrow id r hmem
    rcases revokes_cases hp with ⟨id, rfl, hid⟩ | ⟨hunrevoked, -⟩
    · rw [(hid t).mp hpt]
      exact hrecent
    · intro t' ht' hid r hr
      rw [row_unique_id ht' ht hid, hunrevoked t hpt] at hr
      cases hr
  · intro id r hmem x hk
    obtain ⟨-, p, hp, t, ht, rfl, hpt⟩ := hrow id r hmem
    have hall := List.all_eq_true.mp hfree _ (revokes_locks hp ht hpt)
    simp [hk] at hall

/-- Everybody writes revocation times in order and promises to hit no row that
has been revoked for long. -/
def bulkDiscipline : Discipline tokenStore.readCommitted where
  inv s := ClockOk s.committed.db
  rely := BulkMoves
  own _ i s := tokenStore.enabled i s = true ∧ RevokesRecent i s
  guar _ := BulkGuarantee
  refl := .refl
  trans _ _ _ := .trans
  step _ i s hinv hown hguar := by
    cases i with
    | begin =>
        refine ⟨hinv, .of_quiet (.refl _) (fun _ h => h) fun _ _ h => Or.inl h⟩
    | exec x buf i =>
        by_cases hclosed : x ∈ s.closed
        · simp only [Store.exec, hclosed, if_true]
          exact ⟨hinv, .refl s⟩
        · have hfree := hown.1
          simp only [Store.enabled, hclosed, decide_false, Bool.false_or] at hfree
          simp only [Store.exec, hclosed, if_false]
          obtain ⟨hmoved, hmoves⟩ := bulkMoves_execIn hfree
          exact ⟨hinv.stamped hmoved (by simp), hmoves⟩
    | commit x buf =>
        by_cases hclosed : x ∈ s.closed
        · simp only [Store.exec, hclosed, if_true]
          exact ⟨hinv, .refl s⟩
        · simp only [Store.exec, hclosed, if_false]
          exact bulkMoves_commit hinv hclosed hguar (hown.2.resolve_left hclosed)
    | rollback x =>
        refine ⟨hinv, .of_quiet (.refl _) (fun _ h => List.mem_cons_of_mem _ h) ?_⟩
        exact fun _ _ hk => Store.close_keeps hk
    | auto i =>
        cases i with
        | db i => exact bulkMoves_auto hinv hown.1 hguar hown.2
        | txn t => exact hguar.elim
        | _ => exact ⟨hinv, .of_quiet (.refl _) (fun _ h => h) fun _ _ h => Or.inl h⟩

/-! ## The other calls -/

section Others

open Prog

/-- A statement of a transaction of the service. -/
abbrev Rowwise (i : DbStmt) : Prop := (ServiceStmt.db i).rowwise = true

theorem rowwise_setRevoked (id : Nat) : (tokenSetRevoked id).Within Rowwise := by
  refine Within.stmt_bind rfl fun found => ?_
  cases found <;> trivial

theorem rowwise_issueToken (args : IssueToken) :
    (issueTokenInConnection args).Within Rowwise := by
  refine Within.stmt_bind rfl fun now => Within.rejectIf.bind fun _ => ?_
  refine Within.rejectIf.bind fun _ => ?_
  refine Within.bind (Within.stmt_bind rfl fun id => ?_) fun token => ?_
  · refine Within.stmt_bind rfl fun r => ?_
    cases r <;> trivial
  · refine Within.bind (Within.stmt_bind rfl fun tokens => ?_) fun _ => trivial
    exact (Within.forEach (fun t => rowwise_setRevoked _) _).bind fun _ => trivial

theorem rowwise_revokeByAccessHash (hash : String) :
    (revokeByAccessHash hash).Within Rowwise := by
  refine Within.stmt_bind rfl fun found => ?_
  cases found with
  | none => trivial
  | some token =>
      dsimp only
      split
      · trivial
      · exact (rowwise_setRevoked _).bind fun _ => trivial

/-- No transaction of the service revokes many rows at once. -/
theorem Txn.rowwise_body (t : Txn) : t.body.Within Rowwise := by
  have hkinds : ∀ kinds : List StepKind, .revoke ∉ kinds → .deleteAccount ∉ kinds →
      DbUses kinds t.body → t.body.Within Rowwise := by
    intro kinds hrevoke hdelete huses
    refine huses.mono fun i hi => ?_
    have hnot := ne_kind hi (by decide) hrevoke
    have hnot' := ne_kind hi (by decide) hdelete
    cases i <;> first | rfl | exact absurd rfl hnot | exact absurd rfl hnot'
  cases t with
  | issueToken args => exact (rowwise_issueToken args).hoist
  | refreshToken old args =>
      refine Within.bind (rowwise_revokeByAccessHash old).hoist fun r => ?_
      exact Within.rejectIf.bind fun _ => (rowwise_issueToken args).hoist
  | renameProfile profile newName =>
      exact hkinds [.rename] (by decide) (by decide)
        (Txn.uses_body (.renameProfile profile newName))
  | updateUser id input =>
      exact hkinds [.updateUser] (by decide) (by decide)
        (Txn.uses_body (.updateUser id input))

variable {α : Type} {tr : Trace tokenStore.readCommitted} {s : TokenShared}

/-- One more statement of a transaction. -/
theorem Revocable.exec {x : Nat} {buf : tokenStore.Buffer} {i : ServiceStmt}
    (h : Revocable s x buf) (hi : i.rowwise = true) (hinv : ClockOk s.committed.db)
    (hopen : x ∉ s.closed) (hen : tokenStore.enabled (.exec x buf i) s = true) :
    Revocable (tokenStore.execIn x buf i s).2 x
      (buf ++ [(i, tokenStore.stamp (tokenStore.replay buf s.committed))]) := by
  simp only [Store.enabled, hopen, decide_false, Bool.false_or] at hen
  obtain ⟨hmoved, hmoves⟩ := bulkMoves_execIn hen
  have hnow : tokenStore.stamp (tokenStore.replay buf s.committed) =
      s.committed.db.now := replay_now buf s.committed
  refine ⟨fun w hw => ?_, Or.inr fun id r hmem => ?_⟩
  · rcases List.mem_append.mp hw with hw | hw
    · exact h.rowwise w hw
    · rw [List.mem_singleton.mp hw]
      exact hi
  · rcases List.mem_append.mp (mem_revocationsOf.mp hmem) with hmem | hmem
    · have hheld := h.holds.resolve_left hopen id r (mem_revocationsOf.mpr hmem)
      exact (hheld.moves hmoves).resolve_left hopen
    · -- the row is locked now, and its time lies in the past
      have hw := List.mem_singleton.mp hmem
      rw [hnow, Prod.mk.injEq] at hw
      obtain ⟨rfl, rfl⟩ := hw
      refine ⟨Store.lock_holds (List.mem_singleton.mpr rfl), hmoved.clock, ?_⟩
      intro t' ht' hid r' hr'
      obtain ⟨t, ht, -, hr⟩ := (hmoved.back t' ht' r' hr').resolve_right (by simp)
      exact hinv t ht r' hr

/-- A transaction of the service. -/
theorem ensures_txnSteps (t : Txn) :
    (txnSteps t).Ensures bulkDiscipline (fun _ _ _ => True) tr s := by
  intro s₀ _ hinv _
  have hbody : (t.body.hoist poolHom id).Within fun i : ServiceStmt => i.rowwise = true :=
    t.rowwise_body.hoist
  refine ⟨True.intro, Store.ensures_transact (fun buf s => Revocable s s₀.next buf)
    (fun buf s s' hr _ hJ => hJ.moves hr) ?_ (fun _ _ _ _ _ _ _ => True.intro)
    (fun _ _ => True.intro) ?_ hbody hinv ⟨by simp, Or.inr (by simp [revocationsOf])⟩⟩
  · intro buf tr i s hi hinv hown hJ
    exact ⟨hi, fun hopen => hJ.exec hi hinv hopen hown.1⟩
  · intro buf a tr s hinv hJ s' hr _ _
    refine ⟨hJ.moves hr, ?_⟩
    by_cases hclosed : s₀.next ∈ s'.closed
    · simp only [Store.exec, hclosed, if_true]
      exact fun _ _ _ => True.intro
    · simp only [Store.exec, hclosed, if_false]
      exact fun _ _ _ => True.intro

/-- A program that deletes no account. -/
theorem ensures_keepsAccounts {p : Service α}
    (hp : p.Within fun i : ServiceStmt => i.keepsAccounts = true)
    (hinv : ClockOk s.committed.db) :
    (inTokenStore p).Ensures bulkDiscipline (fun _ _ _ => True) tr s := by
  refine Ensures.translate ?_ hp hinv
  intro i tr s hi hinv
  cases i with
  | txn t =>
      exact Ensures.attempt (ensures_txnSteps t)
  | db i =>
      have hguard : i.deletesAccount = false := by
        simpa [ServiceStmt.keepsAccounts] using hi
      exact fun _ _ _ _ => ⟨hguard, fun _ _ _ => True.intro⟩
  | _ => exact fun _ _ _ _ => ⟨True.intro, fun _ _ _ => True.intro⟩

/-- The footprint of a call that deletes no account. -/
theorem within_tokenCall (verify : String → String → Except AsterError Bool)
    (call : TokenCall) :
    (call.body verify).Within fun i : ServiceStmt => i.keepsAccounts = true := by
  obtain ⟨call, hcall⟩ := call
  have hkinds : .deleteAccount ∉ call.kinds := by
    cases call with
    | deleteUser userId => cases hcall
    | _ => simp [Call.kinds]
  refine Within.mono (Call.uses_body verify call) fun i hi => ?_
  have hnot := ne_kind hi (by decide) hkinds
  cases i with
  | db i => cases i <;> first | rfl | exact absurd rfl hnot
  | _ => rfl

end Others

/-! ## The bulk revocation -/

section Report

open Prog

/-- What a bulk revocation has reported, `s` being the state it has left
behind: every row it has revoked, rows of the user only, and none that was
revoked when the call began.  All rows of the user that the update has found are
revoked. -/
structure Reported (userId : Nat) (tr : Trace tokenStore.readCommitted)
    (hashes : List String) (s : TokenShared) : Prop where
  updated : ∃ s', ((.auto (.db (.tokenRevokeAllForUser userId)) : tokenStore.Stmt), s') ∈ tr ∧
    ∀ t ∈ s'.committed.db.tokens.rows, t.userId = userId →
      (t.revokedAt = none → t.accessTokenHash ∈ hashes) ∧
      ∃ t' ∈ s.committed.db.tokens.rows, SameToken t t' ∧ t'.revokedAt.isSome
  owned : ∀ hash ∈ hashes, ∃ t ∈ s.committed.db.tokens.rows,
    t.accessTokenHash = hash ∧ t.userId = userId
  fresh : ∀ hash ∈ hashes, ∀ ev ∈ tr.head?, ¬ Revoked ev.2.committed.db hash

variable {userId : Nat} {s s' : TokenShared}

theorem mem_activeHashes {db : Db} {hash : String} :
    hash ∈ ((DbStmt.tokenListActiveHashesForUser userId).exec db).1 ↔
      ∃ t ∈ db.tokens.rows, t.accessTokenHash = hash ∧ t.userId = userId ∧
        t.revokedAt = none := by
  simp only [DbStmt.exec, List.mem_map, Table.mem_select, YggdrasilToken.activeFor,
    YggdrasilToken.unrevoked, Bool.and_eq_true, decide_eq_true_eq,
    Option.isNone_iff_eq_none]
  constructor
  · rintro ⟨t, ⟨ht, hu, hr⟩, rfl⟩
    exact ⟨t, ht, rfl, hu, hr⟩
  · rintro ⟨t, ht, rfl, hu, hr⟩
    exact ⟨t, ⟨ht, hu, hr⟩, rfl⟩

/-- A row stays revoked. -/
theorem BulkMoves.revoked (h : BulkMoves s s') {hash : String}
    (hrev : Revoked s.committed.db hash) : Revoked s'.committed.db hash := by
  obtain ⟨t, ht, hhash, hr⟩ := hrev
  obtain ⟨r, hr⟩ := Option.isSome_iff_exists.mp hr
  obtain ⟨t', ht', hsame, hlater⟩ := h.rows t ht
  obtain ⟨r', hr', -⟩ := hlater r hr
  exact ⟨t', ht', hsame.hash.trans hhash, by simp [hr']⟩

/-- A row of the user stays one. -/
theorem BulkMoves.owned (h : BulkMoves s s') {hash : String}
    (howned : ∃ t ∈ s.committed.db.tokens.rows, t.accessTokenHash = hash ∧
      t.userId = userId) :
    ∃ t ∈ s'.committed.db.tokens.rows, t.accessTokenHash = hash ∧ t.userId = userId := by
  obtain ⟨t, ht, hhash, hu⟩ := howned
  obtain ⟨t', ht', hsame, -⟩ := h.rows t ht
  exact ⟨t', ht', hsame.hash.trans hhash, hsame.userId.trans hu⟩

/-- The report stays true. -/
theorem Reported.moves {tr : Trace tokenStore.readCommitted} {hashes : List String}
    (h : Reported userId tr hashes s) (hmoves : BulkMoves s s') :
    Reported userId tr hashes s' := by
  obtain ⟨⟨s₄, hmem, hrows⟩, howned, hfresh⟩ := h
  refine ⟨⟨s₄, hmem, fun t ht hu => ?_⟩, fun hash hhash => hmoves.owned (howned hash hhash),
    hfresh⟩
  obtain ⟨hreported, t', ht', hsame, hrev⟩ := hrows t ht hu
  obtain ⟨r, hr⟩ := Option.isSome_iff_exists.mp hrev
  obtain ⟨t'', ht'', hsame', hlater⟩ := hmoves.rows t' ht'
  obtain ⟨r', hr', -⟩ := hlater r hr
  exact ⟨hreported, t'', ht'', hsame.trans hsame', by simp [hr']⟩

/-- The second list of recent revocations has what the first one had and what
was revoked since. -/
theorem recent_not_before {since : Nat} {s₁ s₃ s₅ : TokenShared} {hash : String}
    (h₁₃ : BulkMoves s₁ s₃) (h₃₅ : BulkMoves s₃ s₅)
    (hsince : since ≤ s₃.committed.db.now - 10000)
    (hrecent : hash ∈
      ((DbStmt.tokenListRecentRevokedHashesForUser userId since).exec s₅.committed.db).1)
    (halready : hash ∉
      ((DbStmt.tokenListRecentRevokedHashesForUser userId since).exec s₃.committed.db).1) :
    ¬ Revoked s₁.committed.db hash := by
  intro hrev
  obtain ⟨t₅, ht₅, rfl, hu, r₅, hr₅, hle⟩ := mem_recentlyRevoked.mp hrecent
  obtain ⟨t₃, ht₃, hhash, hr⟩ := h₁₃.revoked hrev
  obtain ⟨r₃, hr₃⟩ := Option.isSome_iff_exists.mp hr
  obtain ⟨t, ht, hsame, hlater⟩ := h₃₅.rows t₃ ht₃
  obtain rfl := row_unique ht ht₅ (hsame.hash.trans hhash)
  obtain ⟨r', hr', -, hnew⟩ := hlater r₃ hr₃
  rw [hr₅] at hr'
  cases hr'
  -- its time at the first list lies in the window too
  refine halready (mem_recentlyRevoked.mpr ⟨t₃, ht₃, hhash, ?_, r₃, hr₃, ?_⟩)
  · exact hsame.userId.symm.trans hu
  · rcases hnew with rfl | hnew
    · exact hle
    · omega

/-- The update itself, outside of any transaction. -/
def updated (userId : Nat) (s : TokenShared) : TokenShared :=
  (tokenStore.exec (.auto (.db (.tokenRevokeAllForUser userId))) s).2

/-- Every row of the user is revoked, and the ones that were not carry the
present time. -/
theorem updated_row {t : YggdrasilToken} (ht : t ∈ s.committed.db.tokens.rows)
    (hu : t.userId = userId) :
    ∃ t' ∈ (updated userId s).committed.db.tokens.rows, SameToken t t' ∧
      t'.revokedAt.isSome ∧
      (t.revokedAt = none → t'.revokedAt = some s.committed.db.now) := by
  by_cases hactive : YggdrasilToken.activeFor userId t = true
  · refine ⟨t.revoke s.committed.db.now, ?_, ⟨rfl, rfl, rfl⟩, rfl, fun _ => rfl⟩
    exact List.mem_map.mpr ⟨t, ht, if_pos hactive⟩
  · have hrevoked : t.revokedAt ≠ none := by
      intro hnone
      exact hactive (by simp [YggdrasilToken.activeFor, YggdrasilToken.unrevoked, hu, hnone])
    refine ⟨t, ?_, .refl t, ?_, fun hnone => absurd hnone hrevoked⟩
    · exact List.mem_map.mpr ⟨t, ht, if_neg hactive⟩
    · exact Option.isSome_iff_ne_none.mpr hrevoked

/-- A row that the update has revoked is in the second list of recent
revocations and not in the first. -/
theorem updated_reported {since : Nat} {s₃ s₄ s₅ : TokenShared} (h₃₄ : BulkMoves s₃ s₄)
    (h₄₅ : BulkMoves (updated userId s₄) s₅) (hsince : since ≤ s₄.committed.db.now)
    {t : YggdrasilToken} (ht : t ∈ s₄.committed.db.tokens.rows) (hu : t.userId = userId)
    (hactive : t.revokedAt = none) :
    t.accessTokenHash ∈
        ((DbStmt.tokenListRecentRevokedHashesForUser userId since).exec s₅.committed.db).1 ∧
      t.accessTokenHash ∉
        ((DbStmt.tokenListRecentRevokedHashesForUser userId since).exec
          s₃.committed.db).1 := by
  constructor
  · obtain ⟨t', ht', hsame, -, hnow⟩ := updated_row ht hu
    obtain ⟨t'', ht'', hsame', hlater⟩ := h₄₅.rows t' ht'
    obtain ⟨r, hr, hle, -⟩ := hlater _ (hnow hactive)
    have hboth := hsame.trans hsame'
    exact mem_recentlyRevoked.mpr
      ⟨t'', ht'', hboth.hash, hboth.userId.trans hu, r, hr, Nat.le_trans hsince hle⟩
  · intro halready
    obtain ⟨t₃, ht₃, hhash, -, r, hr, -⟩ := mem_recentlyRevoked.mp halready
    have hrev : Revoked s₃.committed.db t.accessTokenHash := ⟨t₃, ht₃, hhash, by simp [hr]⟩
    obtain ⟨t₄, ht₄, hhash₄, hr₄⟩ := h₃₄.revoked hrev
    rw [row_unique ht₄ ht hhash₄, hactive] at hr₄
    cases hr₄

/-- **What the report says**, whatever the others do between two of its
statements. -/
theorem ensures_revokeAll :
    (inTokenStore (onPool .ofAster (revokeAllForUserReturningHashes userId))).Ensures
      bulkDiscipline (fun tr r s => ∃ out, r = .ok out ∧ Reported userId tr out.2 s) [] s := by
  rw [onPool_revokeAllForUser]
  intro s₁ _ hinv₁ _
  refine ⟨rfl, fun s₂ h₁₂ _ _ => ⟨rfl, fun s₃ h₂₃ _ _ => ⟨rfl, fun s₄ h₃₄ hinv₄ hown₄ =>
    ⟨rfl, fun s₅ h₄₅ _ _ => ⟨rfl, fun s₆ h₅₆ _ => ⟨_, rfl, ?_⟩⟩⟩⟩⟩⟩
  have h₁₂ : BulkMoves s₁ s₂ := h₁₂
  have h₂₃ : BulkMoves s₂ s₃ := h₂₃
  have h₃₄ : BulkMoves s₃ s₄ := h₃₄
  have h₄₅ : BulkMoves (updated userId s₄) s₅ := h₄₅
  have h₅₆ : BulkMoves s₅ s₆ := h₅₆
  have hupdate : BulkMoves s₄ (updated userId s₄) :=
    (bulkMoves_auto (i := .tokenRevokeAllForUser userId) hinv₄ hown₄.1 rfl hown₄.2).2
  have hmem : ∀ hash, hash ∈ sortDedup
      (((DbStmt.tokenListActiveHashesForUser userId).exec s₁.committed.db).1 ++
        ((DbStmt.tokenListRecentRevokedHashesForUser userId
          (s₂.committed.db.now - 10000)).exec s₅.committed.db).1.filter fun hash =>
            !((DbStmt.tokenListRecentRevokedHashesForUser userId
              (s₂.committed.db.now - 10000)).exec s₃.committed.db).1.contains hash) ↔
      hash ∈ ((DbStmt.tokenListActiveHashesForUser userId).exec s₁.committed.db).1 ∨
      (hash ∈ ((DbStmt.tokenListRecentRevokedHashesForUser userId
          (s₂.committed.db.now - 10000)).exec s₅.committed.db).1 ∧
        hash ∉ ((DbStmt.tokenListRecentRevokedHashesForUser userId
          (s₂.committed.db.now - 10000)).exec s₃.committed.db).1) := by
    intro hash
    rw [mem_sortDedup, List.mem_append, List.mem_filter]
    simp
  have hclock := h₂₃.clock
  have hclock' := h₃₄.clock
  constructor
  · refine ⟨s₄, by simp, fun t ht hu => ⟨fun hactive => (hmem _).mpr (Or.inr ?_), ?_⟩⟩
    · exact updated_reported h₃₄ h₄₅ (by omega) ht hu hactive
    · obtain ⟨t', ht', hsame, hrev, -⟩ := updated_row ht hu
      obtain ⟨r, hr⟩ := Option.isSome_iff_exists.mp hrev
      obtain ⟨t'', ht'', hsame', hlater⟩ := (h₄₅.trans h₅₆).rows t' ht'
      obtain ⟨r', hr', -⟩ := hlater r hr
      exact ⟨t'', ht'', hsame.trans hsame', by simp [hr']⟩
  · intro hash hhash
    rcases (hmem hash).mp hhash with hactive | ⟨hrecent, -⟩
    · obtain ⟨t, ht, hhash, hu, -⟩ := mem_activeHashes.mp hactive
      have hall := h₁₂.trans (h₂₃.trans (h₃₄.trans (hupdate.trans (h₄₅.trans h₅₆))))
      exact hall.owned ⟨t, ht, hhash, hu⟩
    · obtain ⟨t, ht, hhash, hu, -⟩ := mem_recentlyRevoked.mp hrecent
      exact h₅₆.owned ⟨t, ht, hhash, hu⟩
  · rintro hash hhash ev ⟨⟩
    rcases (hmem hash).mp hhash with hactive | ⟨hrecent, halready⟩
    · obtain ⟨t, ht, hhash, -, hnone⟩ := mem_activeHashes.mp hactive
      rintro ⟨t', ht', hhash', hrev⟩
      rw [row_unique ht' ht (hhash'.trans hhash.symm), hnone] at hrev
      cases hrev
    · exact recent_not_before (h₁₂.trans h₂₃) (h₃₄.trans (hupdate.trans h₄₅)) (by omega)
        hrecent halready

end Report

/-! ## Runs -/

section Runs

open Config Prog

-- `verify_password` of the cryptography library
variable {verifyPassword : String → String → Except AsterError Bool}

/-- Concurrent bulk revocations and calls of the service. -/
abbrev BulkPool :=
  Config tokenStore.readCommitted ServiceError BulkCall (Option (Nat × List String))

/-- Every update of a row's `revoked_at` finds it unrevoked, or revoked a moment
ago. -/
def UpdatesRecent (c : BulkPool) (_ : Nat) (i : tokenStore.Stmt) : Prop :=
  RevokesRecent i c.shared

/-- How a call ends. -/
def BulkCall.Ends (tr : Trace tokenStore.readCommitted)
    (r : Except ServiceError (Option (Nat × List String))) (s : TokenShared) :
    BulkCall → Prop
  | .revokeAll userId => ∃ out, r = .ok (some out) ∧ Reported userId tr out.2 s
  | _ => True

theorem ensures_bulkCall (call : BulkCall) {s : TokenShared}
    (hinv : ClockOk s.committed.db) :
    (call.body verifyPassword).Ensures bulkDiscipline (fun tr r s => call.Ends tr r s)
      [] s := by
  cases call with
  | revokeAll userId =>
      refine Ensures.bind hinv (ensures_revokeAll.mono ?_)
      rintro tr r s ⟨out, rfl, hreported⟩
      exact fun _ s' hmoves _ => ⟨out, rfl, hreported.moves hmoves⟩
  | request call =>
      refine Ensures.bind hinv ((ensures_keepsAccounts (within_tokenCall _ call) hinv).mono ?_)
      intro tr r s _
      cases r with
      | ok a => exact fun _ _ _ _ => trivial
      | error e => trivial
  | abort x => exact fun _ _ _ _ => ⟨trivial, fun _ _ _ => trivial⟩

/-- **When the report is right.**  In every run in which no update sets the
`revoked_at` of a row that has been revoked for more than ten seconds, a bulk
revocation reports every token it has revoked, only tokens of the user, and none
that was revoked before; and every token of the user that its update has found
is revoked. -/
theorem revokeAll_reports {s₀ : ServiceState} (hclock : ClockOk s₀.db)
    {sched : List (Action BulkCall)} {c : BulkPool}
    (hc : c = (initial (tokenStore.start s₀)).runs (BulkCall.body verifyPassword) sched)
    (hadm : Admissible (BulkCall.body verifyPassword) UpdatesRecent
      (initial (tokenStore.start s₀)) sched)
    {i userId : Nat} {rest : TokenProg (Option (Nat × List String))}
    (hth : c.threads[i]? = some ⟨.revokeAll userId, rest⟩)
    {r : Except ServiceError (Option (Nat × List String))} (hr : c.result? i = some r) :
    ∃ out, r = .ok (some out) ∧ Reported userId (c.trace i) out.2 c.shared := by
  have hstart : bulkDiscipline.inv (tokenStore.start s₀) := hclock
  have hgood : Good bulkDiscipline (fun _ call tr r s => call.Ends tr r s) c := by
    rw [hc]
    exact good_runs (D := bulkDiscipline) (fun _ _ _ hguard hen => ⟨hen, hguard⟩)
      (fun _ call _ hinv => ensures_bulkCall call hinv) (good_initial hstart) hadm
  exact hgood.result hth hr

instance (db : Db) (id : Nat) : Decidable (HitsRecent db id) :=
  inferInstanceAs (Decidable (∀ t ∈ db.tokens.rows, t.id = id → ∀ r ∈ t.revokedAt, _))

/-- The transaction that the statement commits, with its buffer. -/
def commitOf : tokenStore.Stmt → Option (Nat × tokenStore.Buffer)
  | .commit x buf => some (x, buf)
  | _ => none

/-- The token that the statement revokes on the pool. -/
def revokedOnPool : tokenStore.Stmt → Option Nat
  | .auto (.db (.tokenSetRevoked id)) => some id
  | _ => none

theorem revokesRecent_iff (i : tokenStore.Stmt) (s : TokenShared) :
    RevokesRecent i s ↔
      (∀ c ∈ commitOf i, c.1 ∈ s.closed ∨
        ∀ w ∈ revocationsOf c.2, HitsRecent s.committed.db w.1) ∧
      ∀ id ∈ revokedOnPool i, HitsRecent s.committed.db id := by
  unfold RevokesRecent commitOf revokedOnPool
  split <;> simp

instance (i : tokenStore.Stmt) (s : TokenShared) : Decidable (RevokesRecent i s) :=
  decidable_of_iff _ (revokesRecent_iff i s).symm

instance (c : BulkPool) (i : Nat) (st : tokenStore.Stmt) : Decidable (UpdatesRecent c i st) :=
  inferInstanceAs (Decidable (RevokesRecent st c.shared))

/-- The pool after a schedule that starts with one token. -/
def bulkRun (sched : List (Action BulkCall)) : BulkPool :=
  (initial (tokenStore.start oneToken)).runs (BulkCall.body plainPassword) sched

/-- A bulk revocation of the user's only token, alone. -/
def revokeAllAlone : List (Action BulkCall) :=
  .spawn (.revokeAll 1) :: List.replicate 5 (.run 0)

/-- Alone, it reports the token. -/
theorem revokeAll_reports_alone :
    Reported 1 ((bulkRun revokeAllAlone).trace 0) ["t"] (bulkRun revokeAllAlone).shared := by
  have hclock : ClockOk oneToken.db := by
    intro t ht r hr
    rw [List.mem_singleton.mp ht] at hr
    cases hr
  obtain ⟨out, hout, hreported⟩ := revokeAll_reports hclock rfl
    (by decide +kernel : Admissible (BulkCall.body plainPassword) UpdatesRecent
      (initial (tokenStore.start oneToken)) revokeAllAlone) (i := 0) rfl
    (r := .ok (some (1, ["t"]))) (by decide +kernel)
  cases hout
  exact hreported

/-- Invalidate the token `t`. -/
def invalidateTokenT : BulkCall := .request invalidateT

/-- One call has found the token unrevoked; another one revokes it; twenty
seconds pass. -/
def longBefore : List (Action BulkCall) :=
  .spawn invalidateTokenT :: List.replicate 6 (.run 0) ++
    .spawn invalidateTokenT :: List.replicate 8 (.run 1) ++
      [.spawn (.request ⟨.wait 20000, rfl⟩), .run 2]

/-- The first call goes on in the midst of a bulk revocation. -/
def revokedAgain : List (Action BulkCall) :=
  .spawn (.revokeAll 1) :: List.replicate 3 (.run 3) ++
    .run 0 :: List.replicate 2 (.run 3)

/-- **An old revocation is reported**: the token is revoked before the bulk
revocation starts, which revokes nothing and reports it. -/
theorem old_revocation_reported :
    Revoked (bulkRun longBefore).shared.committed.db "t" ∧
      (bulkRun longBefore).threads.length = 3 ∧
      (bulkRun (longBefore ++ revokedAgain)).result? 3 = some (.ok (some (0, ["t"]))) := by
  decide +kernel

end Runs

end AsterYggdrasil
