import AsterYggdrasil.Yggdrasil.Store
import AsterYggdrasil.Yggdrasil.TokenHistory

/-!
# Exchanging one access token

`refresh_token` exchanges an access token for a new one in a transaction:
find the row, see that it is not revoked, revoke it, insert the replacement,
prune.  Here the transactions run statement by statement at isolation level
read committed.  The update that revokes the old row names only its id, so it
also succeeds on a row that has been revoked since it was read.

`refresh_once` says when the exchange is single use: in every run in which the
revoking updates hit rows that are still unrevoked, at most one call succeeds
and at most one token is added.  `refresh_twice` is a run of two calls that
both succeed.
-/

namespace AsterYggdrasil

open Interleave Relational

/-! ## The exchange -/

/-- `refresh_token`, statement by statement. -/
def refreshTokenSteps (oldAccessToken : String) (args : IssueToken) :
    TokenProg IssuedToken := do
  let (issued, prunedHashes) ← Store.transaction (.ofAster .databaseOperation)
    ((Txn.refreshToken oldAccessToken args).body.hoist poolHom id)
  Prog.forEach (prunedHashes ++ [oldAccessToken]) fun hash => auto (.deleteToken hash)
  pure issued

/-- What runs concurrently: exchanges of one access token, the passing of
time, and the database aborting a transaction. -/
inductive RefreshCall
  | refresh (args : IssueToken)
  | tick (ms : Nat)
  | abort (x : Nat)

def RefreshCall.body (oldAccessToken : String) :
    RefreshCall → TokenProg (Option IssuedToken)
  | .refresh args => do
      let issued ← refreshTokenSteps oldAccessToken args
      pure (some issued)
  | .tick ms => do
      auto (.db (.advanceClock ms))
      pure none
  | .abort x => do
      Prog.stmt (S := tokenStore.signature) (.rollback x)
      pure none

/-- The statements of the exchange transaction. -/
def ServiceStmt.exchanges : ServiceStmt → Bool
  | .db .now | .db (.tokenFindByAccessHash _) | .db (.tokenListActiveByIssuedDesc _)
  | .db .tokenNextId | .db (.tokenInsert _ _) | .db (.tokenSetRevoked _) => true
  | _ => false

/-- The statement inserts a token. -/
def ServiceStmt.inserts : ServiceStmt → Bool
  | .db (.tokenInsert _ _) => true
  | _ => false

/-- The number of tokens a transaction has inserted. -/
def insertCount (buf : tokenStore.Buffer) : Nat :=
  buf.countP fun w => w.1.inserts

/-! ## What a redone write does -/

/-- The token of this hash has its row under this id. -/
def IsRow (db : Db) (hash : String) (id : Nat) : Prop :=
  ∃ t ∈ db.tokens.rows, t.accessTokenHash = hash ∧ t.id = id

theorem IsRow.unique {db : Db} {hash : String} {id id' : Nat} (h : IsRow db hash id)
    (h' : IsRow db hash id') : id = id' := by
  obtain ⟨t, ht, hhash, rfl⟩ := h
  obtain ⟨t', ht', hhash', rfl⟩ := h'
  rw [row_unique ht ht' (hhash.trans hhash'.symm)]

/-- Rows stay in the table and stay revoked. -/
structure RowsStay (hash : String) (s s' : ServiceState) : Prop where
  row : ∀ id, IsRow s.db hash id → IsRow s'.db hash id
  revoked : Revoked s.db hash → Revoked s'.db hash

theorem RowsStay.refl (hash : String) (s : ServiceState) : RowsStay hash s s :=
  ⟨fun _ h => h, fun h => h⟩

theorem RowsStay.trans {hash : String} {a b c : ServiceState}
    (hab : RowsStay hash a b) (hbc : RowsStay hash b c) : RowsStay hash a c :=
  ⟨fun id h => hbc.row id (hab.row id h), fun h => hbc.revoked (hab.revoked h)⟩

theorem RowsStay.of_rows {hash : String} {s s' : ServiceState}
    (h : s'.db.tokens.rows = s.db.tokens.rows) : RowsStay hash s s' := by
  constructor
  · intro id hrow
    unfold IsRow at hrow ⊢
    rwa [h]
  · intro hrev
    unfold Revoked at hrev ⊢
    rwa [h]

/-- An immediate statement leaves the token rows alone. -/
theorem immediate_rows {i : ServiceStmt} (h : i.immediate = true)
    (s : ServiceState) : (i.exec s).2.db.tokens.rows = s.db.tokens.rows := by
  cases i with
  | db i => cases i <;> first | rfl | cases h
  | txn t => cases h
  | _ => rfl

/-- The rows after the `revoked_at` update of row `id` at time `now`. -/
def revokeRow (id now : Nat) (rows : List YggdrasilToken) : List YggdrasilToken :=
  rows.map fun t => if t.id = id then t.revoke now else t

/-- **Everything a redone write can do to the token rows.** -/
theorem rewrite_cases {w : ServiceStmt × Nat} (hw : w.1.exchanges = true)
    (s : ServiceState) :
    ((tokenStore.rewrite w s).db.tokens.rows = s.db.tokens.rows ∧
      ∀ id, w.1 ≠ .db (.tokenSetRevoked id)) ∨
    (∃ id input, w.1 = .db (.tokenInsert id input) ∧
      (tokenStore.rewrite w s).db.tokens.rows =
        s.db.tokens.rows ++ [Db.newToken id input]) ∨
    (∃ id, w.1 = .db (.tokenSetRevoked id) ∧
      (tokenStore.rewrite w s).db.tokens.rows =
        revokeRow id w.2 s.db.tokens.rows) := by
  obtain ⟨i, now⟩ := w
  cases i with
  | db i =>
      cases i with
      | tokenInsert id input =>
          simp only [Store.rewrite, ServiceStmt.immediate, ServiceStmt.redo,
            DbStmt.exec, Bool.false_eq_true, if_false]
          split
          · split
            · next tokens h =>
                exact Or.inr (Or.inl ⟨id, input, rfl, (insert_free h).1⟩)
            · exact Or.inl ⟨rfl, fun id h => by cases h⟩
          · exact Or.inl ⟨rfl, fun id h => by cases h⟩
      | tokenSetRevoked id =>
          refine Or.inr (Or.inr ⟨id, rfl, ?_⟩)
          unfold revokeRow
          simp [Store.rewrite, ServiceStmt.immediate, ServiceStmt.redo, DbStmt.exec,
            Db.revokeTokens, Db.modifyTokens, Table.modify]
      | now | tokenFindByAccessHash _ | tokenListActiveByIssuedDesc _ | tokenNextId =>
          exact Or.inl ⟨rfl, fun id h => by cases h⟩
      | _ => cases hw
  | _ => cases hw

theorem mem_revokeRow (id now : Nat) {rows : List YggdrasilToken}
    {t : YggdrasilToken} (ht : t ∈ rows) :
    (if t.id = id then t.revoke now else t) ∈ revokeRow id now rows :=
  List.mem_map_of_mem ht

/-- A redone write of the exchange keeps every row. -/
theorem rewrite_stay {w : ServiceStmt × Nat} (hw : w.1.exchanges = true)
    (hash : String) (s : ServiceState) : RowsStay hash s (tokenStore.rewrite w s) := by
  rcases rewrite_cases hw s with ⟨hrows, -⟩ | ⟨id, input, -, hrows⟩ | ⟨id, -, hrows⟩
  · exact .of_rows hrows
  · refine ⟨fun id' hrow => ?_, fun hrev => ?_⟩
    · obtain ⟨t, ht, h⟩ := hrow
      exact ⟨t, hrows ▸ List.mem_append_left _ ht, h⟩
    · obtain ⟨t, ht, h⟩ := hrev
      exact ⟨t, hrows ▸ List.mem_append_left _ ht, h⟩
  · refine ⟨fun id' hrow => ?_, fun hrev => ?_⟩
    · obtain ⟨t, ht, hhash, hid⟩ := hrow
      refine ⟨_, hrows ▸ mem_revokeRow _ _ ht, ?_⟩
      split <;> exact ⟨hhash, hid⟩
    · obtain ⟨t, ht, hhash, hr⟩ := hrev
      refine ⟨_, hrows ▸ mem_revokeRow _ _ ht, ?_⟩
      split
      · exact ⟨hhash, rfl⟩
      · exact ⟨hhash, hr⟩

/-- A redone write revokes a token only by the update of its row. -/
theorem rewrite_revokes {w : ServiceStmt × Nat} (hw : w.1.exchanges = true)
    {hash : String} {s : ServiceState} (hpre : ¬ Revoked s.db hash)
    (hpost : Revoked (tokenStore.rewrite w s).db hash) :
    ∃ id, w.1 = .db (.tokenSetRevoked id) ∧ IsRow s.db hash id := by
  obtain ⟨t', ht', hhash, hrev⟩ := hpost
  rcases rewrite_cases hw s with ⟨hrows, -⟩ | ⟨id, input, -, hrows⟩ | ⟨id, hid, hrows⟩
  · exact absurd ⟨t', hrows ▸ ht', hhash, hrev⟩ hpre
  · rw [hrows, List.mem_append, List.mem_singleton] at ht'
    rcases ht' with ht' | rfl
    · exact absurd ⟨t', ht', hhash, hrev⟩ hpre
    · cases hrev
  · rw [hrows] at ht'
    obtain ⟨t, ht, rfl⟩ := List.mem_map.mp ht'
    by_cases heq : t.id = id
    · refine ⟨id, hid, t, ht, ?_, heq⟩
      simpa [heq, YggdrasilToken.revoke] using hhash
    · simp only [heq, if_false] at hhash hrev
      exact absurd ⟨t, ht, hhash, hrev⟩ hpre

/-- The update of a token's row revokes the token. -/
theorem rewrite_setRevoked {hash : String} {id now : Nat} {s : ServiceState}
    (hrow : IsRow s.db hash id) :
    Revoked (tokenStore.rewrite (.db (.tokenSetRevoked id), now) s).db hash := by
  obtain ⟨t, ht, hhash, hid⟩ := hrow
  have hmem : t.revoke now ∈ revokeRow id now s.db.tokens.rows := by
    have := mem_revokeRow id now ht
    rwa [if_pos hid] at this
  rcases rewrite_cases (w := (.db (.tokenSetRevoked id), now)) rfl s with
    ⟨-, h⟩ | ⟨id', input, h, -⟩ | ⟨id', h, hrows⟩
  · exact absurd rfl (h id)
  · cases h
  · cases h
    exact ⟨t.revoke now, hrows ▸ hmem, hhash, rfl⟩

/-! ## What a commit does -/

section Replay

variable {buf : tokenStore.Buffer} {hash : String} {s : ServiceState}

/-- A commit keeps every row. -/
theorem replay_stay (hbuf : ∀ w ∈ buf, w.1.exchanges = true) :
    RowsStay hash s (tokenStore.replay buf s) :=
  Store.replay_respects (.refl hash) (fun _ _ _ => .trans)
    (fun w hw => rewrite_stay (hbuf w hw) hash) s

/-- A commit revokes a token only if the transaction updated its row. -/
theorem replay_revokes {id : Nat} (hbuf : ∀ w ∈ buf, w.1.exchanges = true)
    (hrow : IsRow s.db hash id) (hpre : ¬ Revoked s.db hash)
    (hpost : Revoked (tokenStore.replay buf s).db hash) :
    ∃ w ∈ buf, w.1 = .db (.tokenSetRevoked id) := by
  induction buf generalizing s with
  | nil => exact absurd hpost hpre
  | cons w buf ih =>
      have hw := hbuf w (List.mem_cons_self ..)
      by_cases hmid : Revoked (tokenStore.rewrite w s).db hash
      · obtain ⟨id', hw', hrow'⟩ := rewrite_revokes hw hpre hmid
        rw [hrow'.unique hrow] at hw'
        exact ⟨w, List.mem_cons_self .., hw'⟩
      · obtain ⟨w', hmem, hw'⟩ := ih (fun w h => hbuf w (List.mem_cons_of_mem _ h))
          ((rewrite_stay hw hash s).row id hrow) hmid hpost
        exact ⟨w', List.mem_cons_of_mem _ hmem, hw'⟩

/-- A commit of a transaction that updated the row of a token revokes the
token. -/
theorem replay_setRevoked {id : Nat} (hbuf : ∀ w ∈ buf, w.1.exchanges = true)
    {w : ServiceStmt × Nat} (hmem : w ∈ buf) (hw : w.1 = .db (.tokenSetRevoked id))
    (hrow : IsRow s.db hash id) : Revoked (tokenStore.replay buf s).db hash := by
  induction buf generalizing s with
  | nil => cases hmem
  | cons w' buf ih =>
      have htail : ∀ w ∈ buf, w.1.exchanges = true :=
        fun w h => hbuf w (List.mem_cons_of_mem _ h)
      rcases List.mem_cons.mp hmem with rfl | hmem
      · obtain ⟨i, now⟩ := w
        simp only at hw
        subst hw
        exact (replay_stay htail).revoked (rewrite_setRevoked hrow)
      · have hstay := rewrite_stay (hbuf w' (List.mem_cons_self ..)) hash s
        exact ih htail hmem (hstay.row id hrow)

/-- A commit adds at most the tokens the transaction inserted. -/
theorem replay_length (hbuf : ∀ w ∈ buf, w.1.exchanges = true) :
    (tokenStore.replay buf s).db.tokens.rows.length ≤
      s.db.tokens.rows.length + insertCount buf := by
  induction buf generalizing s with
  | nil => exact Nat.le_refl _
  | cons w buf ih =>
      have htail := ih (s := tokenStore.rewrite w s)
        fun w h => hbuf w (List.mem_cons_of_mem _ h)
      have hcount : insertCount (w :: buf) =
          insertCount buf + if w.1.inserts then 1 else 0 := by
        simp [insertCount, List.countP_cons]
      have hcons : tokenStore.replay (w :: buf) s =
          tokenStore.replay buf (tokenStore.rewrite w s) := rfl
      rw [hcount, hcons]
      rcases rewrite_cases (hbuf w (List.mem_cons_self ..)) s with
        ⟨hrows, -⟩ | ⟨id, input, hw, hrows⟩ | ⟨id, -, hrows⟩
      · rw [hrows] at htail
        omega
      · rw [hrows, List.length_append, List.length_singleton] at htail
        simp only [hw, ServiceStmt.inserts, if_true]
        omega
      · rw [hrows, revokeRow, List.length_map] at htail
        omega

end Replay

/-! ## The discipline -/

section Discipline

variable (old : String)

/-- Transaction `x` holds the row of the old token, which is not revoked. -/
structure Guards (s : TokenShared) (x id : Nat) : Prop where
  held : s.holder (.token id) = some x
  row : IsRow s.committed.db old id
  unrevoked : ¬ Revoked s.committed.db old

/-- What the others may do between two statements of a call: rows stay, ended
transactions have ended, and a transaction that is still open keeps its locks
and, with the lock on the old row, its exclusive right to revoke it. -/
structure Moves (s s' : TokenShared) : Prop where
  stay : RowsStay old s.committed s'.committed
  closed : ∀ x ∈ s.closed, x ∈ s'.closed
  locks : ∀ x k, s.holder k = some x → s'.holder k = some x ∨ x ∈ s'.closed
  guards : ∀ x id, Guards old s x id → Guards old s' x id ∨ x ∈ s'.closed

theorem Moves.refl (s : TokenShared) : Moves old s s :=
  ⟨.refl old _, fun _ h => h, fun _ _ h => Or.inl h, fun _ _ h => Or.inl h⟩

variable {old}

theorem Moves.trans {a b c : TokenShared} (hab : Moves old a b)
    (hbc : Moves old b c) : Moves old a c := by
  refine ⟨hab.stay.trans hbc.stay, fun x h => hbc.closed x (hab.closed x h), ?_, ?_⟩
  · intro x k hk
    rcases hab.locks x k hk with hk | hclosed
    · exact hbc.locks x k hk
    · exact Or.inr (hbc.closed x hclosed)
  · intro x id hg
    rcases hab.guards x id hg with hg | hclosed
    · exact hbc.guards x id hg
    · exact Or.inr (hbc.closed x hclosed)

/-- A step that leaves the token rows alone and takes no lock away from an
open transaction. -/
theorem Moves.of_rows {s s' : TokenShared}
    (hrows : s'.committed.db.tokens.rows = s.committed.db.tokens.rows)
    (hclosed : ∀ x ∈ s.closed, x ∈ s'.closed)
    (hlocks : ∀ x k, s.holder k = some x → s'.holder k = some x ∨ x ∈ s'.closed) :
    Moves old s s' := by
  have hstay : RowsStay old s.committed s'.committed := .of_rows hrows
  have hback : RowsStay old s'.committed s.committed := .of_rows hrows.symm
  refine ⟨hstay, hclosed, hlocks, fun x id hg => ?_⟩
  rcases hlocks x _ hg.held with hheld | hx
  · have hunrevoked : ¬ Revoked s'.committed.db old :=
      fun h => hg.unrevoked (hback.revoked h)
    exact Or.inl ⟨hheld, hstay.row id hg.row, hunrevoked⟩
  · exact Or.inr hx

variable (old)

/-- What a transaction has to have done when it commits: only statements of
the exchange, its revoking updates under their locks, and at most one insert,
for which it holds the old row unrevoked and has revoked it. -/
structure Committable (s : TokenShared) (x : Nat) (buf : tokenStore.Buffer) :
    Prop where
  exchanges : ∀ w ∈ buf, w.1.exchanges = true
  locked : ∀ w ∈ buf, ∀ id, w.1 = .db (.tokenSetRevoked id) →
    s.holder (.token id) = some x
  once : insertCount buf ≤ 1
  paid : insertCount buf = 0 ∨ ∃ id, Guards old s x id ∧
    ∃ w ∈ buf, w.1 = .db (.tokenSetRevoked id)

/-- The number of token rows: `n`, and one more once the old token is
revoked. -/
def RowBudget (n : Nat) (s : TokenShared) : Prop :=
  s.committed.db.tokens.rows.length ≤ n ∨
    (Revoked s.committed.db old ∧ s.committed.db.tokens.rows.length ≤ n + 1)

/-- The update of the old row runs while the row is not revoked. -/
def RevokesUnrevoked : tokenStore.Stmt → TokenShared → Prop
  | .exec x _ (.db (.tokenSetRevoked id)), s =>
      x ∈ s.closed ∨ ∀ t ∈ s.committed.db.tokens.rows,
        t.id = id → t.accessTokenHash = old → t.revokedAt = none
  | _, _ => True

/-- The guarantee of a call at each of its steps. -/
def ExchangeGuarantee : tokenStore.Stmt → TokenShared → Prop
  | .commit x buf, s => x ∈ s.closed ∨ Committable old s x buf
  | .auto i, _ => i.immediate = true
  | _, _ => True

variable {old}

theorem RowBudget.of_rows {n : Nat} {s s' : TokenShared}
    (hrows : s'.committed.db.tokens.rows = s.committed.db.tokens.rows)
    (h : RowBudget old n s) : RowBudget old n s' := by
  unfold RowBudget at h ⊢
  rw [hrows]
  rcases h with h | ⟨hrev, h⟩
  · exact Or.inl h
  · have hstay : RowsStay old s.committed s'.committed := .of_rows hrows
    exact Or.inr ⟨hstay.revoked hrev, h⟩

/-- Ending a transaction frees its locks only. -/
theorem moves_close (x : Nat) (s : TokenShared) :
    Moves old s (tokenStore.close x s) :=
  .of_rows rfl (fun _ hy => List.mem_cons_of_mem _ hy) fun _ _ hk =>
    Store.close_keeps hk

/-- A statement inside of a transaction takes only locks that are free. -/
theorem moves_execIn (old : String) {x : Nat} {buf : tokenStore.Buffer} {i : ServiceStmt}
    {s : TokenShared}
    (hfree : tokenStore.available (some x)
      (tokenStore.locks i (tokenStore.replay buf s.committed)) s = true) :
    (tokenStore.execIn x buf i s).2.committed.db.tokens.rows =
        s.committed.db.tokens.rows ∧
      Moves old s (tokenStore.execIn x buf i s).2 := by
  have hrows : (tokenStore.execIn x buf i s).2.committed.db.tokens.rows =
      s.committed.db.tokens.rows := by
    simp only [Store.execIn, Store.lock]
    split
    · next h => exact immediate_rows h _
    · rfl
  exact ⟨hrows, .of_rows hrows (fun y hy => hy) fun y k hk =>
    Or.inl (Store.lock_keeps hfree hk _)⟩

/-- The commit of a transaction. -/
theorem moves_commit {n x : Nat} {buf : tokenStore.Buffer} {s : TokenShared}
    (hinv : RowBudget old n s) (h : Committable old s x buf) :
    RowBudget old n { s with committed := tokenStore.replay buf s.committed } ∧
      Moves old s (tokenStore.close x
        { s with committed := tokenStore.replay buf s.committed }) := by
  have hstay : RowsStay old s.committed (tokenStore.replay buf s.committed) :=
    replay_stay h.exchanges
  have hlength := replay_length (s := s.committed) h.exchanges
  refine ⟨?_, hstay, fun y hy => List.mem_cons_of_mem _ hy,
    fun y k hk => Store.close_keeps hk, fun y id hg => ?_⟩
  · rcases h.paid with hnone | ⟨id, hg, w, hw, hid⟩
    · rcases hinv with hle | ⟨hrev, hle⟩
      · exact Or.inl (by simp only; omega)
      · exact Or.inr ⟨hstay.revoked hrev, by simp only; omega⟩
    · have hle : s.committed.db.tokens.rows.length ≤ n :=
        hinv.resolve_right fun hrev => hg.unrevoked hrev.1
      have honce := h.once
      exact Or.inr ⟨replay_setRevoked h.exchanges hw hid hg.row, by simp only; omega⟩
  · rcases Store.close_keeps (x := x) hg.held with hheld | hclosed
    · by_cases hyx : y = x
      · exact Or.inr (hyx ▸ List.mem_cons_self ..)
      · refine Or.inl ⟨hheld, hstay.row id hg.row, fun hrev => ?_⟩
        -- only the holder of the row can have updated it
        obtain ⟨w, hw, hid⟩ := replay_revokes h.exchanges hg.row hg.unrevoked hrev
        have hheld' := h.locked w hw id hid
        rw [hg.held] at hheld'
        exact hyx (Option.some.inj hheld')
    · exact Or.inr hclosed

/-- Everybody keeps the discipline of the exchange. -/
def exchangeDiscipline (old : String) (n : Nat) :
    Discipline tokenStore.readCommitted where
  inv := RowBudget old n
  rely := Moves old
  own _ i s := tokenStore.enabled i s = true ∧ RevokesUnrevoked old i s
  guar _ := ExchangeGuarantee old
  refl := .refl old
  trans _ _ _ := .trans
  step _ i s hinv hown hguar := by
    cases i with
    | begin =>
        exact ⟨hinv.of_rows rfl, .of_rows rfl (fun _ h => h) fun _ _ h => Or.inl h⟩
    | exec x buf i =>
        by_cases hclosed : x ∈ s.closed
        · simp only [Store.exec, hclosed, if_true]
          exact ⟨hinv, .refl old s⟩
        · have hfree := hown.1
          simp only [Store.enabled, hclosed, decide_false, Bool.false_or] at hfree
          simp only [Store.exec, hclosed, if_false]
          obtain ⟨hrows, hmoves⟩ := moves_execIn old hfree
          exact ⟨hinv.of_rows hrows, hmoves⟩
    | commit x buf =>
        by_cases hclosed : x ∈ s.closed
        · simp only [Store.exec, hclosed, if_true]
          exact ⟨hinv, .refl old s⟩
        · simp only [Store.exec, hclosed, if_false]
          obtain ⟨hinv', hmoves⟩ := moves_commit hinv (hguar.resolve_left hclosed)
          exact ⟨hinv'.of_rows rfl, hmoves⟩
    | rollback x => exact ⟨hinv.of_rows rfl, moves_close x s⟩
    | auto i =>
        have hrows := immediate_rows hguar s.committed
        exact ⟨hinv.of_rows hrows, .of_rows hrows (fun _ h => h) fun _ _ h => Or.inl h⟩

end Discipline

/-! ## One exchange -/

section Exchange

open Prog

/-- The exchange once the old row has been looked up. -/
def exchangeFound (args : IssueToken) :
    Option YggdrasilToken → Service (IssuedToken × List String)
  | none => .err (.new .invalidToken)
  | some t =>
      if t.revokedAt.isSome then .err (.new .invalidToken)
      else (query (.tokenSetRevoked t.id)).bind fun hit =>
        if hit then onPool .ofAster (issueTokenInConnection args)
        else .err (.ofAster .databaseOperation)

/-- The exchange transaction as steps of the service. -/
theorem refreshTxn_eq (old : String) (args : IssueToken) :
    (Txn.refreshToken old args).body.hoist poolHom id =
      .act (.db (.tokenFindByAccessHash old)) (exchangeFound args) := by
  have hpool : ∀ {α : Type} (p : DbProg α),
      (inTxn .ofAster p).hoist poolHom id = onPool .ofAster p := by
    intro α p
    induction p with
    | ok a => rfl
    | err e => rfl
    | act i k ih =>
        simp only [inTxn, onPool, hoist_act] at ih ⊢
        congr 1
        funext r
        exact ih _
  simp only [Txn.body, refreshTokenTxn, bind_eq, hoist_bind, hpool,
    onPool_revokeByAccessHash]
  simp only [query, step, stmt, act_bind, ok_bind]
  congr 1
  funext found
  cases found with
  | none => rfl
  | some t =>
      dsimp only [exchangeFound]
      split
      · rfl
      · simp only [onPool_tokenSetRevoked, query, step, stmt, act_bind, ok_bind]
        congr 1
        funext hit
        cases hit <;> rfl

/-- The call has revoked the old token. -/
def Exchanged (old : String) (tr : Trace tokenStore.readCommitted) : Prop :=
  ∃ e ∈ tr, ¬ Revoked e.2.committed.db old ∧
    Revoked (tokenStore.exec e.1 e.2).2.committed.db old

variable {old : String} {x id : Nat}

/-- Transaction `x` has updated the old row, which it holds unrevoked, and
has inserted at most `m` tokens. -/
structure Holding (old : String) (x id m : Nat) (buf : tokenStore.Buffer)
    (s : TokenShared) : Prop where
  exchanges : ∀ w ∈ buf, w.1.exchanges = true
  once : insertCount buf ≤ m
  updated : ∃ w ∈ buf, w.1 = .db (.tokenSetRevoked id)
  live : x ∈ s.closed ∨ (Guards old s x id ∧
    ∀ w ∈ buf, ∀ id', w.1 = .db (.tokenSetRevoked id') →
      s.holder (.token id') = some x)

theorem Holding.moves {m : Nat} {buf : tokenStore.Buffer} {s s' : TokenShared}
    (h : Holding old x id m buf s) (hm : Moves old s s') :
    Holding old x id m buf s' := by
  refine ⟨h.exchanges, h.once, h.updated, ?_⟩
  rcases h.live with hclosed | ⟨hg, hlocked⟩
  · exact Or.inl (hm.closed x hclosed)
  · rcases hm.guards x id hg with hg' | hclosed
    · by_cases hclosed : x ∈ s'.closed
      · exact Or.inl hclosed
      · refine Or.inr ⟨hg', fun w hw id' hid => ?_⟩
        exact (hm.locks x _ (hlocked w hw id' hid)).resolve_right hclosed
    · exact Or.inl hclosed

/-- One more statement of the transaction. -/
theorem Holding.exec {m : Nat} {buf : tokenStore.Buffer} {s : TokenShared}
    {i : ServiceStmt} (h : Holding old x id m buf s) (hi : i.exchanges = true)
    (hopen : x ∉ s.closed) (hen : tokenStore.enabled (.exec x buf i) s = true)
    (stamp : Nat) :
    Holding old x id (m + if i.inserts then 1 else 0) (buf ++ [(i, stamp)])
      (tokenStore.execIn x buf i s).2 := by
  simp only [Store.enabled, hopen, decide_false, Bool.false_or] at hen
  have hmoved := h.moves (moves_execIn old hen).2
  have hlive := hmoved.live.resolve_left hopen
  refine ⟨fun w hw => ?_, ?_, ?_, Or.inr ⟨hlive.1, fun w hw id' hid => ?_⟩⟩
  · rcases List.mem_append.mp hw with hw | hw
    · exact h.exchanges w hw
    · rw [List.mem_singleton.mp hw]
      exact hi
  · have hcount := h.once
    simp only [insertCount, List.countP_append, List.countP_singleton] at hcount ⊢
    omega
  · obtain ⟨w, hw, hid⟩ := h.updated
    exact ⟨w, List.mem_append_left _ hw, hid⟩
  · rcases List.mem_append.mp hw with hw | hw
    · exact hlive.2 w hw id' hid
    · rw [List.mem_singleton.mp hw] at hid
      simp only at hid
      subst hid
      exact Store.lock_holds (List.mem_singleton.mpr rfl)

/-- What a call that succeeds has done. -/
def RefreshPost {α : Type} (old : String) (tr : Trace tokenStore.readCommitted)
    (r : Except ServiceError α) (_ : TokenShared) : Prop :=
  ∀ a, r = .ok a → Exchanged old tr

variable {n m : Nat} {α β : Type} {lost : ServiceError}
  {κ : tokenStore.Buffer → α → TokenProg β} {buf : tokenStore.Buffer}
  {tr : Trace tokenStore.readCommitted} {s : TokenShared}

theorem ensures_failed (e : ServiceError) :
    (.err e : TokenProg β).Ensures (exchangeDiscipline old n) (RefreshPost old) tr s :=
  fun _ _ _ _ h => by cases h

/-- A failure inside of the transaction rolls it back. -/
theorem ensures_rolledBack (e : ServiceError) :
    (Store.transact lost x buf (.err e) κ).Ensures (exchangeDiscipline old n)
      (RefreshPost old) tr s :=
  fun _ _ _ _ => ⟨trivial, ensures_failed e⟩

/-- The statement belongs to the exchange and inserts nothing. -/
abbrev Quiet (i : ServiceStmt) : Prop := i.exchanges = true ∧ i.inserts = false

/-- A part of the transaction that inserts nothing. -/
theorem ensures_quiet {p : Service α}
    (hp : p.Within Quiet)
    (hκ : ∀ buf a tr s, RowBudget old n s → Holding old x id m buf s →
      (κ buf a).Ensures (exchangeDiscipline old n) (RefreshPost old) tr s)
    (hinv : RowBudget old n s) (h : Holding old x id m buf s) :
    (Store.transact lost x buf p κ).Ensures (exchangeDiscipline old n)
      (RefreshPost old) tr s := by
  refine Store.ensures_transact (Holding old x id m) (fun _ _ _ hr _ h => h.moves hr)
    ?_ (fun e _ _ _ => ensures_failed e) (fun _ _ => trivial) hκ hp hinv h
  intro buf _ i s hi _ hown hJ
  refine ⟨trivial, fun hopen => ?_⟩
  have hnext := hJ.exec hi.1 hopen hown.1
    (tokenStore.stamp (tokenStore.replay buf s.committed))
  have hzero : ServiceStmt.inserts i = false := hi.2
  rwa [hzero, if_neg Bool.false_ne_true, Nat.add_zero] at hnext

/-- The insert of the replacement. -/
theorem ensures_insert {tokenId : Nat} {input : CreateYggdrasilToken}
    {f : Option YggdrasilToken → Service α}
    (hf : ∀ r buf tr s, RowBudget old n s → Holding old x id (m + 1) buf s →
      (Store.transact lost x buf (f r) κ).Ensures (exchangeDiscipline old n)
        (RefreshPost old) tr s)
    (h : Holding old x id m buf s) :
    (Store.transact lost x buf ((query (.tokenInsert tokenId input)).bind f)
      κ).Ensures (exchangeDiscipline old n) (RefreshPost old) tr s := by
  refine Store.ensures_exec (fun _ _ _ => ensures_failed lost) fun s' hr _ hown => ?_
  refine ⟨trivial, fun hopen hinv' => ?_⟩
  have hnext := (h.moves hr).exec (i := .db (.tokenInsert tokenId input)) rfl hopen
    hown.1 (tokenStore.stamp (tokenStore.replay buf s'.committed))
  exact hf _ _ _ _ hinv' hnext

/-- The commit of a transaction that holds the old row. -/
theorem ensures_commit {a : α} (h : Holding old x id 1 buf s) :
    (Store.commitWith lost x buf a).Ensures (exchangeDiscipline old n)
      (RefreshPost old) tr s := by
  intro s' hr _ _
  have hJ := h.moves hr
  have hguar : x ∈ s'.closed ∨ Committable old s' x buf := by
    rcases hJ.live with hclosed | ⟨hg, hlocked⟩
    · exact Or.inl hclosed
    · exact Or.inr ⟨hJ.exchanges, hlocked, hJ.once, Or.inr ⟨id, hg, hJ.updated⟩⟩
  refine ⟨hguar, ?_⟩
  by_cases hclosed : x ∈ s'.closed
  · simp only [Store.exec, hclosed, if_true]
    exact ensures_failed lost
  · -- the commit itself is the event that revokes the old token
    have hg := (hJ.live.resolve_left hclosed).1
    obtain ⟨w, hw, hid⟩ := hJ.updated
    have hrev := replay_setRevoked hJ.exchanges hw hid hg.row
    have hexchanged : Exchanged old (tr ++ [(.commit x buf, s')]) := by
      refine ⟨_, List.mem_append_right _ (List.mem_singleton.mpr rfl), hg.unrevoked, ?_⟩
      simp only [Store.exec, hclosed, if_false]
      exact hrev
    simp only [Store.exec, hclosed, if_false]
    exact fun _ _ _ _ _ => hexchanged

/-- `issue_token_in_connection` as steps of the service. -/
theorem onPool_issueToken (args : IssueToken) :
    ∃ input : Nat → CreateYggdrasilToken,
    onPool .ofAster (issueTokenInConnection args) =
      (query .now).bind fun now =>
      (onPool .ofAster (Prog.rejectIf (i64Max < args.tokenTtlDays)
        (.numberOutOfRange "yggdrasil token ttl days"))).bind fun _ =>
      (onPool .ofAster (Prog.rejectIf (maxUtc < now + args.tokenTtlDays * msPerDay)
        .panicked)).bind fun _ =>
      (query .tokenNextId).bind fun tokenId =>
      (query (.tokenInsert tokenId (input now))).bind fun row =>
      (onPool .ofAster (DbProg.required .databaseOperation row)).bind fun token =>
      (onPool .ofAster (pruneOldestForUser args.userId args.maxActiveTokens)).bind
        fun pruned => .ok (⟨token.id, args.accessTokenHash⟩, pruned) := by
  refine ⟨fun now =>
    { userId := args.userId
      accessTokenHash := args.accessTokenHash
      clientToken := args.clientToken
      selectedProfileId := args.selectedProfileId
      issuedAt := now
      expiresAt := now + args.tokenTtlDays * msPerDay
      userAgent := args.userAgent
      ipAddress := args.ipAddress }, ?_⟩
  simp only [issueTokenInConnection, tokenCreate, onPool, bind_eq, hoist_bind]
  rfl

theorem quiet_prune (userId keepCount : Nat) :
    (onPool .ofAster (pruneOldestForUser userId keepCount)).Within Quiet := by
  refine Within.hoist (Within.stmt_bind ⟨rfl, rfl⟩ fun tokens => ?_)
  refine Within.bind (Within.forEach (fun token => ?_) _) fun _ => trivial
  refine Within.stmt_bind ⟨rfl, rfl⟩ fun found => ?_
  cases found <;> trivial

/-- The second half of the exchange: issue the replacement and commit. -/
theorem ensures_issue (args : IssueToken) (hinv : RowBudget old n s)
    (h : Holding old x id 0 buf s) :
    (Store.transact lost x buf (onPool .ofAster (issueTokenInConnection args))
      (Store.commitWith lost x)).Ensures (exchangeDiscipline old n)
        (RefreshPost old) tr s := by
  obtain ⟨input, heq⟩ := onPool_issueToken args
  rw [heq, Store.transact_bind]
  refine ensures_quiet ⟨⟨rfl, rfl⟩, fun _ => trivial⟩ ?_ hinv h
  intro buf now tr s hinv h
  rw [Store.transact_bind]
  refine ensures_quiet (Within.hoist Within.rejectIf) ?_ hinv h
  intro buf _ tr s hinv h
  rw [Store.transact_bind]
  refine ensures_quiet (Within.hoist Within.rejectIf) ?_ hinv h
  intro buf _ tr s hinv h
  rw [Store.transact_bind]
  refine ensures_quiet ⟨⟨rfl, rfl⟩, fun _ => trivial⟩ ?_ hinv h
  intro buf tokenId tr s hinv h
  refine ensures_insert ?_ h
  intro row buf tr s hinv h
  have hrequired : (onPool .ofAster
      (DbProg.required .databaseOperation row)).Within Quiet := by
    cases row <;> trivial
  rw [Store.transact_bind]
  refine ensures_quiet hrequired ?_ hinv h
  intro buf token tr s hinv h
  rw [Store.transact_bind]
  refine ensures_quiet (quiet_prune _ _) ?_ hinv h
  intro buf pruned tr s hinv h
  exact ensures_commit h

end Exchange

/-! ## Calls -/

section Calls

open Prog

variable {old : String} {n : Nat} {lost : ServiceError}
  {tr : Trace tokenStore.readCommitted} {s : TokenShared}

theorem row_of_find {db : Db} {t : YggdrasilToken}
    (h : (db.tokens.find? fun t => t.accessTokenHash = old) = some t) :
    IsRow db old t.id := by
  obtain ⟨ht, hhash⟩ := Table.of_find? h
  exact ⟨t, ht, by simpa using hhash, rfl⟩

/-- After the update of the old row, under the promise of the run. -/
theorem holding_updated {x id : Nat} {buf : tokenStore.Buffer} (stamp : Nat)
    (hbuf : ∀ w ∈ buf, w.1.exchanges = true ∧ w.1.inserts = false ∧
      ∀ id, w.1 ≠ .db (.tokenSetRevoked id))
    (hrow : IsRow s.committed.db old id) (hopen : x ∉ s.closed)
    (hpromise : RevokesUnrevoked old (.exec x buf (.db (.tokenSetRevoked id))) s) :
    Holding old x id 0 (buf ++ [(.db (.tokenSetRevoked id), stamp)])
      (tokenStore.execIn x buf (.db (.tokenSetRevoked id)) s).2 := by
  have hunrevoked : ¬ Revoked s.committed.db old := by
    rintro ⟨t, ht, hhash, hrev⟩
    have hid : t.id = id := IsRow.unique ⟨t, ht, hhash, rfl⟩ hrow
    rw [hpromise.resolve_left hopen t ht hid hhash] at hrev
    cases hrev
  have hheld : (tokenStore.execIn x buf (.db (.tokenSetRevoked id)) s).2.holder
      (.token id) = some x := Store.lock_holds (List.mem_singleton.mpr rfl)
  refine ⟨fun w hw => ?_, ?_, ?_,
    Or.inr ⟨⟨hheld, hrow, hunrevoked⟩, fun w hw id' hid => ?_⟩⟩
  · rcases List.mem_append.mp hw with hw | hw
    · exact (hbuf w hw).1
    · rw [List.mem_singleton.mp hw]
      rfl
  · have hzero : insertCount buf = 0 :=
      List.countP_eq_zero.mpr fun w hw => by simp [(hbuf w hw).2.1]
    simp only [insertCount, List.countP_append, List.countP_singleton] at hzero ⊢
    rw [hzero]
    exact Nat.le_refl 0
  · exact ⟨_, List.mem_append_right _ (List.mem_singleton.mpr rfl), rfl⟩
  · rcases List.mem_append.mp hw with hw | hw
    · exact absurd hid ((hbuf w hw).2.2 id')
    · rw [List.mem_singleton.mp hw] at hid
      cases hid
      exact hheld

/-- The exchange of the row that was found: the update of the row takes its
lock, and the run promises that the row is not revoked then. -/
theorem ensures_exchangeFound (args : IssueToken) {x : Nat} {buf : tokenStore.Buffer}
    (hbuf : ∀ w ∈ buf, w.1.exchanges = true ∧ w.1.inserts = false ∧
      ∀ id, w.1 ≠ .db (.tokenSetRevoked id))
    {found : Option YggdrasilToken}
    (hfound : ∀ t, found = some t → IsRow s.committed.db old t.id) :
    (Store.transact lost x buf (exchangeFound args found)
      (Store.commitWith lost x)).Ensures (exchangeDiscipline old n)
        (RefreshPost old) tr s := by
  cases found with
  | none => exact ensures_rolledBack _
  | some t =>
      dsimp only [exchangeFound]
      split
      · exact ensures_rolledBack _
      · refine Store.ensures_exec (fun _ _ _ => ensures_failed lost)
          fun s' hr _ hown => ⟨trivial, fun hopen hinv => ?_⟩
        have hrow := hr.stay.row _ (hfound t rfl)
        have hholding := holding_updated
          (tokenStore.stamp (tokenStore.replay buf s'.committed)) hbuf hrow hopen hown.2
        simp only [ok_bind]
        split
        · exact ensures_issue args hinv hholding
        · exact ensures_rolledBack _

/-- The whole transaction. -/
theorem ensures_refreshTxn (args : IssueToken) :
    (Store.transaction lost
      ((Txn.refreshToken old args).body.hoist poolHom id)).Ensures
        (exchangeDiscipline old n) (RefreshPost old) tr s := by
  rw [refreshTxn_eq]
  intro s₀ _ _ _
  refine ⟨trivial, Store.ensures_exec (fun _ _ _ => ensures_failed lost)
    fun s₁ _ _ _ => ⟨trivial, fun _ _ => ?_⟩⟩
  refine ensures_exchangeFound args (fun w hw => ?_) fun t hfind => row_of_find hfind
  rw [List.mem_singleton.mp hw]
  exact ⟨rfl, rfl, fun id h => by cases h⟩

theorem Exchanged.append {tr' : Trace tokenStore.readCommitted}
    (h : Exchanged old tr) (hpre : tr <+: tr') : Exchanged old tr' := by
  obtain ⟨e, he, hflip⟩ := h
  exact ⟨e, hpre.subset he, hflip⟩

/-- **One exchange.**  A `refresh_token` that succeeds has revoked the old
token itself. -/
theorem ensures_refreshTokenSteps (args : IssueToken) (hinv : RowBudget old n s) :
    (refreshTokenSteps old args).Ensures (exchangeDiscipline old n)
      (RefreshPost old) tr s := by
  refine Ensures.bind hinv ((ensures_refreshTxn args).mono ?_)
  intro tr r s hpost
  cases r with
  | error e => exact fun a h => by cases h
  | ok out =>
      intro hinv
      have hexchanged := hpost out rfl
      refine Ensures.bind hinv (Ensures.forEach (fun _ tr _ => Exchanged old tr)
        ?_ ?_ hinv hexchanged)
      · intro hash _ tr s _ h s' _ _ _
        exact ⟨rfl, fun _ _ _ => h.append (List.prefix_append ..)⟩
      · intro tr s s' _ _ h _ s'' _ _ a _
        exact h

/-- What a returned call has achieved. -/
def CallExchanged (old : String) (tr : Trace tokenStore.readCommitted)
    (r : Except ServiceError (Option IssuedToken)) (_ : TokenShared) : Prop :=
  ∀ a, r = .ok (some a) → Exchanged old tr

theorem ensures_refreshCall (call : RefreshCall) (hinv : RowBudget old n s) :
    (call.body old).Ensures (exchangeDiscipline old n) (CallExchanged old) [] s := by
  cases call with
  | refresh args =>
      refine Ensures.bind hinv ((ensures_refreshTokenSteps args hinv).mono ?_)
      intro tr r s hpost
      cases r with
      | error e => exact fun a h => by cases h
      | ok issued => exact fun _ _ _ _ _ _ => hpost issued rfl
  | tick ms => exact fun _ _ _ _ => ⟨rfl, fun _ _ _ a h => by cases h⟩
  | abort x => exact fun _ _ _ _ => ⟨trivial, fun _ _ _ a h => by cases h⟩

end Calls

/-! ## All exchanges -/

section Runs

open Config

/-- Concurrent exchanges of one access token. -/
abbrev RefreshPool :=
  Config tokenStore.readCommitted ServiceError RefreshCall (Option IssuedToken)

/-- Every update of the old row runs while the row is not revoked. -/
def UpdatesUnrevoked (old : String) (c : RefreshPool) (_ : Nat)
    (i : tokenStore.Stmt) : Prop := RevokesUnrevoked old i c.shared

instance (old : String) (i : tokenStore.Stmt) (s : TokenShared) :
    Decidable (RevokesUnrevoked old i s) := by
  unfold RevokesUnrevoked
  split <;> infer_instance

instance (old : String) (c : RefreshPool) (i : Nat) (st : tokenStore.Stmt) :
    Decidable (UpdatesUnrevoked old c i st) :=
  inferInstanceAs (Decidable (RevokesUnrevoked old st c.shared))

/-- **Single use.**  In every run in which the updates of the old row find it
unrevoked, at most one exchange succeeds and at most one token is added. -/
theorem refresh_once {old : String} {s₀ : ServiceState}
    {sched : List (Action RefreshCall)} {c : RefreshPool}
    (hc : c = (initial (tokenStore.start s₀)).runs (RefreshCall.body old) sched)
    (hadm : Admissible (RefreshCall.body old) (UpdatesUnrevoked old)
      (initial (tokenStore.start s₀)) sched) :
    (∀ i j a b, c.result? i = some (.ok (some a)) →
      c.result? j = some (.ok (some b)) → i = j) ∧
    c.shared.committed.db.tokens.rows.length ≤ s₀.db.tokens.rows.length + 1 := by
  have hgood : Good (exchangeDiscipline old s₀.db.tokens.rows.length)
      (fun _ _ => CallExchanged old) c := by
    rw [hc]
    exact good_runs (D := exchangeDiscipline old s₀.db.tokens.rows.length)
      (fun _ _ _ hguard hen => ⟨hen, hguard⟩)
      (fun _ call _ hinv => ensures_refreshCall call hinv)
      (good_initial (Or.inl (Nat.le_refl _))) hadm
  refine ⟨fun i j a b hi hj => ?_, ?_⟩
  · -- both calls logged an event that revoked the old token: it is one event
    have hevent : ∀ i a, c.result? i = some (.ok (some a)) →
        ∃ e ∈ c.log, e.tid = i ∧ ¬ Revoked e.pre.committed.db old ∧
          Revoked e.post.committed.db old := by
      intro i a hi
      obtain ⟨th, hth, -⟩ : ∃ th, c.threads[i]? = some th ∧
          th.result? = some (.ok (some a)) := by
        simpa [Config.result?, Option.bind_eq_some_iff] using hi
      obtain ⟨⟨st, s⟩, he, hflip⟩ := hgood.result hth hi a rfl
      obtain ⟨ev, hev, htid, rfl, rfl⟩ := mem_trace.mp he
      exact ⟨ev, hev, htid, hflip⟩
    obtain ⟨e₁, he₁, rfl, hpre₁, hpost₁⟩ := hevent i a hi
    obtain ⟨e₂, he₂, rfl, hpre₂, hpost₂⟩ := hevent j b hj
    have hstable : ∀ s s' : TokenShared, Moves old s s' →
        Revoked s.committed.db old → Revoked s'.committed.db old :=
      fun s s' hm => hm.stay.revoked
    rw [hgood.flip_unique hstable he₁ he₂ hpre₁ hpost₁ hpre₂ hpost₂]
  · rcases hgood.inv with hle | ⟨-, hle⟩
    · exact Nat.le_succ_of_le hle
    · exact hle

/-- An exchange of the token `t` for one with the given hash. -/
def exchangeT (hash : String) : RefreshCall :=
  .refresh ⟨1, "client", none, 7, 10, none, none, hash⟩

/-- The first exchange runs to its end before the second one starts. -/
def oneAfterTheOther : List (Action RefreshCall) :=
  .spawn (exchangeT "a") :: List.replicate 9 (.run 0) ++
    .spawn (exchangeT "b") :: List.replicate 3 (.run 1)

/-- The pool after a schedule of exchanges of the token `t`. -/
def exchangesOfT (sched : List (Action RefreshCall)) : RefreshPool :=
  (initial (tokenStore.start oneToken)).runs (RefreshCall.body "t") sched

/-- Run one after the other, the first exchange succeeds and no other does. -/
theorem refresh_once_sequential :
    (exchangesOfT oneAfterTheOther).result? 0 = some (.ok (some ⟨2, "a"⟩)) ∧
      ∀ j b, (exchangesOfT oneAfterTheOther).result? j = some (.ok (some b)) →
        0 = j := by
  have hfirst : (exchangesOfT oneAfterTheOther).result? 0 =
      some (.ok (some ⟨2, "a"⟩)) := by decide +kernel
  refine ⟨hfirst, fun j b hj => ?_⟩
  exact (refresh_once rfl (by decide +kernel)).1 0 j ⟨2, "a"⟩ b hfirst hj

/-- Both exchanges read the row before either of them revokes it. -/
def bothReadFirst : List (Action RefreshCall) :=
  [.spawn (exchangeT "a"), .spawn (exchangeT "b"), .run 0, .run 0, .run 1, .run 1] ++
    List.replicate 7 (.run 0) ++ List.replicate 7 (.run 1)

/-- **Two exchanges of one token**: both calls return success, and two
replacements exist. -/
theorem refresh_twice :
    (exchangesOfT bothReadFirst).result? 0 = some (.ok (some ⟨2, "a"⟩)) ∧
      (exchangesOfT bothReadFirst).result? 1 = some (.ok (some ⟨3, "b"⟩)) ∧
      (exchangesOfT bothReadFirst).shared.committed.db.tokens.rows.length = 3 := by
  decide +kernel

end Runs

end AsterYggdrasil
