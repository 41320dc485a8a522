import AsterYggdrasil.Yggdrasil.Footprint

/-!
# How token rows change

Everything a SQL statement can do to the token table is one of six effects
(`TokenEffect`); `exec_tokenEffect` is the only place that looks at the
statements one by one.  From it follow the facts the protocol rests on: token
rows stay, keep their identity and never become unrevoked (`TokensKept`), and
a token becomes revoked only through one of the three revoking updates.
-/

namespace AsterYggdrasil

open Interleave Relational

/-- The rows an `UPDATE … SET revoked_at` of this statement hits. -/
def DbStmt.revokes : DbStmt → Option (YggdrasilToken → Bool)
  | .tokenSetRevoked id => some fun t => t.id = id
  | .tokenRevokeAllForUser userId => some (YggdrasilToken.activeFor userId)
  | .tokenRevokeAllForSelectedProfile profileId =>
      some (YggdrasilToken.activeOn profileId)
  | _ => none

/-- The statement deletes an account. -/
def DbStmt.deletesAccount : DbStmt → Bool
  | .userDelete _ => true
  | _ => false

/-- What one statement can do to the token table and the clock. -/
inductive TokenEffect (i : DbStmt) (db db' : Db) : Prop
  | keep (rows : db'.tokens.rows = db.tokens.rows) (clock : db.now ≤ db'.now)
  | insert (id : Nat) (input : CreateYggdrasilToken)
      (rows : db'.tokens.rows = db.tokens.rows ++ [Db.newToken id input])
      (clock : db'.now = db.now)
      (free : ∀ t ∈ db.tokens.rows, t.accessTokenHash ≠ input.accessTokenHash)
      (which : i = .tokenInsert id input)
  | revoke (p : YggdrasilToken → Bool) (which : i.revokes = some p)
      (rows : db'.tokens.rows =
        db.tokens.rows.map fun t => if p t then t.revoke db.now else t)
      (clock : db'.now = db.now)
  | invalidate (p : YggdrasilToken → Bool)
      (rows : db'.tokens.rows = db.tokens.rows.map fun t =>
        if p t then t.temporarilyInvalidate db.now else t)
      (clock : db'.now = db.now)
  | unselect (p : YggdrasilToken → Bool)
      (rows : db'.tokens.rows = db.tokens.rows.map fun t =>
        if p t then { t with selectedProfileId := none } else t)
      (clock : db'.now = db.now)
  | account (h : i.deletesAccount = true)
      (rows : ∀ t' ∈ db'.tokens.rows, ∃ t ∈ db.tokens.rows,
        t' = t ∨ t' = { t with selectedProfileId := none })
      (clock : db'.now = db.now)

theorem insert_free {tokens tokens' : Table tokenSchema} {id : Nat}
    {input : CreateYggdrasilToken}
    (h : tokens.insert? (Db.newToken id input) = some tokens') :
    tokens'.rows = tokens.rows ++ [Db.newToken id input] ∧
      ∀ t ∈ tokens.rows, t.accessTokenHash ≠ input.accessTokenHash := by
  obtain ⟨hrows, -, -, hclash⟩ := Table.insert?_eq_some h
  refine ⟨hrows, fun t ht heq => ?_⟩
  have := hclash t ht
  simp [tokenSchema, Db.newToken, heq] at this

/-- Every statement has one of the effects. -/
theorem exec_tokenEffect (i : DbStmt) (db : Db) :
    TokenEffect i db (i.exec db).2 := by
  cases i with
  | tokenInsert id input =>
      simp only [DbStmt.exec]
      split
      · split
        · next tokens h =>
            obtain ⟨hrows, hfree⟩ := insert_free h
            exact .insert id input hrows rfl hfree rfl
        · exact .keep rfl (Nat.le_refl _)
      · exact .keep rfl (Nat.le_refl _)
  | tokenSetRevoked id => exact .revoke _ rfl rfl rfl
  | tokenRevokeAllForUser userId => exact .revoke _ rfl rfl rfl
  | tokenRevokeAllForSelectedProfile profileId => exact .revoke _ rfl rfl rfl
  | tokenTemporarilyInvalidateAllForSelectedProfile profileId =>
      exact .invalidate _ rfl rfl
  | profileDelete id => exact .unselect _ rfl rfl
  | userDelete id =>
      refine .account rfl (fun t' ht' => ?_) rfl
      obtain ⟨t, ht, rfl⟩ := List.mem_map.mp (List.mem_filter.mp ht').1
      refine ⟨t, ht, ?_⟩
      split
      · exact Or.inr rfl
      · exact Or.inl rfl
  | advanceClock ms => exact .keep rfl (Nat.le_add_right _ _)
  | userInsert input =>
      simp only [DbStmt.exec]
      split <;> exact .keep rfl (Nat.le_refl _)
  | userUpdate id patch =>
      simp only [DbStmt.exec]
      split
      · exact .keep rfl (Nat.le_refl _)
      · split <;> exact .keep rfl (Nat.le_refl _)
  | profileInsert input =>
      simp only [DbStmt.exec]
      split
      · exact .keep rfl (Nat.le_refl _)
      · split <;> exact .keep rfl (Nat.le_refl _)
  | profileUpdateName id name renameCount =>
      simp only [DbStmt.exec]
      split
      · exact .keep rfl (Nat.le_refl _)
      · split <;> exact .keep rfl (Nat.le_refl _)
  | banInsert input =>
      simp only [DbStmt.exec]
      split
      · exact .keep rfl (Nat.le_refl _)
      · split <;> exact .keep rfl (Nat.le_refl _)
  | _ => exact .keep rfl (Nat.le_refl _)

/-! ## Rows stay -/

/-- A revocation time lies in the past. -/
def ClockOk (db : Db) : Prop :=
  ∀ t ∈ db.tokens.rows, ∀ r, t.revokedAt = some r → r ≤ db.now

/-- `t'` is a later version of the row `t`. -/
structure LaterRow (t t' : YggdrasilToken) : Prop where
  id : t'.id = t.id
  userId : t'.userId = t.userId
  hash : t'.accessTokenHash = t.accessTokenHash
  clientToken : t'.clientToken = t.clientToken
  expiresAt : t'.expiresAt = t.expiresAt
  marked : t.temporarilyInvalidatedAt.isSome → t'.temporarilyInvalidatedAt.isSome
  revoked : ∀ r, t.revokedAt = some r → ∃ r', t'.revokedAt = some r' ∧ r ≤ r'

theorem LaterRow.refl (t : YggdrasilToken) : LaterRow t t :=
  ⟨rfl, rfl, rfl, rfl, rfl, fun h => h, fun r h => ⟨r, h, Nat.le_refl r⟩⟩

theorem LaterRow.trans {a b c : YggdrasilToken} (hab : LaterRow a b)
    (hbc : LaterRow b c) : LaterRow a c := by
  refine ⟨hbc.id.trans hab.id, hbc.userId.trans hab.userId, hbc.hash.trans hab.hash,
    hbc.clientToken.trans hab.clientToken, hbc.expiresAt.trans hab.expiresAt,
    fun h => hbc.marked (hab.marked h), fun r h => ?_⟩
  obtain ⟨r', h', hle⟩ := hab.revoked r h
  obtain ⟨r'', h'', hle'⟩ := hbc.revoked r' h'
  exact ⟨r'', h'', Nat.le_trans hle hle'⟩

/-- Every token row is still there, in a later version, and the clock has not
gone back. -/
structure TokensKept (db db' : Db) : Prop where
  clock : db.now ≤ db'.now
  rows : ∀ t ∈ db.tokens.rows, ∃ t' ∈ db'.tokens.rows, LaterRow t t'

theorem TokensKept.refl (db : Db) : TokensKept db db :=
  ⟨Nat.le_refl _, fun t ht => ⟨t, ht, LaterRow.refl t⟩⟩

theorem TokensKept.trans {a b c : Db} (hab : TokensKept a b)
    (hbc : TokensKept b c) : TokensKept a c := by
  refine ⟨Nat.le_trans hab.clock hbc.clock, fun t ht => ?_⟩
  obtain ⟨t', ht', hl⟩ := hab.rows t ht
  obtain ⟨t'', ht'', hl'⟩ := hbc.rows t' ht'
  exact ⟨t'', ht'', hl.trans hl'⟩

/-- A row-wise update that keeps every row's identity and revocation. -/
theorem TokensKept.of_map {db db' : Db} {f : YggdrasilToken → YggdrasilToken}
    (hrows : db'.tokens.rows = db.tokens.rows.map f) (hclock : db'.now = db.now)
    (hf : ∀ t ∈ db.tokens.rows, LaterRow t (f t)) : TokensKept db db' := by
  refine ⟨Nat.le_of_eq hclock.symm, fun t ht => ?_⟩
  exact ⟨f t, hrows ▸ List.mem_map_of_mem ht, hf t ht⟩

/-- Revocation moves a row to a later version: its time is the present. -/
theorem LaterRow.revoke {db : Db} (hclock : ClockOk db) {t : YggdrasilToken}
    (ht : t ∈ db.tokens.rows) : LaterRow t (t.revoke db.now) :=
  ⟨rfl, rfl, rfl, rfl, rfl, fun h => h, fun r h => ⟨db.now, rfl, hclock t ht r h⟩⟩

/-- **Rows stay.**  A statement that does not delete an account keeps every
token row, and revocation times stay in the past. -/
theorem TokenEffect.kept {i : DbStmt} {db db' : Db} (h : TokenEffect i db db')
    (hi : i.deletesAccount = false) (hclock : ClockOk db) :
    ClockOk db' ∧ TokensKept db db' := by
  cases h with
  | keep rows clock =>
      refine ⟨fun t ht r hr => ?_, clock, fun t ht => ⟨t, rows ▸ ht, .refl t⟩⟩
      exact Nat.le_trans (hclock t (rows ▸ ht) r hr) clock
  | insert id input rows clock free which =>
      refine ⟨fun t ht r hr => ?_, Nat.le_of_eq clock.symm, fun t ht => ?_⟩
      · rw [rows, List.mem_append, List.mem_singleton] at ht
        rcases ht with ht | rfl
        · exact clock ▸ hclock t ht r hr
        · cases hr
      · exact ⟨t, rows ▸ List.mem_append_left _ ht, .refl t⟩
  | revoke p which rows clock =>
      refine ⟨fun t ht r hr => ?_, .of_map rows clock fun t ht => ?_⟩
      · obtain ⟨a, ha, rfl⟩ := List.mem_map.mp (rows ▸ ht)
        rw [clock]
        split at hr
        · cases hr; exact Nat.le_refl _
        · exact hclock a ha r hr
      · split
        · exact .revoke hclock ht
        · exact .refl t
  | invalidate p rows clock =>
      refine ⟨fun t ht r hr => ?_, .of_map rows clock fun t ht => ?_⟩
      · obtain ⟨a, ha, rfl⟩ := List.mem_map.mp (rows ▸ ht)
        refine clock ▸ hclock a ha r ?_
        split at hr <;> exact hr
      · split
        · exact ⟨rfl, rfl, rfl, rfl, rfl, fun _ => rfl, fun r h => ⟨r, h, Nat.le_refl r⟩⟩
        · exact .refl t
  | unselect p rows clock =>
      refine ⟨fun t ht r hr => ?_, .of_map rows clock fun t ht => ?_⟩
      · obtain ⟨a, ha, rfl⟩ := List.mem_map.mp (rows ▸ ht)
        refine clock ▸ hclock a ha r ?_
        split at hr <;> exact hr
      · split
        · exact ⟨rfl, rfl, rfl, rfl, rfl, fun h => h, fun r h => ⟨r, h, Nat.le_refl r⟩⟩
        · exact .refl t
  | account h rows clock => simp [hi] at h

/-! ## Becoming revoked -/

/-- The token of this hash has a row, and the row is revoked. -/
def Revoked (db : Db) (hash : String) : Prop :=
  ∃ t ∈ db.tokens.rows, t.accessTokenHash = hash ∧ t.revokedAt.isSome

/-- The token of this hash has a row. -/
def Issued (db : Db) (hash : String) : Prop :=
  ∃ t ∈ db.tokens.rows, t.accessTokenHash = hash

instance (db : Db) (hash : String) : Decidable (Revoked db hash) :=
  inferInstanceAs (Decidable (∃ t ∈ db.tokens.rows, _))

instance (db : Db) (hash : String) : Decidable (Issued db hash) :=
  inferInstanceAs (Decidable (∃ t ∈ db.tokens.rows, _))

theorem Revoked.kept {db db' : Db} {hash : String} (h : Revoked db hash)
    (hk : TokensKept db db') : Revoked db' hash := by
  obtain ⟨t, ht, hhash, hrev⟩ := h
  obtain ⟨t', ht', hl⟩ := hk.rows t ht
  obtain ⟨r, hr⟩ := Option.isSome_iff_exists.mp hrev
  obtain ⟨r', hr', -⟩ := hl.revoked r hr
  exact ⟨t', ht', hl.hash.trans hhash, by simp [hr']⟩

theorem Issued.kept {db db' : Db} {hash : String} (h : Issued db hash)
    (hk : TokensKept db db') : Issued db' hash := by
  obtain ⟨t, ht, hhash⟩ := h
  obtain ⟨t', ht', hl⟩ := hk.rows t ht
  exact ⟨t', ht', hl.hash.trans hhash⟩

/-- One row per hash. -/
theorem row_unique {db : Db} {t t' : YggdrasilToken} (ht : t ∈ db.tokens.rows)
    (ht' : t' ∈ db.tokens.rows) (h : t.accessTokenHash = t'.accessTokenHash) :
    t = t' :=
  db.tokens.eq_of_clash ht ht' (by simp [tokenSchema, h])

/-- One row per id. -/
theorem row_unique_id {db : Db} {t t' : YggdrasilToken} (ht : t ∈ db.tokens.rows)
    (ht' : t' ∈ db.tokens.rows) (h : t.id = t'.id) : t = t' :=
  db.tokens.eq_of_ident ht ht' h

/-- **Becoming revoked.**  A token that a statement revokes has a row that the
statement's update hits. -/
theorem TokenEffect.revoked {i : DbStmt} {db db' : Db} {hash : String}
    (h : TokenEffect i db db') (hi : i.deletesAccount = false)
    (hpre : ¬ Revoked db hash) (hpost : Revoked db' hash) :
    ∃ p, i.revokes = some p ∧
      ∃ t ∈ db.tokens.rows, t.accessTokenHash = hash ∧ p t = true := by
  obtain ⟨t', ht', hhash, hrev⟩ := hpost
  cases h with
  | keep rows clock => exact absurd ⟨t', rows ▸ ht', hhash, hrev⟩ hpre
  | insert id input rows clock free which =>
      rw [rows, List.mem_append, List.mem_singleton] at ht'
      rcases ht' with ht' | rfl
      · exact absurd ⟨t', ht', hhash, hrev⟩ hpre
      · cases hrev
  | revoke p which rows clock =>
      obtain ⟨t, ht, rfl⟩ := List.mem_map.mp (rows ▸ ht')
      by_cases hp : p t = true
      · exact ⟨p, which, t, ht,
          by simpa [hp, YggdrasilToken.revoke] using hhash, hp⟩
      · simp only [hp] at hhash hrev
        exact absurd ⟨t, ht, hhash, hrev⟩ hpre
  | invalidate p rows clock =>
      obtain ⟨t, ht, rfl⟩ := List.mem_map.mp (rows ▸ ht')
      refine absurd ⟨t, ht, ?_, ?_⟩ hpre
      · split at hhash <;> exact hhash
      · split at hrev <;> exact hrev
  | unselect p rows clock =>
      obtain ⟨t, ht, rfl⟩ := List.mem_map.mp (rows ▸ ht')
      refine absurd ⟨t, ht, ?_, ?_⟩ hpre
      · split at hhash <;> exact hhash
      · split at hrev <;> exact hrev
  | account h rows clock => simp [hi] at h

/-! ## Transactions -/

section Transactions

open Prog

theorem DbStmt.keepsAccounts {i : DbStmt} (h : i.kind ≠ .deleteAccount) :
    i.deletesAccount = false := by
  cases i <;> first | rfl | exact absurd rfl h

theorem DbStmt.revokesNothing {i : DbStmt} (h : i.kind ≠ .revoke) :
    i.revokes = none := by
  cases i <;> first | rfl | exact absurd rfl h

/-- No transaction of the service deletes an account. -/
theorem Txn.keepsAccounts (t : Txn) {i : DbStmt}
    (hi : i.kind = .plain ∨ i.kind ∈ t.kinds) : i.deletesAccount = false := by
  refine i.keepsAccounts (ne_kind hi (by decide) ?_)
  cases t <;> simp [Txn.kinds]

/-- A transaction keeps the token rows. -/
theorem Txn.commit_kept (t : Txn) {db : Db} (hclock : ClockOk db) :
    ClockOk (t.commit db).2 ∧ TokensKept db (t.commit db).2 := by
  let r : Db → Db → Prop := fun a b => ClockOk a → ClockOk b ∧ TokensKept a b
  have htrans : ∀ a b c, r a b → r b c → r a c := by
    intro a b c hab hbc ha
    obtain ⟨hb, hab⟩ := hab ha
    obtain ⟨hc, hbc⟩ := hbc hb
    exact ⟨hc, hab.trans hbc⟩
  have hrefl : ∀ a, r a a := fun a ha => ⟨ha, .refl a⟩
  have hstep : ∀ i : DbStmt, i.kind = .plain ∨ i.kind ∈ t.kinds →
      ∀ db, r db (i.exec db).2 :=
    fun i hi db => (exec_tokenEffect i db).kept (t.keepsAccounts hi)
  exact t.commit_respects hrefl htrans hstep db hclock

/-! ## What a transaction revokes -/

/-- Between `db` and `db'` only tokens of `hashes` were revoked. -/
def RevokedOnly (db db' : Db) (hashes : List String) : Prop :=
  ∀ hash, Revoked db' hash → Revoked db hash ∨ hash ∈ hashes

theorem RevokedOnly.refl (db : Db) (hashes : List String) :
    RevokedOnly db db hashes := fun _ h => Or.inl h

theorem RevokedOnly.trans {a b c : Db} {hs ks : List String}
    (hab : RevokedOnly a b hs) (hbc : RevokedOnly b c ks)
    (hsub : ∀ hash ∈ hs, hash ∈ ks) : RevokedOnly a c ks := by
  intro hash hc
  rcases hbc hash hc with hb | hmem
  · rcases hab hash hb with ha | hmem
    · exact Or.inl ha
    · exact Or.inr (hsub hash hmem)
  · exact Or.inr hmem

/-- A statement that is no revoking update revokes nothing. -/
theorem revokedOnly_exec {i : DbStmt} (hi : i.deletesAccount = false)
    (hr : i.revokes = none) (db : Db) (hashes : List String) :
    RevokedOnly db (i.exec db).2 hashes := by
  intro hash hpost
  by_contra hcon
  obtain ⟨hpre, -⟩ := not_or.mp hcon
  obtain ⟨p, hp, -⟩ := (exec_tokenEffect i db).revoked hi hpre hpost
  simp [hr] at hp

/-- The update of one row revokes the token of that row. -/
theorem revokedOnly_setRevoked {db : Db} {t : YggdrasilToken}
    (ht : t ∈ db.tokens.rows) {hashes : List String}
    (hmem : t.accessTokenHash ∈ hashes) :
    RevokedOnly db ((DbStmt.tokenSetRevoked t.id).exec db).2 hashes := by
  intro hash hpost
  by_contra hcon
  obtain ⟨hpre, hnot⟩ := not_or.mp hcon
  obtain ⟨p, hp, t', ht', rfl, hpt⟩ :=
    (exec_tokenEffect _ db).revoked rfl hpre hpost
  cases hp
  have heq : t' = t := row_unique_id ht' ht (by simpa using hpt)
  exact hnot (heq ▸ hmem)

/-- Pruning reports every token it revokes. -/
theorem wp_pruneOldestForUser {db : Db} (hclock : ClockOk db)
    (userId keepCount : Nat) :
    (pruneOldestForUser userId keepCount).Wp dbMachine (fun r db' =>
      ∀ pruned, r = .ok pruned → RevokedOnly db db' pruned) db := by
  let sorted := ((DbStmt.tokenListActiveByIssuedDesc userId).exec db).1
  have hsorted : ∀ t ∈ sorted.drop keepCount, t ∈ db.tokens.rows := by
    intro t ht
    have := List.mem_of_mem_drop ht
    simp only [sorted, DbStmt.exec, List.mem_insertionSort, Table.mem_select] at this
    exact this.1
  let hashes := (sorted.drop keepCount).map (·.accessTokenHash)
  -- the rows still to be updated are later versions of rows of the list
  let I : List YggdrasilToken → Db → Prop := fun xs db' =>
    ClockOk db' ∧ TokensKept db db' ∧ RevokedOnly db db' hashes ∧
      ∀ t ∈ xs, t ∈ sorted.drop keepCount
  refine wp_stmt_bind.mpr (wp_bind.mpr ?_)
  refine (wp_forEach I ?_ ?_ ⟨hclock, .refl db, .refl db _, fun t h => h⟩)
  · rintro t xs db' ⟨hclock', hkept, honly, hxs⟩
    have ht := hxs t List.mem_cons_self
    obtain ⟨t', ht', hlater⟩ := hkept.rows t (hsorted t ht)
    have heff := exec_tokenEffect (.tokenSetRevoked t'.id) db'
    obtain ⟨hclock'', hkept'⟩ := heff.kept rfl hclock'
    have honly' : RevokedOnly db' _ hashes := revokedOnly_setRevoked ht' <| by
      rw [hlater.hash]
      exact List.mem_map_of_mem ht
    rw [hlater.id] at hclock'' hkept' honly'
    refine wp_bind.mpr ?_
    simp only [sql, stmt, wp_act, wp_ok]
    split
    · exact ⟨hclock'', hkept.trans hkept', honly.trans honly' fun _ h => h,
        fun a ha => hxs a (List.mem_cons_of_mem _ ha)⟩
    · intro pruned h
      cases h
  · rintro db' ⟨-, -, honly, -⟩ pruned h
    cases h
    exact honly

/-- Creating a token revokes nothing. -/
theorem wp_tokenCreate {db : Db} (hclock : ClockOk db) (input : CreateYggdrasilToken) :
    (tokenCreate input).Wp dbMachine (fun _ db' =>
      ClockOk db' ∧ RevokedOnly db db' []) db := by
  let db₁ := (DbStmt.tokenNextId.exec db).2
  have hclock₁ : ClockOk db₁ := ((exec_tokenEffect _ db).kept rfl hclock).1
  have honly₁ : RevokedOnly db db₁ [] := revokedOnly_exec rfl rfl db _
  let id := (DbStmt.tokenNextId.exec db).1
  have hclock₂ := ((exec_tokenEffect (.tokenInsert id input) db₁).kept rfl hclock₁).1
  have honly₂ : RevokedOnly db₁ _ [] :=
    revokedOnly_exec (i := .tokenInsert id input) rfl rfl db₁ _
  refine wp_stmt_bind.mpr (wp_stmt_bind.mpr ?_)
  cases ((DbStmt.tokenInsert id input).exec db₁).1 <;>
    exact ⟨hclock₂, honly₁.trans honly₂ fun _ h => h⟩

/-- Issuing a token reports every token it revokes. -/
theorem wp_issueTokenInConnection {db : Db} (hclock : ClockOk db)
    (args : IssueToken) :
    (issueTokenInConnection args).Wp dbMachine (fun r db' =>
      ∀ out, r = .ok out → RevokedOnly db db' out.2) db := by
  refine wp_stmt_bind.mpr (wp_rejectIf (fun _ out h => by cases h) fun _ => ?_)
  refine wp_rejectIf (fun _ out h => by cases h) fun _ => ?_
  refine wp_bind.mpr ((wp_tokenCreate hclock _).mono ?_)
  rintro r db₁ ⟨hclock₁, honly₁⟩
  cases r with
  | error e => exact fun out h => by cases h
  | ok token =>
      refine wp_bind.mpr ((wp_pruneOldestForUser hclock₁ _ _).mono ?_)
      intro r db₂ honly₂
      cases r with
      | error e => exact fun out h => by cases h
      | ok pruned =>
          rintro out ⟨⟩
          exact honly₁.trans (honly₂ pruned rfl) fun _ h => absurd h List.not_mem_nil

/-- Revoking by hash revokes at most the token of that hash. -/
theorem wp_revokeByAccessHash {db : Db} (hclock : ClockOk db) (hash : String) :
    (revokeByAccessHash hash).Wp dbMachine (fun _ db' =>
      ClockOk db' ∧ RevokedOnly db db' [hash]) db := by
  refine wp_stmt_bind.mpr ?_
  cases hfind : ((DbStmt.tokenFindByAccessHash hash).exec db).1 with
  | none => exact ⟨hclock, .refl db _⟩
  | some t =>
      obtain ⟨ht, hhash⟩ := Table.of_find? hfind
      rw [decide_eq_true_eq] at hhash
      simp only
      split
      · exact ⟨hclock, .refl db _⟩
      · have hclock' := ((exec_tokenEffect (.tokenSetRevoked t.id) db).kept rfl hclock).1
        have honly : RevokedOnly db _ [hash] :=
          revokedOnly_setRevoked ht (List.mem_singleton.mpr hhash)
        refine wp_bind.mpr (wp_stmt_bind.mpr ?_)
        split <;> exact ⟨hclock', honly⟩

/-- Converting errors does not change what a transaction does. -/
theorem wp_inTxn {α : Type} {g : AsterError → ServiceError} {p : DbProg α}
    {Q : Except ServiceError α → Db → Prop} {db : Db} :
    (inTxn g p).Wp dbMachine Q db ↔
      p.Wp dbMachine (fun r db => Q (r.mapError g) db) db := by
  induction p generalizing db with
  | ok a => exact Iff.rfl
  | err e => exact Iff.rfl
  | act i k ih => exact ih _

/-- **The refresh transaction** revokes the presented token and the tokens it
reports as pruned. -/
theorem wp_refreshTokenTxn {db : Db} (hclock : ClockOk db) (old : String)
    (args : IssueToken) :
    (refreshTokenTxn old args).Wp dbMachine (fun r db' =>
      ∀ out, r = .ok out → RevokedOnly db db' (out.2 ++ [old])) db := by
  refine wp_bind.mpr (wp_inTxn.mpr ((wp_revokeByAccessHash hclock old).mono ?_))
  rintro r db₁ ⟨hclock₁, honly₁⟩
  cases r with
  | error e => exact fun out h => by cases h
  | ok revoked =>
      refine wp_rejectIf (fun _ out h => by cases h) fun _ => ?_
      refine wp_inTxn.mpr ((wp_issueTokenInConnection hclock₁ args).mono ?_)
      intro r db₂ honly₂ out h
      cases r with
      | error e => cases h
      | ok out' =>
          cases h
          intro hash hpost
          rcases honly₂ out rfl hash hpost with hmid | hmem
          · rcases honly₁ hash hmid with hpre | hmem
            · exact Or.inl hpre
            · exact Or.inr (List.mem_append_right _ hmem)
          · exact Or.inr (List.mem_append_left _ hmem)

/-- What a committed transaction revokes, as the service learns it. -/
def Txn.reported : (t : Txn) → t.Result → List String
  | .issueToken _, out => out.2
  | .refreshToken old _, out => out.2 ++ [old]
  | .renameProfile _ _, _ => []
  | .updateUser _ _, _ => []

/-- A transaction without a revoking statement revokes nothing. -/
theorem Txn.run_revokedOnly (t : Txn) (h : .revoke ∉ t.kinds) (db : Db) :
    RevokedOnly db (t.body.run dbMachine db).2 [] := by
  refine Within.run_respects (M := dbMachine) (r := fun a b => RevokedOnly a b [])
    (fun db => .refl db []) (fun _ _ _ hab hbc => hab.trans hbc fun _ h => h)
    (t.uses_body.mono fun i hi db => ?_) db
  have hquiet := i.revokesNothing (ne_kind hi (by decide) h)
  exact revokedOnly_exec (t.keepsAccounts hi) hquiet db []

/-- A transaction revokes nothing but what it reports, and a failed one
revokes nothing. -/
theorem Txn.commit_revokedOnly (t : Txn) {db : Db} (hclock : ClockOk db) :
    match (t.commit db).1 with
    | .ok out => RevokedOnly db (t.commit db).2 (t.reported out)
    | .error _ => (t.commit db).2 = db := by
  have hrun : t.body.Wp dbMachine (fun r db' =>
      ∀ out, r = .ok out → RevokedOnly db db' (t.reported out)) db := by
    cases t with
    | issueToken args =>
        refine wp_inTxn.mpr ((wp_issueTokenInConnection hclock args).mono ?_)
        intro r db' h out hout
        cases r with
        | error e => cases hout
        | ok a => cases hout; exact h _ rfl
    | refreshToken old args => exact wp_refreshTokenTxn hclock old args
    | renameProfile profile newName =>
        exact fun _ _ => Txn.run_revokedOnly (.renameProfile profile newName)
          (by simp [Txn.kinds]) db
    | updateUser id input =>
        exact fun _ _ => Txn.run_revokedOnly (.updateUser id input)
          (by simp [Txn.kinds]) db
  unfold Txn.commit
  unfold Wp at hrun
  generalize t.body.run dbMachine db = out at hrun ⊢
  obtain ⟨r, db'⟩ := out
  cases r with
  | ok a => exact hrun a rfl
  | error e => rfl

end Transactions

/-! ## Small states -/

/-- Passwords compared as they are. -/
def plainPassword (password hash : String) : Except AsterError Bool :=
  .ok (password = hash)

/-- An account with the token `t`, issued and not yet cached. -/
def oneToken : ServiceState where
  db :=
    { users := ⟨[⟨1, "u", "alice", none, "pw", .user, .active, false, 1, none⟩], 2,
        by decide, by decide⟩
      profiles := .empty
      tokens := ⟨[⟨1, 1, "t", "client", none, 0, 1000, none, none, none, none⟩], 2,
        by decide, by decide⟩
      bans := .empty
      profileTextures := []
      forwardServers := []
      now := 10 }
  tokenCache := fun _ => none
  joinCache := fun _ => none
  forwardCache := none
  nameSummaries := fun _ => none

/-- An account with one profile and no token. -/
def onePlayer : ServiceState where
  db :=
    { users := ⟨[⟨1, "u", "alice", none, "pw", .user, .active, false, 1, none⟩], 2,
        by decide, by decide⟩
      profiles := ⟨[⟨1, 1, "uuid1", "Alice", "alice", .localProfile, .default, "", 0, 0, 0⟩],
        2, by decide, by decide⟩
      tokens := .empty
      bans := .empty
      profileTextures := []
      forwardServers := []
      now := 10 }
  tokenCache := fun _ => none
  joinCache := fun _ => none
  forwardCache := none
  nameSummaries := fun _ => none

/-- A policy for small runs. -/
def smallPolicy : RuntimeYggdrasilPolicy := ⟨true, 7, 10, 3, 3, false, ""⟩

/-- A request that draws the access token `a`. -/
def drawing (a : String) : RequestContext := ⟨smallPolicy, none, none, a, "client"⟩

end AsterYggdrasil
