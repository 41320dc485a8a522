import AsterYggdrasil.Interleave.Pool
import AsterYggdrasil.Yggdrasil.TokenHistory

/-!
# Revocation of access tokens

A token is *clean* when its row is revoked and the shared cache holds nothing
for it: `tokenForOperation` then refuses it.  Every revoking operation leaves
the tokens it revoked clean by the time it returns.

Cleanness lasts because a call puts a token into the cache only if it has found
the token dirty: a call that starts later finds it clean.  Nothing in the code
stops the calls that had started before: `tokenForOperation` writes the row it
read before the revocation back after it, and `deleteProfileForUser` evicts
before it revokes only.  `CacheDiscipline` names the two kinds of step that go
wrong; runs in which no call from before does them keep the promise.
-/

namespace AsterYggdrasil

open Interleave Relational Prog

/-- The row of the token is revoked and the cache does not know the token. -/
def Clean (s : ServiceState) (hash : String) : Prop :=
  Revoked s.db hash ∧ s.tokenCache hash = none

/-- One of the statements of the trace revoked the token. -/
def Flips (tr : Trace serviceMachine) (hash : String) : Prop :=
  ∃ e ∈ tr, ¬ Revoked e.2.db hash ∧ Revoked (e.1.exec e.2).2.db hash

/-- One of the statements of the trace ran while the token was not clean. -/
def SeenDirty (hash : String) (tr : Trace serviceMachine) : Prop :=
  ∃ e ∈ tr, ¬ Clean e.2 hash

/-- The token goes into the cache only while its row is not revoked, and the
tokens of a profile are revoked together only while this one is not cached. -/
def CacheDiscipline (hash : String) : ServiceStmt → ServiceState → Prop
  | .setToken hash' _, s => hash' = hash → ¬ Revoked s.db hash
  | .db (.tokenRevokeAllForSelectedProfile profileId), s =>
      ∀ t ∈ s.db.tokens.rows, t.activeOn profileId = true → t.accessTokenHash = hash →
        s.tokenCache hash = none
  | _, _ => True

instance (hash : String) (i : ServiceStmt) (s : ServiceState) :
    Decidable (CacheDiscipline hash i s) := by
  unfold CacheDiscipline
  split <;> infer_instance

/-- The step deletes no account. -/
def ServiceStmt.keepsAccounts : ServiceStmt → Bool
  | .db i => !i.deletesAccount
  | _ => true

/-- Every step that deletes no account keeps the token rows. -/
theorem exec_kept {i : ServiceStmt} {s : ServiceState}
    (hi : i.keepsAccounts = true) (hclock : ClockOk s.db) :
    ClockOk (i.exec s).2.db ∧ TokensKept s.db (i.exec s).2.db := by
  cases i with
  | db i =>
      have hi : i.deletesAccount = false := by simpa [ServiceStmt.keepsAccounts] using hi
      exact (exec_tokenEffect i s.db).kept hi hclock
  | txn t => exact t.commit_kept hclock
  | _ => exact ⟨hclock, .refl s.db⟩

variable {hash : String} {tr : Trace serviceMachine} {s s' : ServiceState}

/-- What has been seen dirty stays seen. -/
theorem SeenDirty.append (h : SeenDirty hash tr) (rest : Trace serviceMachine) :
    SeenDirty hash (tr ++ rest) := by
  obtain ⟨e, he, hdirty⟩ := h
  exact ⟨e, List.mem_append_left _ he, hdirty⟩

/-- What a step owes to the others: it follows the discipline, or its call has
found the token clean all along. -/
def FillsWhenSeen (hash : String) (tr : Trace serviceMachine) (i : ServiceStmt)
    (s : ServiceState) : Prop :=
  CacheDiscipline hash i s ∨ Clean s hash ∧ ¬ SeenDirty hash tr

/-- The step puts the token into the cache. -/
def ServiceStmt.fills (hash : String) : ServiceStmt → Bool
  | .setToken hash' _ => hash' = hash
  | _ => false

/-- **Cleanness lasts** when the step is careful, and when only a call that has
seen the token dirty puts it into the cache. -/
theorem Clean.exec {i : ServiceStmt} (h : Clean s hash) (hi : i.keepsAccounts = true)
    (hclock : ClockOk s.db) (hown : FillsWhenSeen hash tr i s)
    (hfill : i.fills hash = true → SeenDirty hash tr) : Clean (i.exec s).2 hash := by
  refine ⟨h.1.kept (exec_kept hi hclock).2, ?_⟩
  cases i with
  | setToken hash' token =>
      by_cases heq : hash' = hash
      · rcases hown with hdisc | ⟨-, hclean⟩
        · exact absurd h.1 (hdisc heq)
        · exact absurd (hfill (by simp [ServiceStmt.fills, heq])) hclean
      · have hne : hash ≠ hash' := fun h => heq h.symm
        simpa [ServiceStmt.exec, hne] using h.2
  | deleteToken hash' =>
      by_cases heq : hash = hash'
      · simp [ServiceStmt.exec, heq]
      · simpa [ServiceStmt.exec, heq] using h.2
  | _ => exact h.2

/-- The discipline of the calls, as far as one token goes. -/
def tokenDiscipline (hash : String) : Discipline serviceMachine where
  inv s := ClockOk s.db
  rely s s' := TokensKept s.db s'.db ∧ (Clean s hash → Clean s' hash)
  own := FillsWhenSeen hash
  guar tr i _ := i.keepsAccounts = true ∧ (i.fills hash = true → SeenDirty hash tr)
  refl s := ⟨.refl s.db, id⟩
  trans _ _ _ hab hbc := ⟨hab.1.trans hbc.1, fun h => hbc.2 (hab.2 h)⟩
  step _ _ _ hinv hown hguar :=
    ⟨(exec_kept hguar.1 hinv).1, (exec_kept hguar.1 hinv).2,
      fun h => h.exec hguar.1 hinv hown hguar.2⟩

/-! ## Programs that leave what they revoke clean -/

/-- If the trace revoked the token, it is clean. -/
def Settled (hash : String) (tr : Trace serviceMachine) (s : ServiceState) : Prop :=
  Flips tr hash → Clean s hash

/-- Started with the token settled, the program ends so. -/
def KeepsSettled (hash : String) {α : Type} (p : Service α) : Prop :=
  ∀ tr s, ClockOk s.db → Settled hash tr s →
    p.Ensures (tokenDiscipline hash) (fun tr _ s => Settled hash tr s) tr s

/-- The others do not unsettle a token. -/
theorem Settled.rely (h : Settled hash tr s) (hr : (tokenDiscipline hash).rely s s') :
    Settled hash tr s' := fun hf => hr.2 (h hf)

theorem settled_nil (hash : String) (s : ServiceState) : Settled hash [] s := by
  intro ⟨e, he, _⟩
  cases he

/-- A step adds to what has been revoked only what it revokes itself. -/
theorem flips_append {i : ServiceStmt} :
    Flips (tr ++ [(i, s)]) hash ↔
      Flips tr hash ∨ (¬ Revoked s.db hash ∧ Revoked (i.exec s).2.db hash) := by
  constructor
  · intro ⟨e, he, hpre, hpost⟩
    rcases List.mem_append.mp he with he | he
    · exact Or.inl ⟨e, he, hpre, hpost⟩
    · rw [List.mem_singleton.mp he] at hpre hpost
      exact Or.inr ⟨hpre, hpost⟩
  · intro h
    rcases h with ⟨e, he, h⟩ | h
    · exact ⟨e, List.mem_append_left _ he, h⟩
    · exact ⟨(i, s), List.mem_append_right _ (List.mem_singleton_self _), h⟩

/-- A step that does not revoke the token keeps it settled. -/
theorem Settled.step {i : ServiceStmt} (h : Settled hash tr s) (hclock : ClockOk s.db)
    (hown : FillsWhenSeen hash tr i s)
    (hguar : i.keepsAccounts = true ∧ (i.fills hash = true → SeenDirty hash tr))
    (hnone : RevokedOnly s.db (i.exec s).2.db []) :
    Settled hash (tr ++ [(i, s)]) (i.exec s).2 := by
  intro hf
  rcases flips_append.mp hf with hf | ⟨hpre, hpost⟩
  · exact (h hf).exec hguar.1 hclock hown hguar.2
  · rcases hnone hash hpost with hr | hr
    · exact absurd hr hpre
    · cases hr

/-- The kinds of steps that revoke nothing and cache no token. -/
def harmlessKinds : List StepKind :=
  [.plain, .setJoinSession, .rename, .deleteProfile, .updateUser]

theorem exec_harmless {i : ServiceStmt} (hi : i.kind ∈ harmlessKinds) (hclock : ClockOk s.db) :
    (i.keepsAccounts = true ∧ i.fills hash = false) ∧
      RevokedOnly s.db (i.exec s).2.db [] := by
  cases i with
  | db i =>
      have hquiet : i.deletesAccount = false ∧ i.revokes = none := by
        cases i <;> first | exact ⟨rfl, rfl⟩ | exact absurd hi (by simp [harmlessKinds,
          ServiceStmt.kind, DbStmt.kind])
      exact ⟨⟨by simp [ServiceStmt.keepsAccounts, hquiet.1], rfl⟩,
        revokedOnly_exec hquiet.1 hquiet.2 s.db []⟩
  | txn t =>
      refine ⟨⟨rfl, rfl⟩, ?_⟩
      have hcommit := t.commit_revokedOnly hclock
      cases t with
      | issueToken args => simp [harmlessKinds, ServiceStmt.kind] at hi
      | refreshToken old args => simp [harmlessKinds, ServiceStmt.kind] at hi
      | renameProfile profile newName =>
          simp only [ServiceStmt.exec]
          split at hcommit
          · exact hcommit
          · rw [hcommit]; exact .refl _ _
      | updateUser id input =>
          simp only [ServiceStmt.exec]
          split at hcommit
          · exact hcommit
          · rw [hcommit]; exact .refl _ _
  | setToken hash' token => simp [harmlessKinds, ServiceStmt.kind] at hi
  | _ => exact ⟨⟨rfl, rfl⟩, .refl _ _⟩

/-- A step that does not cache the token owes nothing more. -/
theorem owes_nothing {i : ServiceStmt} (hkeep : i.keepsAccounts = true)
    (hfills : i.fills hash = false) :
    i.keepsAccounts = true ∧ (i.fills hash = true → SeenDirty hash tr) :=
  ⟨hkeep, fun h => by rw [hfills] at h; cases h⟩

/-- A program of harmless steps keeps the token settled. -/
theorem KeepsSettled.of_uses {α : Type} {kinds : List StepKind} {p : Service α}
    (hp : Uses kinds p) (hkinds : kinds ⊆ harmlessKinds) : KeepsSettled hash p := by
  induction p with
  | ok a => exact fun tr s _ hs s' hr _ => hs.rely hr
  | err e => exact fun tr s _ hs s' hr _ => hs.rely hr
  | act i k ih =>
      intro tr s _ hs s' hr hinv hown
      have hi : ServiceStmt.kind i ∈ harmlessKinds := by
        rcases hp.1 with hplain | hmem
        · rw [hplain]
          exact List.mem_cons_self ..
        · exact hkinds hmem
      obtain ⟨⟨hkeep, hfills⟩, hnone⟩ :
          (ServiceStmt.keepsAccounts i = true ∧ ServiceStmt.fills hash i = false) ∧
            RevokedOnly s'.db (ServiceStmt.exec i s').2.db [] := exec_harmless hi hinv
      have hguar : ServiceStmt.keepsAccounts i = true ∧
          (ServiceStmt.fills hash i = true → SeenDirty hash tr) := owes_nothing hkeep hfills
      refine ⟨hguar, ih _ (hp.2 _) _ _ (exec_kept hkeep hinv).1 ?_⟩
      exact (hs.rely hr).step hinv hown hguar hnone

theorem KeepsSettled.of_plain {α : Type} {p : Service α} (hp : Plain p) :
    KeepsSettled hash p := .of_uses (hp.uses []) (by simp)

theorem KeepsSettled.bind {α β : Type} {p : Service α} {f : α → Service β}
    (hp : KeepsSettled hash p) (hf : ∀ a, KeepsSettled hash (f a)) :
    KeepsSettled hash (p.bind f) := by
  intro tr s hinv hs
  apply Ensures.bind hinv
  refine (hp tr s hinv hs).mono fun tr r s hs => ?_
  cases r with
  | ok a => exact fun hinv => hf a tr s hinv hs
  | error e => exact hs

theorem KeepsSettled.attempt {α : Type} {p : Service α} (hp : KeepsSettled hash p) :
    KeepsSettled hash (p.attempt : Service (Except ServiceError α)) :=
  fun tr s hinv hs => (hp tr s hinv hs).attempt

theorem KeepsSettled.ok {α : Type} (a : α) : KeepsSettled hash (.ok a : Service α) :=
  .of_plain trivial

theorem KeepsSettled.rejectIf (c : Bool) (e : ServiceError) :
    KeepsSettled hash (Prog.rejectIf c e : Service Unit) :=
  .of_plain Within.rejectIf

/-! ## The revoking functions -/

/-- If the trace revoked the token, it is clean, or still listed for eviction. -/
def SettledBut (hash : String) (hashes : List String) (tr : Trace serviceMachine)
    (s : ServiceState) : Prop :=
  Flips tr hash → Clean s hash ∨ (hash ∈ hashes ∧ Revoked s.db hash)

theorem SettledBut.rely {hashes : List String} (h : SettledBut hash hashes tr s)
    (hr : (tokenDiscipline hash).rely s s') : SettledBut hash hashes tr s' := by
  intro hf
  rcases h hf with hclean | ⟨hmem, hrev⟩
  · exact Or.inl (hr.2 hclean)
  · exact Or.inr ⟨hmem, hrev.kept hr.1⟩

/-- With nothing left to evict the token is settled. -/
theorem settledBut_nil : SettledBut hash [] tr s ↔ Settled hash tr s := by
  constructor
  · intro h hf
    rcases h hf with hclean | ⟨hmem, -⟩
    · exact hclean
    · cases hmem
  · exact fun h hf => Or.inl (h hf)

/-- A step that revokes at most `hashes` leaves at most those to evict. -/
theorem Settled.step_but {i : ServiceStmt} {hashes : List String} (h : Settled hash tr s)
    (hclock : ClockOk s.db) (hown : FillsWhenSeen hash tr i s)
    (hguar : i.keepsAccounts = true ∧ (i.fills hash = true → SeenDirty hash tr))
    (honly : RevokedOnly s.db (i.exec s).2.db hashes) :
    SettledBut hash hashes (tr ++ [(i, s)]) (i.exec s).2 := by
  intro hf
  rcases flips_append.mp hf with hf | ⟨hpre, hpost⟩
  · exact Or.inl ((h hf).exec hguar.1 hclock hown hguar.2)
  · rcases honly hash hpost with hr | hmem
    · exact absurd hr hpre
    · exact Or.inr ⟨hmem, hpost⟩

/-- A step that changes nothing leaves the same tokens to evict. -/
theorem SettledBut.read {i : ServiceStmt} {hashes : List String}
    (h : SettledBut hash hashes tr s) (hread : (i.exec s).2 = s) :
    SettledBut hash hashes (tr ++ [(i, s)]) (i.exec s).2 := by
  intro hf
  rw [hread]
  rcases flips_append.mp hf with hf | ⟨hpre, hpost⟩
  · exact h hf
  · rw [hread] at hpost
    exact absurd hpost hpre

/-- Evicting one token takes it off the list, and makes it clean if it is
revoked. -/
theorem ensures_deleteToken {evicted : String} {hashes : List String}
    (h : SettledBut hash (evicted :: hashes) tr s) :
    (step (.deleteToken evicted)).Ensures (tokenDiscipline hash)
      (fun tr r s' => r = .ok () ∧ SettledBut hash hashes tr s' ∧
        (evicted = hash → Revoked s.db hash → Clean s' hash)) tr s := by
  intro s₁ hr hinv hown
  refine ⟨owes_nothing rfl rfl, fun s₂ hr₂ _ => ⟨rfl, SettledBut.rely ?_ hr₂, ?_⟩⟩
  · intro hf
    rcases flips_append.mp hf with hf | ⟨hpre, hpost⟩
    · rcases h.rely hr hf with hclean | ⟨hmem, hrev⟩
      · exact Or.inl (hclean.exec rfl hinv hown nofun)
      · by_cases heq : hash = evicted
        · exact Or.inl ⟨hrev, by simp [ServiceStmt.exec, heq]⟩
        · exact Or.inr ⟨(List.mem_cons.mp hmem).resolve_left heq, hrev⟩
    · exact absurd hpost hpre
  · intro heq hrev
    refine hr₂.2 ⟨hrev.kept hr.1, ?_⟩
    simp [ServiceStmt.exec, heq]

/-- **Eviction settles.**  If the token is settled or about to be evicted, it is
settled after the eviction. -/
theorem ensures_evict {hashes : List String} (hinv : ClockOk s.db)
    (h : SettledBut hash hashes tr s) :
    (invalidateTokenCacheHashes hashes).Ensures (tokenDiscipline hash)
      (fun tr _ s => Settled hash tr s) tr s := by
  refine Ensures.forEach (SettledBut hash) ?_ ?_ hinv h
  · intro x xs tr s _ h
    refine (ensures_deleteToken h).mono fun tr r s hpost => ?_
    obtain ⟨rfl, hs, -⟩ := hpost
    exact hs
  · exact fun tr s s' hr _ h => settledBut_nil.mp (h.rely hr)

/-- A transaction followed by the eviction of what it reports. -/
theorem KeepsSettled.txn_evict {α : Type} {t : Txn} {f : t.Result → Service α}
    (hashes : t.Result → List String)
    (hmem : ∀ out, ∀ x ∈ t.reported out, x ∈ hashes out)
    (hf : ∀ out tr s, ClockOk s.db → SettledBut hash (hashes out) tr s →
      (f out).Ensures (tokenDiscipline hash) (fun tr _ s => Settled hash tr s) tr s) :
    KeepsSettled hash ((withTransaction t).bind f) := by
  intro tr s hinv hs
  refine Ensures.bind hinv ?_
  intro s₁ hr hinv₁ hown
  refine ⟨owes_nothing rfl rfl, ?_⟩
  have hcommit := t.commit_revokedOnly hinv₁
  have hs₁ := hs.rely hr
  simp only [ServiceStmt.exec]
  cases hout : (t.commit s₁.db).1 with
  | error e =>
      rw [hout] at hcommit
      intro s₂ hr₂ _
      refine (hs₁.step hinv₁ hown (owes_nothing rfl rfl) ?_).rely hr₂
      simp only [ServiceStmt.exec, hcommit]
      exact .refl _ _
  | ok out =>
      rw [hout] at hcommit
      intro s₂ hr₂ hinv₂
      refine fun _ => hf out _ s₂ hinv₂ ?_
      have honly : RevokedOnly s₁.db ((ServiceStmt.txn t).exec s₁).2.db (hashes out) :=
        fun x hx => (hcommit x hx).imp_right (hmem out x)
      exact (hs₁.step_but hinv₁ hown (owes_nothing rfl rfl) honly).rely hr₂

theorem keepsSettled_issueToken (args : IssueToken) :
    KeepsSettled hash (issueToken args) := by
  refine KeepsSettled.txn_evict (fun out => out.2) (fun _ _ h => h) fun out tr s hinv h => ?_
  apply Ensures.bind hinv
  refine (ensures_evict hinv h).mono fun tr r s hs => ?_
  cases r with
  | ok a => exact fun _ s' hr _ => hs.rely hr
  | error e => exact hs

theorem keepsSettled_refreshToken (old : String) (args : IssueToken) :
    KeepsSettled hash (refreshToken old args) := by
  refine KeepsSettled.txn_evict (fun out => out.2 ++ [old]) (fun _ _ h => h)
    fun out tr s hinv h => ?_
  apply Ensures.bind hinv
  refine (ensures_evict hinv h).mono fun tr r s hs => ?_
  cases r with
  | ok a => exact fun _ s' hr _ => hs.rely hr
  | error e => exact hs

/-- The rows a `find` by hash returns. -/
theorem of_findByAccessHash {db : Db} {hash : String} {t : YggdrasilToken}
    (h : ((DbStmt.tokenFindByAccessHash hash).exec db).1 = some t) :
    t ∈ db.tokens.rows ∧ t.accessTokenHash = hash := by
  obtain ⟨ht, hhash⟩ := Table.of_find? h
  exact ⟨ht, by simpa using hhash⟩

/-- Setting the revocation time of a row that was read earlier. -/
theorem ensures_tokenSetRevoked {g : AsterError → ServiceError} {t : YggdrasilToken}
    (ht : t ∈ s.db.tokens.rows) (hs : Settled hash tr s) :
    (onPool g (tokenSetRevoked t.id)).Ensures (tokenDiscipline hash)
      (fun tr r s' => r = .ok () ∧ SettledBut hash [t.accessTokenHash] tr s' ∧
        Revoked s'.db t.accessTokenHash) tr s := by
  rw [onPool_tokenSetRevoked]
  refine Ensures.stmt_bind fun s₁ hr hinv hown => ⟨owes_nothing rfl rfl, fun _ => ?_⟩
  -- the update hits the later version of the row
  obtain ⟨t', ht', hlater⟩ := hr.1.rows t ht
  have honly : RevokedOnly s₁.db _ [t.accessTokenHash] :=
    revokedOnly_setRevoked ht' (List.mem_singleton.mpr hlater.hash)
  rw [hlater.id] at honly
  have hbut := (hs.rely hr).step_but (i := .db (.tokenSetRevoked t.id)) hinv hown
    (owes_nothing rfl rfl) honly
  have hrev : Revoked ((ServiceStmt.db (.tokenSetRevoked t.id)).exec s₁).2.db
      t.accessTokenHash := by
    refine ⟨t'.revoke s₁.db.now, ?_, hlater.hash, rfl⟩
    refine List.mem_map.mpr ⟨t', ht', ?_⟩
    simp [hlater.id]
  have hfound : (serviceMachine.exec (.db (.tokenSetRevoked t.id)) s₁).1 = true :=
    List.find?_isSome.mpr ⟨t', ht', by simp [hlater.id]⟩
  rw [hfound]
  exact fun s₂ hr₂ _ => ⟨rfl, hbut.rely hr₂, hrev.kept hr₂.1⟩

/-- Revoking by hash leaves at most that token to evict, and it is revoked
afterwards if it had been issued. -/
theorem ensures_revokeByAccessHash {g : AsterError → ServiceError} {access : String}
    (hs : Settled hash tr s) :
    (onPool g (revokeByAccessHash access)).Ensures (tokenDiscipline hash)
      (fun tr r s' => (∃ b, r = .ok b) ∧ SettledBut hash [access] tr s' ∧
        (Issued s.db access → Revoked s'.db access)) tr s := by
  rw [onPool_revokeByAccessHash]
  refine Ensures.stmt_bind fun s₁ hr₁ hinv₁ hown₁ => ⟨owes_nothing rfl rfl, fun _ => ?_⟩
  have hs₁ := (hs.rely hr₁).step (i := .db (.tokenFindByAccessHash access)) hinv₁ hown₁
    (owes_nothing rfl rfl) (.refl _ _)
  have hbut : SettledBut hash [access] _ s₁ := fun hf => Or.inl (hs₁ hf)
  cases hfind : (serviceMachine.exec (.db (.tokenFindByAccessHash access)) s₁).1 with
  | none =>
      refine fun s₂ hr₂ _ => ⟨⟨_, rfl⟩, hbut.rely hr₂, fun hissued => ?_⟩
      obtain ⟨t, ht, hhash⟩ := hissued.kept hr₁.1
      have := Table.find?_eq_none.mp hfind t ht
      simp [hhash] at this
  | some t =>
      obtain ⟨ht, rfl⟩ := of_findByAccessHash hfind
      dsimp only
      split
      · next hrev =>
          refine fun s₂ hr₂ _ => ⟨⟨_, rfl⟩, hbut.rely hr₂, fun _ => ?_⟩
          have hrevoked : Revoked s₁.db t.accessTokenHash := ⟨t, ht, rfl, hrev⟩
          exact hrevoked.kept hr₂.1
      · apply Ensures.bind hinv₁
        refine (ensures_tokenSetRevoked ht hs₁).mono fun tr r s₂ hpost => ?_
        obtain ⟨rfl, hbut, hrev⟩ := hpost
        exact fun _ s₃ hr₃ _ =>
          ⟨⟨_, rfl⟩, hbut.rely hr₃, fun _ => hrev.kept hr₃.1⟩

/-- `revoke_by_access_token` leaves its token clean if it had been issued. -/
theorem ensures_revokeByAccessToken {access : String} (hinv : ClockOk s.db)
    (hs : Settled hash tr s) :
    (revokeByAccessToken access).Ensures (tokenDiscipline hash)
      (fun tr _ s' => Settled hash tr s' ∧
        (access = hash → Issued s.db hash → Clean s' hash)) tr s := by
  apply Ensures.bind hinv
  refine (ensures_revokeByAccessHash hs).mono fun tr r s₁ hpost => ?_
  obtain ⟨⟨b, rfl⟩, hbut, hrev⟩ := hpost
  intro _
  refine (ensures_deleteToken hbut).mono fun tr r s₂ hpost => ?_
  obtain ⟨-, hbut, hclean⟩ := hpost
  refine ⟨settledBut_nil.mp hbut, fun heq hissued => ?_⟩
  subst heq
  exact hclean rfl (hrev hissued)

/-- The list of recently revoked hashes has every token of the user that was
revoked since. -/
theorem mem_recentlyRevoked {db : Db} {userId since : Nat} {hash : String} :
    hash ∈ ((DbStmt.tokenListRecentRevokedHashesForUser userId since).exec db).1 ↔
      ∃ t ∈ db.tokens.rows, t.accessTokenHash = hash ∧ t.userId = userId ∧
        ∃ r, t.revokedAt = some r ∧ since ≤ r := by
  simp only [DbStmt.exec, List.mem_map, Table.mem_select,
    YggdrasilToken.revokedSince, Bool.and_eq_true, decide_eq_true_eq]
  constructor
  · rintro ⟨t, ⟨ht, hu, hr⟩, rfl⟩
    cases hrev : t.revokedAt with
    | none => simp [hrev] at hr
    | some r => exact ⟨t, ht, rfl, hu, r, hrev, by simpa [hrev] using hr⟩
  · rintro ⟨t, ht, rfl, hu, r, hr, hle⟩
    exact ⟨t, ⟨ht, hu, by simpa [hr] using hle⟩, rfl⟩

theorem mem_sortDedup {hashes : List String} {hash : String} :
    hash ∈ sortDedup hashes ↔ hash ∈ hashes := by
  simp only [sortDedup, List.mem_dedup, List.mem_insertionSort]

theorem not_contains {hashes : List String} {hash : String} (h : hash ∉ hashes) :
    (!hashes.contains hash) = true := by
  simpa using h

/-- A token that the bulk update revokes shows up in the list of recent
revocations taken after it, and not in the one taken before it. -/
theorem revokedOnly_revokeAllForUser {userId since : Nat} {db₃ db₄ db₅ : Db}
    (hkept : TokensKept db₃ db₄) (hsince : since ≤ db₄.now) {hashes : List String}
    (hlater : TokensKept ((DbStmt.tokenRevokeAllForUser userId).exec db₄).2 db₅)
    (hmem : ∀ hash,
      hash ∈ ((DbStmt.tokenListRecentRevokedHashesForUser userId since).exec db₅).1 →
      hash ∉ ((DbStmt.tokenListRecentRevokedHashesForUser userId since).exec db₃).1 →
      hash ∈ hashes) :
    RevokedOnly db₄ ((DbStmt.tokenRevokeAllForUser userId).exec db₄).2 hashes := by
  intro hash hpost
  by_contra hcon
  obtain ⟨hpre, hnot⟩ := not_or.mp hcon
  obtain ⟨p, hp, t, ht, rfl, hpt⟩ := (exec_tokenEffect _ db₄).revoked rfl hpre hpost
  cases hp
  obtain ⟨huser, -⟩ : t.userId = userId ∧ t.unrevoked = true := by
    simpa [YggdrasilToken.activeFor] using hpt
  refine hnot (hmem _ (mem_recentlyRevoked.mpr ?_) fun halready => hpre ?_)
  · have hrow : t.revoke db₄.now ∈
        ((DbStmt.tokenRevokeAllForUser userId).exec db₄).2.tokens.rows :=
      List.mem_map.mpr ⟨t, ht, by simp [hpt]⟩
    obtain ⟨t', ht', hl⟩ := hlater.rows _ hrow
    obtain ⟨r, hr, hle⟩ := hl.revoked db₄.now rfl
    exact ⟨t', ht', hl.hash, hl.userId.trans huser, r, hr, Nat.le_trans hsince hle⟩
  · obtain ⟨t', ht', hhash, -, r, hr, -⟩ := mem_recentlyRevoked.mp halready
    have hrev : Revoked db₃ t.accessTokenHash := ⟨t', ht', hhash, by simp [hr]⟩
    exact hrev.kept hkept

/-- `revoke_all_for_user_returning_hashes` reports every token it revokes: the
ones that were active before, and the ones issued meanwhile. -/
theorem ensures_revokeAllForUser {g : AsterError → ServiceError} {userId : Nat}
    (hs : Settled hash tr s) :
    (onPool g (revokeAllForUserReturningHashes userId)).Ensures (tokenDiscipline hash)
      (fun tr r s' => ∃ out, r = .ok out ∧ SettledBut hash out.2 tr s') tr s := by
  rw [onPool_revokeAllForUser]
  refine Ensures.stmt_bind fun s₁ hr₁ hinv₁ hown₁ => ⟨owes_nothing rfl rfl, fun _ => ?_⟩
  have hs₁ := (hs.rely hr₁).step (i := .db (.tokenListActiveHashesForUser userId)) hinv₁ hown₁
    (owes_nothing rfl rfl) (.refl _ _)
  refine Ensures.stmt_bind fun s₂ hr₂ hinv₂ hown₂ => ⟨owes_nothing rfl rfl, fun _ => ?_⟩
  have hs₂ := (hs₁.rely hr₂).step (i := .db .now) hinv₂ hown₂ (owes_nothing rfl rfl) (.refl _ _)
  refine Ensures.stmt_bind fun s₃ hr₃ hinv₃ hown₃ => ⟨owes_nothing rfl rfl, fun _ => ?_⟩
  have hs₃ := (hs₂.rely hr₃).step
    (i := .db (.tokenListRecentRevokedHashesForUser userId (s₂.db.now - 10000)))
    hinv₃ hown₃ (owes_nothing rfl rfl) (.refl _ _)
  refine Ensures.stmt_bind fun s₄ hr₄ hinv₄ hown₄ => ⟨owes_nothing rfl rfl, fun _ => ?_⟩
  refine Ensures.stmt_bind fun s₅ hr₅ hinv₅ _ => ⟨owes_nothing rfl rfl, fun _ => ?_⟩
  refine fun s₆ hr₆ _ => ⟨_, rfl, SettledBut.rely ?_ hr₆⟩
  refine SettledBut.read (SettledBut.rely ?_ hr₅) rfl
  refine (hs₃.rely hr₄).step_but hinv₄ hown₄ (owes_nothing rfl rfl) ?_
  have hsince : s₂.db.now - 10000 ≤ s₄.db.now :=
    Nat.le_trans (Nat.sub_le _ _) (Nat.le_trans hr₃.1.clock hr₄.1.clock)
  refine revokedOnly_revokeAllForUser hr₄.1 hsince hr₅.1 fun x hrecent halready => ?_
  apply mem_sortDedup.mpr
  exact List.mem_append_right _ (List.mem_filter.mpr ⟨hrecent, not_contains halready⟩)

theorem keepsSettled_revokeAllForUser (userId : Nat) :
    KeepsSettled hash (revokeAllForUser userId) := by
  intro tr s hinv hs
  apply Ensures.bind hinv
  refine (ensures_revokeAllForUser hs).mono fun tr r s₁ hpost => ?_
  obtain ⟨out, rfl, hbut⟩ := hpost
  exact fun hinv₁ => ensures_evict hinv₁ hbut

/-- The bulk update of a profile's tokens: either the discipline says that the
token is not cached, or it was clean already. -/
theorem keepsSettled_revokeAllForProfile (profileId : Nat) :
    KeepsSettled hash (query (.tokenRevokeAllForSelectedProfile profileId)) := by
  intro tr s _ hs s₁ hr hinv hown
  refine ⟨owes_nothing rfl rfl, fun s₂ hr₂ _ => Settled.rely ?_ hr₂⟩
  intro hf
  rcases flips_append.mp hf with hf | ⟨hpre, hpost⟩
  · exact (hs.rely hr hf).exec rfl hinv hown nofun
  · obtain ⟨p, hp, t, ht, hhash, hpt⟩ :=
      (exec_tokenEffect _ s₁.db).revoked rfl hpre hpost
    cases hp
    rcases hown with hdisc | ⟨hclean, -⟩
    · exact ⟨hpost, hdisc t ht hpt hhash⟩
    · exact absurd hclean.1 hpre

theorem keepsSettled_deleteProfileForUser (userId : Nat) (uuid : String) :
    KeepsSettled hash (deleteProfileForUser userId uuid) := by
  refine (KeepsSettled.of_plain (plain_ensureMayManageProfiles _)).bind fun _ => ?_
  refine KeepsSettled.bind (.of_plain ⟨rfl, fun _ => trivial⟩) fun found => ?_
  cases found with
  | none => exact .ok none
  | some profile =>
      refine (KeepsSettled.rejectIf _ _).bind fun _ => ?_
      refine (KeepsSettled.of_plain (plain_invalidateForProfile _)).bind fun _ => ?_
      refine KeepsSettled.bind (.of_plain ⟨rfl, fun _ => trivial⟩) fun _ => ?_
      refine (keepsSettled_revokeAllForProfile _).bind fun _ => ?_
      exact (KeepsSettled.of_uses (uses_profileDeleteById _ _) (by decide)).bind fun _ => .ok _

/-! ## Presenting a token -/

/-- The token that a lookup finds is revoked, unless the lookup has seen it dirty:
of a clean token the cache knows nothing, and the row is revoked. -/
theorem settled_lookupToken (access : String) (hs : Settled hash tr s) :
    (lookupToken access).Ensures (tokenDiscipline hash) (fun tr r s' =>
      Settled hash tr s' ∧ ∀ t, r = .ok t → access = hash →
        SeenDirty hash tr ∨ t.revokedAt.isSome) tr s := by
  refine Ensures.stmt_bind fun s₁ hr₁ hinv₁ hown₁ => ⟨owes_nothing rfl rfl, fun _ => ?_⟩
  have hs₁ := (hs.rely hr₁).step (i := .getToken access) hinv₁ hown₁ (owes_nothing rfl rfl)
    (.refl _ _)
  cases hget : (serviceMachine.exec (.getToken access) s₁).1 with
  | some token =>
      refine fun s₂ hr₂ _ => ⟨hs₁.rely hr₂, fun t _ heq => Or.inl ?_⟩
      refine ⟨_, List.mem_append_right _ (List.mem_singleton_self _), fun hclean => ?_⟩
      have hcached : s₁.tokenCache access = some token := hget
      rw [heq, hclean.2] at hcached
      cases hcached
  | none =>
      refine Ensures.stmt_bind fun s₂ hr₂ hinv₂ hown₂ => ⟨owes_nothing rfl rfl, fun _ => ?_⟩
      have hs₂ := (hs₁.rely hr₂).step (i := .db (.tokenFindByAccessHash access)) hinv₂ hown₂
        (owes_nothing rfl rfl) (.refl _ _)
      cases hfind : (serviceMachine.exec (.db (.tokenFindByAccessHash access)) s₂).1 with
      | none => exact fun s₃ hr₃ _ => ⟨hs₂.rely hr₃, fun t ht => by cases ht⟩
      | some token =>
          refine fun s₃ hr₃ _ => ⟨hs₂.rely hr₃, fun t ht heq => ?_⟩
          cases ht
          obtain ⟨hrow, hhash⟩ := of_findByAccessHash hfind
          by_cases hclean : Clean s₂ hash
          · obtain ⟨t', ht', hhash', hrev⟩ := hclean.1
            have hsame : t' = token := row_unique ht' hrow (hhash'.trans (heq ▸ hhash).symm)
            exact Or.inr (hsame ▸ hrev)
          · exact Or.inl ⟨_, List.mem_append_right _ (List.mem_singleton_self _), hclean⟩

/-- **Accepting and caching.**  `tokenForOperation` accepts the token, and puts it
into the cache, only if it has seen it dirty. -/
theorem settled_tokenForOperation (access : String) (client : Option String) (allow : Bool)
    (hinv : ClockOk s.db) (hs : Settled hash tr s) :
    (tokenForOperation access client allow).Ensures (tokenDiscipline hash) (fun tr r s' =>
      Settled hash tr s' ∧ ∀ t, r = .ok t → access = hash → SeenDirty hash tr) tr s := by
  apply Ensures.bind hinv
  refine (settled_lookupToken access hs).mono fun tr r s hfound => ?_
  obtain ⟨hs, hfound⟩ := hfound
  cases r with
  | error e => exact ⟨hs, fun t h => by cases h⟩
  | ok token =>
      intro _
      refine Ensures.stmt_bind fun s₁ hr₁ hinv₁ hown₁ => ⟨owes_nothing rfl rfl, fun _ => ?_⟩
      have hs₁ := (hs.rely hr₁).step (i := .db .now) hinv₁ hown₁ (owes_nothing rfl rfl)
        (.refl _ _)
      apply Ensures.rejectIf
      · exact fun _ s₂ hr₂ _ => ⟨hs₁.rely hr₂, fun t h => by cases h⟩
      · intro hlive
        have hdirty : access = hash → SeenDirty hash tr := by
          intro heq
          rcases hfound token rfl heq with hdirty | hrev
          · exact hdirty
          · simp [hrev] at hlive
        refine Ensures.stmt_bind fun s₂ hr₂ hinv₂ hown₂ => ?_
        have hguar : ServiceStmt.keepsAccounts (.setToken access token) = true ∧
            (ServiceStmt.fills hash (.setToken access token) = true →
              SeenDirty hash (tr ++ [(.db .now, s₁)])) :=
          ⟨rfl, fun hfills => (hdirty (of_decide_eq_true hfills)).append _⟩
        have hs₂ := (hs₁.rely hr₂).step hinv₂ hown₂ hguar (.refl _ _)
        refine ⟨hguar, fun hinv₃ => ?_⟩
        have hrest : Plain ((Prog.rejectIf (token.temporarilyInvalidatedAt.isSome && !allow)
                (.new .invalidToken) : Service Unit).bind fun _ =>
              (Prog.rejectIf (client.any fun c => token.clientToken ≠ c)
                (.new .invalidToken)).bind fun _ =>
              (isUserBanned token.userId .yggdrasilAccess).bind fun banned =>
              (Prog.rejectIf banned (.new .invalidToken)).bind fun _ => .ok token) :=
          Within.rejectIf.bind fun _ => Within.rejectIf.bind fun _ =>
            Within.bind (plain_isUserBanned _ _) fun _ => Within.rejectIf.bind fun _ => trivial
        refine (KeepsSettled.of_plain hrest _ _ hinv₃ hs₂).with_past.mono fun tr' r s hpost => ?_
        obtain ⟨⟨rest, rfl⟩, hs⟩ := hpost
        exact ⟨hs, fun _ _ heq => (((hdirty heq).append _).append _).append _⟩

/-- Presenting a token revokes nothing. -/
theorem keepsSettled_tokenForOperation (access : String) (client : Option String)
    (allow : Bool) : KeepsSettled hash (tokenForOperation access client allow) :=
  fun _ _ hinv hs =>
    (settled_tokenForOperation access client allow hinv hs).mono fun _ _ _ h => h.1

/-- The program hands the token to `tokenForOperation` first of all. -/
def Presents (hash : String) {α : Type} (p : Service α) (access : String) : Prop :=
  ∃ client allow, ∃ f : YggdrasilToken → Service α,
    p = (tokenForOperation access client allow).bind f ∧ ∀ t, KeepsSettled hash (f t)

theorem Presents.bind {α β : Type} {p : Service α} {f : α → Service β} {access : String}
    (hp : Presents hash p access) (hf : ∀ a, KeepsSettled hash (f a)) :
    Presents hash (p.bind f) access := by
  obtain ⟨client, allow, g, rfl, hg⟩ := hp
  exact ⟨client, allow, fun t => (g t).bind f, bind_assoc _ _ _, fun t => (hg t).bind hf⟩

theorem Presents.keepsSettled {α : Type} {p : Service α} {access : String}
    (hp : Presents hash p access) : KeepsSettled hash p := by
  obtain ⟨client, allow, f, rfl, hf⟩ := hp
  exact (keepsSettled_tokenForOperation access client allow).bind hf

/-- Such a program succeeds only if it has seen its token dirty. -/
theorem Presents.ensures {α : Type} {p : Service α} (hp : Presents hash p hash)
    (hinv : ClockOk s.db) (hs : Settled hash tr s) :
    p.Ensures (tokenDiscipline hash) (fun tr r _ => ∀ a, r = .ok a → SeenDirty hash tr) tr s := by
  obtain ⟨client, allow, f, rfl, hf⟩ := hp
  apply Ensures.bind hinv
  refine (settled_tokenForOperation hash client allow hinv hs).mono fun tr r s hpost => ?_
  obtain ⟨hs, hdirty⟩ := hpost
  cases r with
  | error e => exact fun a h => by cases h
  | ok t =>
      intro hinv
      refine (hf t tr s hinv hs).with_past.mono fun tr' r s hpost => ?_
      obtain ⟨⟨rest, rfl⟩, -⟩ := hpost
      exact fun _ _ => (hdirty t rfl rfl).append rest

/-! ## The calls of the service -/

theorem keepsSettled_authenticate
    (verify : String → String → Except AsterError Bool) (body : AuthenticateReq)
    (ctx : RequestContext) : KeepsSettled hash (authenticate verify body ctx) := by
  refine (KeepsSettled.rejectIf _ _).bind fun _ => ?_
  refine (KeepsSettled.rejectIf _ _).bind fun _ => ?_
  refine (KeepsSettled.of_plain (plain_resolveLoginTarget _ _)).bind fun target => ?_
  refine (KeepsSettled.rejectIf _ _).bind fun _ => ?_
  refine (KeepsSettled.rejectIf _ _).bind fun _ => ?_
  refine (KeepsSettled.of_plain (plain_checkPassword _ _ _)).bind fun _ => ?_
  refine (KeepsSettled.of_plain (plain_isUserBanned _ _)).bind fun banned => ?_
  refine (KeepsSettled.rejectIf _ _).bind fun _ => ?_
  refine KeepsSettled.bind (.of_plain ⟨rfl, fun _ => trivial⟩) fun profiles => ?_
  exact (keepsSettled_issueToken _).bind fun _ => .ok _

theorem keepsSettled_signout (verify : String → String → Except AsterError Bool)
    (username password : String) (policy : RuntimeYggdrasilPolicy) :
    KeepsSettled hash (signout verify username password policy) := by
  refine (KeepsSettled.of_plain (plain_resolveLoginTarget _ _)).bind fun target => ?_
  refine (KeepsSettled.rejectIf _ _).bind fun _ => ?_
  refine (KeepsSettled.of_plain (plain_checkPassword _ _ _)).bind fun _ => ?_
  exact keepsSettled_revokeAllForUser _

theorem presents_refresh (body : RefreshReq) (ctx : RequestContext) :
    Presents hash (refresh body ctx) body.accessToken := by
  refine ⟨body.clientToken, true, _, rfl, fun existing => ?_⟩
  refine (KeepsSettled.of_plain (plain_userFindById _ _)).bind fun user => ?_
  refine (KeepsSettled.rejectIf _ _).bind fun _ => ?_
  refine (KeepsSettled.of_plain (plain_refreshSelection _ _ _)).bind fun selected => ?_
  refine (keepsSettled_refreshToken _ _).bind fun issued => ?_
  exact (KeepsSettled.of_plain (plain_loadSelectedProfile _)).bind fun _ => .ok _

theorem presents_join (body : JoinReq) (clientIp : Option String) :
    Presents hash (join body clientIp) body.accessToken := by
  obtain ⟨f, hjoin, hf⟩ := join_presents body clientIp
  exact ⟨none, false, f, hjoin, fun t => .of_uses (hf t) (by decide)⟩

/-- `invalidate` leaves its token clean if it had been issued. -/
theorem ensures_invalidate {body : TokenReq} (hinv : ClockOk s.db) (hs : Settled hash tr s) :
    (invalidate body).Ensures (tokenDiscipline hash) (fun tr r s' => Settled hash tr s' ∧
      (r = .ok () → body.accessToken = hash → Issued s.db hash → Clean s' hash)) tr s := by
  have hpresent : KeepsSettled hash (tokenForOperation body.accessToken none false).attempt :=
    (keepsSettled_tokenForOperation body.accessToken none false).attempt
  apply Ensures.bind hinv
  refine (hpresent tr s hinv hs).with_rely.mono fun tr r s₁ hpost => ?_
  obtain ⟨hr₁, hs₁⟩ := hpost
  cases r with
  | error e => exact ⟨hs₁, fun h => by cases h⟩
  | ok found =>
      intro hinv₁
      have hprofile : KeepsSettled hash
          (selectedProfileForToken found.toOption) :=
        .of_plain (plain_loadSelectedProfile (found.toOption.bind (·.selectedProfileId)))
      apply Ensures.bind hinv₁
      refine (hprofile tr s₁ hinv₁ hs₁).with_rely.mono fun tr r s₂ hpost => ?_
      obtain ⟨hr₂, hs₂⟩ := hpost
      cases r with
      | error e => exact ⟨hs₂, fun h => by cases h⟩
      | ok profile =>
          intro hinv₂
          refine (ensures_revokeByAccessToken hinv₂ hs₂).mono fun tr r s₃ hpost => ?_
          obtain ⟨hs₃, hclean⟩ := hpost
          exact ⟨hs₃, fun _ heq hissued => hclean heq ((hissued.kept hr₁.1).kept hr₂.1)⟩

/-! ## Revocation is final -/

section Final

open Config

variable (verify : String → String → Except AsterError Bool)

/-- The call deletes no account. -/
def Call.keepsAccounts : Call → Bool
  | .deleteUser _ => false
  | _ => true

/-- The calls that leave accounts in place: all but the deletion of a user. -/
abbrev TokenCall := { call : Call // call.keepsAccounts = true }

/-- The program of a call. -/
def TokenCall.body (call : TokenCall) : Service Response := call.1.body verify

/-- Concurrent calls of the service. -/
abbrev TokenPool := Config serviceMachine ServiceError TokenCall Response

/-- The access token that a call hands to `tokenForOperation` first of all. -/
def Call.presents : Call → Option String
  | .validate body => some body.accessToken
  | .refresh body _ => some body.accessToken
  | .join body _ => some body.accessToken
  | .tokenForOperation access _ _ => some access
  | _ => none

/-- Call `i` revoked the token: one of its statements did, or it invalidated a
token that had been issued before it started. -/
def RevokedBy (c : TokenPool) (i : Nat) (hash : String) : Prop :=
  Flips (c.trace i) hash ∨
    ∃ th ∈ c.threads[i]?, ∃ body, th.call.1 = .invalidate body ∧
      body.accessToken = hash ∧ ∃ e ∈ (c.trace i).head?, Issued e.2.db hash

/-- What a returned call has achieved for the token. -/
structure CallPost (hash : String) (call : Call) (tr : Trace serviceMachine)
    (r : Except ServiceError Response) (s : ServiceState) : Prop where
  settled : Settled hash tr s
  invalidated : ∀ body, call = .invalidate body → body.accessToken = hash → ∀ a, r = .ok a →
    (∃ e ∈ tr.head?, Issued e.2.db hash) → Clean s hash
  accepted : call.presents = some hash → ∀ a, r = .ok a → SeenDirty hash tr

/-- A call that presents a token starts by presenting it. -/
theorem presents_call {call : Call} {access : String} (h : call.presents = some access) :
    Presents hash (call.body verify) access := by
  cases call with
  | validate body =>
      cases h
      have hvalidate : Presents hash (validate body) body.accessToken :=
        ⟨body.clientToken, false, _, rfl, fun _ => .ok ()⟩
      exact hvalidate.bind fun _ => .ok _
  | refresh body ctx =>
      cases h
      exact (presents_refresh body ctx).bind fun _ => .ok _
  | join body clientIp =>
      cases h
      exact (presents_join body clientIp).bind fun _ => .ok _
  | tokenForOperation access client allow =>
      cases h
      exact ⟨client, allow, _, rfl, fun _ => .ok _⟩
  | _ => cases h

/-- Every call keeps the token settled. -/
theorem keepsSettled_call {call : Call} (h : call.keepsAccounts = true) :
    KeepsSettled hash (call.body verify) := by
  by_cases hpresents : ∃ access, call.presents = some access
  · obtain ⟨access, hpresents⟩ := hpresents
    exact (presents_call verify hpresents).keepsSettled
  · cases call with
    | authenticate body ctx =>
        exact (keepsSettled_authenticate _ _ _).bind fun _ => .ok _
    | invalidate body =>
        refine KeepsSettled.bind (fun tr s hinv hs => ?_) fun _ => .ok _
        exact (ensures_invalidate hinv hs).mono fun tr r s h => h.1
    | signout username password policy =>
        exact (keepsSettled_signout _ _ _ _).bind fun _ => .ok _
    | deleteProfile userId uuid =>
        exact (keepsSettled_deleteProfileForUser _ _).bind fun _ => .ok _
    | deleteUser userId => cases h
    | validate | refresh | join | tokenForOperation => exact absurd ⟨_, rfl⟩ hpresents
    | _ => exact .of_uses (Call.uses_body verify _) (by simp [Call.kinds, harmlessKinds])

/-- An `invalidate` of a token that had been issued when its first statement
ran leaves the token clean. -/
theorem ensures_invalidated {body : TokenReq} (heq : body.accessToken = hash)
    (hinv : ClockOk s.db) :
    ((Call.invalidate body).body verify).Ensures (tokenDiscipline hash) (fun tr r s =>
      ∀ a, r = .ok a → (∃ e ∈ tr.head?, Issued e.2.db hash) → Clean s hash) [] s := by
  have hbody : ∀ s, ClockOk s.db → ((Call.invalidate body).body verify).Ensures
      (tokenDiscipline hash) (fun _ r s' => ∀ a, r = .ok a →
        Issued s.db hash → Clean s' hash) [] s := by
    intro s hinv
    apply Ensures.bind hinv
    refine (ensures_invalidate hinv (settled_nil hash s)).mono fun tr r s' hpost => ?_
    cases r with
    | error e => exact fun a h => by cases h
    | ok u => exact fun _ s'' hr _ a _ hissued => hr.2 (hpost.2 rfl heq hissued)
  have hany : ∀ s, ClockOk s.db → ((Call.invalidate body).body verify).Ensures
      (tokenDiscipline hash) (fun _ _ _ => True) [] s :=
    fun s hinv => (hbody s hinv).mono fun _ _ _ _ => trivial
  have hissued : ∀ s, ClockOk s.db → Issued s.db hash →
      ((Call.invalidate body).body verify).Ensures (tokenDiscipline hash) (fun _ r s =>
        ∀ a, r = .ok a → Clean s hash) [] s :=
    fun s hinv hissued => (hbody s hinv).mono fun _ _ _ h a ha => h a ha hissued
  refine (Ensures.from_first (F := fun s : ServiceState => Issued s.db hash)
    hinv hany hissued).mono fun tr r s' hpost => ?_
  exact fun a ha hissued => hpost.2 hissued a ha

/-- Every call achieves its postcondition. -/
theorem ensures_call (call : TokenCall) {s : ServiceState} (hinv : ClockOk s.db) :
    (call.body verify).Ensures (tokenDiscipline hash) (CallPost hash call.1) [] s := by
  obtain ⟨call, hkeep⟩ := call
  have hsettled : (call.body verify).Ensures (tokenDiscipline hash)
      (fun tr _ s => Settled hash tr s) [] s :=
    keepsSettled_call verify hkeep [] s hinv (settled_nil hash s)
  have haccepted : (call.body verify).Ensures (tokenDiscipline hash) (fun tr r _ =>
      call.presents = some hash → ∀ a, r = .ok a → SeenDirty hash tr) [] s := by
    by_cases hp : call.presents = some hash
    · have hpresents : Presents hash (call.body verify) hash := presents_call verify hp
      exact (hpresents.ensures hinv (settled_nil hash s)).mono fun _ _ _ hpost _ => hpost
    · exact hsettled.mono fun _ _ _ _ h => absurd h hp
  have hinvalidated : (call.body verify).Ensures (tokenDiscipline hash) (fun tr r s =>
      ∀ body, call = .invalidate body → body.accessToken = hash → ∀ a, r = .ok a →
        (∃ e ∈ tr.head?, Issued e.2.db hash) → Clean s hash) [] s := by
    by_cases hcall : ∃ body : TokenReq, call = .invalidate body ∧ body.accessToken = hash
    · obtain ⟨body, rfl, heq⟩ := hcall
      refine (ensures_invalidated verify heq hinv).mono fun tr r s' h body' hbody _ => ?_
      cases hbody
      exact h
    · exact hsettled.mono fun _ _ _ _ body h heq => absurd ⟨body, h, heq⟩ hcall
  refine ((hsettled.and hinvalidated).and haccepted).mono fun tr r s' hpost => ?_
  exact ⟨hpost.1.1, hpost.1.2, hpost.2⟩

/-- Every step of the run follows the cache discipline of the token. -/
def FollowsDiscipline (hash : String) (c : TokenPool) (_ : Nat) (i : ServiceStmt) : Prop :=
  CacheDiscipline hash i c.shared

/-- Every step of a call that had started in `c₁` follows the discipline; nothing is
asked of the calls that start later. -/
def EarlierFollow (hash : String) (c₁ c : TokenPool) (i : Nat) (st : ServiceStmt) : Prop :=
  c₁.trace i ≠ [] → CacheDiscipline hash st c.shared

/-- In a run that has come from a state in which the token is clean, the calls that
have started since have found it clean all along. -/
theorem careful_since {c₁ c : TokenPool} {i : Nat} {st : ServiceStmt}
    (hclean : Clean c₁.shared hash) (hsince : Since (tokenDiscipline hash) c₁ c)
    (hfollow : EarlierFollow hash c₁ c i st) : FillsWhenSeen hash (c.trace i) st c.shared := by
  by_cases hstarted : c₁.trace i = []
  · refine Or.inr ⟨hsince.shared.2 hclean, ?_⟩
    intro ⟨⟨st', s⟩, he, hdirty⟩
    exact hdirty ((hsince.trace hstarted he).2 hclean)
  · exact Or.inl (hfollow hstarted)

end Final

instance (hash : String) (c : TokenPool) (i : Nat) (st : ServiceStmt) :
    Decidable (FollowsDiscipline hash c i st) :=
  inferInstanceAs (Decidable (CacheDiscipline hash st c.shared))

instance (hash : String) (c₁ c : TokenPool) (i : Nat) (st : ServiceStmt) :
    Decidable (EarlierFollow hash c₁ c i st) :=
  match hi : c₁.trace i with
  | [] => isTrue fun h => absurd hi h
  | _ :: _ =>
      decidable_of_iff (CacheDiscipline hash st c.shared)
        ⟨fun h _ => h, fun h => h (by simp [hi])⟩

/-! ## A stale fill of the cache -/

section StaleFill

open Config

instance (tr : Trace serviceMachine) (hash : String) : Decidable (Flips tr hash) :=
  inferInstanceAs (Decidable (∃ e ∈ tr,
    ¬ Revoked e.2.db hash ∧ Revoked (e.1.exec e.2).2.db hash))

/-- `validate` of the token `t`. -/
def validateT : TokenCall := ⟨.validate ⟨"t", none⟩, rfl⟩

/-- `invalidate` of the token `t`. -/
def invalidateT : TokenCall := ⟨.invalidate ⟨"t", none⟩, rfl⟩

/-- A validation reads the row; then the token is invalidated. -/
def readThenInvalidate : List (Action TokenCall) :=
  [.spawn validateT, .run 0, .run 0, .run 0, .spawn invalidateT] ++
    List.replicate 8 (.run 1)

/-- The first validation fills the cache; a new one finds the token there. -/
def fillThenValidate : List (Action TokenCall) :=
  [.run 0, .run 0, .spawn validateT, .run 2, .run 2, .run 2, .run 2]

/-- After the invalidation has returned. -/
def afterInvalidate : TokenPool :=
  (initial oneToken).runs (TokenCall.body plainPassword) readThenInvalidate

/-- After the second validation has returned. -/
def afterValidate : TokenPool :=
  afterInvalidate.runs (TokenCall.body plainPassword) fillThenValidate

/-- The invalidation on its own. -/
def onlyInvalidate : List (Action TokenCall) :=
  .spawn invalidateT :: List.replicate 8 (.run 0)

/-- A validation on its own. -/
def onlyValidate : List (Action TokenCall) :=
  [.spawn validateT, .run 1, .run 1, .run 1]

end StaleFill

end AsterYggdrasil
