import AsterYggdrasil.Yggdrasil.HasJoined
import AsterYggdrasil.Yggdrasil.Revocation

/-!
# Renaming a profile asks its tokens to be refreshed

The transaction of a rename marks the rows of the profile's tokens.  A token is
*dormant* when its row is marked (or revoked) and the cache holds at most a marked
copy of it: `activeToken` then refuses it.

The cache is cleared twice for the hashes that were listed before the transaction,
so a token is dormant afterwards unless the cache got an unmarked copy of it in
between.  It stays so because a call caches an unmarked copy only if it has found
the token awake, and a call that starts later finds it dormant.

Nothing stops the calls from before: `tokenForOperation` writes a row that it had
read before the transaction, and a token that was issued and cached after the list
was taken is not evicted.  `ClearsCache` names the two kinds of steps; runs in which
no call from before takes them keep the promise.
-/

namespace AsterYggdrasil

open Interleave Relational Prog

/-- The token of this hash has a row, and the row is revoked or marked. -/
def Spent (db : Db) (hash : String) : Prop :=
  ∃ t ∈ db.tokens.rows, t.accessTokenHash = hash ∧
    (t.revokedAt.isSome ∨ t.temporarilyInvalidatedAt.isSome)

/-- What the cache holds under this hash is marked. -/
def CachedMarked (s : ServiceState) (hash : String) : Prop :=
  ∀ t ∈ s.tokenCache hash, t.temporarilyInvalidatedAt.isSome

/-- The row is spent and the cache does not say otherwise. -/
def Dormant (s : ServiceState) (hash : String) : Prop :=
  Spent s.db hash ∧ CachedMarked s hash

instance (db : Db) (hash : String) : Decidable (Spent db hash) :=
  inferInstanceAs (Decidable (∃ t ∈ db.tokens.rows, _))

instance (s : ServiceState) (hash : String) : Decidable (CachedMarked s hash) :=
  inferInstanceAs (Decidable (∀ t ∈ s.tokenCache hash, _))

theorem Spent.kept {db db' : Db} {hash : String} (h : Spent db hash)
    (hk : TokensKept db db') : Spent db' hash := by
  obtain ⟨t, ht, hhash, hspent⟩ := h
  obtain ⟨t', ht', hl⟩ := hk.rows t ht
  refine ⟨t', ht', hl.hash.trans hhash, ?_⟩
  rcases hspent with hrev | hmark
  · obtain ⟨r, hr⟩ := Option.isSome_iff_exists.mp hrev
    obtain ⟨r', hr', -⟩ := hl.revoked r hr
    exact Or.inl (by simp [hr'])
  · exact Or.inr (hl.marked hmark)

/-! ## What the cache holds -/

/-- An unrevoked version of the row of this hash. -/
structure FromRow (db : Db) (hash : String) (t : YggdrasilToken) : Prop where
  unrevoked : t.revokedAt = none
  hash : t.accessTokenHash = hash
  row : ∃ t' ∈ db.tokens.rows, LaterRow t t'

theorem FromRow.kept {db db' : Db} {hash : String} {t : YggdrasilToken}
    (h : FromRow db hash t) (hk : TokensKept db db') : FromRow db' hash t := by
  obtain ⟨t', ht', hl⟩ := h.row
  obtain ⟨t'', ht'', hl'⟩ := hk.rows t' ht'
  exact ⟨h.unrevoked, h.hash, t'', ht'', hl.trans hl'⟩

/-- Revocation times lie in the past, and the cache holds unrevoked versions of
rows. -/
structure CacheFromRows (s : ServiceState) : Prop where
  clock : ClockOk s.db
  cache : ∀ hash t, s.tokenCache hash = some t → FromRow s.db hash t

/-- A step that writes a token into the cache writes a version of its row. -/
def CachesRow : ServiceStmt → ServiceState → Prop
  | .setToken hash t, s => FromRow s.db hash t
  | _, _ => True

/-- The cache keeps holding versions of rows. -/
theorem CacheFromRows.exec {i : ServiceStmt} {s : ServiceState} (h : CacheFromRows s)
    (hi : i.keepsAccounts = true) (hrow : CachesRow i s) : CacheFromRows (i.exec s).2 := by
  obtain ⟨hclock, hkept⟩ := exec_kept hi h.clock
  refine ⟨hclock, fun hash t ht => ?_⟩
  cases i with
  | setToken hash' token =>
      simp only [ServiceStmt.exec, Function.update_apply] at ht
      split at ht
      · next heq =>
          cases ht
          rw [heq]
          exact hrow
      · exact h.cache hash t ht
  | deleteToken hash' =>
      simp only [ServiceStmt.exec, Function.update_apply] at ht
      split at ht
      · cases ht
      · exact h.cache hash t ht
  | _ => exact (h.cache hash t ht).kept hkept

/-! ## The discipline -/

/-- One of the statements of the trace ran while the token was not dormant. -/
def SeenAwake (hash : String) (tr : Trace serviceMachine) : Prop :=
  ∃ e ∈ tr, ¬ Dormant e.2 hash

/-- The statement lists the active tokens of the profile. -/
def ServiceStmt.lists (profileId : Nat) : ServiceStmt → Bool
  | .db (.tokenListActiveHashesForSelectedProfile p) => p = profileId
  | _ => false

/-- The token is bound to the profile, and neither revoked nor marked. -/
def ActiveOn (db : Db) (hash : String) (profileId : Nat) : Prop :=
  ∃ t ∈ db.tokens.rows, t.accessTokenHash = hash ∧ t.activeOn profileId = true

/-- The token is bound to the profile. -/
def BoundTo (db : Db) (hash : String) (profileId : Nat) : Prop :=
  ∃ t ∈ db.tokens.rows, t.accessTokenHash = hash ∧ t.selectedProfileId = some profileId

instance (db : Db) (hash : String) (profileId : Nat) : Decidable (ActiveOn db hash profileId) :=
  inferInstanceAs (Decidable (∃ t ∈ db.tokens.rows, _))

instance (db : Db) (hash : String) (profileId : Nat) : Decidable (BoundTo db hash profileId) :=
  inferInstanceAs (Decidable (∃ t ∈ db.tokens.rows, _))

/-- While the token is spent, no unmarked copy of it goes into the cache; and when the
profile it is bound to is renamed, the cache holds no unmarked copy, or the token was
active when the call looked up the active tokens of the profile. -/
def ClearsCache (hash : String) (tr : Trace serviceMachine) : ServiceStmt → ServiceState → Prop
  | .setToken hash' token, s =>
      hash' = hash → Spent s.db hash → token.temporarilyInvalidatedAt.isSome
  | .txn (.renameProfile profile _), s =>
      BoundTo s.db hash profile.id → CachedMarked s hash ∨
        ∀ e ∈ tr, ServiceStmt.lists profile.id e.1 = true → ActiveOn e.2.db hash profile.id
  | _, _ => True

instance (hash : String) (tr : Trace serviceMachine) (i : ServiceStmt) (s : ServiceState) :
    Decidable (ClearsCache hash tr i s) :=
  match i with
  | .setToken hash' token =>
      inferInstanceAs (Decidable (hash' = hash → Spent s.db hash →
        token.temporarilyInvalidatedAt.isSome))
  | .txn (.renameProfile profile _) =>
      inferInstanceAs (Decidable (BoundTo s.db hash profile.id → CachedMarked s hash ∨
        ∀ e ∈ tr, ServiceStmt.lists profile.id e.1 = true →
          ActiveOn e.2.db hash profile.id))
  | .db _ | .getToken _ | .deleteToken _ | .getJoinSession _ | .setJoinSession _ _
  | .getForwardServers | .setForwardServers _ | .deleteProfileNameSummary _
  | .txn (.issueToken _) | .txn (.refreshToken _ _) | .txn (.updateUser _ _) =>
      isTrue trivial

/-- What a step owes to the others: it clears the cache as it should, or its call has
found the token dormant all along. -/
def LetsRest (hash : String) (tr : Trace serviceMachine) (i : ServiceStmt)
    (s : ServiceState) : Prop :=
  ClearsCache hash tr i s ∨ Dormant s hash ∧ ¬ SeenAwake hash tr

/-- The step puts an unmarked copy of the token into the cache. -/
def ServiceStmt.wakes (hash : String) : ServiceStmt → Bool
  | .setToken hash' token => hash' = hash && token.temporarilyInvalidatedAt.isNone
  | _ => false

/-- What every step of the service keeps to: it deletes no account, caches versions of
rows, and an unmarked copy of the token only if its call has seen the token awake. -/
structure WakesSeen (hash : String) (tr : Trace serviceMachine) (i : ServiceStmt)
    (s : ServiceState) : Prop where
  accounts : i.keepsAccounts = true
  caches : CachesRow i s
  awake : i.wakes hash = true → SeenAwake hash tr

section Discipline

variable {hash : String} {tr : Trace serviceMachine} {s : ServiceState}

/-- What has been seen awake stays seen. -/
theorem SeenAwake.append (h : SeenAwake hash tr) (rest : Trace serviceMachine) :
    SeenAwake hash (tr ++ rest) := by
  obtain ⟨e, he, hawake⟩ := h
  exact ⟨e, List.mem_append_left _ he, hawake⟩

/-- A step that caches no token. -/
theorem wakesSeen_quiet {i : ServiceStmt} (hi : i.keepsAccounts = true)
    (hrow : CachesRow i s) (hwakes : i.wakes hash = false) : WakesSeen hash tr i s :=
  ⟨hi, hrow, fun h => by rw [hwakes] at h; cases h⟩

/-- **Dormancy lasts** while nobody wakes the token who has not seen it awake. -/
theorem Dormant.exec {i : ServiceStmt} (h : Dormant s hash) (hclock : ClockOk s.db)
    (hown : LetsRest hash tr i s) (hguar : WakesSeen hash tr i s) :
    Dormant (i.exec s).2 hash := by
  refine ⟨h.1.kept (exec_kept hguar.accounts hclock).2, fun t ht => ?_⟩
  cases i with
  | setToken hash' token =>
      simp only [ServiceStmt.exec, Function.update_apply, Option.mem_def] at ht
      split at ht
      · next heq =>
          cases ht
          rcases hown with hclears | ⟨-, hasleep⟩
          · exact hclears heq.symm h.1
          · by_contra hunmarked
            exact hasleep (hguar.awake (by simpa [ServiceStmt.wakes, heq] using hunmarked))
      · exact h.2 t ht
  | deleteToken hash' =>
      simp only [ServiceStmt.exec, Function.update_apply, Option.mem_def] at ht
      split at ht
      · cases ht
      · exact h.2 t ht
  | _ => exact h.2 t ht

end Discipline

/-- The discipline of the calls, as far as one token of a renamed profile goes. -/
def renameDiscipline (hash : String) : Discipline serviceMachine where
  inv := CacheFromRows
  rely s s' := TokensKept s.db s'.db ∧ (Dormant s hash → Dormant s' hash)
  own := LetsRest hash
  guar := WakesSeen hash
  refl s := ⟨.refl s.db, id⟩
  trans _ _ _ hab hbc := ⟨hab.1.trans hbc.1, fun h => hbc.2 (hab.2 h)⟩
  step _ _ _ hinv hown hguar :=
    ⟨hinv.exec hguar.accounts hguar.caches, (exec_kept hguar.accounts hinv.clock).2,
      fun h => h.exec hinv.clock hown hguar⟩

/-! ## Programs that leave the tokens of renamed profiles dormant -/

/-- The statement renames the profile that the token is bound to. -/
def ServiceStmt.outdates : ServiceStmt → ServiceState → String → Prop
  | .txn (.renameProfile profile _), s, hash => BoundTo s.db hash profile.id
  | _, _, _ => False

/-- One of the statements of the trace renamed the profile of the token. -/
def Outdated (tr : Trace serviceMachine) (hash : String) : Prop :=
  ∃ e ∈ tr, ServiceStmt.outdates e.1 e.2 hash

/-- If the trace has outdated the token, it is dormant. -/
def Rests (hash : String) (tr : Trace serviceMachine) (s : ServiceState) : Prop :=
  Outdated tr hash → Dormant s hash

theorem outdated_append {tr : Trace serviceMachine} {i : ServiceStmt} {s : ServiceState}
    {hash : String} :
    Outdated (tr ++ [(i, s)]) hash ↔ Outdated tr hash ∨ i.outdates s hash := by
  constructor
  · intro ⟨e, he, hout⟩
    rcases List.mem_append.mp he with he | he
    · exact Or.inl ⟨e, he, hout⟩
    · rw [List.mem_singleton.mp he] at hout
      exact Or.inr hout
  · intro h
    rcases h with ⟨e, he, hout⟩ | hout
    · exact ⟨e, List.mem_append_left _ he, hout⟩
    · exact ⟨(i, s), List.mem_append_right _ (List.mem_singleton_self _), hout⟩

section Presenting

variable {hash : String} {tr : Trace serviceMachine} {s s' : ServiceState}

theorem rests_nil (hash : String) (s : ServiceState) : Rests hash [] s := by
  intro ⟨e, he, _⟩
  cases he

/-- The others do not wake a token. -/
theorem Rests.rely (h : Rests hash tr s) (hr : (renameDiscipline hash).rely s s') :
    Rests hash tr s' := fun hout => hr.2 (h hout)

/-- A statement that renames nothing lets the token rest. -/
theorem Rests.step {i : ServiceStmt} (h : Rests hash tr s) (hinv : CacheFromRows s)
    (hown : LetsRest hash tr i s) (hguar : WakesSeen hash tr i s)
    (hnone : ¬ i.outdates s hash) : Rests hash (tr ++ [(i, s)]) (i.exec s).2 := by
  intro hout
  rcases outdated_append.mp hout with hold | hnew
  · exact (h hold).exec hinv.clock hown hguar
  · exact absurd hnew hnone

/-- However it ends, the program lets the token rest. -/
def KeepsDormant (hash : String) {α : Type} (p : Service α) : Prop :=
  ∀ tr s, CacheFromRows s → Rests hash tr s →
    p.Ensures (renameDiscipline hash) (fun tr _ s => Rests hash tr s) tr s

/-- The kinds of steps that neither rename a profile nor write a token into the
cache. -/
def quietKinds : List StepKind :=
  [.plain, .bindToken, .revoke, .setJoinSession, .deleteProfile, .updateUser]

theorem exec_quietKind {i : ServiceStmt} (hi : i.kind ∈ quietKinds) (s : ServiceState) :
    WakesSeen hash tr i s ∧ ¬ i.outdates s hash := by
  cases i with
  | db i =>
      have hkeep : i.deletesAccount = false := by
        apply i.keepsAccounts
        intro hdel
        simp [quietKinds, ServiceStmt.kind, hdel] at hi
      exact ⟨wakesSeen_quiet (by simp [ServiceStmt.keepsAccounts, hkeep]) trivial rfl,
        fun h => h⟩
  | txn t =>
      refine ⟨wakesSeen_quiet rfl trivial rfl, fun h => ?_⟩
      cases t with
      | renameProfile profile newName => simp [quietKinds, ServiceStmt.kind] at hi
      | _ => exact h
  | setToken hash' token => simp [quietKinds, ServiceStmt.kind] at hi
  | _ => exact ⟨wakesSeen_quiet rfl trivial rfl, fun h => h⟩

/-- A program of quiet steps lets the token rest. -/
theorem KeepsDormant.of_uses {α : Type} {kinds : List StepKind} {p : Service α}
    (hp : Uses kinds p) (hkinds : kinds ⊆ quietKinds) : KeepsDormant hash p := by
  induction p with
  | ok a => exact fun tr s _ hs s' hr _ => hs.rely hr
  | err e => exact fun tr s _ hs s' hr _ => hs.rely hr
  | act i k ih =>
      intro tr s _ hs s' hr hinv hown
      have hi : ServiceStmt.kind i ∈ quietKinds := by
        rcases hp.1 with hplain | hmem
        · rw [hplain]
          exact List.mem_cons_self ..
        · exact hkinds hmem
      obtain ⟨hguar, hnone⟩ : WakesSeen hash tr i s' ∧ ¬ ServiceStmt.outdates i s' hash :=
        exec_quietKind hi s'
      refine ⟨hguar, ih _ (hp.2 _) _ _ (hinv.exec hguar.accounts hguar.caches) ?_⟩
      exact (hs.rely hr).step hinv hown hguar hnone

theorem KeepsDormant.of_plain {α : Type} {p : Service α} (hp : Plain p) :
    KeepsDormant hash p := .of_uses (hp.uses []) (by simp)

theorem KeepsDormant.ok {α : Type} (a : α) : KeepsDormant hash (.ok a : Service α) :=
  .of_plain trivial

theorem KeepsDormant.bind {α β : Type} {p : Service α} {f : α → Service β}
    (hp : KeepsDormant hash p) (hf : ∀ a, KeepsDormant hash (f a)) :
    KeepsDormant hash (p.bind f) := by
  intro tr s hinv hs
  apply Ensures.bind hinv
  refine (hp tr s hinv hs).mono fun tr r s hs => ?_
  cases r with
  | ok a => exact fun hinv => hf a tr s hinv hs
  | error e => exact hs

theorem KeepsDormant.attempt {α : Type} {p : Service α} (hp : KeepsDormant hash p) :
    KeepsDormant hash (p.attempt : Service (Except ServiceError α)) :=
  fun tr s hinv hs => (hp tr s hinv hs).attempt

/-- Sequencing after such a program when only success matters. -/
theorem KeepsDormant.bind_ok {α β : Type} {p : Service α} {f : α → Service β}
    {K : β → Trace serviceMachine → ServiceState → Prop} (hp : KeepsDormant hash p)
    (hinv : CacheFromRows s) (hs : Rests hash tr s)
    (hf : ∀ a tr s, CacheFromRows s → Rests hash tr s →
      (f a).Ensures (renameDiscipline hash) (OnOk K) tr s) :
    (p.bind f).Ensures (renameDiscipline hash) (OnOk K) tr s := by
  have hp' : p.Ensures (renameDiscipline hash) (OnOk fun _ tr s => Rests hash tr s) tr s :=
    (hp tr s hinv hs).mono fun _ _ _ h _ _ => h
  exact Ensures.bind_ok hinv hp' hf

/-! ## Presenting a token -/

/-- A row that a spent hash finds is revoked or marked. -/
theorem Spent.of_find {db : Db} {hash : String} {t : YggdrasilToken} (h : Spent db hash)
    (ht : t ∈ db.tokens.rows) (hhash : t.accessTokenHash = hash) :
    t.revokedAt.isSome ∨ t.temporarilyInvalidatedAt.isSome := by
  obtain ⟨t', ht', hhash', hspent⟩ := h
  have heq : t' = t := row_unique ht' ht (hhash'.trans hhash.symm)
  exact heq ▸ hspent

/-- The token that is looked up is a version of its row, and it is revoked or marked
unless the lookup has seen it awake. -/
theorem ensures_lookupToken_row (access : String) (hs : Rests hash tr s) :
    (lookupToken access).Ensures (renameDiscipline hash) (fun tr r s' => Rests hash tr s' ∧
      ∀ t, r = .ok t → (t.revokedAt = none → FromRow s'.db access t) ∧
        (access = hash → SeenAwake hash tr ∨ t.revokedAt.isSome ∨
          t.temporarilyInvalidatedAt.isSome)) tr s := by
  refine Ensures.stmt_bind fun s₁ hr₁ hinv₁ hown₁ =>
    ⟨wakesSeen_quiet rfl trivial rfl, fun _ => ?_⟩
  have hs₁ := (hs.rely hr₁).step hinv₁ hown₁ (wakesSeen_quiet rfl trivial rfl) fun h => h
  cases hget : (serviceMachine.exec (.getToken access) s₁).1 with
  | some token =>
      intro s₂ hr₂ _
      refine ⟨hs₁.rely hr₂, fun t ht => ?_⟩
      cases ht
      refine ⟨fun _ => (hinv₁.cache access token hget).kept hr₂.1, fun heq => ?_⟩
      by_cases hdormant : Dormant s₁ hash
      · exact Or.inr (Or.inr (hdormant.2 token (heq ▸ hget)))
      · exact Or.inl ⟨_, List.mem_append_right _ (List.mem_singleton_self _), hdormant⟩
  | none =>
      refine Ensures.stmt_bind fun s₂ hr₂ hinv₂ hown₂ =>
        ⟨wakesSeen_quiet rfl trivial rfl, fun _ => ?_⟩
      have hs₂ := (hs₁.rely hr₂).step hinv₂ hown₂ (wakesSeen_quiet rfl trivial rfl) fun h => h
      cases hfind : (serviceMachine.exec (.db (.tokenFindByAccessHash access)) s₂).1 with
      | none => exact fun s₃ hr₃ _ => ⟨hs₂.rely hr₃, fun t ht => by cases ht⟩
      | some token =>
          obtain ⟨hrow, hhash⟩ := of_findByAccessHash hfind
          intro s₃ hr₃ _
          refine ⟨hs₂.rely hr₃, fun t ht => ?_⟩
          cases ht
          refine ⟨fun hrev => ⟨hrev, hhash, hr₃.1.rows token hrow⟩, fun heq => ?_⟩
          by_cases hdormant : Dormant s₂ hash
          · exact Or.inr (hdormant.1.of_find hrow (hhash.trans heq))
          · exact Or.inl ⟨_, List.mem_append_right _ (List.mem_singleton_self _), hdormant⟩

/-- **A dormant token is refused** by an operation that does not allow marked tokens,
and `tokenForOperation` caches an unmarked copy only of a token that it has seen
awake. -/
theorem ensures_tokenForOperation_dormant (access : String) (client : Option String)
    (allow : Bool) (hinv : CacheFromRows s) (hs : Rests hash tr s) :
    (tokenForOperation access client allow).Ensures (renameDiscipline hash)
      (fun tr r s' => Rests hash tr s' ∧
        (access = hash → allow = false → ∀ t, r = .ok t → SeenAwake hash tr)) tr s := by
  apply Ensures.bind hinv
  refine (ensures_lookupToken_row access hs).mono fun tr r s h => ?_
  cases r with
  | error e => exact ⟨h.1, fun _ _ t h => by cases h⟩
  | ok t =>
      intro hinv
      obtain ⟨hs, hfound⟩ := h
      obtain ⟨hrow, hspent⟩ := hfound t rfl
      refine Ensures.stmt_bind fun s₁ hr₁ hinv₁ hown₁ =>
        ⟨wakesSeen_quiet rfl trivial rfl, fun _ => ?_⟩
      have hs₁ := (hs.rely hr₁).step hinv₁ hown₁ (wakesSeen_quiet rfl trivial rfl) fun h => h
      apply Ensures.rejectIf
      · exact fun _ s₂ hr₂ _ => ⟨hs₁.rely hr₂, fun _ _ t h => by cases h⟩
      · intro hlive
        have hrev : t.revokedAt = none := by
          cases hrev : t.revokedAt with
          | none => rfl
          | some r => simp [hrev] at hlive
        -- an unrevoked copy that is not marked comes from a token that was awake
        have hawake : access = hash → t.temporarilyInvalidatedAt.isSome = false →
            SeenAwake hash tr := by
          intro heq hunmarked
          rcases hspent heq with hawake | hrevoked | hmarked
          · exact hawake
          · simp [hrev] at hrevoked
          · rw [hunmarked] at hmarked
            cases hmarked
        refine Ensures.stmt_bind fun s₂ hr₂ hinv₂ hown₂ => ?_
        have hrow₂ : FromRow s₂.db access t := ((hrow hrev).kept hr₁.1).kept hr₂.1
        have hguar : WakesSeen hash (tr ++ [(.db .now, s₁)]) (.setToken access t) s₂ := by
          refine ⟨rfl, hrow₂, fun hwakes => ?_⟩
          simp only [ServiceStmt.wakes, Bool.and_eq_true, decide_eq_true_eq] at hwakes
          refine (hawake hwakes.1 ?_).append _
          simpa using hwakes.2
        refine ⟨hguar, fun hinv₃ => ?_⟩
        have hs₂ := (hs₁.rely hr₂).step hinv₂ hown₂ hguar fun h => h
        apply Ensures.rejectIf
        · exact fun _ s₃ hr₃ _ => ⟨hs₂.rely hr₃, fun _ _ t h => by cases h⟩
        · intro hunmarked
          have hrest : Plain ((Prog.rejectIf (client.any fun c => t.clientToken ≠ c)
                (.new .invalidToken) : Service Unit).bind fun _ =>
              (isUserBanned t.userId .yggdrasilAccess).bind fun banned =>
              (Prog.rejectIf banned (.new .invalidToken)).bind fun _ => .ok t) :=
            Within.rejectIf.bind fun _ =>
              Within.bind (plain_isUserBanned _ _) fun _ => Within.rejectIf.bind fun _ => trivial
          refine (KeepsDormant.of_plain hrest _ _ hinv₃ hs₂).with_past.mono fun tr' r s h => ?_
          obtain ⟨⟨rest, rfl⟩, hs⟩ := h
          refine ⟨hs, fun heq hallow _ _ => ?_⟩
          have hplain : t.temporarilyInvalidatedAt.isSome = false := by
            simpa [hallow] using hunmarked
          exact (((hawake heq hplain).append _).append _).append _

theorem keepsDormant_tokenForOperation (access : String) (client : Option String)
    (allow : Bool) : KeepsDormant hash (tokenForOperation access client allow) :=
  fun _ _ hinv hs =>
    (ensures_tokenForOperation_dormant access client allow hinv hs).mono fun _ _ _ h => h.1

/-- A program that hands the token to `activeToken` first of all. -/
def PresentsActive (hash : String) {α : Type} (p : Service α) (access : String) : Prop :=
  ∃ client f, p = (activeToken access client).bind f ∧ ∀ t, KeepsDormant hash (f t)

theorem PresentsActive.bind {α β : Type} {p : Service α} {f : α → Service β}
    {access : String} (hp : PresentsActive hash p access)
    (hf : ∀ a, KeepsDormant hash (f a)) : PresentsActive hash (p.bind f) access := by
  obtain ⟨client, g, rfl, hg⟩ := hp
  exact ⟨client, fun t => (g t).bind f, bind_assoc _ _ _, fun t => (hg t).bind hf⟩

/-- Such a program succeeds only if it has seen its token awake. -/
theorem PresentsActive.ensures {α : Type} {p : Service α} (hp : PresentsActive hash p hash)
    (hinv : CacheFromRows s) (hs : Rests hash tr s) :
    p.Ensures (renameDiscipline hash)
      (fun tr r _ => ∀ a, r = .ok a → SeenAwake hash tr) tr s := by
  obtain ⟨client, f, rfl, hf⟩ := hp
  apply Ensures.bind hinv
  refine (ensures_tokenForOperation_dormant hash client false hinv hs).mono fun tr r s h => ?_
  cases r with
  | error e => exact fun a h => by cases h
  | ok t =>
      intro hinv
      refine (hf t tr s hinv h.1).with_past.mono fun tr' r s hpost => ?_
      obtain ⟨⟨rest, rfl⟩, -⟩ := hpost
      exact fun _ _ => (h.2 rfl rfl t rfl).append rest

end Presenting

/-! ## The rename -/

/-- The update of the profile's name leaves the token table alone. -/
theorem wp_profileUpdateNameById_tokens (id : Nat) (name : String) (db : Db) :
    (profileUpdateNameById id name).Wp dbMachine (fun _ db' => db'.tokens = db.tokens) db := by
  refine wp_stmt_bind.mpr ?_
  have hread : (dbMachine.exec (.profileFindById id) db).2 = db := rfl
  rw [hread]
  cases (dbMachine.exec (.profileFindById id) db).1 with
  | none => rfl
  | some existing =>
      have hkept : (dbMachine.exec (.profileUpdateName id name (existing.renameCount + 1))
          db).2.tokens = db.tokens := by
        simp only [DbStmt.exec]
        split
        · rfl
        · split <;> rfl
      refine wp_stmt_bind.mpr ?_
      cases (dbMachine.exec (.profileUpdateName id name (existing.renameCount + 1)) db).1 with
      | none => exact hkept
      | some updated => exact hkept

/-- The marking update leaves every token of the profile spent. -/
theorem spent_temporarilyInvalidate {db : Db} {profileId : Nat} {t : YggdrasilToken}
    (ht : t ∈ db.tokens.rows) (hbound : t.selectedProfileId = some profileId) :
    Spent ((DbStmt.tokenTemporarilyInvalidateAllForSelectedProfile profileId).exec db).2
      t.accessTokenHash := by
  refine ⟨_, List.mem_map_of_mem ht, ?_, ?_⟩
  · split <;> rfl
  · split
    · exact Or.inr rfl
    · next hmiss =>
        -- the update passes over rows that are revoked or marked already
        simp only [YggdrasilToken.activeOn, hbound, Bool.and_eq_true, decide_eq_true_eq,
          true_and, not_and_or] at hmiss
        rcases hmiss with hrev | hmark
        · exact Or.inl (by simpa [YggdrasilToken.unrevoked, Option.isSome_iff_ne_none] using hrev)
        · exact Or.inr (by simpa [Option.isSome_iff_ne_none] using hmark)

/-- **A committed rename** leaves every token of the profile spent. -/
theorem commit_spends {profile : MinecraftProfile} {newName : String} {db : Db}
    {result : RenameResult}
    (h : ((Txn.renameProfile profile newName).commit db).1 = .ok result)
    {t : YggdrasilToken} (ht : t ∈ db.tokens.rows)
    (hbound : t.selectedProfileId = some profile.id) :
    Spent ((Txn.renameProfile profile newName).commit db).2 t.accessTokenHash := by
  have hwp : (Txn.renameProfile profile newName).body.Wp dbMachine (fun r db' =>
      ∀ result, r = .ok result → Spent db' t.accessTokenHash) db := by
    refine wp_inTxn.mpr (wp_bind.mpr ((wp_profileUpdateNameById_tokens _ _ db).mono ?_))
    intro r db₁ hkept
    cases r with
    | error e => exact fun result h => by cases h
    | ok found =>
        cases found with
        | none => exact fun result h => by cases h
        | some updated =>
            intro result _
            exact spent_temporarilyInvalidate (hkept ▸ ht) hbound
  unfold Txn.commit at h ⊢
  unfold Wp at hwp
  generalize (Txn.renameProfile profile newName).body.run dbMachine db = out at h hwp ⊢
  obtain ⟨r, db'⟩ := out
  cases r with
  | ok a => exact hwp a rfl
  | error e => cases h

/-- If the trace has outdated the token, it is dormant, or spent and still to be
evicted. -/
def RestsBut (hash : String) (hashes : List String) (tr : Trace serviceMachine)
    (s : ServiceState) : Prop :=
  Outdated tr hash → Dormant s hash ∨ (hash ∈ hashes ∧ Spent s.db hash)

section Rename

variable {hash : String} {tr : Trace serviceMachine} {s s' : ServiceState}

theorem RestsBut.rely {hashes : List String} (h : RestsBut hash hashes tr s)
    (hr : (renameDiscipline hash).rely s s') : RestsBut hash hashes tr s' := by
  intro hout
  rcases h hout with hdormant | ⟨hmem, hspent⟩
  · exact Or.inl (hr.2 hdormant)
  · exact Or.inr ⟨hmem, hspent.kept hr.1⟩

/-- Evicting one hash takes it off the list. -/
theorem ensures_evictOne {evicted : String} {hashes : List String}
    (h : RestsBut hash (evicted :: hashes) tr s) :
    (step (.deleteToken evicted)).Ensures (renameDiscipline hash)
      (OnOk fun _ tr s => RestsBut hash hashes tr s) tr s := by
  intro s₁ hr hinv hown
  refine ⟨wakesSeen_quiet rfl trivial rfl, fun s₂ hr₂ _ _ _ => RestsBut.rely ?_ hr₂⟩
  intro hout
  rcases outdated_append.mp hout with hout | hnone
  · rcases h.rely hr hout with hdormant | ⟨hmem, hspent⟩
    · exact Or.inl (hdormant.exec hinv.clock hown (wakesSeen_quiet rfl trivial rfl))
    · by_cases heq : hash = evicted
      · refine Or.inl ⟨hspent, fun t ht => ?_⟩
        simp [ServiceStmt.exec, heq] at ht
      · exact Or.inr ⟨(List.mem_cons.mp hmem).resolve_left heq, hspent⟩
  · exact hnone.elim

/-- **The second eviction** leaves a listed token dormant. -/
theorem ensures_evictAll {hashes : List String} (hinv : CacheFromRows s)
    (h : RestsBut hash hashes tr s) :
    (invalidateTokenCacheHashes hashes).Ensures (renameDiscipline hash)
      (OnOk fun _ tr s => Rests hash tr s) tr s := by
  refine Ensures.forEach (RestsBut hash) ?_ ?_ hinv h
  · intro x xs tr s _ h
    refine (ensures_evictOne h).mono fun tr r s hr => ?_
    cases r with
    | ok a => exact hr a rfl
    | error e => exact fun _ h => by cases h
  · intro tr s s' hr _ h _ _ hout
    rcases h.rely hr hout with hdormant | ⟨hmem, -⟩
    · exact hdormant
    · cases hmem

/-- The list was taken by a statement of the trace. -/
def ListedIn (profileId : Nat) (tr : Trace serviceMachine) (hashes : List String) : Prop :=
  ∃ e ∈ tr, ServiceStmt.lists profileId e.1 = true ∧
    ((DbStmt.tokenListActiveHashesForSelectedProfile profileId).exec e.2.db).1 = hashes

theorem ListedIn.append {profileId : Nat} {hashes : List String} (h : ListedIn profileId tr hashes)
    (rest : Trace serviceMachine) : ListedIn profileId (tr ++ rest) hashes := by
  obtain ⟨e, he, hlists⟩ := h
  exact ⟨e, List.mem_append_left _ he, hlists⟩

/-- A token that was active whenever the profile's tokens were listed is on the list. -/
theorem ListedIn.mem {profileId : Nat} {hashes : List String} (h : ListedIn profileId tr hashes)
    (hactive : ∀ e ∈ tr, ServiceStmt.lists profileId e.1 = true →
      ActiveOn e.2.db hash profileId) : hash ∈ hashes := by
  obtain ⟨e, he, hlists, rfl⟩ := h
  obtain ⟨t, ht, rfl, hon⟩ := hactive e he hlists
  exact List.mem_map_of_mem (Table.mem_select.mpr ⟨ht, hon⟩)

/-- Clearing the cache before the transaction: the hashes that are returned are the
active tokens of the profile. -/
theorem ensures_listHashes (profileId : Nat) (hs : Rests hash tr s) :
    (invalidateTokenCacheForSelectedProfile profileId).Ensures (renameDiscipline hash)
      (OnOk fun hashes tr s => Rests hash tr s ∧ ListedIn profileId tr hashes) tr s := by
  refine Ensures.stmt_bind fun s₁ hr₁ hinv₁ hown₁ =>
    ⟨wakesSeen_quiet rfl trivial rfl, fun hinv₂ => ?_⟩
  have hs₁ := (hs.rely hr₁).step hinv₁ hown₁ (wakesSeen_quiet rfl trivial rfl) fun h => h
  generalize hhashes : (serviceMachine.exec
    (.db (.tokenListActiveHashesForSelectedProfile profileId)) s₁).1 = hashes
  have hlisted : ListedIn profileId
      (tr ++ [(.db (.tokenListActiveHashesForSelectedProfile profileId), s₁)]) hashes :=
    ⟨_, List.mem_append_right _ (List.mem_singleton_self _), decide_eq_true rfl, hhashes⟩
  have hevict : Plain (invalidateTokenCacheHashes hashes) := plain_invalidateTokenCacheHashes hashes
  apply Ensures.bind hinv₂
  refine (KeepsDormant.of_plain hevict _ _ hinv₂ hs₁).with_past.mono fun tr' r s h => ?_
  obtain ⟨⟨rest, rfl⟩, hs⟩ := h
  cases r with
  | error e => exact fun a ha => by cases ha
  | ok u =>
      intro _ s' hr _ hashes' heq
      cases heq
      exact ⟨hs.rely hr, hlisted.append rest⟩

/-- The transaction leaves the token of the profile dormant, unless it was listed
before. -/
theorem ensures_renameTxn {profile : MinecraftProfile} {newName : String} {hashes : List String}
    (hs : Rests hash tr s) (hlisted : ListedIn profile.id tr hashes) :
    (withTransaction (.renameProfile profile newName)).Ensures (renameDiscipline hash)
      (OnOk fun _ tr s => RestsBut hash hashes tr s) tr s := by
  refine Ensures.stmt_bind fun s₁ hr₁ hinv₁ hown₁ =>
    ⟨wakesSeen_quiet rfl trivial rfl, fun _ => ?_⟩
  have hs₁ := hs.rely hr₁
  cases hcommit : (serviceMachine.exec (.txn (.renameProfile profile newName)) s₁).1 with
  | error e => exact .err e _ _
  | ok result =>
      intro s₂ hr₂ _ _ _
      refine RestsBut.rely ?_ hr₂
      intro hout
      have hkept : Dormant s₁ hash → Dormant
          ((ServiceStmt.txn (.renameProfile profile newName)).exec s₁).2 hash := fun h =>
        h.exec hinv₁.clock hown₁ (wakesSeen_quiet rfl trivial rfl)
      rcases outdated_append.mp hout with hold | hbound
      · exact Or.inl (hkept (hs₁ hold))
      · rcases hown₁ with hclears | ⟨hdormant, -⟩
        · obtain ⟨t, ht, rfl, hprofile⟩ := hbound
          have hspent := commit_spends hcommit ht hprofile
          rcases hclears ⟨t, ht, rfl, hprofile⟩ with hcached | hactive
          · exact Or.inl ⟨hspent, hcached⟩
          · exact Or.inr ⟨hlisted.mem hactive, hspent⟩
        · exact Or.inl (hkept hdormant)

/-- **A rename that succeeds** leaves the tokens of the profile dormant. -/
theorem ensures_renameProfile_dormant (policy : RuntimeYggdrasilPolicy)
    (profile : MinecraftProfile) (newName : String) (hinv : CacheFromRows s)
    (hs : Rests hash tr s) :
    (renameProfile policy profile newName).Ensures (renameDiscipline hash)
      (OnOk fun _ tr s => Rests hash tr s) tr s := by
  have hcheck : KeepsDormant hash (checkProfileName newName false) :=
    .of_plain (plain_checkProfileName newName false)
  refine hcheck.bind_ok hinv hs fun _ tr s hinv hs => ?_
  by_cases hsame : profile.name = newName
  · rw [if_pos hsame]
    exact fun s' hr _ _ _ => hs.rely hr
  · rw [if_neg hsame]
    refine Ensures.rejectIf_ok fun _ => Ensures.rejectIf_ok fun _ => ?_
    have htaken : KeepsDormant hash
        (profileNameTaken newName profile.userId (some profile.id)) :=
      .of_plain (plain_profileNameTaken newName profile.userId (some profile.id))
    refine htaken.bind_ok hinv hs fun taken tr s hinv hs => ?_
    refine Ensures.rejectIf_ok fun _ => ?_
    refine Ensures.bind_ok hinv (ensures_listHashes profile.id hs)
      fun hashes tr s hinv h => ?_
    refine Ensures.bind_ok hinv (ensures_renameTxn h.1 h.2) fun result tr' s hinv hbut => ?_
    refine Ensures.bind_ok hinv (ensures_evictAll hinv hbut) fun _ tr s hinv hs => ?_
    -- only the cached name summaries are left
    have hrest : Plain ((step (.deleteProfileNameSummary result.oldName)).bind fun _ =>
        (step (.deleteProfileNameSummary result.profile.name)).bind fun _ =>
        (.ok result : Service RenameResult)) := ⟨rfl, fun _ => ⟨rfl, fun _ => trivial⟩⟩
    exact (KeepsDormant.of_plain hrest tr s hinv hs).mono fun _ _ _ h _ _ => h

theorem ensures_renameProfileForUser_dormant (policy : RuntimeYggdrasilPolicy) (userId : Nat)
    (uuid newName : String) (hinv : CacheFromRows s) (hs : Rests hash tr s) :
    (renameProfileForUser policy userId uuid newName).Ensures (renameDiscipline hash)
      (OnOk fun _ tr s => Rests hash tr s) tr s := by
  have hmay : KeepsDormant hash (ensureMayManageProfiles userId) :=
    .of_plain (plain_ensureMayManageProfiles userId)
  refine hmay.bind_ok hinv hs fun _ tr s hinv hs => ?_
  have hcheck : KeepsDormant hash (checkProfileName newName false) :=
    .of_plain (plain_checkProfileName newName false)
  refine hcheck.bind_ok hinv hs fun _ tr s hinv hs => ?_
  have hfind : KeepsDormant hash (query (.profileFindByUuidForUser uuid userId)) :=
    .of_plain ⟨rfl, fun _ => trivial⟩
  refine hfind.bind_ok hinv hs fun found tr s hinv hs => ?_
  cases found with
  | none => exact fun s' hr _ _ _ => hs.rely hr
  | some profile =>
      refine Ensures.bind_ok hinv
        (ensures_renameProfile_dormant policy profile newName hinv hs) fun result tr s _ hs => ?_
      exact fun s' hr _ _ _ => hs.rely hr

theorem ensures_adminRenameProfile_dormant (policy : RuntimeYggdrasilPolicy)
    (uuid newName : String) (hinv : CacheFromRows s) (hs : Rests hash tr s) :
    (adminRenameProfile policy uuid newName).Ensures (renameDiscipline hash)
      (OnOk fun _ tr s => Rests hash tr s) tr s := by
  have hfind : KeepsDormant hash (query (.profileFindByUuid uuid)) :=
    .of_plain ⟨rfl, fun _ => trivial⟩
  refine hfind.bind_ok hinv hs fun found tr s hinv hs => ?_
  cases found with
  | none => exact fun s' _ _ _ h => nomatch h
  | some profile => exact ensures_renameProfile_dormant policy profile newName hinv hs

end Rename

/-! ## The calls of the service -/

section Calls

variable (verify : String → String → Except AsterError Bool) {hash : String}

/-- The access token that a call hands to `activeToken` first of all. -/
def Call.presentsActive : Call → Option String
  | .validate body => some body.accessToken
  | .join body _ => some body.accessToken
  | .tokenForOperation access _ false => some access
  | _ => none

/-- A call that presents a token to `activeToken` starts by presenting it. -/
theorem presentsActive_call {call : Call} {access : String}
    (h : call.presentsActive = some access) :
    PresentsActive hash (call.body verify) access := by
  cases call with
  | validate body =>
      cases h
      have hvalidate : PresentsActive hash (validate body) body.accessToken :=
        ⟨body.clientToken, _, rfl, fun _ => .ok ()⟩
      exact hvalidate.bind fun _ => .ok _
  | join body clientIp =>
      cases h
      obtain ⟨rest, hjoin, hrest⟩ := join_presents body clientIp
      have hjoins : PresentsActive hash (join body clientIp) body.accessToken :=
        ⟨none, rest, hjoin, fun t => .of_uses (hrest t) (by decide)⟩
      exact hjoins.bind fun _ => .ok _
  | tokenForOperation access client allow =>
      cases allow with
      | true => cases h
      | false =>
          cases h
          exact ⟨client, _, rfl, fun _ => .ok _⟩
  | _ => cases h

theorem keepsDormant_refresh (body : RefreshReq) (ctx : RequestContext) :
    KeepsDormant hash (refresh body ctx) := by
  refine (keepsDormant_tokenForOperation _ _ _).bind fun existing => ?_
  refine (KeepsDormant.of_plain (plain_userFindById _ _)).bind fun user => ?_
  refine (KeepsDormant.of_plain Within.rejectIf).bind fun _ => ?_
  refine (KeepsDormant.of_plain (plain_refreshSelection _ _ _)).bind fun selected => ?_
  refine (KeepsDormant.of_uses (uses_refreshToken _ _) (by decide)).bind fun issued => ?_
  exact (KeepsDormant.of_plain (plain_loadSelectedProfile _)).bind fun _ => .ok _

theorem keepsDormant_invalidate (body : TokenReq) : KeepsDormant hash (invalidate body) := by
  refine (keepsDormant_tokenForOperation _ _ _).attempt.bind fun found => ?_
  refine (KeepsDormant.of_plain (plain_loadSelectedProfile _)).bind fun _ => ?_
  exact .of_uses (uses_revokeByAccessToken _) (by decide)

/-- What a call has achieved for the token that has returned. -/
structure RenamePost (hash : String) (call : Call) (tr : Trace serviceMachine)
    (r : Except ServiceError Response) (s : ServiceState) : Prop where
  dormant : ∀ a, r = .ok a → Rests hash tr s
  accepted : call.presentsActive = some hash → ∀ a, r = .ok a → SeenAwake hash tr

/-- Every call that succeeds leaves the token dormant if it has renamed the profile. -/
theorem ensures_call_dormant {call : Call} (hkeep : call.keepsAccounts = true)
    {s : ServiceState} (hinv : CacheFromRows s) :
    (call.body verify).Ensures (renameDiscipline hash)
      (OnOk fun _ tr s => Rests hash tr s) [] s := by
  have hkept : ∀ {p : Service Response}, KeepsDormant hash p →
      p.Ensures (renameDiscipline hash) (OnOk fun _ tr s => Rests hash tr s) [] s :=
    fun hp => (hp [] s hinv (rests_nil hash s)).mono fun _ _ _ h _ _ => h
  cases call with
  | renameProfile policy userId uuid newName =>
      refine Ensures.bind_ok hinv (ensures_renameProfileForUser_dormant policy userId uuid
        newName hinv (rests_nil hash s)) fun result tr s _ hs => ?_
      exact fun s' hr _ _ _ => hs.rely hr
  | adminRenameProfile policy uuid newName =>
      refine Ensures.bind_ok hinv (ensures_adminRenameProfile_dormant policy uuid
        newName hinv (rests_nil hash s)) fun result tr s _ hs => ?_
      exact fun s' hr _ _ _ => hs.rely hr
  | validate body =>
      exact hkept (((keepsDormant_tokenForOperation _ _ _).bind fun _ => .ok _).bind
        fun _ => .ok _)
  | join body clientIp =>
      obtain ⟨rest, hjoin, hrest⟩ := join_presents body clientIp
      have hjoins : KeepsDormant hash (join body clientIp) := by
        rw [hjoin]
        exact (keepsDormant_tokenForOperation _ _ _).bind fun t =>
          .of_uses (hrest t) (by decide)
      exact hkept (hjoins.bind fun _ => .ok _)
  | refresh body ctx => exact hkept ((keepsDormant_refresh body ctx).bind fun _ => .ok _)
  | invalidate body => exact hkept ((keepsDormant_invalidate body).bind fun _ => .ok _)
  | tokenForOperation access client allow =>
      exact hkept ((keepsDormant_tokenForOperation _ _ _).bind fun _ => .ok _)
  | deleteUser userId => cases hkeep
  | _ =>
      exact hkept (.of_uses (Call.uses_body verify _) (by simp [Call.kinds, quietKinds]))

/-- Every call achieves its postcondition. -/
theorem ensures_renamePost (call : TokenCall) {s : ServiceState} (hinv : CacheFromRows s) :
    (call.body verify).Ensures (renameDiscipline hash) (RenamePost hash call.1) [] s := by
  obtain ⟨call, hkeep⟩ := call
  have hdormant : (call.body verify).Ensures (renameDiscipline hash)
      (OnOk fun _ tr s => Rests hash tr s) [] s := ensures_call_dormant verify hkeep hinv
  by_cases hp : call.presentsActive = some hash
  · have hpresents : PresentsActive hash (call.body verify) hash := presentsActive_call verify hp
    refine (hdormant.and (hpresents.ensures hinv (rests_nil hash s))).mono fun tr r s h => ?_
    exact ⟨h.1, fun _ => h.2⟩
  · exact hdormant.mono fun tr r s h => ⟨h, fun hpresents => absurd hpresents hp⟩

end Calls

/-! ## Refreshing -/

/-- What a presented hash finds is an unrevoked version of its unrevoked row. -/
theorem wp_lookupToken_row {s : ServiceState} (hinv : CacheFromRows s)
    {row : YggdrasilToken} (hrow : row ∈ s.db.tokens.rows) (hlive : row.revokedAt = none) :
    (lookupToken row.accessTokenHash).Wp serviceMachine (fun r s' => s' = s ∧
      ∃ t, r = .ok t ∧ t.revokedAt = none ∧ LaterRow t row) s := by
  refine wp_stmt_bind.mpr ?_
  have hread : (serviceMachine.exec (.getToken row.accessTokenHash) s).2 = s := rfl
  rw [hread]
  cases hget : (serviceMachine.exec (.getToken row.accessTokenHash) s).1 with
  | some t =>
      obtain ⟨hrev, hhash, t', ht', hlater⟩ := hinv.cache _ t hget
      have heq : t' = row := row_unique ht' hrow (hlater.hash.trans hhash)
      exact ⟨rfl, t, rfl, hrev, heq ▸ hlater⟩
  | none =>
      refine wp_stmt_bind.mpr ?_
      have hread : (serviceMachine.exec (.db (.tokenFindByAccessHash row.accessTokenHash))
        s).2 = s := rfl
      rw [hread]
      cases hfind : (serviceMachine.exec
          (.db (.tokenFindByAccessHash row.accessTokenHash)) s).1 with
      | none =>
          have hmiss := Table.find?_eq_none.mp hfind row hrow
          simp at hmiss
      | some t =>
          obtain ⟨ht, hhash⟩ := of_findByAccessHash hfind
          have heq : t = row := row_unique ht hrow hhash
          subst heq
          exact ⟨rfl, t, rfl, hlive, .refl t⟩

/-- **Refreshing stays possible**: `refreshableToken` accepts a token that is neither
revoked nor expired, marked or not, unless its user is banned or the request names
another client token. -/
theorem refreshable_iff {s : ServiceState} (hinv : CacheFromRows s) {row : YggdrasilToken}
    (hrow : row ∈ s.db.tokens.rows) (hlive : row.revokedAt = none)
    (hunexpired : s.db.now < row.expiresAt) (client : Option String) :
    (∃ t, ((refreshableToken row.accessTokenHash client).run serviceMachine s).1 = .ok t) ↔
      (∀ c ∈ client, row.clientToken = c) ∧
        s.db.findEffectiveBan row.userId .yggdrasilAccess = none := by
  show (refreshableToken row.accessTokenHash client).Wp serviceMachine (fun r _ =>
    (∃ t, r = .ok t) ↔ (∀ c ∈ client, row.clientToken = c) ∧
      s.db.findEffectiveBan row.userId .yggdrasilAccess = none) s
  refine wp_bind.mpr ((wp_lookupToken_row hinv hrow hlive).mono ?_)
  intro r s' h
  obtain ⟨rfl, t, rfl, hrev, hlater⟩ := h
  have hexp : ¬ t.expiresAt ≤ s'.db.now := by
    rw [← hlater.expiresAt]
    omega
  refine wp_stmt_bind.mpr (wp_rejectIf (fun hdead => ?_) fun _ => ?_)
  · have hdead : (t.revokedAt.isSome || decide (t.expiresAt ≤ s'.db.now)) = true := hdead
    simp [hrev, hexp] at hdead
  refine wp_stmt_bind.mpr (wp_rejectIf (fun hmarked => ?_) fun _ => ?_)
  · simp at hmarked
  rw [← hlater.clientToken, ← hlater.userId]
  have hclient : (client.any fun c => decide (row.clientToken ≠ c)) = false ↔
      ∀ c ∈ client, row.clientToken = c := by
    cases client with
    | none => simp
    | some c => simp
  refine wp_rejectIf (fun hother => ?_) fun hsame => ?_
  · constructor
    · intro ⟨t, ht⟩
      cases ht
    · intro ⟨hsame, _⟩
      rw [hclient.mpr hsame] at hother
      cases hother
  refine wp_bind.mpr (wp_isUserBanned.mpr (wp_rejectIf (fun hban => ?_) fun hban => ?_))
  · constructor
    · intro ⟨t, ht⟩
      cases ht
    · intro ⟨_, hnone⟩
      have hban : (s'.db.findEffectiveBan row.userId .yggdrasilAccess).isSome = true := hban
      simp [hnone] at hban
  · have hban : (s'.db.findEffectiveBan row.userId .yggdrasilAccess).isSome = false := hban
    exact ⟨fun _ => ⟨hclient.mp hsame, by simpa using hban⟩, fun _ => ⟨t, rfl⟩⟩

/-! ## Every interleaving -/

section Runs

open Config

variable (verify : String → String → Except AsterError Bool)

/-- Every step of the run clears the cache of the token as it should. -/
def FollowsClearing (hash : String) (c : TokenPool) (i : Nat) (st : ServiceStmt) : Prop :=
  ClearsCache hash (c.trace i) st c.shared

instance (hash : String) (c : TokenPool) (i : Nat) (st : ServiceStmt) :
    Decidable (FollowsClearing hash c i st) :=
  inferInstanceAs (Decidable (ClearsCache hash (c.trace i) st c.shared))

/-- Every step of a call that had started in `c₁` clears the cache as it should;
nothing is asked of the calls that start later. -/
def EarlierClear (hash : String) (c₁ c : TokenPool) (i : Nat) (st : ServiceStmt) : Prop :=
  c₁.trace i ≠ [] → ClearsCache hash (c.trace i) st c.shared

instance (hash : String) (c₁ c : TokenPool) (i : Nat) (st : ServiceStmt) :
    Decidable (EarlierClear hash c₁ c i st) :=
  match hi : c₁.trace i with
  | [] => isTrue fun h => absurd hi h
  | _ :: _ =>
      decidable_of_iff (ClearsCache hash (c.trace i) st c.shared)
        ⟨fun h _ => h, fun h => h (by simp [hi])⟩

/-- In a run that has come from a state in which the token is dormant, the calls that
have started since have found it dormant all along. -/
theorem letsRest_since {hash : String} {c₁ c : TokenPool} {i : Nat} {st : ServiceStmt}
    (hdormant : Dormant c₁.shared hash) (hsince : Since (renameDiscipline hash) c₁ c)
    (hclears : EarlierClear hash c₁ c i st) : LetsRest hash (c.trace i) st c.shared := by
  by_cases hstarted : c₁.trace i = []
  · refine Or.inr ⟨hsince.shared.2 hdormant, ?_⟩
    intro ⟨⟨st', s⟩, he, hawake⟩
    exact hawake ((hsince.trace hstarted he).2 hdormant)
  · exact Or.inl (hclears hstarted)

/-- The profile that a statement renames. -/
def ServiceStmt.renames : ServiceStmt → Option Nat
  | .txn (.renameProfile profile _) => some profile.id
  | _ => none

/-- The token was bound to the profile that call `i` has renamed, when the rename
committed. -/
def RenamedUnder (c : TokenPool) (i : Nat) (t : YggdrasilToken) : Prop :=
  ∃ e ∈ c.log, e.tid = i ∧ t ∈ e.pre.db.tokens.rows ∧
    (ServiceStmt.renames e.stmt).any fun p => t.selectedProfileId = some p

instance (c : TokenPool) (i : Nat) (t : YggdrasilToken) : Decidable (RenamedUnder c i t) :=
  inferInstanceAs (Decidable (∃ e ∈ c.log, _))

theorem RenamedUnder.outdated {c : TokenPool} {i : Nat} {t : YggdrasilToken}
    (h : RenamedUnder c i t) : Outdated (c.trace i) t.accessTokenHash := by
  obtain ⟨⟨tid, stmt, pre⟩, he, htid, ht, hbound⟩ := h
  refine ⟨(stmt, pre), mem_trace.mpr ⟨_, he, htid, rfl, rfl⟩, ?_⟩
  cases stmt with
  | txn txn =>
      cases txn with
      | renameProfile profile newName =>
          exact ⟨t, ht, rfl, by simpa [ServiceStmt.renames] using hbound⟩
      | _ => cases hbound
  | _ => cases hbound

/-- **A rename asks for a refresh** in every run in which the calls that had started
before it returned clear the cache as they should.  Once a rename has returned
success, no call that starts later gets a token accepted as active that was bound to
the profile when the rename committed; and as long as the token is neither revoked nor
expired, it can be refreshed. -/
theorem rename_forces_refresh {s₀ : ServiceState} (hstart : CacheFromRows s₀)
    {before after : List (Action TokenCall)} {c₁ c₂ : TokenPool}
    (hc₁ : c₁ = (initial s₀).runs (TokenCall.body verify) before)
    (hc₂ : c₂ = c₁.runs (TokenCall.body verify) after) {t : YggdrasilToken}
    (hbefore : Admissible (TokenCall.body verify) (FollowsClearing t.accessTokenHash)
      (initial s₀) before)
    (hafter : Admissible (TokenCall.body verify) (EarlierClear t.accessTokenHash c₁) c₁ after)
    {i : Nat} {a : Response} (hreturned : c₁.result? i = some (.ok a))
    (hrenamed : RenamedUnder c₁ i t) :
    (∀ (j : Nat) (th : Thread serviceSignature ServiceError TokenCall Response) (b : Response),
      c₁.trace j = [] → c₂.threads[j]? = some th →
      th.call.1.presentsActive = some t.accessTokenHash → c₂.result? j ≠ some (.ok b)) ∧
    ∀ row ∈ c₂.shared.db.tokens.rows, row.accessTokenHash = t.accessTokenHash →
      row.revokedAt = none → c₂.shared.db.now < row.expiresAt →
      ∀ client : Option String,
        (∃ t', ((refreshableToken t.accessTokenHash client).run serviceMachine
          c₂.shared).1 = .ok t') ↔
        (∀ c ∈ client, row.clientToken = c) ∧
          c₂.shared.db.findEffectiveBan row.userId .yggdrasilAccess = none := by
  have hbody : ∀ (_ : Nat) (call : TokenCall) s, CacheFromRows s →
      (call.body verify).Ensures (renameDiscipline t.accessTokenHash)
        (RenamePost t.accessTokenHash call.1) [] s :=
    fun _ call s hinv => ensures_renamePost verify call hinv
  have hgood₁ : Good (renameDiscipline t.accessTokenHash)
      (fun _ call => RenamePost t.accessTokenHash call.1) c₁ := by
    rw [hc₁]
    exact good_runs (fun _ _ _ h _ => Or.inl h) hbody (good_initial hstart) hbefore
  -- the token is dormant when the rename has returned
  have hdormant : Dormant c₁.shared t.accessTokenHash := by
    obtain ⟨th', hth', -⟩ : ∃ th', c₁.threads[i]? = some th' ∧
        th'.result? = some (.ok a) := by
      simpa [Config.result?, Option.bind_eq_some_iff] using hreturned
    exact (hgood₁.result hth' hreturned).dormant a rfl hrenamed.outdated
  have hrun := good_runs_since (fun c i st _ hsince hclears _ =>
    letsRest_since hdormant hsince hclears) hbody hgood₁ hafter
  rw [← hc₂] at hrun
  obtain ⟨hgood₂, hsince⟩ := hrun
  constructor
  · intro j th b hlater hth hpresents hok
    -- call `j` has seen the token awake, in a state that still has it dormant
    obtain ⟨⟨st, s⟩, he, hawake⟩ := (hgood₂.result hth hok).accepted hpresents b rfl
    exact hawake ((hsince.trace hlater he).2 hdormant)
  · intro row hrow hhash hlive hunexpired client
    rw [← hhash]
    exact refreshable_iff hgood₂.inv hrow hlive hunexpired client

end Runs

/-! ## A stale fill of the cache -/

section StaleFill

open Config

/-- An account with one profile and the token `t`, bound to it. -/
def boundToken : ServiceState :=
  { onePlayer with
    db := { onePlayer.db with
      tokens := ⟨[⟨1, 1, "t", "client", some 1, 0, 1000, none, none, none, none⟩], 2,
        by decide, by decide⟩ } }

/-- The rename of the profile. -/
def renameToBob : TokenCall := ⟨.renameProfile smallPolicy 1 "uuid1" "Bobby", rfl⟩

/-- A run over the account with one bound token. -/
def renameRun (sched : List (Action TokenCall)) : TokenPool :=
  (initial boundToken).runs (TokenCall.body plainPassword) sched

/-- A rename on its own. -/
def renameAlone : List (Action TokenCall) :=
  .spawn renameToBob :: List.replicate 20 (.run 0)

/-- A validation that starts afterwards. -/
def validateAfter : List (Action TokenCall) :=
  .spawn validateT :: List.replicate 6 (.run 1)

/-- A validation reads the row, and fills the cache after the rename has returned;
another one starts then. -/
def fillAfterRename : List (Action TokenCall) :=
  [.spawn validateT, .run 0, .run 0, .run 0, .spawn renameToBob] ++ List.replicate 20 (.run 1)

def validateTwice : List (Action TokenCall) :=
  [.run 0, .run 0, .spawn validateT] ++ List.replicate 6 (.run 2)

/-- The token of the run. -/
def tokenT : YggdrasilToken := ⟨1, 1, "t", "client", some 1, 0, 1000, none, none, none, none⟩

/-- After a rename on its own the token is refused, and can be refreshed. -/
theorem rename_forces_refresh_alone :
    (renameRun (renameAlone ++ validateAfter)).result? 1 ≠ some (.ok .done) ∧
      ∃ t', ((refreshableToken "t" (some "client")).run serviceMachine
        (renameRun (renameAlone ++ validateAfter)).shared).1 = .ok t' := by
  have hstart : CacheFromRows boundToken :=
    ⟨by unfold ClockOk; decide, fun hash t ht => by cases ht⟩
  have hruns : renameRun (renameAlone ++ validateAfter) =
      (renameRun renameAlone).runs (TokenCall.body plainPassword) validateAfter :=
    runs_append _ _ _
  obtain ⟨a, hreturned⟩ : ∃ a, (renameRun renameAlone).result? 0 = some (.ok a) := ⟨_, rfl⟩
  obtain ⟨hrefused, hrefreshed⟩ := rename_forces_refresh plainPassword hstart rfl hruns
    (by decide +kernel) (by decide +kernel) hreturned
    (by decide +kernel : RenamedUnder (renameRun renameAlone) 0 tokenT)
  refine ⟨hrefused 1 _ .done rfl rfl rfl, ?_⟩
  refine (hrefreshed ⟨1, 1, "t", "client", some 1, 0, 1000, none, some 10, none, none⟩
    (by decide +kernel) rfl rfl (by decide +kernel) (some "client")).mpr ⟨?_, rfl⟩
  intro c hc
  exact Option.some.inj hc

/-- **A stale fill of the cache outlives a rename**: the rename has returned and has
marked the token, and a validation that starts afterwards succeeds, because the cache
was filled with the row read before. -/
theorem renamed_token_accepted :
    (∃ result, (renameRun fillAfterRename).result? 1 = some (.ok (.renamed (some result)))) ∧
      RenamedUnder (renameRun fillAfterRename) 1 tokenT ∧
      (renameRun fillAfterRename).trace 2 = [] ∧
      (renameRun (fillAfterRename ++ validateTwice)).threads[2]?.map
        (fun th => th.call.1.presentsActive) = some (some "t") ∧
      (renameRun (fillAfterRename ++ validateTwice)).result? 2 = some (.ok .done) :=
  ⟨⟨_, rfl⟩, by decide +kernel, rfl, rfl, rfl⟩

end StaleFill

end AsterYggdrasil
