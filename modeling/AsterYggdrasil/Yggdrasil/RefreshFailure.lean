import AsterYggdrasil.Yggdrasil.Profile
import AsterYggdrasil.Yggdrasil.SingleUse

/-!
# A refresh that fails

The protocol requires that a failed refresh leaves the original token valid, so
`refresh_token` revokes and replaces in one transaction.  `refresh` however
reads the selected profile once more after the commit, for its answer, and
fails when the profile is gone by then.

`refresh_failure` says that this read is the only way: a refresh that fails
although the read has found the profile (or that never got there) has left
every token row as it was, whatever the other calls of the service do in
between, and a refresh whose read has missed fails after its transaction has
revoked a token.  `refresh_fails_late` is a run in which the profile is deleted
at that moment.
-/

namespace AsterYggdrasil

open Interleave Relational Prog

/-! ## Calls, statement by statement -/

/-- What runs concurrently: the calls of the service, and the database aborting
a transaction. -/
inductive ServiceCall
  | request (call : Call)
  | abort (x : Nat)

section Body

-- `verify_password` of the cryptography library
variable (verifyPassword : String → String → Except AsterError Bool)

def ServiceCall.body : ServiceCall → TokenProg Response
  | .request call => inTokenStore (call.body verifyPassword)
  | .abort x => do
      Prog.stmt (S := tokenStore.signature) (.rollback x)
      pure .done

end Body

/-! ## What the call has seen and done -/

/-- A read of a profile row, if the statement is one, finds the row. -/
def hits (st : tokenStore.Stmt) (s : TokenShared) : Bool :=
  match st with
  | .auto (.db (.profileFindById id)) =>
      (s.committed.db.profiles.find? fun p => p.id = id).isSome
  | _ => true

abbrev ReadHits (ev : tokenStore.Stmt × TokenShared) : Prop := hits ev.1 ev.2 = true

/-- The two states have the same token rows. -/
def SameTokens (a b : ServiceState) : Prop := b.db.tokens.rows = a.db.tokens.rows

theorem SameTokens.refl (s : ServiceState) : SameTokens s s := rfl

/-- Every profile the call has read by id was there, and none of its statements
has changed a token row. -/
def Calm (tr : Trace tokenStore.readCommitted) : Prop :=
  (∀ ev ∈ tr, ReadHits ev) ∧ Store.Untouched SameTokens tr

/-- The first statement of the transaction `x` of a refresh. -/
abbrev findOld (x : Nat) (old : String) : tokenStore.Stmt :=
  .exec x [] (.db (.tokenFindByAccessHash old))

/-- A transaction of the call has found the row of the token and has committed its
revocation: if the row was still there, the token is revoked. -/
def Surrendered (old : String) (tr : Trace tokenStore.readCommitted) : Prop :=
  ∃ x id, (∃ s, (findOld x old, s) ∈ tr ∧ IsRow s.committed.db old id) ∧
    ∃ buf s, (Store.Stmt.commit x buf, s) ∈ tr ∧ (IsRow s.committed.db old id →
      Revoked (tokenStore.exec (.commit x buf) s).2.committed.db old)

/-- How a refresh of the token ends. -/
def RefreshEnd {α : Type} (old : String) (tr : Trace tokenStore.readCommitted)
    (r : Except ServiceError α) (_ : TokenShared) : Prop :=
  match r with
  | .ok _ => ∀ ev ∈ tr, ReadHits ev
  | .error _ => Calm tr ∨ (¬ (∀ ev ∈ tr, ReadHits ev) ∧ Surrendered old tr)

/-! ## The statements before the transaction -/

/-- The statements of a refresh outside of its transaction that read no profile
by id. -/
def ServiceStmt.asks : ServiceStmt → Bool
  | .getToken _ | .setToken _ _ | .deleteToken _ => true
  | .db .now | .db (.tokenFindByAccessHash _) | .db (.banFindEffectiveForScope _ _)
  | .db (.userFindById _) | .db (.profileFindByUuid _) => true
  | _ => false

/-- A program of such statements. -/
abbrev Asks {α : Type} (p : Service α) : Prop :=
  p.Within fun i : ServiceStmt => i.asks = true

theorem asks_userFindById (userId : Nat) :
    Asks (onPool .ofAster (userFindById userId)) := by
  rw [onPool_userFindById]
  refine Within.stmt_bind rfl fun found => ?_
  cases found <;> trivial

theorem asks_tokenForOperation (access : String) (client : Option String) (allow : Bool) :
    Asks (tokenForOperation access client allow) := by
  have hlookup : Asks (lookupToken access) := by
    refine Within.stmt_bind rfl fun cached => ?_
    cases cached with
    | some token => trivial
    | none =>
        refine Within.stmt_bind rfl fun row => ?_
        cases row <;> trivial
  refine hlookup.bind fun token => Within.stmt_bind rfl fun now => ?_
  refine Within.rejectIf.bind fun _ => Within.stmt_bind rfl fun _ => ?_
  refine Within.rejectIf.bind fun _ => Within.rejectIf.bind fun _ => ?_
  have hbanned : Asks (isUserBanned token.userId .yggdrasilAccess) :=
    Within.stmt_bind rfl fun _ => trivial
  exact hbanned.bind fun _ => Within.rejectIf.bind fun _ => trivial

theorem asks_refreshSelection (existing : YggdrasilToken) (user : User)
    (selected : Option String) : Asks (refreshSelection existing user selected) := by
  cases selected with
  | none => trivial
  | some selected =>
      refine Within.rejectIf.bind fun _ => Within.stmt_bind rfl fun found => ?_
      cases found with
      | none => trivial
      | some profile => exact Within.rejectIf.bind fun _ => trivial

/-- The statement has found what it looks for and leaves the token rows as they
are. -/
def Careful (st : tokenStore.Stmt) : Prop :=
  ∀ s : TokenShared, ReadHits (st, s) ∧ SameTokens s.committed (tokenStore.exec st s).2.committed

theorem careful_asks {i : ServiceStmt} (hi : i.asks = true) : Careful (.auto i) := by
  cases i with
  | db i => cases i <;> first | exact fun s => ⟨rfl, rfl⟩ | cases hi
  | txn t => cases hi
  | getToken _ => exact fun s => ⟨rfl, rfl⟩
  | setToken _ _ => exact fun s => ⟨rfl, rfl⟩
  | deleteToken _ => exact fun s => ⟨rfl, rfl⟩
  | _ => cases hi

/-- Such a statement runs for itself. -/
theorem step_asks {i : ServiceStmt} (hi : i.asks = true) : (tokenStep i).Within Careful := by
  have hcareful : Careful (.auto i) := careful_asks hi
  cases i with
  | txn t => cases hi
  | _ => exact within_act.mpr ⟨hcareful, fun _ => trivial⟩

section Calls

variable {α β : Type} {old : String} {tr : Trace tokenStore.readCommitted}
  {s : TokenShared}

theorem Calm.nil : Calm [] := ⟨by simp, fun _ h => by cases h⟩

/-- A program of such statements stays calm. -/
theorem ensures_asks {p : Service α} (hp : Asks p) (htr : Calm tr) :
    (inTokenStore p).Ensures (.free _) (fun tr _ _ => Calm tr) tr s := by
  have hsteps : (inTokenStore p).Within Careful := Within.translate (fun i => step_asks) hp
  have hboth : ∀ ev ∈ tr, ReadHits ev ∧
      SameTokens ev.2.committed (tokenStore.exec ev.1 ev.2).2.committed :=
    fun ev hev => ⟨htr.1 ev hev, htr.2 ev hev⟩
  refine (Within.events (fun i s h => h s) hsteps hboth).mono ?_
  intro tr _ _ h
  exact ⟨fun ev hev => (h ev hev).1, fun ev hev => (h ev hev).2⟩

/-- Behind such a program the call goes on calmly, or has failed so. -/
theorem ensures_asks_bind {p : Service α} {f : α → Service β} (hp : Asks p)
    (htr : Calm tr)
    (hf : ∀ a tr s, Calm tr → (inTokenStore (f a)).Ensures (.free _) (RefreshEnd old) tr s) :
    (inTokenStore (p.bind f)).Ensures (.free _) (RefreshEnd old) tr s := by
  rw [inTokenStore_bind]
  refine Ensures.bind True.intro ((ensures_asks hp htr).mono ?_)
  intro tr r s hcalm
  cases r with
  | ok a => exact fun _ => hf a tr s hcalm
  | error e => exact Or.inl hcalm

/-! ## The transaction -/

/-- The sequence of token ids is all a transaction moves before it commits. -/
theorem exchange_immediate {i : ServiceStmt} (s : ServiceState)
    (himm : i.immediate = true) : SameTokens s (i.exec s).2 := by
  cases i with
  | db i => cases i <;> first | rfl | cases himm
  | txn t => cases himm
  | _ => rfl

/-- A transaction that fails changes no token row. -/
theorem ensures_txn_calm (t : Txn) (htr : Calm tr) :
    (txnSteps t).Ensures (.free _) (fun tr r _ => (∀ ev ∈ tr, ReadHits ev) ∧
      ∀ e, r = .error e → Calm tr) tr s := by
  have hreads : (txnSteps t).Within fun st => ∀ s : TokenShared, ReadHits (st, s) :=
    Store.within_transaction (fun _ => rfl) (fun _ _ _ _ => rfl)
      (fun _ _ _ => rfl) fun _ _ => rfl
  have huntouched := Store.ensures_untouched (σ := tokenStore) SameTokens.refl
    (fun i s _ himm => exchange_immediate s himm) t.lost
    (.trivial (t.body.hoist poolHom id)) s htr.2
  refine ((Within.events (fun i s h => h s) hreads htr.1).and huntouched).mono ?_
  rintro tr r s ⟨hhits, hsame⟩
  exact ⟨hhits, fun e he => ⟨hhits, hsame e he⟩⟩

/-- The statements that issue the replacement. -/
theorem exchanges_issueToken (args : IssueToken) :
    (onPool .ofAster (issueTokenInConnection args)).Within
      fun i : ServiceStmt => i.exchanges = true := by
  obtain ⟨input, heq⟩ := onPool_issueToken args
  rw [heq]
  refine Within.stmt_bind rfl fun now => ?_
  refine (Within.hoist Within.rejectIf).bind fun _ => ?_
  refine (Within.hoist Within.rejectIf).bind fun _ => Within.stmt_bind rfl fun tokenId => ?_
  refine Within.stmt_bind rfl fun row => ?_
  have hrequired : (onPool .ofAster (DbProg.required .databaseOperation row)).Within
      fun i : ServiceStmt => i.exchanges = true := by
    cases row <;> trivial
  refine hrequired.bind fun token => Within.bind ?_ fun _ => trivial
  exact (quiet_prune _ _).mono fun i hi => hi.1

/-- The commit of the revocation. -/
theorem ensures_revoked (args : IssueToken) {lost : ServiceError} {x id stamp now : Nat}
    {s' : TokenShared} (hfound : (findOld x old, s') ∈ tr)
    (hrow : IsRow s'.committed.db old id) :
    (Store.transact (σ := tokenStore) lost x [(.db (.tokenFindByAccessHash old), stamp),
      (.db (.tokenSetRevoked id), now)]
      (onPool .ofAster (issueTokenInConnection args)) (Store.commitWith lost x)).Ensures
        (.free tokenStore.readCommitted) (OnOk fun _ tr _ => Surrendered old tr) tr s := by
  have hbuf : ∀ w ∈ [((.db (.tokenFindByAccessHash old), stamp) : ServiceStmt × Nat),
      (.db (.tokenSetRevoked id), now)], w.1.exchanges = true := by
    simp [ServiceStmt.exchanges]
  have hw : ((.db (.tokenSetRevoked id), now) : ServiceStmt × Nat) ∈
      [(.db (.tokenFindByAccessHash old), stamp), (.db (.tokenSetRevoked id), now)] := by
    simp
  refine (Store.ensures_committed (exchanges_issueToken args) hbuf hw).mono ?_
  intro tr' r _ h a ha
  obtain ⟨hpre, buf, s'', hev, hopen, hwrites, hmem⟩ := h a ha
  refine ⟨x, id, ⟨s', hpre.subset hfound, hrow⟩, buf, s'', hev, fun hstill => ?_⟩
  simp only [Store.exec, hopen, if_false]
  exact replay_setRevoked hwrites hmem rfl hstill

/-- The exchange of the row that was found. -/
theorem ensures_exchange_spent (args : IssueToken) {x stamp : Nat} {lost : ServiceError}
    {s' : TokenShared} (hevent : (findOld x old, s') ∈ tr)
    {found : Option YggdrasilToken}
    (hfound : ∀ t, found = some t → IsRow s'.committed.db old t.id) :
    (Store.transact (σ := tokenStore) lost x [(.db (.tokenFindByAccessHash old), stamp)]
      (exchangeFound args found) (Store.commitWith lost x)).Ensures
        (.free tokenStore.readCommitted) (OnOk fun _ tr _ => Surrendered old tr) tr s := by
  cases found with
  | none => exact fun _ _ _ _ => ⟨True.intro, Ensures.err _ _ _⟩
  | some t =>
      dsimp only [exchangeFound]
      split
      · exact fun _ _ _ _ => ⟨True.intro, Ensures.err _ _ _⟩
      · refine Store.ensures_exec (fun _ _ _ => Ensures.err _ _ _)
          fun s₂ _ _ _ => ⟨True.intro, fun _ _ => ?_⟩
        simp only [ok_bind]
        split
        · exact ensures_revoked args (List.mem_append_left _ hevent) (hfound t rfl)
        · exact fun _ _ _ _ => ⟨True.intro, Ensures.err _ _ _⟩

/-- The transaction of a refresh that succeeds has revoked the token. -/
theorem ensures_txn_spent (args : IssueToken) :
    (txnSteps (.refreshToken old args)).Ensures (.free _)
      (OnOk fun _ tr _ => Surrendered old tr) tr s := by
  unfold txnSteps Store.transaction
  rw [refreshTxn_eq]
  intro s₀ _ _ _
  refine ⟨True.intro, Store.ensures_exec (fun _ _ _ => Ensures.err _ _ _)
    fun s₁ _ _ _ => ⟨True.intro, fun _ _ => ?_⟩⟩
  refine ensures_exchange_spent args
    (List.mem_append_right _ (List.mem_singleton.mpr rfl)) fun t hfind => ?_
  exact row_of_find hfind

/-! ## The call -/

/-- Behind the commit: every profile was found so far, and the token is
revoked. -/
def Committed (old : String) (tr : Trace tokenStore.readCommitted) : Prop :=
  (∀ ev ∈ tr, ReadHits ev) ∧ Surrendered old tr

theorem Surrendered.append {tr' : Trace tokenStore.readCommitted} (h : Surrendered old tr)
    (hpre : tr <+: tr') : Surrendered old tr' := by
  obtain ⟨x, id, ⟨s, hfound, hrow⟩, buf, s', hcommit, hrevoked⟩ := h
  exact ⟨x, id, ⟨s, hpre.subset hfound, hrow⟩, buf, s', hpre.subset hcommit, hrevoked⟩

/-- Evicting cached tokens does not fail. -/
theorem ensures_evictSpent (hashes : List String) (htr : Committed old tr) :
    (inTokenStore (invalidateTokenCacheHashes hashes)).Ensures (.free _)
      (fun tr r _ => Committed old tr ∧ r = .ok ()) tr s := by
  induction hashes generalizing tr s with
  | nil => exact fun _ _ _ => ⟨htr, rfl⟩
  | cons hash hashes ih =>
      intro s' _ _ _
      refine ⟨True.intro, ih ⟨fun ev hev => ?_, htr.2.append (List.prefix_append _ _)⟩⟩
      rcases List.mem_append.mp hev with hev | hev
      · exact htr.1 ev hev
      · rw [List.mem_singleton.mp hev]
        rfl

/-- The read of the selected profile for the answer. -/
theorem ensures_loadSelectedProfile (selected : Option Nat)
    {f : Option MinecraftProfile → α} (htr : Committed old tr) :
    (inTokenStore ((loadSelectedProfile selected).bind fun p => .ok (f p))).Ensures
      (.free _) (RefreshEnd old) tr s := by
  cases selected with
  | none => exact fun _ _ _ => htr.1
  | some profileId =>
      simp only [loadSelectedProfile, bind_eq, onPool_profileFindById]
      intro s' _ _ _
      refine ⟨True.intro, ?_⟩
      have hreply : ∀ found, (tokenStore.exec (.auto (.db (.profileFindById profileId))) s').1 =
          found → found = s'.committed.db.profiles.find? fun p => p.id = profileId :=
        fun _ h => h.symm
      simp only at hreply ⊢
      generalize (tokenStore.exec (.auto (.db (.profileFindById profileId))) s').1 =
        found at hreply ⊢
      have hfound := hreply found rfl
      cases found with
      | some profile =>
          intro _ _ _ ev hev
          rcases List.mem_append.mp hev with hev | hev
          · exact htr.1 ev hev
          · rw [List.mem_singleton.mp hev]
            show (s'.committed.db.profiles.find? fun p => p.id = profileId).isSome = true
            rw [← hfound]
            rfl
      | none =>
          intro _ _ _
          refine Or.inr ⟨fun hhits => ?_, htr.2.append (List.prefix_append _ _)⟩
          have hhit : (s'.committed.db.profiles.find? fun p => p.id = profileId).isSome =
              true := hhits _ (List.mem_append_right _ (List.mem_singleton.mpr rfl))
          rw [← hfound] at hhit
          cases hhit

/-- **A whole refresh.** -/
theorem ensures_failedRefresh (body : RefreshReq) (ctx : RequestContext) :
    (inTokenStore (refresh body ctx)).Ensures (.free _) (RefreshEnd body.accessToken)
      [] s := by
  refine ensures_asks_bind (asks_tokenForOperation _ _ _) Calm.nil fun existing tr s htr => ?_
  refine ensures_asks_bind (asks_userFindById _) htr fun user tr s htr => ?_
  refine ensures_asks_bind Within.rejectIf htr fun _ tr s htr => ?_
  refine ensures_asks_bind (asks_refreshSelection _ _ _) htr fun selected tr s htr => ?_
  simp only [refreshToken, bind_eq, pure_eq, Prog.bind_assoc, ok_bind]
  rw [inTokenStore_bind, inTokenStore_withTransaction]
  refine Ensures.bind True.intro
    (((ensures_txn_calm _ htr).and (ensures_txn_spent _)).mono ?_)
  rintro tr r s ⟨⟨hhits, hcalm⟩, hspent⟩
  cases r with
  | error e => exact Or.inl (hcalm e rfl)
  | ok out =>
      intro _
      rw [inTokenStore_bind]
      refine Ensures.bind True.intro
        ((ensures_evictSpent _ ⟨hhits, hspent out rfl⟩).mono ?_)
      rintro tr r s ⟨htr, rfl⟩
      exact fun _ => ensures_loadSelectedProfile _ htr

end Calls

/-! ## Runs -/

section Runs

open Config

-- `verify_password` of the cryptography library
variable {verifyPassword : String → String → Except AsterError Bool}

/-- Concurrent calls of the service. -/
abbrev ServicePool :=
  Config tokenStore.readCommitted ServiceError ServiceCall Response

/-- How a call ends. -/
def ServiceCall.Ends (tr : Trace tokenStore.readCommitted)
    (r : Except ServiceError Response) (s : TokenShared) : ServiceCall → Prop
  | .request (.refresh body _) => RefreshEnd body.accessToken tr r s
  | _ => True

theorem ensures_serviceCall (call : ServiceCall) (s : TokenShared) :
    (call.body verifyPassword).Ensures (.free _) (fun tr r s => call.Ends tr r s) [] s := by
  cases call with
  | abort x => exact fun _ _ _ _ => ⟨trivial, fun _ _ _ => trivial⟩
  | request call =>
      cases call with
      | refresh body ctx =>
          simp only [ServiceCall.body, Call.body, bind_eq, pure_eq, inTokenStore_bind,
            inTokenStore_ok]
          refine Ensures.bind True.intro ((ensures_failedRefresh body ctx).mono ?_)
          intro tr r s hend
          cases r with
          | ok resp => exact fun _ _ _ _ => hend
          | error e => exact hend
      | _ => exact Ensures.unguarded (fun _ _ _ => trivial) _ _ _

/-- **When a failed refresh keeps the token.**  A refresh whose reads of
profiles by id all hit changes no token row if it fails.  One whose read misses
fails although its transaction has revoked the token. -/
theorem refresh_failure {s₀ : ServiceState} {sched : List (Action ServiceCall)}
    {c : ServicePool}
    (hc : c = (initial (tokenStore.start s₀)).runs (ServiceCall.body verifyPassword) sched)
    {i : Nat} {body : RefreshReq} {ctx : RequestContext} {rest : TokenProg Response}
    (hth : c.threads[i]? = some ⟨.request (.refresh body ctx), rest⟩)
    {r : Except ServiceError Response} (hr : c.result? i = some r) :
    ((∀ ev ∈ c.trace i, ReadHits ev) → ∀ e, r = .error e →
      Store.Untouched SameTokens (c.trace i)) ∧
    (¬ (∀ ev ∈ c.trace i, ReadHits ev) →
      (∃ e, r = .error e) ∧ Surrendered body.accessToken (c.trace i)) := by
  have hend : RefreshEnd body.accessToken (c.trace i) r c.shared :=
    result_of_free ensures_serviceCall hc hth hr
  cases r with
  | ok a =>
      have hnone : ∀ e, (.ok a : Except ServiceError Response) ≠ .error e := by simp
      exact ⟨fun _ e he => absurd he (hnone e), fun hmiss => absurd hend hmiss⟩
  | error e =>
      rcases hend with hcalm | ⟨hmiss, hspent⟩
      · exact ⟨fun _ _ _ => hcalm.2, fun hmiss => absurd hcalm.1 hmiss⟩
      · exact ⟨fun hhits => absurd hhits hmiss, fun _ => ⟨⟨e, rfl⟩, hspent⟩⟩

/-- `onePlayer` with a token that has selected the profile. -/
def playing : ServiceState :=
  { onePlayer with
    db := { onePlayer.db with
      tokens := ⟨[⟨1, 1, "t", "launcher", some 1, 0, 1000, none, none, none, none⟩], 2,
        by decide, by decide⟩ } }

/-- A refresh of the token with this hash. -/
def refreshOf (hash : String) : ServiceCall :=
  .request (.refresh ⟨hash, none, none, false⟩
    ⟨⟨true, 7, 10, 1, 0, false, ""⟩, none, none, "new", "c"⟩)

/-- The pool after a schedule that starts with a player in the game. -/
def whilePlaying (sched : List (Action ServiceCall)) : ServicePool :=
  (initial (tokenStore.start playing)).runs
    (ServiceCall.body fun _ _ => .ok true) sched

/-- A refresh that asks for a profile although the token has selected one. -/
def reassigning : ServiceCall :=
  .request (.refresh ⟨"t", none, some "uuid1", false⟩
    ⟨⟨true, 7, 10, 1, 0, false, ""⟩, none, none, "new", "c"⟩)

/-- It fails after it has found the token active, and changes no token. -/
theorem refresh_reassigning_keeps :
    Store.Untouched SameTokens
      ((whilePlaying (.spawn reassigning :: List.replicate 6 (.run 0))).trace 0) := by
  have hresult : (whilePlaying (.spawn reassigning :: List.replicate 6 (.run 0))).result? 0 =
      some (.error (.new .accessTokenAlreadyHasProfile)) := by decide +kernel
  exact (refresh_failure rfl rfl hresult).1 (by decide +kernel) _ rfl

/-- The refresh up to its commit. -/
def untilCommitted : List (Action ServiceCall) :=
  .spawn (refreshOf "t") :: List.replicate 14 (.run 0)

/-- The profile is deleted before the refresh goes on. -/
def thenDeleted : List (Action ServiceCall) :=
  .spawn (.request (.deleteProfile 1 "uuid1")) :: List.replicate 9 (.run 1) ++
    List.replicate 2 (.run 0)

/-- **A refresh that fails late**: the token it was given is revoked and its
replacement issued before the profile is deleted, and the client gets an
error. -/
theorem refresh_fails_late :
    ((whilePlaying untilCommitted).shared.committed.db.tokens.rows.map fun t =>
      (t.accessTokenHash, t.revokedAt)) = [("t", some 10), ("new", none)] ∧
    (whilePlaying (untilCommitted ++ thenDeleted)).result? 0 =
      some (.error (.ofAster (.recordNotFound "minecraft profile #1"))) := by
  decide +kernel

end Runs

end AsterYggdrasil
