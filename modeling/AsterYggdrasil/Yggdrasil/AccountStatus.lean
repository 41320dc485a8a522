import AsterYggdrasil.Yggdrasil.JoinRecords
import AsterYggdrasil.Yggdrasil.Ownership

/-!
# Disabled accounts

The status of an account is checked when a token is issued or refreshed, and
not when it is presented; and an administrator who disables an account leaves
its tokens alone.  `disabled_cannot_play` shows what this leaves: in every
sequence of calls in which an account is disabled only while it has no token
that can still be presented, neither `validate` nor `refresh` nor `join` accepts
a token of a disabled account, and `has_joined` names its profiles only for
records that the owner made before.  `disabled_player_plays` is a sequence without that.
-/

namespace AsterYggdrasil

open Interleave Relational Prog

/-! ## Tokens that can be presented -/

/-- The token is neither revoked nor expired. -/
def YggdrasilToken.usable (t : YggdrasilToken) (now : Nat) : Bool :=
  t.revokedAt.isNone && now < t.expiresAt

/-- A token that is usable now was usable before. -/
theorem usable_earlier {t : YggdrasilToken} {now now' : Nat}
    (h : t.usable now' = true) (hle : now ≤ now') : t.usable now = true := by
  simp only [YggdrasilToken.usable, Bool.and_eq_true, decide_eq_true_eq] at h ⊢
  exact ⟨h.1, by omega⟩

/-- A token of the user that can be presented is stored or cached. -/
def HasUsable (s : ServiceState) (userId : Nat) : Prop :=
  ∃ t : YggdrasilToken, (t ∈ s.db.tokens.rows ∨ ∃ hash, s.tokenCache hash = some t) ∧
    t.userId = userId ∧ t.usable s.db.now = true

/-- Time has passed, and a stored token that can be presented could be before,
or belongs to somebody in `P`. -/
structure Lapse (P : Nat → Prop) (db db' : Db) : Prop where
  clock : db.now ≤ db'.now
  tokens : ∀ t' ∈ db'.tokens.rows, t'.usable db'.now = true → P t'.userId ∨
    ∃ t ∈ db.tokens.rows, t.userId = t'.userId ∧ t.usable db.now = true

/-- Nothing has happened. -/
theorem Lapse.refl {P : Nat → Prop} (db : Db) : Lapse P db db :=
  ⟨Nat.le_refl _, fun t ht h => Or.inr ⟨t, ht, rfl, h⟩⟩

/-- Lapses add up. -/
theorem Lapse.trans {P : Nat → Prop} {a b c : Db} (hab : Lapse P a b)
    (hbc : Lapse P b c) : Lapse P a c := by
  refine ⟨Nat.le_trans hab.clock hbc.clock, fun t'' ht'' h'' => ?_⟩
  rcases hbc.tokens t'' ht'' h'' with hP | ⟨t', ht', huser', h'⟩
  · exact Or.inl hP
  · rcases hab.tokens t' ht' h' with hP | ⟨t, ht, huser, h⟩
    · exact Or.inl (huser' ▸ hP)
    · exact Or.inr ⟨t, ht, huser.trans huser', h⟩

/-- A row-wise change that makes no token usable. -/
theorem Lapse.of_map {P : Nat → Prop} {db db' : Db} {f : YggdrasilToken → YggdrasilToken}
    (hrows : db'.tokens.rows = db.tokens.rows.map f) (hclock : db'.now = db.now)
    (hf : ∀ t, (f t).userId = t.userId ∧
      ((f t).usable db.now = true → t.usable db.now = true)) : Lapse P db db' := by
  refine ⟨Nat.le_of_eq hclock.symm, fun t' ht' h => Or.inr ?_⟩
  obtain ⟨t, ht, rfl⟩ := List.mem_map.mp (hrows ▸ ht')
  rw [hclock] at h
  exact ⟨t, ht, (hf t).1.symm, (hf t).2 h⟩

/-- A statement makes no token usable but the one it inserts. -/
theorem exec_lapse {P : Nat → Prop} {i : DbStmt}
    (hinsert : ∀ id input, i = .tokenInsert id input → P input.userId) (db : Db) :
    Lapse P db (i.exec db).2 := by
  cases exec_tokenEffect i db with
  | keep rows clock =>
      refine ⟨clock, fun t ht h => Or.inr ⟨t, rows ▸ ht, rfl, ?_⟩⟩
      exact usable_earlier h clock
  | insert id input rows clock free which =>
      refine ⟨Nat.le_of_eq clock.symm, fun t ht h => ?_⟩
      rw [rows, List.mem_append, List.mem_singleton] at ht
      rcases ht with ht | rfl
      · exact Or.inr ⟨t, ht, rfl, clock ▸ h⟩
      · exact Or.inl (hinsert id input which)
  | revoke p which rows clock =>
      refine .of_map rows clock fun t => ?_
      split
      · exact ⟨rfl, fun h => by simp [YggdrasilToken.revoke, YggdrasilToken.usable] at h⟩
      · exact ⟨rfl, id⟩
  | invalidate p rows clock =>
      refine .of_map rows clock fun t => ?_
      split <;> exact ⟨rfl, id⟩
  | unselect p rows clock =>
      refine .of_map rows clock fun t => ?_
      split <;> exact ⟨rfl, id⟩
  | account h rows clock =>
      refine ⟨Nat.le_of_eq clock.symm, fun t' ht' h => Or.inr ?_⟩
      obtain ⟨t, ht, rfl | rfl⟩ := rows t' ht'
      · exact ⟨t', ht, rfl, clock ▸ h⟩
      · exact ⟨t, ht, rfl, clock ▸ h⟩

/-- What a step on the database leaves to be presented. -/
theorem Lapse.hasUsable {P : Nat → Prop} {s s' : ServiceState} (h : Lapse P s.db s'.db)
    (hcache : ∀ hash t, s'.tokenCache hash = some t → ∃ hash', s.tokenCache hash' = some t)
    {userId : Nat} (h' : HasUsable s' userId) : P userId ∨ HasUsable s userId := by
  obtain ⟨t', ht' | ⟨hash, ht'⟩, rfl, husable⟩ := h'
  · rcases h.tokens t' ht' husable with hP | ⟨t, ht, huser, husable⟩
    · exact Or.inl hP
    · exact Or.inr ⟨t, Or.inl ht, huser, husable⟩
  · exact Or.inr ⟨t', Or.inr (hcache hash t' ht'), rfl, usable_earlier husable h.clock⟩

/-- Whoever has a token to present had one before. -/
def Lapses (s s' : ServiceState) : Prop :=
  ∀ userId, HasUsable s' userId → HasUsable s userId

/-- The tables lapse, and the cache gains nothing. -/
theorem Lapses.of_db {s s' : ServiceState} (h : Lapse (fun _ => False) s.db s'.db)
    (hcache : ∀ hash t, s'.tokenCache hash = some t → ∃ hash', s.tokenCache hash' = some t) :
    Lapses s s' :=
  fun _ h' => (h.hasUsable hcache h').resolve_left id

/-- A step that neither issues a token nor fills the token cache. -/
theorem exec_lapses {i : ServiceStmt} (hbind : i.kind ≠ .bindToken)
    (hset : i.kind ≠ .setToken) (s : ServiceState) : Lapses s (i.exec s).2 := by
  cases i with
  | db i =>
      refine .of_db (exec_lapse ?_ s.db) fun hash t ht => ⟨hash, ht⟩
      rintro id input rfl
      exact hbind rfl
  | txn t =>
      have hcommit : Lapse (fun _ => False) s.db (t.commit s.db).2 := by
        refine t.commit_respects .refl (fun _ _ _ => .trans) ?_ s.db
        intro i hi db
        have hkind : i.kind ≠ .bindToken := by
          refine ne_kind hi (by decide) ?_
          cases t with
          | issueToken args => exact absurd rfl hbind
          | refreshToken old args => exact absurd rfl hbind
          | _ => simp [Txn.kinds]
        refine exec_lapse ?_ db
        rintro id input rfl
        exact hkind rfl
      exact .of_db hcommit fun hash t ht => ⟨hash, ht⟩
  | setToken hash t => exact absurd rfl hset
  | deleteToken hash =>
      refine .of_db (.refl s.db) fun hash' t ht => ?_
      simp only [ServiceStmt.exec, Function.update_apply] at ht
      split at ht
      · cases ht
      · exact ⟨hash', ht⟩
  | _ => exact fun _ h => h

/-- A program that neither binds nor caches a token lets tokens lapse. -/
theorem Uses.lapses {α : Type} {kinds : List StepKind} {p : Service α}
    (hp : Uses kinds p) (hbind : .bindToken ∉ kinds) (hset : .setToken ∉ kinds)
    (s : ServiceState) : Lapses s (p.run serviceMachine s).2 :=
  Within.run_respects (M := serviceMachine) (fun _ _ h => h)
    (fun _ _ _ hab hbc userId h => hab userId (hbc userId h))
    (Within.mono hp fun _ hi s => exec_lapses (ne_kind hi (by decide) hbind)
      (ne_kind hi (by decide) hset) s) s

/-! ## Accounts -/

/-- An inactive account was inactive before. -/
def StatusKept (db db' : Db) : Prop :=
  ∀ u' ∈ db'.users.rows, u'.status ≠ .active →
    ∃ u ∈ db.users.rows, u.id = u'.id ∧ u.status = u'.status

/-- No status has changed. -/
theorem StatusKept.refl (db : Db) : StatusKept db db := fun u hu _ => ⟨u, hu, rfl, rfl⟩

/-- Nor in two steps. -/
theorem StatusKept.trans {a b c : Db} (hab : StatusKept a b) (hbc : StatusKept b c) :
    StatusKept a c := by
  intro u'' hu'' hstatus
  obtain ⟨u', hu', hid', hsame'⟩ := hbc u'' hu'' hstatus
  obtain ⟨u, hu, hid, hsame⟩ := hab u' hu' (hsame' ▸ hstatus)
  exact ⟨u, hu, hid.trans hid', hsame.trans hsame'⟩

/-- A statement that updates no account; new accounts are active. -/
theorem exec_statusKept {i : DbStmt} (hi : i.kind ≠ .updateUser) (db : Db) :
    StatusKept db (i.exec db).2 := by
  intro u' hu' hstatus
  cases i with
  | userInsert input =>
      simp only [DbStmt.exec] at hu'
      split at hu'
      · next users hinsert =>
          rw [(Table.insert?_eq_some hinsert).1, List.mem_append, List.mem_singleton] at hu'
          rcases hu' with hu' | rfl
          · exact ⟨u', hu', rfl, rfl⟩
          · exact absurd rfl hstatus
      · exact ⟨u', hu', rfl, rfl⟩
  | userUpdate id patch => exact absurd rfl hi
  | userDelete id => exact ⟨u', (List.mem_filter.mp hu').1, rfl, rfl⟩
  | profileInsert input | profileUpdateName id name renameCount | tokenInsert id input
  | banInsert input =>
      refine ⟨u', ?_, rfl, rfl⟩
      simp only [DbStmt.exec] at hu'
      split at hu'
      · first | exact hu' | (split at hu' <;> exact hu')
      · first | exact hu' | (split at hu' <;> exact hu')
  | _ => exact ⟨u', hu', rfl, rfl⟩

/-- A commit without the update of a user keeps every status. -/
theorem Txn.commit_statusKept {t : Txn} (h : .updateUser ∉ t.kinds) (db : Db) :
    StatusKept db (t.commit db).2 :=
  t.commit_respects .refl (fun _ _ _ => .trans)
    (fun _ hi db => exec_statusKept (ne_kind hi (by decide) h) db) db

/-- So does a program without it. -/
theorem Uses.statusKept {α : Type} {kinds : List StepKind} {p : Service α}
    (hp : Uses kinds p) (h : .updateUser ∉ kinds) (s : ServiceState) :
    StatusKept s.db (p.run serviceMachine s).2.db := by
  refine Within.run_respects (M := serviceMachine) (r := fun s s' => StatusKept s.db s'.db)
    (fun s => .refl s.db) (fun _ _ _ => .trans) (Within.mono hp fun i hi s => ?_) s
  have hkind := ne_kind hi (by decide) h
  cases i with
  | db i => exact exec_statusKept hkind s.db
  | txn t =>
      refine Txn.commit_statusKept ?_ s.db
      cases t with
      | updateUser id input => exact absurd rfl hkind
      | _ => simp [Txn.kinds]
  | _ => exact .refl s.db

/-- No account is new. -/
def OldAccounts (db db' : Db) : Prop :=
  ∀ u' ∈ db'.users.rows, ∃ u ∈ db.users.rows, u.id = u'.id

/-- No account has come. -/
theorem OldAccounts.refl (db : Db) : OldAccounts db db := fun u hu => ⟨u, hu, rfl⟩

/-- Nor in two steps. -/
theorem OldAccounts.trans {a b c : Db} (hab : OldAccounts a b) (hbc : OldAccounts b c) :
    OldAccounts a c := by
  intro u'' hu''
  obtain ⟨u', hu', hid'⟩ := hbc u'' hu''
  obtain ⟨u, hu, hid⟩ := hab u' hu'
  exact ⟨u, hu, hid.trans hid'⟩

/-- An update of a user makes no account. -/
theorem oldAccounts_userUpdate (id : Nat) (patch : UserPatch) (db : Db) :
    OldAccounts db ((DbStmt.userUpdate id patch).exec db).2 := by
  intro u' hu'
  simp only [DbStmt.exec] at hu'
  split at hu'
  · exact ⟨u', hu', rfl⟩
  · split at hu'
    · next users hupdate =>
        obtain ⟨u, hu, rfl⟩ := List.mem_map.mp ((Table.update?_eq_some hupdate).1 ▸ hu')
        refine ⟨u, hu, ?_⟩
        split <;> rfl
    · exact ⟨u', hu', rfl⟩

/-- An administrator's update creates no account. -/
theorem oldAccounts_updateUserTxn (id : Nat) (input : AdminUpdateUser) :
    (updateUserTxn id input).Within fun i : DbStmt => ∀ db, OldAccounts db (i.exec db).2 := by
  have hread : ∀ (e : AsterError) (r : Option User), (DbProg.required e r).Within
      fun i : DbStmt => ∀ db, OldAccounts db (i.exec db).2 := by
    intro e r
    cases r <;> trivial
  have hupdate : ∀ bump, (userUpdateAdmin id input bump).Within
      fun i : DbStmt => ∀ db, OldAccounts db (i.exec db).2 := by
    intro bump
    refine Within.bind ⟨.refl, fun r => hread _ r⟩ fun existing => ?_
    exact ⟨oldAccounts_userUpdate id _, fun r => hread _ r⟩
  unfold updateUserTxn
  cases input.username with
  | none => exact hupdate _
  | some username =>
      refine Within.bind ?_ fun _ => hupdate _
      refine Within.stmt_bind .refl fun user => Within.rejectIf.bind fun _ => ?_
      exact Within.stmt_bind .refl fun profile => Within.rejectIf

/-- Nor does an administrator's request. -/
theorem run_updateUser_oldAccounts (id : Nat) (input : AdminUpdateUser)
    (s : ServiceState) :
    OldAccounts s.db ((updateUser id input).run serviceMachine s).2.db := by
  refine Within.run_respects (M := serviceMachine) (r := fun s s' => OldAccounts s.db s'.db)
    (fun s => .refl s.db) (fun _ _ _ => .trans) ?_ s
  have hread : (onPool .aster (userFindById id)).Within
      fun i : ServiceStmt => ∀ s, OldAccounts s.db (i.exec s).2.db := by
    rw [onPool_userFindById]
    refine Within.stmt_bind (fun s => .refl s.db) fun r => ?_
    cases r <;> trivial
  refine hread.bind fun existing => Within.rejectIf.bind fun _ => ?_
  refine Within.stmt_bind (fun s => ?_) fun r => ?_
  · exact Txn.commit_of_within _ .refl (fun _ _ _ => .trans)
      (oldAccounts_updateUserTxn id _).hoist s.db
  · cases r <;> trivial

/-! ## Presenting a token -/

/-- The token the service has under an access token: the cached one, or else the
stored one. -/
def ServiceState.tokenUnder (s : ServiceState) (access : String) : Option YggdrasilToken :=
  (s.tokenCache access).or (s.db.tokens.find? fun t => t.accessTokenHash = access)

/-- A token under an access token is stored or cached. -/
theorem of_tokenUnder {s : ServiceState} {access : String} {t : YggdrasilToken}
    (h : s.tokenUnder access = some t) :
    t ∈ s.db.tokens.rows ∨ ∃ hash, s.tokenCache hash = some t := by
  rcases Option.or_eq_some_iff.mp h with hcache | ⟨-, hfind⟩
  · exact Or.inr ⟨access, hcache⟩
  · exact Or.inl (Table.of_find? hfind).1

/-- Looking up a token finds the one under the access token. -/
theorem run_lookupToken (access : String) (s : ServiceState) :
    (lookupToken access).Wp serviceMachine (fun r s' =>
      s' = s ∧ ∀ t, r = .ok t → s.tokenUnder access = some t) s := by
  unfold ServiceState.tokenUnder
  refine wp_stmt_bind.mpr ?_
  have hread : (serviceMachine.exec (.getToken access) s).2 = s := rfl
  have hget : (serviceMachine.exec (.getToken access) s).1 = s.tokenCache access := rfl
  rw [hread, hget]
  cases s.tokenCache access with
  | some cached => exact ⟨rfl, fun t h => by cases h; rfl⟩
  | none =>
      refine wp_stmt_bind.mpr ?_
      have hread : (serviceMachine.exec (.db (.tokenFindByAccessHash access)) s).2 = s := rfl
      have hfind : (serviceMachine.exec (.db (.tokenFindByAccessHash access)) s).1 =
        s.db.tokens.find? fun t => t.accessTokenHash = access := rfl
      rw [hread, hfind]
      cases s.db.tokens.find? fun t => t.accessTokenHash = access with
      | some row => exact ⟨rfl, fun t h => by cases h; rfl⟩
      | none => exact ⟨rfl, fun t h => by cases h⟩

/-- Caching a token that is stored or cached anyway. -/
theorem lapses_setToken {s : ServiceState} {access : String} {t : YggdrasilToken}
    (h : t ∈ s.db.tokens.rows ∨ ∃ hash, s.tokenCache hash = some t) :
    Lapses s ((ServiceStmt.setToken access t).exec s).2 := by
  rintro userId ⟨t', hstored | ⟨hash, hcached⟩, huser, husable⟩
  · exact ⟨t', Or.inl hstored, huser, husable⟩
  · simp only [ServiceStmt.exec, Function.update_apply] at hcached
    split at hcached
    · cases hcached
      exact ⟨t, h, huser, husable⟩
    · exact ⟨t', Or.inr ⟨hash, hcached⟩, huser, husable⟩

/-- **What `token_for_operation` accepts**: a token that the service has and
that can be presented. -/
theorem run_tokenForOperation (access : String) (client : Option String) (allow : Bool)
    (s : ServiceState) :
    (tokenForOperation access client allow).Wp serviceMachine (fun r s' =>
      s'.db = s.db ∧ Lapses s s' ∧ ∀ t, r = .ok t →
        s.tokenUnder access = some t ∧ t.usable s.db.now = true) s := by
  refine wp_bind.mpr ((run_lookupToken access s).mono ?_)
  rintro r s' ⟨rfl, hfound⟩
  cases r with
  | error e => exact ⟨rfl, fun _ h => h, fun t h => by cases h⟩
  | ok t =>
      have hunder := hfound t rfl
      refine wp_stmt_bind.mpr (wp_rejectIf (fun _ => ?_) fun hlive => ?_)
      · exact ⟨rfl, fun _ h => h, fun t h => by cases h⟩
      have husable : t.usable s'.db.now = true := by
        simp only [Bool.or_eq_false_iff, Option.isSome_eq_false_iff, decide_eq_false_iff_not,
          Nat.not_le] at hlive
        simp only [YggdrasilToken.usable, Bool.and_eq_true, decide_eq_true_eq]
        exact hlive
      have hset : Lapses s' ((ServiceStmt.setToken access t).exec s').2 :=
        lapses_setToken (of_tokenUnder hunder)
      refine wp_stmt_bind.mpr (wp_rejectIf (fun _ => ?_) fun _ => ?_)
      · exact ⟨rfl, hset, fun t h => by cases h⟩
      refine wp_rejectIf (fun _ => ?_) fun _ => ?_
      · exact ⟨rfl, hset, fun t h => by cases h⟩
      refine wp_bind.mpr (wp_isUserBanned.mpr (wp_rejectIf (fun _ => ?_) fun _ => ?_))
      · exact ⟨rfl, hset, fun t h => by cases h⟩
      refine ⟨rfl, hset, fun t' h => ?_⟩
      cases h
      exact ⟨hunder, husable⟩

/-! ## Issuing a token -/

/-- The user has an active account. -/
def ActiveIn (s : ServiceState) (userId : Nat) : Prop :=
  ∃ u ∈ s.db.users.rows, u.id = userId ∧ u.status = .active

/-- Whoever has a token to present had one before or has an active account. -/
def Gains (s s' : ServiceState) : Prop :=
  ∀ userId, HasUsable s' userId → HasUsable s userId ∨ ActiveIn s userId

section Issuing

variable {α : Type} {s s' s'' : ServiceState}

/-- Whoever only loses gains nothing. -/
theorem Lapses.gains (h : Lapses s s') : Gains s s' := fun userId h' => Or.inl (h userId h')

/-- Losing afterwards does not change that. -/
theorem Gains.lapse (h : Gains s s') (h' : Lapses s' s'') : Gains s s'' :=
  fun userId hlater => h userId (h' userId hlater)

/-- Nor before, where the tables stay. -/
theorem Lapses.before (h : Lapses s s') (hdb : s'.db = s.db) (h' : Gains s' s'') :
    Gains s s'' := by
  intro userId hlater
  rcases h' userId hlater with hbefore | hactive
  · exact Or.inl (h userId hbefore)
  · unfold ActiveIn at hactive
    rw [hdb] at hactive
    exact Or.inr hactive

/-- A program that issues nothing, after one that may. -/
theorem Plain.wp_gains {p : Service α} (hp : Plain p) (h : Gains s s') :
    p.Wp serviceMachine (fun _ s'' => Gains s s'') s' :=
  h.lapse ((hp.uses []).lapses (by simp) (by simp) s')

/-- The issuing transactions issue to the user they are called for. -/
theorem txn_gains {t : Txn} (hactive : ActiveIn s t.binding.1) :
    Gains s ((ServiceStmt.txn t).exec s).2 := by
  have hcommit : Lapse (· = t.binding.1) s.db (t.commit s.db).2 := by
    refine t.commit_of_within .refl (fun _ _ _ => .trans) (t.binds_body.mono ?_) s.db
    intro i hbinds db
    refine exec_lapse ?_ db
    rintro id input rfl
    exact hbinds.1
  intro userId h
  have hcache : ∀ hash t', ((ServiceStmt.txn t).exec s).2.tokenCache hash = some t' →
      ∃ hash', s.tokenCache hash' = some t' := fun hash t' ht' => ⟨hash, ht'⟩
  rcases hcommit.hasUsable hcache h with rfl | hbefore
  · exact Or.inr hactive
  · exact Or.inl hbefore

/-- Issuing gives a token to an active account only. -/
theorem run_issueToken {args : IssueToken} (hactive : ActiveIn s args.userId) :
    (issueToken args).Wp serviceMachine (fun _ s' => Gains s s') s := by
  refine wp_withTransaction (fun out _ => ?_) fun e => Lapses.gains fun _ h => h
  have hgains : Gains s ((ServiceStmt.txn (.issueToken args)).exec s).2 := txn_gains hactive
  exact Plain.wp_gains ((plain_invalidateTokenCacheHashes out.2).bind fun _ => trivial) hgains

/-- So does refreshing. -/
theorem run_refreshToken {old : String} {args : IssueToken}
    (hactive : ActiveIn s args.userId) :
    (refreshToken old args).Wp serviceMachine (fun _ s' => Gains s s') s := by
  refine wp_withTransaction (fun out _ => ?_) fun e => Lapses.gains fun _ h => h
  have hgains : Gains s ((ServiceStmt.txn (.refreshToken old args)).exec s).2 :=
    txn_gains hactive
  exact Plain.wp_gains
    ((plain_invalidateTokenCacheHashes (out.2 ++ [old])).bind fun _ => trivial) hgains

/-- The account that logs in is in the table. -/
theorem run_resolveLoginTarget (identifier : String) (policy : RuntimeYggdrasilPolicy)
    (s : ServiceState) :
    (resolveLoginTarget identifier policy).Wp serviceMachine (fun r s' =>
      s' = s ∧ ∀ target, r = .ok target → target.user ∈ s.db.users.rows) s := by
  refine wp_stmt_bind.mpr ?_
  have hread : (serviceMachine.exec (.db (.userFindByIdentifier identifier)) s).2 = s := rfl
  rw [hread]
  cases hfind : (serviceMachine.exec (.db (.userFindByIdentifier identifier)) s).1 with
  | some user =>
      refine ⟨rfl, fun target h => ?_⟩
      cases h
      exact (Table.of_find? hfind).1
  | none =>
      refine wp_rejectIf (fun _ => ⟨rfl, fun target h => by cases h⟩) fun _ => ?_
      refine wp_stmt_bind.mpr ?_
      have hread : (serviceMachine.exec (.db (.profileFindByName identifier)) s).2 = s := rfl
      rw [hread]
      cases (serviceMachine.exec (.db (.profileFindByName identifier)) s).1 with
      | none => exact ⟨rfl, fun target h => by cases h⟩
      | some profile =>
          simp only [onPool_userFindById]
          refine wp_bind.mpr (wp_stmt_bind.mpr ?_)
          have hread : (serviceMachine.exec (.db (.userFindById profile.userId)) s).2 = s := rfl
          rw [hread]
          cases hfind : (serviceMachine.exec (.db (.userFindById profile.userId)) s).1 with
          | none => exact ⟨rfl, fun target h => by cases h⟩
          | some user =>
              refine ⟨rfl, fun target h => ?_⟩
              cases h
              exact (Table.of_find? hfind).1

/-- The check of the status. -/
theorem isActive_of_not {status : UserStatus} (h : (!status.isActive) = false) :
    status = .active := by
  cases status with
  | active => rfl
  | disabled => cases h

/-- **`authenticate` issues to active accounts.** -/
theorem run_authenticate (verify : String → String → Except AsterError Bool)
    (body : AuthenticateReq) (ctx : RequestContext) (s : ServiceState) :
    (authenticate verify body ctx).Wp serviceMachine (fun _ s' => Gains s s') s := by
  have hsame : Gains s s := Lapses.gains fun _ h => h
  refine wp_rejectIf (fun _ => hsame) fun _ => ?_
  refine wp_rejectIf (fun _ => hsame) fun _ => ?_
  refine wp_bind.mpr ((run_resolveLoginTarget body.username ctx.policy s).mono ?_)
  rintro r s' ⟨rfl, hfound⟩
  cases r with
  | error e => exact hsame
  | ok target =>
      refine wp_rejectIf (fun _ => hsame) fun hstatus => ?_
      have hactive : ActiveIn s' target.user.id :=
        ⟨target.user, hfound target rfl, rfl, isActive_of_not hstatus⟩
      refine wp_rejectIf (fun _ => hsame) fun _ => ?_
      unfold checkPassword
      cases verify body.password target.user.passwordHash with
      | error e => exact hsame
      | ok valid =>
          refine wp_rejectIf (fun _ => hsame) fun _ => ?_
          refine wp_bind.mpr (wp_isUserBanned.mpr ?_)
          refine wp_rejectIf (fun _ => hsame) fun _ => ?_
          refine wp_stmt_bind.mpr (wp_bind.mpr ((run_issueToken hactive).mono ?_))
          intro r s'' hgains
          cases r <;> exact hgains

/-- The selection of a profile reads only. -/
theorem run_refreshSelection (existing : YggdrasilToken) (user : User)
    (selected : Option String) (s : ServiceState) :
    (refreshSelection existing user selected).Wp serviceMachine (fun _ s' => s' = s) s := by
  cases selected with
  | none => exact rfl
  | some uuid =>
      refine wp_rejectIf (fun _ => rfl) fun _ => wp_stmt_bind.mpr ?_
      have hread : (serviceMachine.exec (.db (.profileFindByUuid uuid)) s).2 = s := rfl
      rw [hread]
      cases (serviceMachine.exec (.db (.profileFindByUuid uuid)) s).1 with
      | none => exact rfl
      | some profile => exact wp_rejectIf (fun _ => rfl) fun _ => rfl

/-- **`refresh` issues to active accounts.** -/
theorem run_refresh (body : RefreshReq) (ctx : RequestContext) (s : ServiceState) :
    (refresh body ctx).Wp serviceMachine (fun _ s' => Gains s s') s := by
  refine wp_bind.mpr ((run_tokenForOperation _ _ _ s).mono ?_)
  rintro r s₁ ⟨hdb, hlapses, -⟩
  cases r with
  | error e => exact hlapses.gains
  | ok existing =>
      simp only [onPool_userFindById]
      refine wp_bind.mpr (wp_stmt_bind.mpr ?_)
      have hread : (serviceMachine.exec (.db (.userFindById existing.userId)) s₁).2 = s₁ := rfl
      rw [hread]
      cases hfind : (serviceMachine.exec (.db (.userFindById existing.userId)) s₁).1 with
      | none => exact hlapses.gains
      | some user =>
          refine (wp_ok (a := user)).mpr (wp_rejectIf (fun _ => hlapses.gains) fun hstatus => ?_)
          have hactive : ActiveIn s₁ user.id :=
            ⟨user, (Table.of_find? hfind).1, rfl, isActive_of_not hstatus⟩
          refine wp_bind.mpr ((run_refreshSelection existing user _ s₁).mono ?_)
          rintro r s' rfl
          cases r with
          | error e => exact hlapses.gains
          | ok selectedProfileId =>
              refine wp_bind.mpr ((run_refreshToken hactive).mono ?_)
              intro r s₂ hgains
              have hgains := hlapses.before hdb hgains
              cases r with
              | error e => exact hgains
              | ok issued =>
                  exact Plain.wp_gains
                    ((plain_loadSelectedProfile selectedProfileId).bind fun _ => trivial)
                    hgains

end Issuing

/-! ## Sequences of calls -/

/-- No inactive account has a token that can be presented. -/
def StatusInv (s : ServiceState) : Prop :=
  ∀ u ∈ s.db.users.rows, u.status ≠ .active → ¬ HasUsable s u.id

/-- A call that makes an active account inactive starts while the account has no
token that can be presented. -/
def DisablesLapsed (verify : String → String → Except AsterError Bool)
    (s : ServiceState) (call : Call) : Prop :=
  ∀ u ∈ s.db.users.rows, u.status = .active →
    ∀ u' ∈ (after serviceMachine (Call.body verify) s call).db.users.rows,
      u'.id = u.id → u'.status ≠ .active → ¬ HasUsable s u.id

section Sequences

variable {verify : String → String → Except AsterError Bool} {s s' : ServiceState}

/-- Calls that update no account. -/
theorem StatusInv.gains (h : StatusInv s) (hstatus : StatusKept s.db s'.db)
    (hgains : Gains s s') : StatusInv s' := by
  intro u' hu' hinactive husable
  obtain ⟨u, hu, hid, hsame⟩ := hstatus u' hu' hinactive
  rw [← hsame] at hinactive
  rw [← hid] at husable
  rcases hgains u.id husable with hbefore | ⟨v, hv, hvid, hactive⟩
  · exact h u hu hinactive hbefore
  · rw [s.db.users.eq_of_ident hv hu hvid] at hactive
    exact hinactive hactive

/-- Updates of accounts. -/
theorem StatusInv.update (h : StatusInv s) {call : Call}
    (hold : OldAccounts s.db (after serviceMachine (Call.body verify) s call).db)
    (hlapses : Lapses s (after serviceMachine (Call.body verify) s call))
    (hG : DisablesLapsed verify s call) :
    StatusInv (after serviceMachine (Call.body verify) s call) := by
  intro u' hu' hinactive husable
  obtain ⟨u, hu, hid⟩ := hold u' hu'
  rw [← hid] at husable
  have hbefore := hlapses u.id husable
  by_cases hactive : u.status = .active
  · exact hG u hu hactive u' hu' hid.symm hinactive hbefore
  · exact h u hu hactive hbefore

/-- Presenting a token, followed by steps that issue and cache none. -/
theorem Lapses.bind {α β : Type} {p : Service α} {f : α → Service β}
    {kinds : List StepKind} (hp : Lapses s (p.run serviceMachine s).2)
    (hf : ∀ a, Uses kinds (f a)) (hbind : .bindToken ∉ kinds) (hset : .setToken ∉ kinds) :
    Lapses s ((p.bind f).run serviceMachine s).2 := by
  have hrun : (p.bind f).Wp serviceMachine (fun _ s' => Lapses s s') s := by
    refine wp_run_bind (fun a s₁ hrun => ?_) fun e s₁ hrun => ?_
    · rw [hrun] at hp
      have hrest := (hf a).lapses hbind hset s₁
      exact fun userId h => hp userId (hrest userId h)
    · rw [hrun] at hp
      exact hp
  exact hrun

/-- What is left to be presented after a call: nothing new, unless an active
account was issued a token. -/
theorem gains_call (call : Call) (s : ServiceState) :
    Gains s (after serviceMachine (Call.body verify) s call) := by
  have hpresent : ∀ access client allow, Lapses s
      ((tokenForOperation access client allow).run serviceMachine s).2 :=
    fun access client allow => (run_tokenForOperation access client allow s).2.1
  unfold after
  by_cases hkinds : .bindToken ∈ call.kinds ∨ .setToken ∈ call.kinds
  · cases call with
    | authenticate body ctx =>
        simp only [Call.body, bind_eq, pure_eq, run_bind_ok_snd]
        exact run_authenticate verify body ctx s
    | refresh body ctx =>
        simp only [Call.body, bind_eq, pure_eq, run_bind_ok_snd]
        exact run_refresh body ctx s
    | validate body =>
        simp only [Call.body, validate, activeToken, bind_eq, pure_eq, run_bind_ok_snd]
        exact (hpresent _ _ _).gains
    | invalidate body =>
        simp only [Call.body, bind_eq, pure_eq, run_bind_ok_snd]
        have hfound : ((activeToken body.accessToken none).attempt : Service _).Wp
            serviceMachine (fun _ s' => Lapses s s') s :=
          wp_attempt.mpr (hpresent body.accessToken none false)
        have hrest : ∀ found : Except ServiceError YggdrasilToken, Uses [.revoke]
            ((selectedProfileForToken found.toOption).bind fun _ =>
              revokeByAccessToken body.accessToken) := fun found =>
          ((plain_loadSelectedProfile _).uses _).bind fun _ => uses_revokeByAccessToken _
        exact (Lapses.bind hfound hrest (by decide) (by decide)).gains
    | join body clientIp =>
        simp only [Call.body, bind_eq, pure_eq, run_bind_ok_snd]
        obtain ⟨rest, hjoin, hrest⟩ := join_presents body clientIp
        rw [hjoin]
        exact ((hpresent _ _ _).bind hrest (by decide) (by decide)).gains
    | tokenForOperation access client allow =>
        simp only [Call.body, bind_eq, pure_eq, run_bind_ok_snd]
        exact (hpresent _ _ _).gains
    | _ => simp [Call.kinds] at hkinds
  · obtain ⟨hbind, hset⟩ := not_or.mp hkinds
    exact ((call.uses_body verify).lapses hbind hset s).gains

/-- One call keeps inactive accounts without tokens. -/
theorem statusInv_step {call : Call} (h : StatusInv s) (hG : DisablesLapsed verify s call) :
    StatusInv (after serviceMachine (Call.body verify) s call) := by
  by_cases hkinds : .updateUser ∈ call.kinds
  · cases call with
    | updateUser id input =>
        have huses := Call.uses_body verify (.updateUser id input)
        refine h.update ?_ (huses.lapses (by simp [Call.kinds]) (by simp [Call.kinds]) s) hG
        unfold after
        simp only [Call.body, bind_eq, pure_eq, run_bind_ok_snd]
        exact run_updateUser_oldAccounts id input s
    | _ => simp [Call.kinds] at hkinds
  · exact h.gains ((call.uses_body verify).statusKept hkinds s) (gains_call call s)

/-- **Inactive accounts have no tokens**, in every sequence that meets the
condition. -/
theorem statusInv_served {s₀ : ServiceState} {calls : List Call}
    (htokens : s₀.db.tokens.rows = []) (hcache : ∀ hash, s₀.tokenCache hash = none)
    (hG : Guarded serviceMachine (Call.body verify) (DisablesLapsed verify) s₀ calls) :
    StatusInv (served verify s₀ calls) := by
  refine serve_induct (P := fun _ s => StatusInv s) ?_ ?_ hG
  · rintro u hu - ⟨t, hstored | ⟨hash, hcached⟩, -⟩
    · rw [htokens] at hstored
      cases hstored
    · rw [hcache] at hcached
      cases hcached
  · exact fun done call h hcall => statusInv_step h hcall

/-- Ownership holds in every sequence of calls. -/
theorem ownership_served {s₀ : ServiceState} (htokens : s₀.db.tokens.rows = [])
    (hcache : ∀ hash, s₀.tokenCache hash = none) (calls : List Call) :
    OwnershipInv (served verify s₀ calls) := by
  refine serve_induct (M := serviceMachine) (G := fun _ _ => True)
    (P := fun _ s => OwnershipInv s) ?_ ?_ (guarded_of_forall (fun _ _ => trivial) _ calls)
  · refine ⟨fun t ht => ?_, fun hash t ht => ?_⟩
    · rw [htokens] at ht
      cases ht
    · rw [hcache] at ht
      cases ht
  · intro done call h _
    have hensures : (call.body verify).Ensures ownershipDiscipline
        (OnOk fun _ _ _ => True) [] (served verify s₀ done) := ensures_ownership verify call h
    exact (hensures.solo h fun _ _ _ => trivial).1

/-- Accounts are created under new ids only. -/
structure AccountsGrow (db db' : Db) : Prop where
  seq : db.users.seq ≤ db'.users.seq
  rows : ∀ u' ∈ db'.users.rows, u'.id < db.users.seq → ∃ u ∈ db.users.rows, u.id = u'.id

/-- The accounts stay. -/
theorem AccountsGrow.refl (db : Db) : AccountsGrow db db :=
  ⟨Nat.le_refl _, fun u hu _ => ⟨u, hu, rfl⟩⟩

/-- They grow twice. -/
theorem AccountsGrow.trans {a b c : Db} (hab : AccountsGrow a b) (hbc : AccountsGrow b c) :
    AccountsGrow a c := by
  refine ⟨Nat.le_trans hab.seq hbc.seq, fun u'' hu'' hold => ?_⟩
  obtain ⟨u', hu', hid'⟩ := hbc.rows u'' hu'' (Nat.lt_of_lt_of_le hold hab.seq)
  obtain ⟨u, hu, hid⟩ := hab.rows u' hu' (hid' ▸ hold)
  exact ⟨u, hu, hid.trans hid'⟩

/-- Where rows go and the next id stays, no id comes back. -/
theorem AccountsGrow.of_subset {db db' : Db} (hseq : db.users.seq ≤ db'.users.seq)
    (hrows : ∀ u ∈ db'.users.rows, u ∈ db.users.rows) : AccountsGrow db db' :=
  ⟨hseq, fun u hu _ => ⟨u, hrows u hu, rfl⟩⟩

/-- Nor where the users stay the same. -/
theorem AccountsGrow.of_users {db db' : Db} (h : db'.users = db.users) : AccountsGrow db db' :=
  .of_subset (by rw [h]) fun u hu => h ▸ hu

/-- **A statement** never gives an id again. -/
theorem exec_accountsGrow (i : DbStmt) (db : Db) : AccountsGrow db (i.exec db).2 := by
  cases i with
  | userInsert input =>
      simp only [DbStmt.exec]
      split
      · next users hinsert =>
          obtain ⟨hrows, hseq, -, -⟩ := Table.insert?_eq_some hinsert
          refine ⟨Nat.le_trans (Nat.le_succ _) (Nat.le_of_eq hseq.symm), fun u' hu' hold => ?_⟩
          rw [hrows, List.mem_append, List.mem_singleton] at hu'
          rcases hu' with hu' | rfl
          · exact ⟨u', hu', rfl⟩
          · exact absurd hold (Nat.lt_irrefl _)
      · exact .of_subset (Nat.le_succ _) fun _ hu => hu
  | userUpdate id patch =>
      refine ⟨?_, fun u' hu' _ => oldAccounts_userUpdate id patch db u' hu'⟩
      simp only [DbStmt.exec]
      split
      · exact Nat.le_refl _
      · split
        · next users hupdate => exact Nat.le_of_eq (Table.update?_eq_some hupdate).2.symm
        · exact Nat.le_refl _
  | userDelete id => exact .of_subset (Nat.le_refl _) fun u hu => (List.mem_filter.mp hu).1
  | profileInsert input | profileUpdateName id name renameCount | tokenInsert id input
  | banInsert input =>
      apply AccountsGrow.of_users
      simp only [DbStmt.exec]
      split
      · first | rfl | (split <;> rfl)
      · first | rfl | (split <;> rfl)
  | _ => exact .of_users rfl

/-- A token that can be presented was issued to an account that there has been. -/
def HoldersKnown (s : ServiceState) : Prop :=
  ∀ userId, HasUsable s userId → userId < s.db.users.seq

/-- So in every run the holder of a token is a user, or was one. -/
theorem holdersKnown_served {s₀ : ServiceState} (htokens : s₀.db.tokens.rows = [])
    (hcache : ∀ hash, s₀.tokenCache hash = none) (calls : List Call) :
    HoldersKnown (served verify s₀ calls) := by
  refine serve_induct (M := serviceMachine) (G := fun _ _ => True)
    (P := fun _ s => HoldersKnown s) ?_ ?_ (guarded_of_forall (fun _ _ => trivial) _ calls)
  · rintro userId ⟨t, hstored | ⟨hash, hcached⟩, -⟩
    · rw [htokens] at hstored
      cases hstored
    · rw [hcache] at hcached
      cases hcached
  · intro done call h _ userId husable
    have hgrow : AccountsGrow (served verify s₀ done).db
        (after serviceMachine (Call.body verify) (served verify s₀ done) call).db :=
      served_respects verify .refl (fun _ _ _ => .trans) exec_accountsGrow _ [call]
    rcases gains_call call _ userId husable with hbefore | ⟨v, hv, rfl, -⟩
    · exact Nat.lt_of_lt_of_le (h userId hbefore) hgrow.seq
    · exact Nat.lt_of_lt_of_le (Table.fresh _ v hv) hgrow.seq

end Sequences

/-- The call does not succeed. -/
def Rejected {α : Type} (p : Service α) (s : ServiceState) : Prop :=
  ∀ a, (p.run serviceMachine s).1 ≠ .ok a

/-- A call that presents a refused token is refused. -/
theorem Rejected.bind {α β : Type} {p : Service α} {s : ServiceState} (h : Rejected p s)
    (f : α → Service β) : Rejected (p.bind f) s := by
  have hrun : (p.bind f).Wp serviceMachine (fun r _ => ∀ b, r ≠ .ok b) s := by
    refine wp_run_bind (fun a s₁ hrun => ?_) fun e s₁ _ b hb => by cases hb
    exact absurd (by rw [hrun]) (h a)
  exact hrun

/-- The join `body` from `clientIp`, made after the calls `pre`, succeeded with a token of
the user that selects the profile, while the account of the user was active; and what the
server's record has been throughout the calls `post` is what this join has left. -/
structure ActiveJoin (verify : String → String → Except AsterError Bool) (s₀ : ServiceState)
    (pre : List Call) (body : JoinReq) (clientIp : Option String) (post : List Call)
    (userId profileId : Nat) : Prop where
  ok : ((join body clientIp).run serviceMachine (served verify s₀ pre)).1 = .ok ()
  token : ∃ t, (served verify s₀ pre).tokenUnder body.accessToken = some t ∧
    t.userId = userId ∧ t.selectedProfileId = some profileId
  active : ∃ u ∈ (served verify s₀ pre).db.users.rows, u.id = userId ∧ u.status = .active
  record : ∃ session expiry, session.profileId = profileId ∧ ∀ later, later <+: post →
    (served verify s₀ (pre ++ .join body clientIp :: later)).joinCache body.serverId =
      some (session, expiry)

/-- **The record of the server** is that of a join among the calls, which the user made for
this profile while the account was active. -/
def JoinedWhileActive (verify : String → String → Except AsterError Bool)
    (s₀ : ServiceState) (calls : List Call) (serverId : String) (userId profileId : Nat) :
    Prop :=
  ∃ pre body clientIp post, calls = pre ++ .join body clientIp :: post ∧
    body.serverId = serverId ∧ ActiveJoin verify s₀ pre body clientIp post userId profileId

/-- A token that the service accepts belongs to no inactive account. -/
theorem StatusInv.accepted {s : ServiceState} (h : StatusInv s) {access : String}
    {client : Option String} {allow : Bool} {t : YggdrasilToken}
    (hok : ((tokenForOperation access client allow).run serviceMachine s).1 = .ok t) :
    s.tokenUnder access = some t ∧ HasUsable s t.userId ∧
      ∀ u ∈ s.db.users.rows, u.id = t.userId → u.status = .active := by
  obtain ⟨-, -, haccepted⟩ := run_tokenForOperation access client allow s
  obtain ⟨hunder, husable⟩ := haccepted t hok
  have hholds : HasUsable s t.userId := ⟨t, of_tokenUnder hunder, rfl, husable⟩
  refine ⟨hunder, hholds, fun u hu hid => ?_⟩
  by_contra hinactive
  exact h u hu hinactive (hid ▸ hholds)

/-- A token that the service has selects a profile of its user. -/
theorem OwnershipInv.tokenUnder {s : ServiceState} (h : OwnershipInv s) {access : String}
    {t : YggdrasilToken} (hunder : s.tokenUnder access = some t) : TokenOk s.db t := by
  rcases of_tokenUnder hunder with hstored | ⟨hash, hcached⟩
  · exact h.rows.token hstored
  · exact h.cache hash t hcached

/-- A local answer goes back to a join that the owner of the profile made while the
account was active. -/
theorem joinedWhileActive_of_localMatch
    {verify : String → String → Except AsterError Bool} {s₀ : ServiceState}
    {calls : List Call} (htokens : s₀.db.tokens.rows = [])
    (hcache : ∀ hash, s₀.tokenCache hash = none)
    (hjoins : ∀ serverId, s₀.joinCache serverId = none)
    (hG : Guarded serviceMachine (Call.body verify) (DisablesLapsed verify) s₀ calls)
    {env : HasJoinedEnv} {req : HasJoinedReq} {answer : YggdrasilProfile}
    (hmatch : localMatch env req (served verify s₀ calls) = some answer)
    {p : MinecraftProfile} (hp : p ∈ (served verify s₀ calls).db.profiles.rows)
    (huuid : p.uuid = answer.id) {u : User} (hu : u ∈ (served verify s₀ calls).db.users.rows)
    (howner : p.userId = u.id) :
    JoinedWhileActive verify s₀ calls req.serverId u.id p.id := by
  obtain ⟨session, profile, hlocal⟩ := of_localMatch hmatch
  have hclash : profileSchema.clash p profile = true := by
    simp [profileSchema, huuid, hlocal.answerId]
  obtain rfl := Table.eq_of_clash _ hp hlocal.row hclash
  obtain ⟨expiry, hrecord, -⟩ := hlocal.live
  obtain ⟨pre, body, clientIp, post, rfl, hserver, hby⟩ := recorded_since verify hjoins hrecord
  obtain ⟨token, profile, htoken, hselected, -, hleft⟩ := hby.recorded.joinCache
  have hlast := hby.since post (List.prefix_refl post)
  rw [hserver, hrecord, ← hserver, hleft] at hlast
  have hprofile : profile.id = p.id := by
    cases hlast
    exact hlocal.id.symm
  -- the state in which the join was made
  have hinv : StatusInv (served verify s₀ pre) :=
    statusInv_served htokens hcache (guarded_append.mp hG).1
  obtain ⟨hunder, hholds, hactive⟩ := hinv.accepted htoken
  have howned : Owned (served verify s₀ pre).db token.userId p.id :=
    (ownership_served htokens hcache pre).tokenUnder hunder p.id (hprofile ▸ hselected)
  have hlater : served verify s₀ (pre ++ .join body clientIp :: post) =
      served verify (served verify s₀ pre) (.join body clientIp :: post) := by
    rw [served, served, served, serve_append]
  have hkept := ownersKept_served verify (served verify s₀ pre) (.join body clientIp :: post)
  have hgrow : AccountsGrow (served verify s₀ pre).db
      (served verify (served verify s₀ pre) (.join body clientIp :: post)).db :=
    served_respects verify .refl (fun _ _ _ => .trans) exec_accountsGrow _ _
  rw [← hlater] at hkept hgrow
  have huser : token.userId = u.id := ((howned.kept hkept).2 p hp rfl).symm.trans howner
  have hknown : u.id < (served verify s₀ pre).db.users.seq :=
    huser ▸ holdersKnown_served htokens hcache pre token.userId hholds
  obtain ⟨v, hv, hid⟩ := hgrow.rows u hu hknown
  refine ⟨pre, body, clientIp, post, rfl, hserver, hby.ok,
    ⟨token, hunder, huser, hprofile ▸ hselected⟩,
    ⟨v, hv, hid, hactive v hv (hid.trans huser.symm)⟩, ?_⟩
  exact ⟨body.session clientIp profile,
    (served verify s₀ (pre ++ [.join body clientIp])).db.now + joinSessionTtl, hprofile,
    fun later hinitial => (hby.since later hinitial).trans hleft⟩

/-- **A disabled account cannot play.**  In every sequence of calls in which an
account becomes inactive only while it has no token that can be presented:
tokens of an inactive account are refused by `validate`, `refresh` and `join`,
and `has_joined`, unless a remote server names it, names a profile of an inactive
account only for a record that its owner made, with a token for this profile, while the
account was active. -/
theorem disabled_cannot_play (verify : String → String → Except AsterError Bool)
    {s₀ : ServiceState} {calls : List Call} (htokens : s₀.db.tokens.rows = [])
    (hcache : ∀ hash, s₀.tokenCache hash = none)
    (hjoins : ∀ serverId, s₀.joinCache serverId = none)
    (hG : Guarded serviceMachine (Call.body verify) (DisablesLapsed verify) s₀ calls)
    {s : ServiceState} (hs : s = served verify s₀ calls) {u : User}
    (hu : u ∈ s.db.users.rows) (hinactive : u.status ≠ .active) :
    (∀ access t, s.tokenUnder access = some t → t.userId = u.id →
      (∀ client, Rejected (validate ⟨access, client⟩) s) ∧
      (∀ client selected requestUser ctx,
        Rejected (refresh ⟨access, client, selected, requestUser⟩ ctx) s) ∧
      ∀ selected serverId clientIp, Rejected (join ⟨access, selected, serverId⟩ clientIp) s) ∧
    ∀ env req answer, ((hasJoined env req).run serviceMachine s).1 = .ok (some answer) →
      (RemoteMatches env req s fun uuid =>
        ∀ p ∈ s.db.profiles.rows, p.uuid = uuid → p.userId ≠ u.id) →
      ∀ p ∈ s.db.profiles.rows, p.uuid = answer.id → p.userId = u.id →
        JoinedWhileActive verify s₀ calls req.serverId u.id p.id := by
  have hinv : StatusInv s := hs ▸ statusInv_served htokens hcache hG
  constructor
  · intro access t hunder huser
    have hrejected : ∀ client allow, Rejected (tokenForOperation access client allow) s := by
      intro client allow t' hok
      obtain ⟨hunder', -, hactive⟩ := hinv.accepted hok
      rw [hunder] at hunder'
      cases hunder'
      exact hinactive (hactive u hu huser.symm)
    exact ⟨fun client => (hrejected client false).bind _,
      fun client _ _ _ => (hrejected client true).bind _,
      fun _ _ _ => (hrejected none false).bind _⟩
  · intro env req answer hok hremote
    obtain ⟨-, hmatch⟩ := run_hasJoined env req s
    rw [hok, answered_ok] at hmatch
    refine firstMatch_elim (P := fun uuid => ∀ p ∈ s.db.profiles.rows, p.uuid = uuid →
      p.userId = u.id → JoinedWhileActive verify s₀ calls req.serverId u.id p.id) ?_ ?_
      hmatch.symm
    · intro profile hlocal p hp huuid howner
      subst hs
      exact joinedWhileActive_of_localMatch htokens hcache hjoins hG hlocal hp huuid hu howner
    · intro earlier upstream later horder hearlier hkind profile hprofile haccepts p hp
        huuid howner
      exact absurd howner (hremote earlier upstream later horder hearlier hkind profile
        hprofile haccepts p hp huuid)

/-- Two accounts; the second one has a profile. -/
def secondPlayer : ServiceState where
  db :=
    { users := ⟨[⟨1, "u1", "root", none, "pw", .admin, .active, false, 1, none⟩,
          ⟨2, "u2", "bob", none, "pw", .user, .active, false, 1, none⟩], 3,
        by decide, by decide⟩
      profiles := ⟨[⟨1, 2, "uuid2", "Bob", "bob", .localProfile, .default, "", 0, 0, 0⟩],
        2, by decide, by decide⟩
      tokens := .empty
      bans := .empty
      profileTextures := []
      forwardServers := []
      now := 10 }
  tokenCache := fun _ => none
  joinCache := fun _ => none
  forwardCache := none
  nameSummaries := fun _ => none

/-- The administrator disables the second account. -/
def disableBob : Call :=
  .updateUser 2 ⟨none, none, none, none, some .disabled, none⟩

/-- Bob logs in. -/
def bobLogsIn : Call := .authenticate ⟨"bob", "pw", none, none, false⟩ (drawing "t")

/-- Bob logs in and signs out. -/
def bobSignsOut : List Call := [bobLogsIn, .signout "bob" "pw" smallPolicy]

/-- Bob has signed out and has nothing to present. -/
theorem bob_hasNothing (userId : Nat) :
    ¬ HasUsable (served plainPassword secondPlayer bobSignsOut) userId := by
  have hrows : ∀ t ∈ (served plainPassword secondPlayer bobSignsOut).db.tokens.rows,
      t.usable (served plainPassword secondPlayer bobSignsOut).db.now = false := by
    decide +kernel
  have hcache : (served plainPassword secondPlayer bobSignsOut).tokenCache =
      Function.update (fun _ => none) "t" none := rfl
  rintro ⟨t, hstored | ⟨hash, hcached⟩, -, husable⟩
  · rw [hrows t hstored] at husable
    cases husable
  · rw [hcache] at hcached
    simp [Function.update_apply] at hcached

/-- Bob signs out before he is disabled: his token is refused. -/
theorem disabled_after_signout :
    let s := served plainPassword secondPlayer (bobSignsOut ++ [disableBob])
    (∃ t, s.tokenUnder "t" = some t ∧ t.userId = 2) ∧
      ∀ client, Rejected (validate ⟨"t", client⟩) s := by
  intro s
  have hlogin : ∀ u' ∈ (served plainPassword secondPlayer [bobLogsIn]).db.users.rows,
      u'.status = .active := by decide +kernel
  have hsignout : ∀ u' ∈ (served plainPassword secondPlayer bobSignsOut).db.users.rows,
      u'.status = .active := by decide +kernel
  have hG : Guarded serviceMachine (Call.body plainPassword) (DisablesLapsed plainPassword)
      secondPlayer (bobSignsOut ++ [disableBob]) := by
    refine ⟨?_, ?_, ?_, trivial⟩
    · exact fun _ _ _ u' hu' _ hinactive => absurd (hlogin u' hu') hinactive
    · exact fun _ _ _ u' hu' _ hinactive => absurd (hsignout u' hu') hinactive
    · exact fun u _ _ _ _ _ _ => bob_hasNothing u.id
  have hbob : ∃ u ∈ s.db.users.rows, u.id = 2 ∧ u.status ≠ .active := by decide +kernel
  have htoken : ∃ t, s.tokenUnder "t" = some t ∧ t.userId = 2 :=
    ⟨⟨1, 2, "t", "client", some 1, 10, 604800010, some 10, none, none, none⟩,
      by decide +kernel⟩
  obtain ⟨u, hu, hid, hinactive⟩ := hbob
  obtain ⟨t, hunder, huser⟩ := htoken
  refine ⟨⟨t, hunder, huser⟩, ?_⟩
  exact ((disabled_cannot_play plainPassword rfl (fun _ => rfl) (fun _ => rfl) hG rfl hu
    hinactive).1 "t" t hunder (huser.trans hid.symm)).1

/-- **Bob is disabled while he has a token**: it is valid, he joins, and the game
server lets him in. -/
theorem disabled_player_plays :
    let s := served plainPassword secondPlayer [bobLogsIn, disableBob]
    (∃ u ∈ s.db.users.rows, u.id = 2 ∧ u.status = .disabled) ∧
    ((validate ⟨"t", none⟩).run serviceMachine s).1 = .ok () ∧
    ((join ⟨"t", "uuid2", "server"⟩ none).run serviceMachine s).1 = .ok () ∧
    ((hasJoined ⟨fun _ => .ok none, fun _ properties => properties, fun _ => .ok [],
        fun _ => 0⟩ ⟨"Bob", "server", none⟩).run serviceMachine
      (served plainPassword s [.join ⟨"t", "uuid2", "server"⟩ none])).1 =
        .ok (some ⟨"uuid2", "Bob", none, some []⟩) := by
  decide +kernel

end AsterYggdrasil
