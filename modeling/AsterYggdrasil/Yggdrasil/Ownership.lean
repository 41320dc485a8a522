import AsterYggdrasil.Interleave.Pool
import AsterYggdrasil.Yggdrasil.ProfileHistory
import AsterYggdrasil.Yggdrasil.TokenHistory

/-!
# Tokens select profiles of their own user

A token is bound to a profile when it is issued: the profile named at login,
the only profile of the user, the profile selected at refresh, or the profile
of the token it replaces.  `token_profile_ownership` shows that in every run
of every mixture of calls the selected profile of a token row exists and
belongs to the user of the token, and that every join record names a profile
of the user of the token that was presented.

What a call has learned about the owner of a profile id (`Owned`) stays true
while others rename, create and delete profiles and accounts, because owners
never change and ids are not handed out again (`OwnersKept`).
-/

namespace AsterYggdrasil

open Interleave Relational Prog

/-! ## Owners -/

/-- The profile id has been handed out, and its profile, as long as it exists,
belongs to the user. -/
def Owned (db : Db) (userId profileId : Nat) : Prop :=
  profileId < db.profiles.seq ∧
    ∀ q ∈ db.profiles.rows, q.id = profileId → q.userId = userId

theorem Owned.kept {db db' : Db} {userId profileId : Nat}
    (h : Owned db userId profileId) (hk : OwnersKept db db') :
    Owned db' userId profileId := by
  refine ⟨Nat.lt_of_lt_of_le h.1 hk.seq, fun q' hq' hid' => ?_⟩
  rcases hk.rows q' hq' with hnew | ⟨q, hq, hid, huser⟩
  · have := h.1
    omega
  · rw [← huser]
    exact h.2 q hq (hid.trans hid')

theorem Owned.of_row {db : Db} {q : MinecraftProfile} (hq : q ∈ db.profiles.rows) :
    Owned db q.userId q.id := by
  refine ⟨db.profiles.fresh q hq, fun q' hq' hid => ?_⟩
  rw [db.profiles.eq_of_ident hq' hq hid]

/-- The selected profile of every token row exists and belongs to the user of
the token. -/
def SelectionOk (db : Db) : Prop :=
  ∀ t ∈ db.tokens.rows, ∀ p, t.selectedProfileId = some p →
    ∃ q ∈ db.profiles.rows, q.id = p ∧ q.userId = t.userId

/-- What a token that was read some time ago still says about its profile. -/
def TokenOk (db : Db) (t : YggdrasilToken) : Prop :=
  ∀ p, t.selectedProfileId = some p → Owned db t.userId p

theorem SelectionOk.token {db : Db} (h : SelectionOk db) {t : YggdrasilToken}
    (ht : t ∈ db.tokens.rows) : TokenOk db t := by
  intro p hp
  obtain ⟨q, hq, rfl, huser⟩ := h t ht p hp
  rw [← huser]
  exact .of_row hq

/-! ## Statements -/

/-- A token that the statement inserts is bound to this user and profile. -/
def DbStmt.binds (userId : Nat) (selected : Option Nat) : DbStmt → Prop
  | .tokenInsert _ input =>
      input.userId = userId ∧ input.selectedProfileId = selected
  | _ => True

/-- A row-wise change of the tokens that binds none of them anew. -/
theorem SelectionOk.of_tokens {db db' : Db} (h : SelectionOk db)
    (hprofiles : db'.profiles.rows = db.profiles.rows)
    (htokens : ∀ t' ∈ db'.tokens.rows, ∃ t ∈ db.tokens.rows,
      t'.userId = t.userId ∧ t'.selectedProfileId = t.selectedProfileId) :
    SelectionOk db' := by
  intro t' ht' p hp
  obtain ⟨t, ht, huser, hselected⟩ := htokens t' ht'
  rw [hprofiles, huser]
  exact h t ht p (hselected ▸ hp)

/-- A change of the profiles that keeps every profile and its owner. -/
theorem SelectionOk.of_profiles {db db' : Db} (h : SelectionOk db)
    (htokens : db'.tokens.rows = db.tokens.rows)
    (hprofiles : ∀ q ∈ db.profiles.rows, ∃ q' ∈ db'.profiles.rows,
      q'.id = q.id ∧ q'.userId = q.userId) : SelectionOk db' := by
  intro t ht p hp
  obtain ⟨q, hq, hid, huser⟩ := h t (htokens ▸ ht) p hp
  obtain ⟨q', hq', hid', huser'⟩ := hprofiles q hq
  exact ⟨q', hq', hid'.trans hid, huser'.trans huser⟩

/-- `UPDATE yggdrasil_tokens` in a column other than owner and selection. -/
theorem selection_modifyTokens {db : Db} (h : SelectionOk db)
    (p : YggdrasilToken → Bool) (f : YggdrasilToken → YggdrasilToken) (hid hhash)
    (hf : ∀ t, (f t).userId = t.userId ∧
      (f t).selectedProfileId = t.selectedProfileId) :
    SelectionOk (db.modifyTokens p f hid hhash) := by
  refine h.of_tokens rfl fun t' ht' => ?_
  obtain ⟨t, ht, rfl⟩ := List.mem_map.mp ht'
  refine ⟨t, ht, ?_⟩
  split
  · exact hf t
  · exact ⟨rfl, rfl⟩

theorem selection_revokeTokens {db : Db} (h : SelectionOk db)
    (p : YggdrasilToken → Bool) : SelectionOk (db.revokeTokens p) :=
  selection_modifyTokens h p (YggdrasilToken.revoke db.now) (fun _ => rfl)
    (fun _ => rfl) fun _ => ⟨rfl, rfl⟩

/-- Deleting profiles clears the selection of their tokens. -/
theorem selection_deleteProfiles {db : Db} (h : SelectionOk db)
    (p : MinecraftProfile → Bool) : SelectionOk (db.deleteProfiles p) := by
  intro t' ht' id hid
  obtain ⟨t, ht, rfl⟩ := List.mem_map.mp ht'
  split at hid
  · cases hid
  · next hkept =>
      rw [if_neg hkept]
      obtain ⟨q, hq, rfl, huser⟩ := h t ht id hid
      refine ⟨q, List.mem_filter.mpr ⟨hq, ?_⟩, rfl, huser⟩
      -- a deleted profile would have cleared the selection
      by_contra hgone
      refine hkept ?_
      simp only [Bool.not_eq_true', Bool.not_eq_false] at hgone
      have hmem : q.id ∈ (db.profiles.select p).map MinecraftProfile.id :=
        List.mem_map_of_mem (Table.mem_select.mpr ⟨hq, hgone⟩)
      simp [hid, hmem]

/-- Deleting an account deletes its tokens and profiles. -/
theorem selection_deleteUser {db : Db} (h : SelectionOk db) (id : Nat) :
    SelectionOk (db.deleteUser id) := by
  have hok := selection_deleteProfiles h fun p => p.userId = id
  exact fun t ht p hp => hok t (List.mem_filter.mp ht).1 p hp

/-- An update of the profile table that is no deletion. -/
theorem ProfileEffect.selection {i : DbStmt} {db db' : Db}
    (heffect : ProfileEffect i db db') (h : SelectionOk db)
    (htokens : db'.tokens.rows = db.tokens.rows)
    (hstay : ∀ q ∈ db.profiles.rows, ∃ q' ∈ db'.profiles.rows, q'.id = q.id) :
    SelectionOk db' := by
  have hkept : OwnersKept db db' := heffect.columnKept fun _ _ _ _ _ => rfl
  refine h.of_profiles htokens fun q hq => ?_
  obtain ⟨q', hq', hid⟩ := hstay q hq
  refine ⟨q', hq', hid, ?_⟩
  exact ((Owned.of_row hq).kept hkept).2 q' hq' hid

/-- **Statements keep ownership**, if a token that they insert is bound to a
profile of its user. -/
theorem exec_selection {i : DbStmt} {db : Db} {userId : Nat} {selected : Option Nat}
    (hi : i.binds userId selected)
    (howned : ∀ p, selected = some p → Owned db userId p) (h : SelectionOk db) :
    SelectionOk (i.exec db).2 := by
  cases i with
  | tokenInsert id input =>
      simp only [DbStmt.exec]
      split
      · next hforeign =>
          split
          · next tokens hinsert =>
              intro t ht p hp
              simp only at ht ⊢
              rw [(insert_free hinsert).1, List.mem_append, List.mem_singleton] at ht
              rcases ht with ht | rfl
              · exact h t ht p hp
              · -- the foreign key says that the profile exists
                simp only [Db.newToken] at hp
                simp only [Db.tokenForeignKeys, hp, Bool.and_eq_true] at hforeign
                obtain ⟨q, hfind⟩ := Option.isSome_iff_exists.mp hforeign.2
                obtain ⟨hq, hid⟩ := Table.of_find? hfind
                simp only [decide_eq_true_eq] at hid
                refine ⟨q, hq, hid, ?_⟩
                have howner := (howned p (hi.2 ▸ hp)).2 q hq hid
                exact howner.trans hi.1.symm
          · exact h
      · exact h
  | tokenSetRevoked id => exact selection_revokeTokens h _
  | tokenRevokeAllForUser userId => exact selection_revokeTokens h _
  | tokenRevokeAllForSelectedProfile profileId => exact selection_revokeTokens h _
  | tokenTemporarilyInvalidateAllForSelectedProfile profileId =>
      exact selection_modifyTokens h _ (YggdrasilToken.temporarilyInvalidate db.now)
        (fun _ => rfl) (fun _ => rfl) fun _ => ⟨rfl, rfl⟩
  | profileDelete id => exact selection_deleteProfiles h _
  | userDelete id => exact selection_deleteUser h id
  | profileInsert input =>
      refine (exec_profileEffect (.profileInsert input) db).selection h ?_ ?_
      · simp only [DbStmt.exec]
        split
        · rfl
        · split <;> rfl
      · intro q hq
        refine ⟨q, ?_, rfl⟩
        simp only [DbStmt.exec]
        split
        · exact hq
        · split
          · next profiles hinsert => simp [(Table.insert?_eq_some hinsert).1, hq]
          · exact hq
  | profileUpdateName id name renameCount =>
      refine (exec_profileEffect (.profileUpdateName id name renameCount) db).selection
        h ?_ ?_
      · simp only [DbStmt.exec]
        split
        · rfl
        · split <;> rfl
      · intro q hq
        simp only [DbStmt.exec]
        split
        · exact ⟨q, hq, rfl⟩
        · split
          · next profiles hupdate =>
              refine ⟨_, (Table.update?_eq_some hupdate).1 ▸ List.mem_map_of_mem hq, ?_⟩
              split <;> rfl
          · exact ⟨q, hq, rfl⟩
  | userInsert input =>
      simp only [DbStmt.exec]
      split <;> exact h
  | userUpdate id patch | banInsert input =>
      simp only [DbStmt.exec]
      split
      · exact h
      · split <;> exact h
  | _ => exact h

/-! ## Transactions -/

/-- The user and the profile a transaction binds a new token to. -/
def Txn.binding : Txn → Nat × Option Nat
  | .issueToken args | .refreshToken _ args => (args.userId, args.selectedProfileId)
  | .renameProfile _ _ | .updateUser _ _ => (0, none)

/-- The profile of a binding, if any, belongs to its user. -/
def BindingOk (db : Db) (binding : Nat × Option Nat) : Prop :=
  ∀ p, binding.2 = some p → Owned db binding.1 p

theorem BindingOk.kept {db db' : Db} {binding : Nat × Option Nat}
    (h : BindingOk db binding) (hk : OwnersKept db db') : BindingOk db' binding :=
  fun p hp => (h p hp).kept hk

/-- The program binds new tokens to this user and profile only. -/
abbrev Binds {ε α : Type} (binding : Nat × Option Nat)
    (p : Prog dbSignature ε α) : Prop :=
  p.Within fun i : DbStmt => i.binds binding.1 binding.2

theorem binds_required {α : Type} {binding : Nat × Option Nat} (e : AsterError)
    (o : Option α) : Binds binding (DbProg.required e o) := by
  cases o <;> trivial

theorem binds_tokenSetRevoked (binding : Nat × Option Nat) (id : Nat) :
    Binds binding (tokenSetRevoked id) := by
  refine ⟨trivial, fun found => ?_⟩
  cases found <;> trivial

theorem binds_issueToken (args : IssueToken) :
    Binds (args.userId, args.selectedProfileId) (issueTokenInConnection args) := by
  refine ⟨trivial, fun now => Within.rejectIf.bind fun _ => Within.rejectIf.bind fun _ => ?_⟩
  refine Within.bind ⟨trivial, fun id => ⟨⟨rfl, rfl⟩, fun r => ?_⟩⟩ fun token => ?_
  · exact binds_required _ r
  · refine Within.bind ?_ fun _ => trivial
    refine Within.stmt_bind trivial fun tokens => Within.bind ?_ fun _ => trivial
    exact Within.forEach (fun t => binds_tokenSetRevoked _ _) _

theorem binds_updateUser (id : Nat) (input : AdminUpdateUser) :
    Binds (0, none) (updateUserTxn id input) := by
  have hupdate : ∀ bump, Binds (0, none) (userUpdateAdmin id input bump) := fun bump =>
    Within.bind ⟨trivial, fun r => binds_required _ r⟩ fun existing =>
      ⟨trivial, fun r => binds_required _ r⟩
  unfold updateUserTxn
  cases input.username with
  | none => exact hupdate _
  | some username =>
      refine Within.bind ?_ fun _ => hupdate _
      refine Within.stmt_bind trivial fun user => Within.rejectIf.bind fun _ => ?_
      exact Within.stmt_bind trivial fun profile => Within.rejectIf

theorem Txn.binds_body (t : Txn) : Binds t.binding t.body := by
  cases t with
  | issueToken args => exact (binds_issueToken args).hoist
  | refreshToken old args =>
      refine Within.bind (Within.hoist ?_) fun revoked => ?_
      · refine Within.stmt_bind trivial fun found => ?_
        cases found with
        | none => trivial
        | some token =>
            dsimp only
            split
            · trivial
            · exact (binds_tokenSetRevoked _ _).bind fun _ => trivial
      · exact Within.rejectIf.bind fun _ => (binds_issueToken args).hoist
  | renameProfile profile newName =>
      refine Within.hoist (Within.bind ?_ fun found => ?_)
      · refine Within.stmt_bind trivial fun found => ?_
        cases found with
        | none => trivial
        | some existing =>
            exact Within.stmt_bind trivial fun r =>
              (binds_required _ r).bind fun _ => trivial
      · exact (binds_required _ found).bind fun _ => ⟨trivial, fun _ => trivial⟩
  | updateUser id input => exact (binds_updateUser id input).hoist

/-- **Transactions keep ownership**, committed or rolled back. -/
theorem Txn.commit_selection (t : Txn) {db : Db} (hbinding : BindingOk db t.binding)
    (h : SelectionOk db) :
    OwnersKept db (t.commit db).2 ∧ SelectionOk (t.commit db).2 := by
  have hrun : SelectionOk db ∧ BindingOk db t.binding →
      OwnersKept db (t.body.run dbMachine db).2 ∧
        SelectionOk (t.body.run dbMachine db).2 := by
    refine Within.run_respects (M := dbMachine)
      (r := fun db db' => SelectionOk db ∧ BindingOk db t.binding →
        OwnersKept db db' ∧ SelectionOk db') ?_ ?_ (t.binds_body.mono ?_) db
    · exact fun db h => ⟨.refl db, h.1⟩
    · intro a b c hab hbc ha
      obtain ⟨hkept, hok⟩ := hab ha
      obtain ⟨hkept', hok'⟩ := hbc ⟨hok, ha.2.kept hkept⟩
      exact ⟨hkept.trans hkept', hok'⟩
    · exact fun i hi db h => ⟨exec_ownersKept i db, exec_selection hi h.2 h.1⟩
  unfold Txn.commit
  have hrun := hrun ⟨h, hbinding⟩
  split
  · next heq => rw [heq] at hrun; exact hrun
  · exact ⟨.refl db, h⟩

/-! ## The discipline -/

/-- Tokens in the table and in the cache select profiles of their user. -/
structure OwnershipInv (s : ServiceState) : Prop where
  rows : SelectionOk s.db
  cache : ∀ hash t, s.tokenCache hash = some t → TokenOk s.db t

/-- A call that writes this join record has accepted a token and has read the
token's selected profile, which belongs to the user of the token and is the
one the record names. -/
def JoinNames (tr : Trace serviceMachine) (session : JoinSession) : Prop :=
  ∃ hash t s₁, (.setToken hash t, s₁) ∈ tr ∧
    t.selectedProfileId = some session.profileId ∧
    ∃ s₂, (.db (.profileFindById session.profileId), s₂) ∈ tr ∧
      ∃ q ∈ s₂.db.profiles.rows, q.id = session.profileId ∧
        q.uuid = session.profileUuid ∧ q.userId = t.userId

/-- What a call has to know at each of its steps. -/
def OwnershipGuarantee (tr : Trace serviceMachine) : ServiceStmt → ServiceState → Prop
  | .db i, _ => decide (i.kind = .bindToken) = false
  | .txn t, s => BindingOk s.db t.binding
  | .setToken _ t, s => TokenOk s.db t
  | .setJoinSession _ session, _ => JoinNames tr session
  | _, _ => True

theorem OwnershipInv.of_db {s s' : ServiceState} (h : OwnershipInv s)
    (hcache : s'.tokenCache = s.tokenCache) (hkept : OwnersKept s.db s'.db)
    (hrows : SelectionOk s'.db) : OwnershipInv s' := by
  refine ⟨hrows, fun hash t ht p hp => ?_⟩
  rw [hcache] at ht
  exact (h.cache hash t ht p hp).kept hkept

/-- Everybody binds tokens to profiles of their user. -/
def ownershipDiscipline : Discipline serviceMachine where
  inv := OwnershipInv
  rely s s' := OwnersKept s.db s'.db
  own _ _ _ := True
  guar := OwnershipGuarantee
  refl s := .refl s.db
  trans _ _ _ := .trans
  step tr i s hinv _ hguar := by
    cases i with
    | db i =>
        have hbinds : i.binds 0 none := by cases i <;> trivial
        have hkept := exec_ownersKept i s.db
        have hrows := exec_selection hbinds (by simp) hinv.rows
        exact ⟨hinv.of_db rfl hkept hrows, hkept⟩
    | txn t =>
        obtain ⟨hkept, hrows⟩ := t.commit_selection hguar hinv.rows
        exact ⟨hinv.of_db rfl hkept hrows, hkept⟩
    | setToken hash token =>
        refine ⟨⟨hinv.rows, fun hash' t ht => ?_⟩, .refl s.db⟩
        simp only [ServiceStmt.exec, Function.update_apply] at ht
        split at ht
        · cases ht
          exact hguar
        · exact hinv.cache hash' t ht
    | deleteToken hash =>
        refine ⟨⟨hinv.rows, fun hash' t ht => ?_⟩, .refl s.db⟩
        simp only [ServiceStmt.exec, Function.update_apply] at ht
        split at ht
        · cases ht
        · exact hinv.cache hash' t ht
    | _ => exact ⟨⟨hinv.rows, hinv.cache⟩, .refl s.db⟩

/-! ## Calls -/

/-- The kinds of steps that bind no token and write neither a token nor a join
record. -/
def unboundKinds : List StepKind :=
  [.plain, .revoke, .rename, .deleteProfile, .updateUser, .deleteAccount]

/-- Nothing is asked of such a step. -/
theorem guarantee_unbound (tr : Trace serviceMachine) {i : ServiceStmt}
    (s : ServiceState) (hi : i.kind ∈ unboundKinds) : OwnershipGuarantee tr i s := by
  cases i with
  | db i =>
      refine decide_eq_false fun hbind => ?_
      simp [ServiceStmt.kind, hbind, unboundKinds] at hi
  | txn t =>
      intro p hp
      cases t with
      | issueToken args => simp [ServiceStmt.kind, unboundKinds] at hi
      | refreshToken old args => simp [ServiceStmt.kind, unboundKinds] at hi
      | renameProfile profile newName => cases hp
      | updateUser id input => cases hp
  | setToken hash t => simp [ServiceStmt.kind, unboundKinds] at hi
  | setJoinSession serverId session => simp [ServiceStmt.kind, unboundKinds] at hi
  | _ => trivial

/-- A program that binds nothing. -/
abbrev BindsNothing {α : Type} (p : Service α) : Prop :=
  p.Within fun i : ServiceStmt => i.kind ∈ unboundKinds

theorem BindsNothing.of_uses {α : Type} {kinds : List StepKind} {p : Service α}
    (hp : Uses kinds p) (h : kinds ⊆ unboundKinds) : BindsNothing p := by
  refine Within.mono hp fun i hi => ?_
  rcases hi with hplain | hmem
  · rw [hplain]
    exact List.mem_cons_self ..
  · exact h hmem

theorem BindsNothing.of_plain {α : Type} {p : Service α} (hp : Plain p) :
    BindsNothing p := .of_uses (hp.uses []) (by simp)

section Calls

variable {α β : Type} {tr : Trace serviceMachine} {s : ServiceState}

/-- Sequencing after a program that binds nothing. -/
theorem BindsNothing.bind_ensures {p : Service α} {f : α → Service β}
    {K : β → Trace serviceMachine → ServiceState → Prop} (hp : BindsNothing p)
    (hinv : OwnershipInv s)
    (hf : ∀ a tr' s', tr <+: tr' → OwnersKept s.db s'.db → OwnershipInv s' →
      (f a).Ensures ownershipDiscipline (OnOk K) tr' s') :
    (p.bind f).Ensures ownershipDiscipline (OnOk K) tr s :=
  Ensures.within_bind (fun tr _ s hi _ _ => guarantee_unbound tr s hi) hinv hp hf

/-- A program that binds nothing, on its own. -/
theorem BindsNothing.ensures {p : Service α} (hp : BindsNothing p) :
    p.Ensures ownershipDiscipline (OnOk fun _ _ _ => True) tr s :=
  (Ensures.of_within (fun tr _ s hi _ _ => guarantee_unbound tr s hi) hp tr s).mono
    fun _ _ _ _ _ _ => trivial

/-- The token that is looked up selects a profile of its user. -/
theorem ensures_lookupToken (access : String) :
    (lookupToken access).Ensures ownershipDiscipline
      (OnOk fun t _ s => TokenOk s.db t) tr s := by
  refine Ensures.stmt_bind fun s₁ _ hinv₁ _ => ⟨trivial, fun _ => ?_⟩
  cases hget : (serviceMachine.exec (.getToken access) s₁).1 with
  | some token =>
      intro s₂ hr₂ _ t ht p hp
      cases ht
      exact (hinv₁.cache access token hget p hp).kept hr₂
  | none =>
      refine Ensures.stmt_bind fun s₂ _ hinv₂ _ => ⟨rfl, fun _ => ?_⟩
      cases hfind : (serviceMachine.exec (.db (.tokenFindByAccessHash access)) s₂).1 with
      | none => exact .err _ _ _
      | some token =>
          intro s₃ hr₃ _ t ht p hp
          cases ht
          have hrow := (Table.of_find? hfind).1
          exact (hinv₂.rows.token hrow p hp).kept hr₃

/-- The token that an operation accepts selects a profile of its user, and the
operation has put it into the cache. -/
theorem ensures_tokenForOperation (access : String) (client : Option String)
    (allow : Bool) (hinv : OwnershipInv s) :
    (tokenForOperation access client allow).Ensures ownershipDiscipline
      (OnOk fun t tr s => TokenOk s.db t ∧
        ∃ s₁, (.setToken access t, s₁) ∈ tr) tr s := by
  refine Ensures.bind_ok hinv (ensures_lookupToken access) fun t tr s hinv ht => ?_
  refine Ensures.stmt_bind fun s₁ hr₁ hinv₁ _ => ⟨rfl, fun _ => ?_⟩
  refine Ensures.rejectIf_ok fun _ => ?_
  refine Ensures.stmt_bind fun s₂ hr₂ hinv₂ _ => ?_
  have ht₂ : TokenOk s₂.db t := fun p hp => ((ht p hp).kept hr₁).kept hr₂
  refine ⟨ht₂, fun hinv₃ => Ensures.rejectIf_ok fun _ => Ensures.rejectIf_ok fun _ => ?_⟩
  have hbanned := BindsNothing.of_plain (plain_isUserBanned t.userId .yggdrasilAccess)
  refine hbanned.bind_ensures hinv₃ fun banned tr' s₄ hpre hr₄ _ => ?_
  refine Ensures.rejectIf_ok fun _ s₅ hr₅ _ t' ht' => ?_
  cases ht'
  refine ⟨fun p hp => ((ht₂ p hp).kept hr₄).kept hr₅, s₂, hpre.subset ?_⟩
  exact List.mem_append_right _ (List.mem_singleton.mpr rfl)

/-- A transaction that binds its token to a profile of the user. -/
theorem ensures_withTransaction {t : Txn} {f : t.Result → Service α}
    {K : α → Trace serviceMachine → ServiceState → Prop}
    (hbinding : BindingOk s.db t.binding)
    (hf : ∀ out tr s, OwnershipInv s →
      (f out).Ensures ownershipDiscipline (OnOk K) tr s) :
    ((withTransaction t).bind f).Ensures ownershipDiscipline (OnOk K) tr s := by
  intro s₁ hr₁ hinv₁ _
  have hguar : BindingOk s₁.db t.binding := hbinding.kept hr₁
  have hinv₂ := (ownershipDiscipline.step tr (.txn t) s₁ hinv₁ trivial hguar).1
  refine ⟨hguar, ?_⟩
  cases hcommit : (serviceMachine.exec (.txn t) s₁).1 with
  | ok out => exact hf out _ _ hinv₂
  | error e => exact .err e _ _

/-- `issue_token` for a profile of the user. -/
theorem ensures_issueToken {args : IssueToken}
    (hbinding : BindingOk s.db (args.userId, args.selectedProfileId)) :
    (issueToken args).Ensures ownershipDiscipline (OnOk fun _ _ _ => True) tr s := by
  refine ensures_withTransaction (t := .issueToken args) hbinding ?_
  intro out tr s hinv
  have hevict := BindsNothing.of_plain (plain_invalidateTokenCacheHashes out.2)
  exact hevict.bind_ensures hinv fun _ _ _ _ _ _ _ _ _ _ _ => trivial

/-- `refresh_token` for a profile of the user. -/
theorem ensures_refreshToken {old : String} {args : IssueToken}
    (hbinding : BindingOk s.db (args.userId, args.selectedProfileId)) :
    (refreshToken old args).Ensures ownershipDiscipline
      (OnOk fun _ _ _ => True) tr s := by
  refine ensures_withTransaction (t := .refreshToken old args) hbinding ?_
  intro out tr s hinv
  have hevict := BindsNothing.of_plain (plain_invalidateTokenCacheHashes (out.2 ++ [old]))
  exact hevict.bind_ensures hinv fun _ _ _ _ _ _ _ _ _ _ _ => trivial

/-- A profile named at login belongs to the user it logs in. -/
theorem ensures_resolveLoginTarget (identifier : String)
    (policy : RuntimeYggdrasilPolicy) :
    (resolveLoginTarget identifier policy).Ensures ownershipDiscipline
      (OnOk fun target _ s => ∀ profile, target.forcedProfile = some profile →
        Owned s.db target.user.id profile.id) tr s := by
  refine Ensures.stmt_bind fun s₁ _ _ _ => ⟨rfl, fun _ => ?_⟩
  cases (serviceMachine.exec (.db (.userFindByIdentifier identifier)) s₁).1 with
  | some user =>
      intro s₂ _ _ target htarget profile hprofile
      cases htarget
      cases hprofile
  | none =>
      refine Ensures.rejectIf_ok fun _ => ?_
      refine Ensures.stmt_bind fun s₂ _ _ _ => ⟨rfl, fun hinv₂ => ?_⟩
      cases hfind : (serviceMachine.exec (.db (.profileFindByName identifier)) s₂).1 with
      | none => exact .err _ _ _
      | some profile =>
          have howned := Owned.of_row (Table.of_find? hfind).1
          simp only [onPool_userFindById]
          refine Ensures.stmt_bind fun s₃ hr₃ _ _ => ⟨rfl, fun _ => ?_⟩
          cases huser : (serviceMachine.exec (.db (.userFindById profile.userId)) s₃).1 with
          | none => exact .err _ _ _
          | some user =>
              have hid := (Table.of_find? huser).2
              simp only [decide_eq_true_eq] at hid
              intro s₄ hr₄ _ target htarget forced hforced
              cases htarget
              cases hforced
              simp only [hid]
              exact (howned.kept hr₃).kept hr₄

theorem owned_selectProfile {db : Db} {userId p : Nat}
    {forced : Option MinecraftProfile} {profiles : List MinecraftProfile}
    (hforced : ∀ profile, forced = some profile → Owned db userId profile.id)
    (hprofiles : ∀ q ∈ profiles, Owned db userId q.id)
    (h : selectProfile forced profiles = some p) : Owned db userId p := by
  unfold selectProfile at h
  split at h
  · next profile =>
      cases h
      exact hforced profile rfl
  · split at h
    · next profile =>
        cases h
        exact hprofiles profile (List.mem_singleton.mpr rfl)
    · cases h

/-- `authenticate` binds the token to the profile named at login or to the
only profile of the user. -/
theorem ensures_authenticate (verify : String → String → Except AsterError Bool)
    (body : AuthenticateReq) (ctx : RequestContext) (hinv : OwnershipInv s) :
    (authenticate verify body ctx).Ensures ownershipDiscipline
      (OnOk fun _ _ _ => True) tr s := by
  refine Ensures.rejectIf_ok fun _ => Ensures.rejectIf_ok fun _ => ?_
  refine Ensures.bind_ok hinv (ensures_resolveLoginTarget _ _) ?_
  intro target tr s hinv hforced
  refine Ensures.rejectIf_ok fun _ => Ensures.rejectIf_ok fun _ => ?_
  have hpassword := BindsNothing.of_plain
    (plain_checkPassword verify body.password target.user)
  refine hpassword.bind_ensures hinv fun _ tr₁ s₁ _ hr₁ hinv₁ => ?_
  have hbanned := BindsNothing.of_plain
    (plain_isUserBanned target.user.id .yggdrasilAccess)
  refine hbanned.bind_ensures hinv₁ fun banned tr₂ s₂ _ hr₂ hinv₂ => ?_
  refine Ensures.rejectIf_ok fun _ => ?_
  refine Ensures.stmt_bind fun s₃ hr₃ hinv₃ _ => ⟨rfl, fun _ => ?_⟩
  -- the profiles that are listed belong to the user
  generalize hlist : (serviceMachine.exec
    (.db (.profileListByUser target.user.id)) s₃).1 = profiles
  have hprofiles : ∀ q ∈ profiles, Owned s₃.db target.user.id q.id := by
    intro q hq
    rw [← hlist] at hq
    have hselect := (List.perm_insertionSort _ _).mem_iff.mp hq
    obtain ⟨hrow, huser⟩ := Table.mem_select.mp hselect
    simp only [decide_eq_true_eq] at huser
    rw [← huser]
    exact .of_row hrow
  have hforced₃ : ∀ profile, target.forcedProfile = some profile →
      Owned s₃.db target.user.id profile.id :=
    fun profile h => (((hforced profile h).kept hr₁).kept hr₂).kept hr₃
  have hbinding : BindingOk s₃.db
      (target.user.id, selectProfile target.forcedProfile profiles) :=
    fun p hp => owned_selectProfile hforced₃ hprofiles hp
  refine Ensures.bind_ok hinv₃ (ensures_issueToken hbinding) ?_
  exact fun _ _ _ _ _ _ _ _ _ _ => trivial

/-- A profile selected at refresh belongs to the user. -/
theorem ensures_refreshSelection {existing : YggdrasilToken} {user : User}
    (selected : Option String) (hexisting : TokenOk s.db existing)
    (huser : user.id = existing.userId) :
    (refreshSelection existing user selected).Ensures ownershipDiscipline
      (OnOk fun selectedId _ s => BindingOk s.db (user.id, selectedId)) tr s := by
  cases selected with
  | none =>
      intro s₁ hr₁ _ selectedId h p hp
      cases h
      simp only [huser]
      exact (hexisting p hp).kept hr₁
  | some selected =>
      refine Ensures.rejectIf_ok fun _ => ?_
      refine Ensures.stmt_bind fun s₁ _ _ _ => ⟨rfl, fun _ => ?_⟩
      cases hfind : (serviceMachine.exec (.db (.profileFindByUuid selected)) s₁).1 with
      | none => exact .err _ _ _
      | some profile =>
          have howned := Owned.of_row (Table.of_find? hfind).1
          refine Ensures.rejectIf_ok fun hsame => ?_
          simp only [ne_eq, decide_not, Bool.not_eq_false', decide_eq_true_eq] at hsame
          intro s₂ hr₂ _ selectedId h p hp
          cases h
          cases hp
          simp only [← hsame]
          exact howned.kept hr₂

/-- `refresh` binds the replacement to the profile of the old token or to a
profile of the user. -/
theorem ensures_refresh (body : RefreshReq) (ctx : RequestContext)
    (hinv : OwnershipInv s) :
    (refresh body ctx).Ensures ownershipDiscipline (OnOk fun _ _ _ => True) tr s := by
  refine Ensures.bind_ok hinv (ensures_tokenForOperation _ _ _ hinv) ?_
  intro existing tr s hinv hexisting
  simp only [onPool_userFindById]
  refine Ensures.bind hinv (Ensures.stmt_bind fun s₁ hr₁ _ _ => ⟨rfl, fun hinv₁ => ?_⟩)
  cases hfind : (serviceMachine.exec (.db (.userFindById existing.userId)) s₁).1 with
  | none => exact fun _ _ _ _ h => by cases h
  | some user =>
      have hid := (Table.of_find? hfind).2
      simp only [decide_eq_true_eq] at hid
      intro s₂ hr₂ hinv₂ _
      refine Ensures.rejectIf_ok fun _ => ?_
      have hexisting₂ : TokenOk s₂.db existing :=
        fun p hp => ((hexisting.1 p hp).kept hr₁).kept hr₂
      refine Ensures.bind_ok hinv₂
        (ensures_refreshSelection body.selectedProfile hexisting₂ hid) ?_
      intro selectedId tr s₃ hinv₃ hbinding
      refine Ensures.bind_ok hinv₃ (ensures_refreshToken hbinding) ?_
      intro _ tr s₄ hinv₄ _
      have hload := BindsNothing.of_plain (plain_loadSelectedProfile selectedId)
      exact hload.bind_ensures hinv₄ fun _ _ _ _ _ _ _ _ _ _ _ => trivial

/-- `join` records the selected profile of the token it accepts. -/
theorem ensures_join (body : JoinReq) (clientIp : Option String)
    (hinv : OwnershipInv s) :
    (join body clientIp).Ensures ownershipDiscipline (OnOk fun _ _ _ => True) tr s := by
  refine Ensures.bind_ok hinv (ensures_tokenForOperation _ _ _ hinv) ?_
  intro token tr s hinv htoken
  obtain ⟨hok, s₁, haccepted⟩ := htoken
  cases hselected : token.selectedProfileId with
  | none => exact .err _ _ _
  | some profileId =>
      have howned := hok profileId hselected
      have hbanned := BindsNothing.of_plain
        (plain_isUserBanned token.userId .yggdrasilJoin)
      refine hbanned.bind_ensures hinv fun banned tr₂ s₂ hpre₂ hr₂ hinv₂ => ?_
      refine Ensures.rejectIf_ok fun _ => ?_
      simp only [onPool_profileFindById]
      refine Ensures.bind hinv₂ (Ensures.stmt_bind fun s₃ hr₃ _ _ => ⟨rfl, fun _ => ?_⟩)
      cases hfind : (serviceMachine.exec (.db (.profileFindById profileId)) s₃).1 with
      | none => exact fun _ _ _ _ h => by cases h
      | some profile =>
          obtain ⟨hrow, hid⟩ := Table.of_find? hfind
          simp only [decide_eq_true_eq] at hid
          subst hid
          intro s₄ _ _ _
          refine Ensures.rejectIf_ok fun _ s₅ _ _ _ => ⟨?_, fun _ _ _ _ _ => trivial⟩
          have huser : profile.userId = token.userId :=
            ((howned.kept hr₂).kept hr₃).2 profile hrow rfl
          refine ⟨body.accessToken, token, s₁, ?_, hselected, s₃, ?_, profile, hrow,
            rfl, rfl, huser⟩
          · exact List.mem_append_left _ (hpre₂.subset haccepted)
          · exact List.mem_append_right _ (List.mem_singleton.mpr rfl)

theorem ensures_invalidate_owned (body : TokenReq) (hinv : OwnershipInv s) :
    (invalidate body).Ensures ownershipDiscipline (OnOk fun _ _ _ => True) tr s := by
  have hfound : ((activeToken body.accessToken none).attempt :
      Service (Except ServiceError YggdrasilToken)).Ensures ownershipDiscipline
        (OnOk fun _ _ _ => True) tr s :=
    Ensures.attempt ((ensures_tokenForOperation _ _ _ hinv).mono
      fun _ _ _ _ _ _ => trivial)
  refine Ensures.bind_ok hinv hfound fun found tr s hinv _ => ?_
  have hload := BindsNothing.of_plain
    (plain_loadSelectedProfile (found.toOption.bind (·.selectedProfileId)))
  refine hload.bind_ensures hinv fun _ tr s _ _ _ => ?_
  have hrevoke : BindsNothing (revokeByAccessToken body.accessToken) :=
    .of_uses (uses_revokeByAccessToken _) (by decide)
  exact hrevoke.ensures

/-- Every call keeps the guarantee. -/
theorem ensures_ownership (verify : String → String → Except AsterError Bool)
    (call : Call) (hinv : OwnershipInv s) :
    (call.body verify).Ensures ownershipDiscipline (OnOk fun _ _ _ => True) tr s := by
  by_cases hkinds : call.kinds ⊆ unboundKinds
  · exact (BindsNothing.of_uses (Call.uses_body verify call) hkinds).ensures
  · cases call with
    | authenticate body ctx =>
        refine Ensures.bind_ok hinv (ensures_authenticate verify body ctx hinv) ?_
        exact fun _ _ _ _ _ _ _ _ _ _ => trivial
    | refresh body ctx =>
        refine Ensures.bind_ok hinv (ensures_refresh body ctx hinv) ?_
        exact fun _ _ _ _ _ _ _ _ _ _ => trivial
    | validate body =>
        refine Ensures.bind_ok hinv (K := fun _ _ _ => True) ?_ ?_
        · refine Ensures.bind_ok hinv (ensures_tokenForOperation _ _ _ hinv) ?_
          exact fun _ _ _ _ _ _ _ _ _ _ => trivial
        · exact fun _ _ _ _ _ _ _ _ _ _ => trivial
    | invalidate body =>
        refine Ensures.bind_ok hinv (ensures_invalidate_owned body hinv) ?_
        exact fun _ _ _ _ _ _ _ _ _ _ => trivial
    | join body clientIp =>
        refine Ensures.bind_ok hinv (ensures_join body clientIp hinv) ?_
        exact fun _ _ _ _ _ _ _ _ _ _ => trivial
    | tokenForOperation access client allow =>
        refine Ensures.bind_ok hinv (ensures_tokenForOperation _ _ _ hinv) ?_
        exact fun _ _ _ _ _ _ _ _ _ _ => trivial
    | _ => exact absurd (by simp [Call.kinds, unboundKinds]) hkinds

end Calls

/-! ## Runs -/

section Runs

open Config

variable (verify : String → String → Except AsterError Bool)

/-- The calls of the service in progress. -/
abbrev CallPool := Config serviceMachine ServiceError Call Response

/-- **Token and profile have one owner.**  From a state without tokens, in
every run of every mixture of calls, the selected profile of a token row exists
and belongs to the user of the token; and whoever wrote a join record had
accepted a token whose selected profile the record names, and had read that
profile as one of the user of the token. -/
theorem token_profile_ownership {s₀ : ServiceState} (htokens : s₀.db.tokens.rows = [])
    (hcache : ∀ hash, s₀.tokenCache hash = none) (sched : List (Action Call))
    {c : CallPool} (hc : c = (initial s₀).runs (Call.body verify) sched) :
    (∀ t ∈ c.shared.db.tokens.rows, ∀ p, t.selectedProfileId = some p →
      ∃ q ∈ c.shared.db.profiles.rows, q.id = p ∧ q.userId = t.userId) ∧
    ∀ e ∈ c.log, ∀ serverId session, e.stmt = .setJoinSession serverId session →
      JoinNames (c.trace e.tid) session := by
  have hinv₀ : OwnershipInv s₀ := by
    refine ⟨fun t ht => ?_, fun hash t ht => ?_⟩
    · rw [htokens] at ht
      cases ht
    · rw [hcache hash] at ht
      cases ht
  have hgood : Good ownershipDiscipline (fun _ _ => OnOk fun _ _ _ => True) c := by
    rw [hc]
    exact good_runs (G := fun _ _ _ => True) (fun _ _ _ _ _ => trivial)
      (fun _ call _ hinv => ensures_ownership verify call hinv) (good_initial hinv₀)
      (admissible_of_forall (fun _ _ _ => trivial) _ _)
  refine ⟨hgood.inv.rows, fun e he serverId session hstmt => ?_⟩
  obtain ⟨-, -, tr, hpre, -, hguar⟩ := hgood.events e he
  rw [hstmt] at hguar
  obtain ⟨hash, t, s₁, h₁, hselected, s₂, h₂, hrow⟩ := hguar
  exact ⟨hash, t, s₁, hpre.subset h₁, hselected, s₂, hpre.subset h₂, hrow⟩

/-- A login and a join with the token it issued. -/
def loginThenJoin : List (Action Call) :=
  .spawn (.authenticate ⟨"alice", "pw", none, none, false⟩ (drawing "t")) ::
    List.replicate 4 (.run 0) ++
    .spawn (.join ⟨"t", "uuid1", "server"⟩ none) :: List.replicate 8 (.run 1)

/-- The login binds the token to the player's profile, and the join records
it. -/
theorem ownership_loginThenJoin :
    ∃ c : CallPool,
      c = (initial onePlayer).runs (Call.body plainPassword) loginThenJoin ∧
      c.shared.db.tokens.rows.map (·.selectedProfileId) = [some 1] ∧
      (c.shared.joinCache "server").isSome ∧
      (∀ t ∈ c.shared.db.tokens.rows, ∀ p, t.selectedProfileId = some p →
        ∃ q ∈ c.shared.db.profiles.rows, q.id = p ∧ q.userId = t.userId) ∧
      ∀ e ∈ c.log, ∀ serverId session, e.stmt = .setJoinSession serverId session →
        JoinNames (c.trace e.tid) session :=
  ⟨_, rfl, by decide +kernel, by decide +kernel,
    token_profile_ownership plainPassword rfl (fun _ => rfl) loginThenJoin rfl⟩

end Runs

end AsterYggdrasil
