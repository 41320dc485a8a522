import AsterYggdrasil.External.SiteLocks
import AsterYggdrasil.External.StoredNames

/-!
# Every run of the site keeps the discipline

The transactions of the site consist of ordinary statements, each of which locks
what it writes.  So in every run, with any number of calls of any kind in any
order and with transactions ended by the database at any moment, a transaction
commits only what it has locked, and the site ages (`good_site`).
-/

namespace AsterYggdrasil.External

open Interleave Relational Prog

/-! ## The statements of the transactions -/

/-- A program of statements that may stand in a transaction. -/
abbrev Ordinary {α : Type} (p : OnConnection α) : Prop :=
  Issues (fun i : AccountStmt => (StoreStmt.account i).ordinary = true) p

section Bodies

variable {α : Type}

/-- A plain statement of the services is an ordinary one. -/
theorem ordinary_service {i : ServiceStmt} (hi : i.kind = .plain) :
    (StoreStmt.account (.service i)).ordinary = true := by
  cases i with
  | db i => cases i <;> first | rfl | cases hi
  | _ => rfl

/-- So is a plain program. -/
theorem ordinary_plain {p : Service α} (hp : Plain p) : Ordinary (ofService p) :=
  Issues.hoist ⟨hp.mono fun _ hi => ordinary_service hi⟩

/-- Looking at an expected row is ordinary. -/
theorem ordinary_required (e : AsterError) (o : Option α) : Ordinary (required e o) := by
  cases o
  · exact issues_err
  · exact issues_ok

/-- So is the check that a username is free. -/
theorem ordinary_ensureUsernameAvailable (name : String) (owner : Option Nat) :
    Ordinary (ofDb (ensureUsernameAvailable name owner)) := by
  refine ordinary_plain (Within.hoist (Within.stmt_bind rfl fun _ => ?_))
  exact Within.rejectIf.bind fun _ => Within.stmt_bind rfl fun _ => Within.rejectIf

/-- So are the checks of a new username. -/
theorem ordinary_checkNewUsername (name : String) (allow : Bool) :
    Ordinary (checkNewUsername name allow) := by
  refine issues_ofExcept.bind fun _ => ?_
  cases allow
  · exact issues_ofExcept
  · exact issues_ok

/-- An account's insert is ordinary. -/
theorem ordinary_createRow (input : CreateAccount) :
    Ordinary ((onConn (.userCreate input)).bind (required .databaseOperation)) :=
  Issues.stmt_bind rfl fun _ => ordinary_required _ _

/-- So is `create_user_with_role`. -/
theorem ordinary_createUserWithRole (lib : Library) (input : CreateUserWithRole) :
    Ordinary (createUserWithRole lib input) := by
  refine (ordinary_checkNewUsername _ _).bind fun _ => issues_ofExcept.bind fun email => ?_
  refine issues_ofExcept.bind fun _ => issues_ofExcept.bind fun _ => ?_
  refine (ordinary_ensureUsernameAvailable _ _).bind fun _ => Issues.bind ?_ fun _ => ?_
  · exact Issues.stmt_bind rfl fun _ => issues_rejectIf.bind fun _ =>
      Issues.stmt_bind rfl fun _ => issues_rejectIf
  · exact issues_ofExcept.bind fun _ => ordinary_createRow _

/-- So is its sibling for accounts without an address. -/
theorem ordinary_createUserWithoutEmail (lib : Library) (input : CreateUserWithoutEmail) :
    Ordinary (createUserWithoutEmailWithRole lib input) := by
  refine (ordinary_checkNewUsername _ _).bind fun _ => issues_ofExcept.bind fun _ => ?_
  refine (ordinary_ensureUsernameAvailable _ _).bind fun _ => ?_
  exact issues_ofExcept.bind fun _ => ordinary_createRow _

/-- So is an administrator's account. -/
theorem ordinary_adminCreateUser (input : AdminCreateUser) :
    Ordinary (adminCreateUserTxn input) :=
  (ordinary_ensureUsernameAvailable _ _).bind fun _ =>
    Issues.stmt_bind rfl fun _ => ordinary_createRow _

/-- Finding an invitation is ordinary. -/
theorem ordinary_invitationFindById (id : Nat) : Ordinary (invitationFindById id) :=
  Issues.stmt_bind rfl fun _ => ordinary_required _ _

/-- So is the error about its status. -/
theorem ordinary_currentStatusError (id : Nat) :
    Ordinary (currentInvitationStatusError id : OnConnection α) :=
  (ordinary_invitationFindById id).bind fun _ => issues_err

/-- Marking one as expired updates a row that is there. -/
theorem ordinary_refreshExpiredStatus (r : Invitation) :
    Ordinary (refreshExpiredStatus r) := by
  unfold refreshExpiredStatus
  split
  · refine Issues.stmt_bind rfl fun now => ?_
    split
    · refine Issues.stmt_bind rfl fun marked => ?_
      cases marked
      · exact ordinary_invitationFindById _
      · exact issues_ok
    · exact issues_ok
  · exact issues_ok

/-- Checking its expiry does too. -/
theorem ordinary_ensureNotExpired (r : Invitation) :
    Ordinary (ensureInvitationNotExpired r) := by
  refine Issues.stmt_bind rfl fun now => ?_
  split
  · exact issues_ok
  · refine Issues.stmt_bind rfl fun marked => ?_
    cases marked
    · exact ordinary_currentStatusError _
    · exact issues_err

/-- So does its acceptance. -/
theorem ordinary_acceptInvitation (lib : Library)
    (checkLocalEmail : String → Except AsterError Unit) (input : AcceptInvitation) :
    Ordinary (acceptInvitationTxn lib checkLocalEmail input) := by
  refine Issues.stmt_bind rfl fun found => (ordinary_required _ _).bind fun r => ?_
  refine (ordinary_refreshExpiredStatus r).bind fun r => issues_rejectIf.bind fun _ => ?_
  refine (ordinary_ensureNotExpired r).bind fun _ => issues_ofExcept.bind fun _ => ?_
  refine Issues.stmt_bind rfl fun taken => issues_rejectIf.bind fun _ => ?_
  refine Issues.stmt_bind rfl fun now => (ordinary_createUserWithRole _ _).bind fun u => ?_
  refine Issues.stmt_bind rfl fun marked => ?_
  cases marked
  · exact ordinary_currentStatusError _
  · exact issues_ok

/-- Linking an identity is ordinary. -/
theorem ordinary_createIdentity (userId : Nat) (provider : Provider) (claims : UserClaims)
    (now : Nat) (metadata : Option String) :
    Ordinary (createIdentityForClaims userId provider claims now metadata) :=
  Issues.stmt_bind rfl fun _ => ordinary_required _ _

/-- So is a login with it. -/
theorem ordinary_loginWithIdentity (identity : Identity) (claims : UserClaims)
    (metadata : Option String) (now : Nat) :
    Ordinary (loginWithIdentity identity claims metadata now) :=
  Issues.stmt_bind rfl fun _ => (ordinary_plain (plain_userFindById _ _)).bind fun _ =>
    issues_rejectIf.bind fun _ => issues_ok

/-- The attempts of a retry are what each of them is. -/
theorem ordinary_retry {attempt : Nat → OnConnection α} (h : ∀ n, Ordinary (attempt n))
    (ns : List Nat) : Ordinary (retryOnUsernameConflict attempt ns) := by
  induction ns with
  | nil => exact issues_err
  | cons n rest ih =>
      refine (h n).attempt.bind fun r => ?_
      cases r with
      | ok a => exact issues_ok
      | error e =>
          dsimp only
          split
          · exact ih
          · exact issues_err

/-- Finding or making the user behind a confirmed address. -/
theorem ordinary_resolveWithVerifiedEmail (lib : Library) (ctx : ProvisionContext)
    (provider : Provider) (claims : UserClaims) (now : Nat) :
    Ordinary (resolveWithVerifiedEmail lib ctx provider claims now) := by
  refine (ordinary_required _ _).bind fun email => issues_ofExcept.bind fun _ => ?_
  refine Issues.stmt_bind rfl fun found => ?_
  cases found with
  | some identity => exact ordinary_loginWithIdentity _ _ _ _
  | none =>
      refine Issues.stmt_bind rfl fun user => ?_
      cases user with
      | some user =>
          exact issues_rejectIf.bind fun _ => issues_rejectIf.bind fun _ =>
            (ordinary_createIdentity _ _ _ _ _).bind fun _ => issues_ok
      | none =>
          refine Issues.bind (issues_ofExcept.bind fun _ => ?_) fun _ => issues_ok
          refine (ordinary_required _ _).bind fun email => issues_ofExcept.bind fun _ => ?_
          refine Issues.stmt_bind rfl fun _ => issues_rejectIf.bind fun _ => ?_
          refine ordinary_retry (fun n => ?_) _
          exact (ordinary_createUserWithRole _ _).bind fun _ =>
            (ordinary_createIdentity _ _ _ _ _).bind fun _ => issues_ok

/-- Linking to a user who is there. -/
theorem ordinary_linkIdentity (provider : Provider) (claims : UserClaims) (user : User)
    (now : Nat) : Ordinary (linkIdentityToAuthenticatedUser provider claims user now) := by
  refine Issues.stmt_bind rfl fun found => ?_
  cases found with
  | some identity =>
      exact issues_rejectIf.bind fun _ => Issues.stmt_bind rfl fun _ => issues_ok
  | none => exact (ordinary_createIdentity _ _ _ _ _).bind fun _ => issues_ok

/-- Consuming a confirmation. -/
theorem ordinary_consumeEmailFlow (id now : Nat) (message : String) :
    Ordinary (consumeEmailFlow id now message) :=
  Issues.stmt_bind rfl fun _ => issues_rejectIf

/-- Making sure of a Microsoft identity. -/
theorem ordinary_ensureMinecraftIdentity (input : ApplyBinding) (now : Nat) :
    Ordinary (ensureMinecraftIdentity input now) := by
  refine Issues.stmt_bind rfl fun found => ?_
  cases found with
  | some identity =>
      exact issues_rejectIf.bind fun _ => Issues.stmt_bind rfl fun _ => issues_ok
  | none =>
      refine Issues.stmt_bind rfl fun existing => ?_
      cases existing with
      | some identity => exact issues_err
      | none =>
          exact Issues.stmt_bind rfl fun _ => (ordinary_required _ _).bind fun _ => issues_ok

/-- The transaction that makes a user. -/
theorem ordinary_provision (lib : Library) (input : ProvisionAttempt) :
    Ordinary (provisionTxn lib input) :=
  Issues.stmt_bind rfl fun _ => issues_rejectIf.bind fun _ =>
    (ordinary_createUserWithRole lib _).bind fun _ =>
      (ordinary_createIdentity _ _ _ _ _).bind fun _ => issues_ok

/-- Without an address too. -/
theorem ordinary_provisionWithoutEmail (lib : Library) (input : ProvisionWithoutEmail) :
    Ordinary (provisionWithoutEmailTxn lib input) :=
  (ordinary_createUserWithoutEmail lib _).bind fun _ =>
    (ordinary_createIdentity _ _ _ _ _).bind fun _ => issues_ok

/-- The transaction of a Minecraft binding. -/
theorem ordinary_applyBinding (input : ApplyBinding) : Ordinary (applyBindingTxn input) :=
  Issues.stmt_bind rfl fun _ => (ordinary_ensureMinecraftIdentity _ _).bind fun _ =>
    (ordinary_plain (plain_ensureMinecraftProfile _ _ _ _ _)).bind fun _ => issues_ok

/-- **The transactions of the site consist of ordinary statements.** -/
theorem ordinary_body (lib : Library) (t : AccountTxn) : Ordinary (t.body lib) := by
  cases t with
  | registerUser input => exact ordinary_createUserWithRole lib input
  | adminCreateUser input => exact ordinary_adminCreateUser input
  | acceptInvitation checkLocalEmail input =>
      exact ordinary_acceptInvitation lib checkLocalEmail input
  | provision input => exact ordinary_provision lib input
  | provisionWithoutEmail input => exact ordinary_provisionWithoutEmail lib input
  | startEmail flowId email hash now =>
      exact Issues.stmt_bind rfl fun _ => issues_rejectIf
  | confirmEmail ctx provider claims flowId now =>
      exact (ordinary_consumeEmailFlow _ _ _).bind fun _ =>
        ordinary_resolveWithVerifiedEmail _ _ _ _ _
  | passwordLink provider claims user flowId now =>
      exact (ordinary_consumeEmailFlow _ _ _).bind fun _ => ordinary_linkIdentity _ _ _ _
  | applyBinding input => exact ordinary_applyBinding input

/-- So do the transactions of the service. -/
theorem ordinary_serviceTxn (t : Txn) : Ordinary (serviceTxn t) := by
  have hbody : t.body.Within
      fun i : DbStmt => (StoreStmt.account (.service (.db i))).ordinary = true := by
    refine t.uses_body.mono fun i hi => ?_
    cases i with
    | userDelete id =>
        rcases hi with hplain | hkind
        · cases hplain
        · cases t <;> simp [Txn.kinds, DbStmt.kind] at hkind
    | _ => rfl
  have hpool : Issues (fun i : ServiceStmt => (StoreStmt.account (.service i)).ordinary = true)
      (t.body.hoist poolHom id) := ⟨Within.hoist hbody⟩
  exact Issues.hoist hpool

/-- Taking a statement apart that draws a key leaves it ordinary. -/
theorem within_expand {i : AccountStmt} (hi : (StoreStmt.account i).ordinary = true) :
    (expand i).Within fun i => StoreStmt.ordinary i = true := by
  unfold expand
  split
  · exact ⟨rfl, fun _ => ⟨rfl, fun _ => trivial⟩⟩
  · exact ⟨rfl, fun _ => ⟨rfl, fun _ => trivial⟩⟩
  · exact ⟨rfl, fun _ => ⟨rfl, fun _ => trivial⟩⟩
  · exact ⟨hi, fun _ => trivial⟩

/-- Ordinary programs send ordinary statements to the store. -/
theorem within_statements {p : OnConnection α} (hp : Ordinary p) :
    (onStatements p).Within fun i => StoreStmt.ordinary i = true := by
  obtain ⟨hp⟩ := hp
  induction p with
  | ok a => trivial
  | err e => trivial
  | act i k ih => exact (within_expand hp.1).bind fun r => ih r (hp.2 r)

/-- So does the creation of an invitation. -/
theorem within_createInvitation (email tokenHash : String) (now expiresAt : Nat) :
    (createInvitationTxn email tokenHash now expiresAt).Within
      fun i => StoreStmt.ordinary i = true := by
  refine Within.bind (Within.stmt_bind rfl fun _ => Within.rejectIf) fun _ => ?_
  refine Within.stmt_bind rfl fun pending => Within.bind ?_ fun _ => ?_
  · refine Within.forEach (fun r => ?_) pending
    exact Within.stmt_bind rfl fun _ => trivial
  · refine Within.stmt_bind rfl fun id => Within.stmt_bind rfl fun row => ?_
    cases row <;> trivial

end Bodies

/-! ## The calls -/

/-- Whatever the others do, the program keeps the discipline of the site. -/
structure Disciplined {α : Type} (p : AccountProg α) : Prop where
  ensures : ∀ tr s, p.Ensures siteDiscipline (fun _ _ _ => True) tr s

section Calls

variable {α β : Type}

/-- A program that is over asks for nothing. -/
theorem disciplined_ok (a : α) : Disciplined (.ok a) := ⟨fun _ _ _ _ _ => trivial⟩

/-- Disciplined programs one after another. -/
theorem Disciplined.bind {p : AccountProg α} {f : α → AccountProg β} (hp : Disciplined p)
    (hf : ∀ a, Disciplined (f a)) : Disciplined (p.bind f) := by
  refine ⟨fun tr s => Ensures.bind trivial ((hp.ensures tr s).mono ?_)⟩
  intro tr r s _
  cases r with
  | ok a => exact fun _ => (hf a).ensures tr s
  | error e => trivial

/-- A program on the pool. -/
theorem disciplined_onPool (p : StoreProg α) : Disciplined (onPoolOf p) :=
  ⟨fun _ _ => Ensures.translate (P := fun _ => True)
    (fun _ tr s _ _ => Store.Protection.ensures_auto trivial tr s) (.trivial p) trivial⟩

/-- A transaction of ordinary statements. -/
theorem disciplined_transaction {lost : ServiceError} {p : StoreProg α}
    (hp : p.Within fun i => StoreStmt.ordinary i = true) :
    Disciplined (Store.transaction (σ := accountStore) lost p) :=
  ⟨fun tr s => Store.Protection.ensures_transaction hp tr s⟩

/-- Catching an error takes no discipline away. -/
theorem Disciplined.attempt {ε' : Type} {p : AccountProg α} (hp : Disciplined p)
    (tr : Trace accountStore.readCommitted) (s : AccountShared) :
    (p.attempt : Prog accountStore.signature ε' (Except ServiceError α)).Ensures
      siteDiscipline (fun _ _ _ => True) tr s := Ensures.attempt (hp.ensures tr s)

/-- An operation, statement by statement. -/
theorem disciplined_inStore (lib : Library) (p : ExternalProg α) :
    Disciplined (inStore lib p) := by
  refine ⟨fun tr s => Ensures.translate (P := fun _ => True) ?_ (.trivial p) trivial⟩
  intro i tr s _ _
  cases i with
  | sql i =>
      by_cases htxn : ∃ t, i = .service (.txn t)
      · obtain ⟨t, rfl⟩ := htxn
        exact (disciplined_transaction (within_statements (ordinary_serviceTxn t))).attempt tr s
      · rw [storeStep_sql lib fun t heq => htxn ⟨t, heq⟩]
        exact (disciplined_onPool _).ensures tr s
  | txn t =>
      exact (disciplined_transaction (within_statements (ordinary_body lib t))).attempt tr s

/-- **Creating an invitation** follows the discipline of the site. -/
theorem disciplined_createInvitation (lib : Library) (policy : AuthPolicy)
    (email token : String) (ttlSecs : Nat) :
    Disciplined (createInvitation lib policy email token ttlSecs) := by
  refine (disciplined_onPool _).bind fun email => (disciplined_onPool _).bind fun _ => ?_
  have hreject : ∀ (c : Bool) (e : ServiceError),
      Disciplined (Prog.rejectIf c e : AccountProg Unit) := fun c e =>
    ⟨fun tr s => by cases c <;> exact fun _ _ _ => trivial⟩
  refine (disciplined_onPool _).bind fun now => (hreject _ _).bind fun _ => ?_
  exact (hreject _ _).bind fun _ => disciplined_transaction (within_createInvitation _ _ _ _)

/-- **Every call of the site keeps the discipline.** -/
theorem disciplined_body (lib : Library) (call : SiteCall) :
    Disciplined (call.body lib) := by
  cases call with
  | createInvitation policy email token ttlSecs =>
      exact (disciplined_createInvitation _ _ _ _ _).bind fun _ => disciplined_ok _
  | revokeInvitation id => exact (disciplined_onPool _).bind fun _ => disciplined_ok _
  | listInvitations limit cursor =>
      exact (disciplined_onPool _).bind fun _ => disciplined_ok _
  | abort x =>
      refine Disciplined.bind ⟨fun tr s => ?_⟩ fun _ => disciplined_ok _
      exact Store.Protection.ensures_abort x tr s
  | _ => exact (disciplined_inStore lib _).bind fun _ => disciplined_ok _

end Calls

/-- **The runs of the site.**  Between two steps of a run every open transaction
keeps what it has locked, and the site ages. -/
theorem good_site (lib : Library) {s₀ : AccountShared} {sched : List (Action SiteCall)}
    {c : SiteConfig} (hc : c = (Config.initial s₀).runs (SiteCall.body lib) sched) :
    c.Good siteDiscipline fun _ _ _ _ _ => True := by
  rw [hc]
  exact Config.good_runs (G := fun _ _ _ => True) (fun _ _ _ _ hen => hen)
    (fun _ call s _ => (disciplined_body lib call).ensures [] s)
    (Config.good_initial trivial) (Config.admissible_of_forall (fun _ _ _ => trivial) _ _)

/-- The second step came after the first: the site has aged since the first one
began and since it ended, and what the first one locked is undisturbed. -/
structure Later (a b : accountStore.Stmt × AccountShared) : Prop where
  before : Ages a.2.committed b.2.committed
  after : Ages (accountStore.exec a.1 a.2).2.committed b.2.committed
  undisturbed : siteProtection.Undisturbed (accountStore.exec a.1 a.2).2 b.2

section Later

variable {c : SiteConfig} (hc : c.Good siteDiscipline fun _ _ _ _ _ => True)
  {e : Event accountStore.readCommitted}

include hc

/-- The site ages with every step of a run. -/
theorem ages_event (he : e ∈ c.log) : Ages e.pre.committed e.post.committed := by
  obtain ⟨-, -, tr, -, -, hguard⟩ := hc.events e he
  exact siteEvolution.exec hguard

/-- It ages from one step of a run to every later one. -/
theorem ages_later (he : e ∈ c.log) : Ages e.post.committed c.shared.committed :=
  (hc.events e he).2.1.2

/-- The site ages from a step of a call to the end of the run. -/
theorem trace_ages {i : Nat} {ev : accountStore.Stmt × AccountShared} (hev : ev ∈ c.trace i) :
    Ages ev.2.committed c.shared.committed := by
  obtain ⟨e, he, -, -, hpre⟩ := Config.mem_trace.mp hev
  rw [← hpre]
  exact (ages_event hc he).trans (ages_later hc he)

/-- The steps of one call, in their order. -/
theorem trace_later (i : Nat) : (c.trace i).Pairwise Later := by
  refine (hc.trace_linked i).imp_of_mem ?_
  rintro ⟨st, s⟩ b ha - hrely
  obtain ⟨e, he, -, rfl, rfl⟩ := Config.mem_trace.mp ha
  exact ⟨(ages_event hc he).trans hrely.2, hrely.2, hrely.1⟩

end Later

end AsterYggdrasil.External
