import AsterYggdrasil.Contact.Links
import AsterYggdrasil.Interleave.Sequence

/-!
# The distance between two mails

Before an operation sends a link to an account that already has one, it looks at the
age of the last one.  `sendAllowed` is that look, for one purpose.  The links of new
accounts and of forgotten passwords are spaced by it: `SendDue.rested` says that a
positive answer is about every link of the purpose that can still be followed.

The two operations on a changed address ask about the wrong purpose.  They consult
`register_activation_resend_allowed`, so their own links do not hold them back, and a
call that passes its checks sends its link at any time (`SendsChange.enqueued`).  So
the mails are spaced exactly if the calls are (`mails_spaced_iff`), and
`changes_not_spaced` is a run in which they are not.
-/

namespace AsterYggdrasil.Contact

open Interleave Relational Prog
open AsterYggdrasil.Panel (VerificationPurpose)

variable {lib : ContactLibrary} {cfg : ContactConfig} {s s' : ContactState}

/-- The cooldown that is configured for the links of a purpose, in milliseconds. -/
def ContactVerificationPolicy.cooldown (policy : ContactVerificationPolicy) :
    VerificationPurpose → Nat
  | .passwordReset => policy.passwordResetRequestCooldownSecs * 1000
  | .registerActivation | .contactChange => policy.resendCooldownSecs * 1000

/-- The links of an account and purpose that can still be followed and that went to
one of the addresses are at least as old as the cooldown. -/
def Rested (cfg : ContactConfig) (s : ContactState) (userId : Nat)
    (purpose : VerificationPurpose) (addresses : String → Prop) : Prop :=
  ∀ t ∈ s.tokens.rows, t.unusedFor userId .email purpose = true → s.now < t.expiresAt →
    addresses t.target → t.createdAt + cfg.policy.cooldown purpose ≤ s.now

/-- All addresses. -/
abbrev anyAddress : String → Prop := fun _ => True

theorem Rested.at {userId : Nat} {purpose : VerificationPurpose}
    (h : Rested cfg s userId purpose anyAddress) (address : String) :
    Rested cfg s userId purpose (· = address) :=
  fun t ht hunused hvalid _ => h t ht hunused hvalid trivial

/-! ## The look at the last link -/

theorem newestFirst_sorted (l : List ContactVerificationToken) :
    (l.insertionSort newestFirst).Pairwise newestFirst := by
  have : Std.Total newestFirst := ⟨fun a b => Nat.le_total b.createdAt a.createdAt⟩
  have : IsTrans ContactVerificationToken newestFirst := ⟨fun _ _ _ hab hbc => hbc.trans hab⟩
  exact List.pairwise_insertionSort newestFirst l

/-- The last active link is the youngest one. -/
theorem le_latestActive {userId : Nat} {purpose : VerificationPurpose}
    {t : ContactVerificationToken} (ht : t ∈ s.tokens.rows)
    (hunused : t.unusedFor userId .email purpose = true) (hvalid : s.now < t.expiresAt) :
    ∃ latest, s.latestActive userId .email purpose = some latest ∧
      t.createdAt ≤ latest.createdAt := by
  unfold ContactState.latestActive
  have hselected : t ∈ (s.tokens.select fun t =>
      t.unusedFor userId .email purpose && s.now < t.expiresAt).insertionSort newestFirst := by
    rw [List.mem_insertionSort, Table.mem_select]
    exact ⟨ht, by simp [hunused, hvalid]⟩
  have hsorted := newestFirst_sorted (s.tokens.select fun t =>
    t.unusedFor userId .email purpose && s.now < t.expiresAt)
  cases hlist : (s.tokens.select fun t =>
      t.unusedFor userId .email purpose && s.now < t.expiresAt).insertionSort newestFirst with
  | nil =>
      rw [hlist] at hselected
      cases hselected
  | cons latest rest =>
      refine ⟨latest, rfl, ?_⟩
      rw [hlist] at hselected hsorted
      rcases List.mem_cons.mp hselected with rfl | hrest
      · exact Nat.le_refl _
      · exact (List.pairwise_cons.mp hsorted).1 t hrest

/-- The last active link of the purpose, if there is one, is due for another one. -/
def SendDue (purpose : VerificationPurpose) (cooldownSecs : Nat) (what : String)
    (s : ContactState) (userId : Nat) : Prop :=
  ∀ latest, s.latestActive userId .email purpose = some latest →
    ∃ due, afterSeconds latest.createdAt cooldownSecs what = .ok due ∧ due ≤ s.now

section SendAllowed

variable {purpose : VerificationPurpose} {cooldownSecs userId : Nat} {what : String}

/-- A permission to send says that the last link is due. -/
theorem looks_sendAllowed (purpose : VerificationPurpose) (cooldownSecs : Nat) (what : String)
    (userId : Nat) :
    (sendAllowed purpose cooldownSecs what userId).Looks contactMachine s fun allowed =>
      allowed = true → SendDue purpose cooldownSecs what s userId := by
  refine (looks_query rfl).bind fun r hr => ?_
  have hlatest : s.latestActive userId .email purpose = r := hr.symm
  cases r with
  | none =>
      refine looks_ok fun _ latest hfound => ?_
      rw [hlatest] at hfound
      cases hfound
  | some latest =>
      refine looks_checked.bind fun due hdue => ?_
      refine (looks_query rfl).bind fun now hnow => ?_
      subst hnow
      refine looks_ok fun hallowed latest' hfound => ?_
      rw [hlatest] at hfound
      cases hfound
      exact ⟨due, hdue, of_decide_eq_true hallowed⟩

/-- When the last link is due, the permission is given. -/
theorem run_sendAllowed (h : SendDue purpose cooldownSecs what s userId) :
    (sendAllowed purpose cooldownSecs what userId).run contactMachine s = (.ok true, s) := by
  have hquery : (query (.tokenFindLatestActive userId .email purpose)).run contactMachine s =
      (.ok (s.latestActive userId .email purpose), s) := rfl
  refine (run_bind_of_ok hquery).trans ?_
  cases hlatest : s.latestActive userId .email purpose with
  | none => rfl
  | some latest =>
      obtain ⟨due, hdue, hle⟩ := h latest hlatest
      have hchecked : (checked (afterSeconds latest.createdAt cooldownSecs what)).run
          contactMachine s = (.ok due, s) := by
        rw [hdue]
        rfl
      refine (run_bind_of_ok hchecked).trans ?_
      show ((.ok (decide (due ≤ s.now)) : Except AsterError Bool), s) = _
      rw [decide_eq_true hle]

/-- **A link that is due follows links that have rested**: the last one is the youngest
of all that can still be followed. -/
theorem SendDue.rested (h : SendDue purpose cooldownSecs what s userId)
    (hcooldown : cooldownSecs * 1000 = cfg.policy.cooldown purpose) :
    Rested cfg s userId purpose anyAddress := by
  intro t ht hunused hvalid _
  obtain ⟨latest, hfound, hle⟩ := le_latestActive ht hunused hvalid
  obtain ⟨due, hdue, hage⟩ := h latest hfound
  rw [afterSeconds_eq hdue, hcooldown] at hage
  omega

end SendAllowed

/-- `register_activation_resend_allowed` says yes. -/
abbrev ActivationDue (cfg : ContactConfig) : ContactState → Nat → Prop :=
  SendDue .registerActivation cfg.policy.resendCooldownSecs
    "contact verification resend cooldown"

/-- A permission to send the link of a new account again. -/
theorem looks_registerActivationResendAllowed (userId : Nat) :
    (registerActivationResendAllowed cfg.policy userId).Looks contactMachine s fun allowed =>
      allowed = true → ActivationDue cfg s userId :=
  looks_sendAllowed _ _ _ userId

/-- A permission to send the link of a forgotten password. -/
theorem looks_passwordResetRequestAllowed (userId : Nat) :
    (passwordResetRequestAllowed cfg.policy userId).Looks contactMachine s fun allowed =>
      allowed = true → Rested cfg s userId .passwordReset anyAddress :=
  (looks_sendAllowed _ _ _ userId).mono fun _ hdue hallowed => (hdue hallowed).rested rfl

/-! ## The link a call would send to a changed address -/

/-- The account may change its address. -/
structure MayChange (user : Account) : Prop where
  active : user.status.isActive = true
  activated : isEmailActivationSatisfied user.toUser = true

/-- The account and the new address of an operation that passes all its checks.  The
last check of both is the one about the wrong purpose. -/
inductive ChangeRequested (lib : ContactLibrary) (cfg : ContactConfig) (s : ContactState) :
    ContactCall → Account → String → Prop
  | request {userId : Nat} {newEmail token email : String} {user : Account}
      (found : s.accountById userId = some user)
      (normalized : lib.normalizeEmail newEmail = .ok email)
      (mayChange : MayChange user)
      (different : user.email ≠ some email)
      (allowed : cfg.localEmailPolicy.check lib email = .ok ())
      (free : s.AddressFree email (some user.id))
      (due : user.pendingEmail = some email → ActivationDue cfg s user.id) :
      ChangeRequested lib cfg s (.requestEmailChange userId newEmail token) user email
  | resend {userId : Nat} {token email : String} {user : Account}
      (found : s.accountById userId = some user)
      (pending : user.pendingEmail = some email)
      (mayChange : MayChange user)
      (allowed : cfg.localEmailPolicy.checkNotBlocked lib email = .ok ())
      (free : s.AddressFree email (some user.id))
      (due : ActivationDue cfg s user.id) :
      ChangeRequested lib cfg s (.resendEmailChange userId token) user email

theorem looks_ensureMayChangeEmail (user : Account) :
    (ensureMayChangeEmail user).Looks contactMachine s fun _ => MayChange user := by
  refine looks_rejectIf.bind fun _ hactive => ?_
  refine looks_rejectIf.mono fun _ hactivated => ?_
  exact ⟨by simpa using hactive, by simpa using hactivated⟩

theorem looks_requestEmailChangeChecks (userId : Nat) (newEmail token : String) :
    (requestEmailChangeChecks lib cfg userId newEmail).Looks contactMachine s fun r =>
      ChangeRequested lib cfg s (.requestEmailChange userId newEmail token) r.1 r.2 := by
  refine looks_checked.bind fun email hemail => ?_
  refine (looks_userFindById userId).bind fun user huser => ?_
  refine (looks_ensureMayChangeEmail user).bind fun _ hmay => ?_
  refine looks_rejectIf.bind fun _ hdifferent => ?_
  have hdifferent : user.email ≠ some email := of_decide_eq_false hdifferent
  refine looks_checked.bind fun _ hallowed => ?_
  refine (looks_ensureEmailAvailable email (some user.id)).bind fun _ hfree => ?_
  by_cases hpending : user.pendingEmail = some email
  · rw [if_pos hpending]
    refine (looks_registerActivationResendAllowed user.id).bind fun allowed hdue => ?_
    refine looks_rejectIf.bind fun _ hnot => looks_ok ?_
    have hdue := hdue (by simpa using hnot)
    exact .request huser hemail hmay hdifferent hallowed hfree fun _ => hdue
  · rw [if_neg hpending]
    exact looks_ok (.request huser hemail hmay hdifferent hallowed hfree
      fun h => absurd h hpending)

theorem looks_resendEmailChangeChecks (userId : Nat) (token : String) :
    (resendEmailChangeChecks lib cfg userId).Looks contactMachine s fun r =>
      ∀ user email, r = some (user, email) →
        ChangeRequested lib cfg s (.resendEmailChange userId token) user email := by
  refine (looks_userFindById userId).bind fun user huser => ?_
  refine looks_required.bind fun email hpending => ?_
  refine (looks_ensureMayChangeEmail user).bind fun _ hmay => ?_
  refine looks_checked.bind fun _ hallowed => ?_
  refine (looks_ensureEmailAvailable email (some user.id)).bind fun _ hfree => ?_
  refine (looks_registerActivationResendAllowed user.id).bind fun allowed hdue => ?_
  refine looks_ok fun user' email' h => ?_
  cases allowed with
  | false => cases h
  | true =>
      cases h
      exact .resend huser hpending hmay hallowed hfree (hdue rfl)

/-- An address that is free is available. -/
theorem run_ensureEmailAvailable {email : String} {exclude : Option Nat}
    (h : s.AddressFree email exclude) :
    (ensureEmailAvailable email exclude).run contactMachine s = (.ok (), s) := by
  have hemail : ((s.accounts.find? fun a => a.email = some email).any
      fun a => some a.id ≠ exclude) = false :=
    (find?_free email_clash).mpr fun a ha htaken =>
      h a ha (Or.inl (of_decide_eq_true htaken))
  have hpending : ((s.accounts.find? fun a => a.pendingEmail = some email).any
      fun a => some a.id ≠ exclude) = false :=
    (find?_free pendingEmail_clash).mpr fun a ha htaken =>
      h a ha (Or.inr (of_decide_eq_true htaken))
  have hquery : (query (.userFindByEmail email)).run contactMachine s =
      (.ok (s.accounts.find? fun a => a.email = some email), s) := rfl
  have hquery' : (query (.userFindByPendingEmail email)).run contactMachine s =
      (.ok (s.accounts.find? fun a => a.pendingEmail = some email), s) := rfl
  refine (run_bind_of_ok hquery).trans ?_
  rw [hemail]
  refine (run_bind_of_ok hquery').trans ?_
  rw [hpending]
  rfl

theorem run_ensureMayChangeEmail {user : Account} (h : MayChange user) :
    (ensureMayChangeEmail user).run contactMachine s = (.ok (), s) := by
  simp [ensureMayChangeEmail, ensureActive, h.active, h.activated]

theorem run_userFindById {userId : Nat} {user : Account}
    (h : s.accountById userId = some user) :
    (userFindById userId).run contactMachine s = (.ok user, s) := by
  have hquery : (query (.userFindById userId)).run contactMachine s = (.ok (some user), s) := by
    rw [← h]
    rfl
  exact (run_bind_of_ok hquery).trans rfl

theorem run_checked {α : Type} {r : Except AsterError α} {a : α} (h : r = .ok a) :
    (checked r).run contactMachine s = (.ok a, s) := by
  rw [h]
  rfl

/-- **A request that meets the conditions passes its checks.** -/
theorem run_requestEmailChangeChecks {userId : Nat} {newEmail token email : String}
    {user : Account}
    (h : ChangeRequested lib cfg s (.requestEmailChange userId newEmail token) user email) :
    (requestEmailChangeChecks lib cfg userId newEmail).run contactMachine s =
      (.ok (user, email), s) := by
  cases h with
  | request found normalized mayChange different allowed free due =>
      refine (run_bind_of_ok (run_checked normalized)).trans ?_
      refine (run_bind_of_ok (run_userFindById found)).trans ?_
      refine (run_bind_of_ok (run_ensureMayChangeEmail mayChange)).trans ?_
      rw [decide_eq_false different]
      refine (run_bind_of_ok (run_checked allowed)).trans ?_
      refine (run_bind_of_ok (run_ensureEmailAvailable free)).trans ?_
      by_cases hpending : user.pendingEmail = some email
      · rw [if_pos hpending]
        exact (run_bind_of_ok (run_sendAllowed (due hpending))).trans rfl
      · rw [if_neg hpending]
        rfl

/-- So does a request for another link. -/
theorem run_resendEmailChangeChecks {userId : Nat} {token email : String} {user : Account}
    (h : ChangeRequested lib cfg s (.resendEmailChange userId token) user email) :
    (resendEmailChangeChecks lib cfg userId).run contactMachine s =
      (.ok (some (user, email)), s) := by
  cases h with
  | resend found pending mayChange allowed free due =>
      refine (run_bind_of_ok (run_userFindById found)).trans ?_
      rw [pending]
      refine (run_bind_of_ok (run_ensureMayChangeEmail mayChange)).trans ?_
      refine (run_bind_of_ok (run_checked allowed)).trans ?_
      refine (run_bind_of_ok (run_ensureEmailAvailable free)).trans ?_
      exact (run_bind_of_ok (run_sendAllowed due)).trans rfl

/-- A link for a forgotten password is sent when the ones before it have rested. -/
theorem looks_requestPasswordResetChecks (email : String) :
    (requestPasswordResetChecks lib cfg email).Looks contactMachine s fun r =>
      ∀ user, r = some (user, true) → Rested cfg s user.id .passwordReset anyAddress := by
  refine looks_checked.bind fun normalized _ => ?_
  refine (looks_query rfl).bind fun found hfound => ?_
  cases found with
  | none => exact looks_ok fun user h => by cases h
  | some user =>
      by_cases hskip : (!user.status.isActive || !isEmailVerified user) = true
      · simp only [hskip, if_true]
        exact looks_ok fun user h => by cases h
      · simp only [hskip]
        refine (looks_passwordResetRequestAllowed user.id).bind fun allowed hrested => ?_
        refine looks_ok fun user' h => ?_
        cases h
        exact hrested rfl

/-- So is the link of a new account. -/
theorem looks_resendRegisterActivationChecks (identifier : String) :
    (resendRegisterActivationChecks lib cfg identifier).Looks contactMachine s fun r =>
      ∀ user, r = .inr user → Rested cfg s user.id .registerActivation anyAddress := by
  refine (looks_query rfl).bind fun found hfound => ?_
  cases found with
  | none => exact looks_ok fun user h => by cases h
  | some user =>
      by_cases hactive : (!user.status.isActive) = true
      · simp only [hactive, if_true]
        exact looks_ok fun user h => by cases h
      by_cases hverified : isEmailVerified user = true
      · simp only [hactive, hverified, if_true]
        exact looks_ok fun user h => by cases h
      simp only [hactive, hverified]
      refine looks_checked.bind fun address _ => ?_
      cases cfg.localEmailPolicy.check lib address with
      | error e => exact looks_ok fun user h => by cases h
      | ok _ =>
          refine (looks_registerActivationResendAllowed user.id).bind
            fun allowed hdue => ?_
          refine looks_ok fun user' h => ?_
          cases allowed with
          | false => cases h
          | true =>
              cases h
              exact (hdue rfl).rested rfl

/-- The secret that a call on a changed address draws. -/
def ContactCall.changeToken : ContactCall → Option String
  | .requestEmailChange _ _ token | .resendEmailChange _ token => some token
  | _ => none

/-- The call asks for a link to a changed address and meets every condition for it: the
checks pass, and the link can be stored. -/
structure SendsChange (lib : ContactLibrary) (cfg : ContactConfig) (s : ContactState)
    (call : ContactCall) (user : Account) (email token : String) : Prop where
  requested : ChangeRequested lib cfg s call user email
  secret : call.changeToken = some token
  canSend : CanSend lib cfg .contactChange user.id token s

/-! ## What a call does to the outbox -/

/-- Between `s` and `s'` mails went into the outbox, but no link among them. -/
def NoLinks (s s' : ContactState) : Prop :=
  ∃ mails, (∀ m ∈ mails, m.payload.link? = none) ∧ s'.outbox = s.outbox ++ mails

theorem NoLinks.of_outbox (h : s'.outbox = s.outbox) : NoLinks s s' :=
  ⟨[], by simp, by simp [h]⟩

theorem NoLinks.trans {a b c : ContactState} (hab : NoLinks a b) (hbc : NoLinks b c) :
    NoLinks a c := by
  obtain ⟨xs, hxs, hb⟩ := hab
  obtain ⟨ys, hys, hc⟩ := hbc
  refine ⟨xs ++ ys, fun m hm => ?_, by rw [hc, hb, List.append_assoc]⟩
  rcases List.mem_append.mp hm with hm | hm
  · exact hxs m hm
  · exact hys m hm

/-- The statement mails no link. -/
def ContactStmt.NoLink : ContactStmt → Prop
  | .mailInsert mail => mail.payload.link? = none
  | _ => True

theorem follows_noLink {id : Nat} {i : ContactStmt} (h : i.Follows id) : i.NoLink := by
  cases i with
  | mailInsert mail => exact h
  | _ => trivial

theorem ContactStmt.NoLink.exec {i : ContactStmt} (hi : i.NoLink) (s : ContactState) :
    NoLinks s (i.exec s).2 := by
  cases i with
  | mailInsert mail => exact ⟨[mail], fun m hm => List.mem_singleton.mp hm ▸ hi, rfl⟩
  | userInsert id input =>
      refine .of_outbox ?_
      simp only [ContactStmt.exec]
      split <;> rfl
  | userUpdate id patch =>
      refine .of_outbox ?_
      simp only [ContactStmt.exec]
      split
      · rfl
      · split <;> rfl
  | tokenInsert id input =>
      refine .of_outbox ?_
      simp only [ContactStmt.exec]
      split
      · split <;> rfl
      · rfl
  | _ => exact .of_outbox rfl

/-- A step mails no link. -/
def ContactStep.NoLink (lib : ContactLibrary) (cfg : ContactConfig) : ContactStep → Prop
  | .sql i => i.NoLink
  | .txn t => (t.body lib cfg).Within ContactStmt.NoLink

theorem ContactStep.NoLink.exec {i : ContactStep} (hi : i.NoLink lib cfg) (s : ContactState) :
    NoLinks s (i.exec lib cfg s).2 := by
  cases i with
  | sql i => exact ContactStmt.NoLink.exec hi s
  | txn t =>
      have hwithin : (t.body lib cfg).Within
          fun i => ∀ s, NoLinks s (contactMachine.exec i s).2 :=
        Within.mono hi fun i hi s => ContactStmt.NoLink.exec hi s
      have hrun : NoLinks s ((t.body lib cfg).run contactMachine s).2 :=
        Within.run_respects (M := contactMachine) (r := NoLinks)
          (fun _ => NoLinks.of_outbox rfl) (fun _ _ _ => NoLinks.trans) hwithin s
      show NoLinks s (t.commit lib cfg s).2
      unfold ContactTxn.commit
      cases h : (t.body lib cfg).run contactMachine s with
      | mk r s₁ =>
          rw [h] at hrun
          cases r with
          | ok a => exact hrun
          | error e => exact .of_outbox rfl

/-- Why a link goes out: the active links before it have rested, or the call is one on a
changed address that meets every condition. -/
def Admitted (lib : ContactLibrary) (cfg : ContactConfig) (s : ContactState)
    (call : ContactCall) (userId : Nat) (address token : String) :
    VerificationPurpose → Prop
  | .contactChange => ∃ user, user.id = userId ∧ SendsChange lib cfg s call user address token
  | purpose => Rested cfg s userId purpose (· = address)

/-- Between `s` and `s'` the call mails no link, or one that is admitted. -/
inductive Mailed (lib : ContactLibrary) (cfg : ContactConfig) (s : ContactState)
    (call : ContactCall) (s' : ContactState) : Prop
  | noLinks (h : NoLinks s s')
  | link (purpose : VerificationPurpose) (user : Account) (address token : String)
      (sent : LinkSent lib cfg purpose user address token s s')
      (admitted : Admitted lib cfg s call user.id address token purpose)

theorem Mailed.refl (s : ContactState) {call : ContactCall} : Mailed lib cfg s call s :=
  .noLinks (.of_outbox rfl)

/-- The calls that do not create an account together with its first link. -/
def ContactCall.registers : ContactCall → Bool
  | .register _ _ => true
  | _ => false

/-- Run alone from `s`, the operation of the call mails no link without a reason, whether
it fails or returns. -/
abbrev Mails {α : Type} (lib : ContactLibrary) (cfg : ContactConfig) (s : ContactState)
    (call : ContactCall) (p : ContactProg α) : Prop :=
  p.Outcomes (stepMachine lib cfg) (fun _ => Mailed lib cfg s call)
    (fun _ => Mailed lib cfg s call) s

theorem mails_checks {α β : Type} {K : α → Prop} {call : ContactCall} {p : OnConnection α}
    {f : α → ContactProg β} (hp : p.Looks contactMachine s K)
    (hf : ∀ a, K a → Mails lib cfg s call (f a)) :
    Mails lib cfg s call ((onPool p).bind f) :=
  (looks_onPool hp).bind_outcomes (fun _ => .refl s) hf

theorem mails_withTxn {call : ContactCall} {t : ContactTxn}
    (h : (t.body lib cfg).Outcomes contactMachine (fun _ _ => True)
      (fun _ => Mailed lib cfg s call) s) : Mails lib cfg s call (withTxn t) :=
  (outcomes_withTxn h).mono
    (fun _ s' (hsame : s' = s) => by rw [hsame]; exact Mailed.refl s) fun _ _ hmailed => hmailed

/-- What an operation answers does not matter. -/
theorem Mails.answer {α β : Type} {call : ContactCall} {p : ContactProg α}
    (hp : Mails lib cfg s call p) (g : α → β) :
    Mails lib cfg s call (p.bind fun a => .ok (g a)) :=
  hp.bind fun _ _ hmailed => outcomes_ok hmailed

/-- A link that is admitted once it can be stored. -/
theorem outcomes_sendAdmitted {call : ContactCall} {purpose : VerificationPurpose}
    {user : Account} {address token : String}
    (h : CanSend lib cfg purpose user.id token s →
      Admitted lib cfg s call user.id address token purpose) :
    (sendLink lib cfg purpose user address token).Outcomes contactMachine (fun _ _ => True)
      (fun _ => Mailed lib cfg s call) s :=
  (outcomes_sendLink purpose user address token).mono (fun _ _ h => h)
    fun _ _ hsent => .link _ _ _ _ hsent (h hsent.canSend)

/-- The link of a change has gone out to the account. -/
def ChangeSent (lib : ContactLibrary) (cfg : ContactConfig) (userId : Nat)
    (email token : String) (s s' : ContactState) : Prop :=
  ∃ user : Account, user.id = userId ∧
    LinkSent lib cfg .contactChange user email token s s'

/-- The update in front of the link leaves links and mails alone. -/
theorem outcomes_requestChangeBody (user : Account) (email token : String) :
    (requestChangeBody lib cfg user email token).Outcomes contactMachine (fun _ _ => True)
      (fun _ s' => ChangeSent lib cfg user.id email token s s') s := by
  refine outcomes_of_run (a := s.now) rfl ?_
  refine Outcomes.bind (outcomes_userUpdate user.id _) ?_
  rintro updated s₁ ⟨old, accounts, hold, rfl, hupdate, rfl⟩
  refine Outcomes.bind (outcomes_sendLink _ _ _ _) ?_
  intro _ s₂ hsent
  exact outcomes_ok ⟨_, (accountById_eq_some hold).2, hsent.tokens, hsent.outbox,
    hsent.canSend.expires, hsent.canSend.fresh⟩

/-- A call that mails no link. -/
theorem mailed_of_within {call : ContactCall}
    (h : (call.body lib cfg).Within (ContactStep.NoLink lib cfg)) (s : ContactState) :
    Mailed lib cfg s call
      (after (stepMachine lib cfg) (ContactCall.body lib cfg) s call) := by
  have hwithin : (call.body lib cfg).Within
      fun i => ∀ s, NoLinks s ((stepMachine lib cfg).exec i s).2 :=
    Within.mono h fun i hi s => ContactStep.NoLink.exec hi s
  exact .noLinks (Within.run_respects (M := stepMachine lib cfg) (r := NoLinks)
    (fun _ => NoLinks.of_outbox rfl) (fun _ _ _ => NoLinks.trans) hwithin s)

theorem mails_requestEmailChange (userId : Nat) (newEmail token : String) :
    Mails lib cfg s (.requestEmailChange userId newEmail token)
      (requestEmailChange lib cfg userId newEmail token) := by
  refine mails_checks (looks_requestEmailChangeChecks userId newEmail token) ?_
  rintro ⟨user, email⟩ hrequested
  refine mails_withTxn ((outcomes_requestChangeBody user email token).mono
    (fun _ _ h => h) fun _ s' hsent => ?_)
  obtain ⟨updated, hid, hsent⟩ := hsent
  refine .link _ _ _ _ hsent ⟨user, hid.symm, hrequested, rfl, ?_⟩
  rw [← hid]
  exact hsent.canSend

theorem mails_resendEmailChange (userId : Nat) (token : String) :
    Mails lib cfg s (.resendEmailChange userId token)
      (resendEmailChange lib cfg userId token) := by
  refine mails_checks (looks_resendEmailChangeChecks userId token) ?_
  intro r hr
  match r with
  | none => exact outcomes_ok (.refl s)
  | some (user, email) =>
      have hrequested := hr user email rfl
      have htxn : Mails lib cfg s (.resendEmailChange userId token)
          (withTxn (.resendChange user email token)) :=
        mails_withTxn (outcomes_sendAdmitted fun hcan => ⟨user, rfl, hrequested, rfl, hcan⟩)
      exact htxn.answer _

theorem mails_requestPasswordReset (email token : String) :
    Mails lib cfg s (.requestPasswordReset email token)
      (requestPasswordReset lib cfg email token) := by
  refine mails_checks (looks_requestPasswordResetChecks email) ?_
  intro r hr
  match r with
  | none => exact outcomes_ok (.refl s)
  | some (user, false) => exact outcomes_ok (.refl s)
  | some (user, true) =>
      have hrested := hr user rfl
      have htxn : Mails lib cfg s (.requestPasswordReset email token)
          (withTxn (.requestReset user token)) :=
        mails_withTxn (looks_checked.bind_outcomes (fun _ => trivial) fun address _ =>
          outcomes_sendAdmitted fun _ => hrested.at address)
      exact htxn.answer _

theorem mails_resendRegisterActivation (identifier token : String) :
    Mails lib cfg s (.resendRegisterActivation identifier token)
      (resendRegisterActivation lib cfg identifier token) := by
  refine mails_checks (looks_resendRegisterActivationChecks identifier) ?_
  intro r hr
  match r with
  | .inl outcome => exact outcomes_ok (.refl s)
  | .inr user =>
      have hrested := hr user rfl
      have htxn : Mails lib cfg s (.resendRegisterActivation identifier token)
          (withTxn (.resendActivation user token)) :=
        mails_withTxn (looks_checked.bind_outcomes (fun _ => trivial) fun address _ =>
          outcomes_sendAdmitted fun _ => hrested.at address)
      exact htxn.answer _

/-! The other operations mail no link. -/

theorem within_confirmContactVerification (token : String) :
    (confirmContactVerification lib token).Within (ContactStep.NoLink lib cfg) := by
  refine (within_onPool (within_followLink _ _ _ trivial trivial)).bind fun record => ?_
  refine Within.bind (within_withTxn ?_) fun _ => trivial
  exact (within_confirmBody record).mono fun _ => follows_noLink

theorem within_confirmPasswordReset (token newPassword : String) :
    (confirmPasswordReset lib token newPassword).Within (ContactStep.NoLink lib cfg) := by
  refine (within_onPool within_checked).bind fun _ => ?_
  refine (within_onPool ?_).bind fun record => ?_
  · refine (within_query trivial).bind fun _ => within_required.bind fun _ => ?_
    refine Within.rejectIf.bind fun _ => Within.rejectIf.bind fun _ => ?_
    exact (within_query trivial).bind fun _ => Within.rejectIf.bind fun _ => trivial
  · exact within_withTxn ((within_confirmResetBody record newPassword).mono
      fun _ => follows_noLink)

/-- A statement on the pool that is no mail. -/
theorem within_sql (i : ContactStmt) (hi : i.NoLink) :
    (sql i).Within (ContactStep.NoLink lib cfg) := within_onPool (within_query hi)

/-- The state a call leaves behind. -/
theorem mailed_of_mails {call : ContactCall}
    (h : Mails lib cfg s call (call.body lib cfg)) :
    Mailed lib cfg s call
      (after (stepMachine lib cfg) (ContactCall.body lib cfg) s call) := by
  unfold after
  cases hrun : ((call.body lib cfg).run (stepMachine lib cfg) s).1 with
  | ok a => exact h.of_ok hrun
  | error e => exact h.of_error hrun

/-- **One call** mails no link without a reason. -/
theorem mailed_after {call : ContactCall} (hcall : call.registers = false)
    (s : ContactState) :
    Mailed lib cfg s call
      (after (stepMachine lib cfg) (ContactCall.body lib cfg) s call) := by
  cases call with
  | requestEmailChange userId newEmail token =>
      exact mailed_of_mails ((mails_requestEmailChange userId newEmail token).answer _)
  | resendEmailChange userId token =>
      exact mailed_of_mails ((mails_resendEmailChange userId token).answer _)
  | requestPasswordReset email token =>
      exact mailed_of_mails ((mails_requestPasswordReset email token).answer _)
  | resendRegisterActivation identifier token =>
      exact mailed_of_mails ((mails_resendRegisterActivation identifier token).answer _)
  | register input token => cases hcall
  | confirmContactVerification token =>
      exact mailed_of_within ((within_confirmContactVerification token).bind
        fun _ => within_ok) s
  | confirmPasswordReset token newPassword =>
      exact mailed_of_within ((within_confirmPasswordReset token newPassword).bind
        fun _ => within_ok) s
  | cleanupExpiredContactVerificationTokens =>
      exact mailed_of_within ((within_sql .tokenDeleteExpired trivial).bind fun _ => within_ok) s
  | createAccount input =>
      refine mailed_of_within ((within_sql .userNextId trivial).bind fun id => ?_) s
      refine (within_onPool ?_).bind fun _ => within_ok
      exact (within_query trivial).bind fun _ => within_required
  | updateAccount id patch =>
      refine mailed_of_within ((within_sql .now trivial).bind fun now => ?_) s
      exact (within_onPool (within_userUpdate trivial)).bind fun _ => within_ok
  | deleteAccount id =>
      exact mailed_of_within ((within_sql (.userDelete id) trivial).bind fun _ => within_ok) s
  | tick ms =>
      exact mailed_of_within ((within_sql (.advanceClock ms) trivial).bind fun _ => within_ok) s

/-! ## Sequences of calls -/

/-- The call between `s` and `s'` has put the link `row` into the outbox. -/
structure Enqueued (lib : ContactLibrary) (s s' : ContactState)
    (row : ContactVerificationToken) : Prop where
  mail : ∃ mail token, s'.outbox = s.outbox ++ [mail] ∧
    mail.payload.link? = some (row.purpose, token) ∧ lib.sha256Hex token = row.tokenHash ∧
    mail.toAddress = row.target
  row : row ∈ s'.tokens.rows

/-- The link can still be followed. -/
def StillActive (s : ContactState) (row : ContactVerificationToken) : Prop :=
  row ∈ s.tokens.rows ∧ row.consumedAt = none ∧ s.now < row.expiresAt

/-- **The mails of a sequence of calls are spaced.**  Two links of one purpose that go to
one user and address, the first of which is active when the second is sent, are at
least the cooldown of the purpose apart. -/
def MailsSpaced (lib : ContactLibrary) (cfg : ContactConfig) (s : ContactState)
    (calls : List ContactCall) : Prop :=
  ∀ before first between second rest,
    calls = before ++ [first] ++ between ++ [second] ++ rest →
    ∀ s₁ s₂ s₃ s₄ : ContactState,
      s₁ = serve (stepMachine lib cfg) (ContactCall.body lib cfg) s before →
      s₂ = after (stepMachine lib cfg) (ContactCall.body lib cfg) s₁ first →
      s₃ = serve (stepMachine lib cfg) (ContactCall.body lib cfg) s₂ between →
      s₄ = after (stepMachine lib cfg) (ContactCall.body lib cfg) s₃ second →
      ∀ row row', Enqueued lib s₁ s₂ row → Enqueued lib s₃ s₄ row' →
        row.purpose = row'.purpose → row.userId = row'.userId → row.target = row'.target →
        StillActive s₃ row → s₁.now + cfg.policy.cooldown row.purpose ≤ s₃.now

/-- **The calls on changed addresses are spaced.**  Of two calls that ask for a link of
one user to one address, and that meet every condition in the states they start in, the
second comes at least the cooldown after the first, unless the link of the first cannot
be followed any more. -/
def ChangesSpaced (lib : ContactLibrary) (cfg : ContactConfig) (s : ContactState)
    (calls : List ContactCall) : Prop :=
  ∀ before first between second rest,
    calls = before ++ [first] ++ between ++ [second] ++ rest →
    ∀ s₁ s₂ s₃ : ContactState,
      s₁ = serve (stepMachine lib cfg) (ContactCall.body lib cfg) s before →
      s₂ = after (stepMachine lib cfg) (ContactCall.body lib cfg) s₁ first →
      s₃ = serve (stepMachine lib cfg) (ContactCall.body lib cfg) s₂ between →
      ∀ user user' email token token', SendsChange lib cfg s₁ first user email token →
        SendsChange lib cfg s₃ second user' email token' → user.id = user'.id →
        ∀ row ∈ s₂.tokens.rows, row.tokenHash = lib.sha256Hex token → StillActive s₃ row →
          s₁.now + cfg.policy.cooldown .contactChange ≤ s₃.now

/-- A link that was just sent. -/
structure JustSent (lib : ContactLibrary) (cfg : ContactConfig) (s : ContactState)
    (call : ContactCall) (row : ContactVerificationToken) : Prop where
  createdAt : row.createdAt = s.now
  admitted : ∃ token, lib.sha256Hex token = row.tokenHash ∧
    Admitted lib cfg s call row.userId row.target token row.purpose

/-- A link that goes out is new, and admitted. -/
theorem Enqueued.justSent {call : ContactCall} {row : ContactVerificationToken}
    (h : Enqueued lib s s' row) (hmailed : Mailed lib cfg s call s') :
    JustSent lib cfg s call row := by
  obtain ⟨mail, token, houtbox, hlink, hhash, haddress⟩ := h.mail
  cases hmailed with
  | noLinks hno =>
      obtain ⟨mails, hmails, houtbox'⟩ := hno
      have hsame : mails = [mail] := List.append_cancel_left (houtbox'.symm.trans houtbox)
      have hnone := hmails mail (by rw [hsame]; exact List.mem_singleton_self mail)
      rw [hnone] at hlink
      cases hlink
  | link purpose user address token' hsent hadmitted =>
      obtain ⟨id, htokens⟩ := hsent.tokens
      have hmail := List.append_cancel_left (houtbox.symm.trans hsent.outbox)
      obtain rfl : mail = linkMail cfg purpose user address token' s.now :=
        List.singleton_inj.mp hmail
      have hlink' : (linkMail cfg purpose user address token' s.now).payload.link? =
          some (purpose, token') := link?_linkPayload _ _ _ _
      rw [hlink'] at hlink
      obtain ⟨hpurpose, rfl⟩ := Prod.mk.inj (Option.some.inj hlink)
      -- the new row is the only one with this hash
      have hnew : newContactToken id
          (linkInput lib cfg purpose user.id address token' s.now) ∈ s'.tokens.rows := by
        rw [htokens]
        exact List.mem_append_right _ (List.mem_singleton_self _)
      have hrow := s'.tokens.eq_of_clash h.row hnew (by
        simp [contactTokenSchema, newContactToken, linkInput, hhash])
      rw [hrow]
      exact ⟨rfl, token', rfl, hadmitted⟩

/-- A link that was sent is in the outbox. -/
theorem LinkSent.enqueued {purpose : VerificationPurpose} {user : Account}
    {address token : String} (h : LinkSent lib cfg purpose user address token s s') :
    ∃ id, Enqueued lib s s'
      (newContactToken id (linkInput lib cfg purpose user.id address token s.now)) := by
  obtain ⟨id, htokens⟩ := h.tokens
  refine ⟨id, ⟨_, token, h.outbox, link?_linkPayload _ _ _ _, rfl, rfl⟩, ?_⟩
  rw [htokens]
  exact List.mem_append_right _ (List.mem_singleton_self _)

/-! ### Every condition is enough -/

/-- The change that `request_email_change` makes to the account. -/
def pendingPatch (now : Nat) (email : String) : AccountPatch :=
  { AccountPatch.touch now with pendingEmail := some (some email) }

/-- A free address can become a pending one. -/
theorem noClash_pending {email : String} {user a b : Account}
    (hfree : s.AddressFree email (some user.id)) (ha : a ∈ s.accounts.rows)
    (hb : b ∈ s.accounts.rows) (hclash : accountSchema.clash a b = false) :
    accountSchema.clash
      (if a.id = user.id then patchAccount (pendingPatch s.now email) a else a)
      (if b.id = user.id then patchAccount (pendingPatch s.now email) b else b) = false := by
  have hpending : ∀ c ∈ s.accounts.rows, c.pendingEmail = some email → c.id = user.id :=
    fun c hc h => Option.some.inj (hfree c hc (Or.inr h))
  have hpa := hpending a ha
  have hpb := hpending b hb
  by_cases hida : a.id = user.id <;> by_cases hidb : b.id = user.id
  · -- two rows with one id would clash
    rw [accountSchema.clash_of_ident a b (hida.trans hidb.symm)] at hclash
    cases hclash
  all_goals
    simp only [hida, hidb, if_true, if_false]
    simp [accountSchema, patchAccount, pendingPatch, AccountPatch.touch, Db.patchUser]
      at hclash ⊢
    grind

/-- The account takes the address as its pending one. -/
theorem exists_pending {email : String} {user : Account}
    (hfree : s.AddressFree email (some user.id)) :
    ∃ accounts, s.accounts.update? (fun a => a.id = user.id)
      (patchAccount (pendingPatch s.now email)) (fun _ => rfl) = some accounts := by
  refine Table.exists_update? _ (List.pairwise_map.mpr ?_)
  refine s.accounts.unique.imp_of_mem fun {a b} ha hb hclash => ?_
  simpa using noClash_pending hfree ha hb hclash

/-- The transaction of a request that meets the conditions succeeds. -/
theorem succeeds_requestChangeBody {user : Account} {email token : String}
    (hfound : s.accountById user.id = some user) (hfree : s.AddressFree email (some user.id))
    (hcan : CanSend lib cfg .contactChange user.id token s) :
    (requestChangeBody lib cfg user email token).Succeeds contactMachine
      (fun _ _ => True) s := by
  obtain ⟨accounts, hupdate⟩ := exists_pending hfree
  have hexec : (ContactStmt.userUpdate user.id (pendingPatch s.now email)).exec s =
      (some (patchAccount (pendingPatch s.now email) user),
        { s with accounts := accounts }) := by
    simp only [ContactStmt.exec, hfound, hupdate]
  have hrun : (userUpdate user.id (pendingPatch s.now email)).run contactMachine s =
      (.ok (patchAccount (pendingPatch s.now email) user),
        { s with accounts := accounts }) := by
    have hquery : (query (.userUpdate user.id (pendingPatch s.now email))).run
        contactMachine s = (.ok (some (patchAccount (pendingPatch s.now email) user)),
          { s with accounts := accounts }) := by
      show ((.ok ((ContactStmt.userUpdate user.id (pendingPatch s.now email)).exec s).1 :
        Except AsterError _),
        ((ContactStmt.userUpdate user.id (pendingPatch s.now email)).exec s).2) = _
      rw [hexec]
    exact (run_bind_of_ok hquery).trans rfl
  -- the row is still there for the foreign key of the link
  have huser : (accounts.find? fun a => a.id = user.id).isSome := by
    rw [Option.isSome_iff_ne_none]
    intro hnone
    have hmem : patchAccount (pendingPatch s.now email) user ∈ accounts.rows := by
      rw [(Table.update?_eq_some hupdate).1]
      refine List.mem_map.mpr ⟨user, (accountById_eq_some hfound).1, ?_⟩
      simp
    have hno := Table.find?_eq_none.mp hnone _ hmem
    simp [patchAccount, Db.patchUser] at hno
  refine Succeeds.stmt_bind (wp_bind_of_run hrun ?_)
  exact Succeeds.bind (succeeds_sendLink email ⟨hcan.expires, hcan.fresh⟩ huser)
    fun _ _ _ => succeeds_ok trivial

/-- What an operation answers is of no account. -/
theorem succeeds_answer {α β : Type} {p : ContactProg α} {g : α → β}
    {K : ContactState → Prop} (hp : p.Succeeds (stepMachine lib cfg) (fun _ s' => K s') s) :
    (p.bind fun a => .ok (g a)).Succeeds (stepMachine lib cfg) (fun _ s' => K s') s :=
  Succeeds.bind hp fun _ _ hK => succeeds_ok hK

theorem succeeds_requestEmailChange {userId : Nat} {newEmail token email : String}
    {user : Account}
    (h : ChangeRequested lib cfg s (.requestEmailChange userId newEmail token) user email)
    (hcan : CanSend lib cfg .contactChange user.id token s) :
    (requestEmailChange lib cfg userId newEmail token).Succeeds (stepMachine lib cfg)
      (fun _ s' => ChangeSent lib cfg user.id email token s s') s := by
  refine wp_bind_of_run (run_onPool (run_requestEmailChangeChecks h)) ?_
  cases h with
  | request found normalized mayChange different allowed free due =>
      have hfound : s.accountById user.id = some user := by
        rw [(accountById_eq_some found).2]
        exact found
      have hsent : (requestChangeBody lib cfg user email token).Succeeds contactMachine
          (fun _ s' => ChangeSent lib cfg user.id email token s s') s :=
        (outcomes_requestChangeBody user email token).succeeds
          (succeeds_requestChangeBody hfound free hcan)
      exact succeeds_withTxn (t := .requestChange user email token) hsent

theorem succeeds_resendEmailChange {userId : Nat} {token email : String} {user : Account}
    (h : ChangeRequested lib cfg s (.resendEmailChange userId token) user email)
    (hcan : CanSend lib cfg .contactChange user.id token s) :
    (resendEmailChange lib cfg userId token).Succeeds (stepMachine lib cfg)
      (fun _ s' => ChangeSent lib cfg user.id email token s s') s := by
  refine wp_bind_of_run (run_onPool (run_resendEmailChangeChecks h)) ?_
  cases h with
  | resend found pending mayChange allowed free due =>
      have huser : (s.accountById user.id).isSome := by
        rw [(accountById_eq_some found).2, found]
        rfl
      have hsent : (sendLink lib cfg .contactChange user email token).Succeeds contactMachine
          (fun _ s' => LinkSent lib cfg .contactChange user email token s s') s :=
        (outcomes_sendLink _ _ _ _).succeeds (succeeds_sendLink email hcan huser)
      have htxn : (withTxn (.resendChange user email token)).Succeeds (stepMachine lib cfg)
          (fun _ s' => ChangeSent lib cfg user.id email token s s') s :=
        succeeds_withTxn (hsent.mono fun _ _ h => ⟨user, rfl, h⟩)
      exact succeeds_answer htxn

/-- **A call that meets every condition sends its link.** -/
theorem SendsChange.changeSent {call : ContactCall} {user : Account} {email token : String}
    (h : SendsChange lib cfg s call user email token) :
    ChangeSent lib cfg user.id email token s
      (after (stepMachine lib cfg) (ContactCall.body lib cfg) s call) := by
  have hbody : (call.body lib cfg).Succeeds (stepMachine lib cfg)
      (fun _ s' => ChangeSent lib cfg user.id email token s s') s := by
    obtain ⟨hrequested, hsecret, hcan⟩ := h
    cases call with
    | requestEmailChange userId newEmail drawn =>
        cases hsecret
        exact succeeds_answer (succeeds_requestEmailChange hrequested hcan)
    | resendEmailChange userId drawn =>
        cases hsecret
        exact succeeds_answer (succeeds_resendEmailChange hrequested hcan)
    | _ => cases hrequested
  obtain ⟨_, _, hsent⟩ := hbody
  exact hsent

/-- The link of such a call is in the outbox behind it. -/
theorem SendsChange.enqueued {call : ContactCall} {user : Account} {email token : String}
    (h : SendsChange lib cfg s call user email token) :
    ∃ row, Enqueued lib s (after (stepMachine lib cfg) (ContactCall.body lib cfg) s call) row ∧
      row.purpose = .contactChange ∧ row.userId = user.id ∧ row.target = email ∧
      row.tokenHash = lib.sha256Hex token := by
  obtain ⟨updated, hid, hsent⟩ := h.changeSent
  obtain ⟨id, henqueued⟩ := hsent.enqueued
  exact ⟨_, henqueued, rfl, hid, rfl, rfl⟩

/-- A mail for a changed address comes from a call that meets every condition. -/
theorem JustSent.sendsChange {call : ContactCall} {row : ContactVerificationToken}
    (h : JustSent lib cfg s call row) (hpurpose : row.purpose = .contactChange) :
    ∃ user token, user.id = row.userId ∧ lib.sha256Hex token = row.tokenHash ∧
      SendsChange lib cfg s call user row.target token := by
  obtain ⟨token, hhash, hadmitted⟩ := h.admitted
  rw [hpurpose] at hadmitted
  obtain ⟨user, hid, hsends⟩ := hadmitted
  exact ⟨user, token, hid, hhash, hsends⟩

/-- The links before any other mail have rested. -/
theorem JustSent.rested {call : ContactCall} {row : ContactVerificationToken}
    (h : JustSent lib cfg s call row) (hpurpose : row.purpose ≠ .contactChange) :
    Rested cfg s row.userId row.purpose (· = row.target) := by
  obtain ⟨token, -, hadmitted⟩ := h.admitted
  cases hrow : row.purpose with
  | contactChange => exact absurd hrow hpurpose
  | registerActivation | passwordReset =>
      rw [hrow] at hadmitted
      exact hadmitted

/-- **When mails are spaced.**  The mails of a sequence of calls are spaced exactly if its
calls on changed addresses are: the links of new accounts and of forgotten passwords are
held back by the cooldown, and nothing holds back a link to a changed address. -/
theorem mails_spaced_iff (lib : ContactLibrary) (cfg : ContactConfig) (s : ContactState)
    {calls : List ContactCall} (hcalls : ∀ call ∈ calls, call.registers = false) :
    MailsSpaced lib cfg s calls ↔ ChangesSpaced lib cfg s calls := by
  constructor
  · intro hspaced before first between second rest hsplit s₁ s₂ s₃ hs₁ hs₂ hs₃ user user'
      email token token' hfirst hsecond huser row hrow hhash hactive
    obtain ⟨sent, hsent, hpurpose, howner, htarget, hhash'⟩ := hfirst.enqueued
    obtain ⟨sent', hsent', hpurpose', howner', htarget', -⟩ := hsecond.enqueued
    rw [← hs₂] at hsent
    -- the link with the secret of the first call is the one it has sent
    have hsame : row = sent := s₂.tokens.eq_of_clash hrow hsent.row (by
      simp [contactTokenSchema, hhash, hhash'])
    subst hsame
    have happart := hspaced before first between second rest hsplit s₁ s₂ s₃ _ hs₁ hs₂ hs₃
      rfl row sent' hsent hsent' (hpurpose.trans hpurpose'.symm)
      (howner.trans (huser.trans howner'.symm)) (htarget.trans htarget'.symm) hactive
    rw [hpurpose] at happart
    exact happart
  · intro hspaced before first between second rest hsplit s₁ s₂ s₃ s₄ hs₁ hs₂ hs₃ hs₄ row row'
      hfirst hsecond hpurpose huser htarget hactive
    have hsent : JustSent lib cfg s₁ first row := by
      refine hfirst.justSent ?_
      rw [hs₂]
      exact mailed_after (hcalls first (by rw [hsplit]; simp)) s₁
    have hsent' : JustSent lib cfg s₃ second row' := by
      refine hsecond.justSent ?_
      rw [hs₄]
      exact mailed_after (hcalls second (by rw [hsplit]; simp)) s₃
    by_cases hchange : row.purpose = .contactChange
    · obtain ⟨user, token, howner, hhash, hsends⟩ := hsent.sendsChange hchange
      obtain ⟨user', token', howner', -, hsends'⟩ :=
        hsent'.sendsChange (hpurpose.symm.trans hchange)
      rw [← htarget] at hsends'
      rw [hchange]
      exact hspaced before first between second rest hsplit s₁ s₂ s₃ hs₁ hs₂ hs₃ user user'
        row.target token token' hsends hsends' (howner.trans (huser.trans howner'.symm)) row
        hfirst.row hhash.symm hactive
    · have hrested := hsent'.rested fun h => hchange (hpurpose.trans h)
      obtain ⟨hmem, hunused, hvalid⟩ := hactive
      have hfor : row.unusedFor row'.userId .email row'.purpose = true := by
        have hchannel : row.channel = .email := by cases row.channel; rfl
        simp [ContactVerificationToken.unusedFor, huser, hpurpose, hunused, hchannel]
      have hapart := hrested row hmem hfor hvalid htarget
      rw [hsent.createdAt, ← hpurpose] at hapart
      exact hapart

/-! ## Alice changes her address -/

/-- Addresses and secrets as they are. -/
def plainLibrary : ContactLibrary where
  normalizeEmail email := .ok email
  normalizedEmailAndDomain email := .ok (email, email)
  sha256Hex token := token
  hashPassword password := .ok password

/-- The defaults, with empty lists of addresses. -/
def defaultConfig : ContactConfig where
  policy :=
    { registerActivationTtlSecs := 86400
      contactChangeTtlSecs := 86400
      resendCooldownSecs := 60
      passwordResetTtlSecs := 3600
      passwordResetRequestCooldownSecs := 60 }
  localEmailPolicy := ⟨⟨true, fun _ _ => false⟩, ⟨true, fun _ _ => false⟩⟩
  siteName := "Yggdrasil"

/-- Alice, who wants to change her address. -/
def alice (email pendingEmail : Option String) : Account where
  id := 2
  publicUuid := "u2"
  username := "alice"
  email := email
  passwordHash := ""
  role := .user
  status := .active
  mustChangePassword := false
  sessionVersion := 1
  emailVerifiedAt := email.map fun _ => 0
  pendingEmail := pendingEmail
  updatedAt := 0

/-- A site with one account and no link. -/
def onlyAlice (email pendingEmail : Option String) : ContactState :=
  ⟨⟨[alice email pendingEmail], 3, List.pairwise_singleton _ _,
    by simp [alice, accountSchema]⟩, .empty, [], 0⟩

/-- Alice waits for the mail to `new`. -/
def aliceWaits : ContactState := onlyAlice (some "old") (some "new")

/-- Two resends, some time apart. -/
def twoResends (ms : Nat) : List ContactCall :=
  [.resendEmailChange 2 "s1", .tick ms, .resendEmailChange 2 "s2"]

/-- What a sequence of calls makes of Alice's site. -/
def aliceAfter (calls : List ContactCall) : ContactState :=
  serve (stepMachine plainLibrary defaultConfig) (ContactCall.body plainLibrary defaultConfig)
    aliceWaits calls

/-- One minute later nothing is wrong. -/
theorem resends_spaced : (aliceAfter (twoResends 60000)).outbox.length = 2 ∧
    MailsSpaced plainLibrary defaultConfig aliceWaits (twoResends 60000) := by
  refine ⟨by decide +kernel, (mails_spaced_iff _ _ _ (by decide)).mpr ?_⟩
  intro before first between second rest hsplit s₁ s₂ s₃ hs₁ hs₂ hs₃ user user' email token
    token' hfirst hsecond _ row _ _ _
  -- only the two resends can be the first and the second call
  rcases before with _ | ⟨call₁, _ | ⟨call₂, _ | ⟨call₃, before⟩⟩⟩ <;>
    rcases between with _ | ⟨call₄, _ | ⟨call₅, between⟩⟩ <;>
    simp [twoResends] at hsplit
  · obtain ⟨-, rfl, -⟩ := hsplit
    cases hsecond.requested
  · obtain ⟨rfl, rfl, rfl, rfl⟩ := hsplit
    rw [hs₃, hs₂, hs₁]
    decide +kernel
  · obtain ⟨-, rfl, -⟩ := hsplit
    cases hfirst.requested

/-- The link that was issued at `now`. -/
def aliceLink (id : Nat) (token : String) (now : Nat) : ContactVerificationToken :=
  newContactToken id (linkInput plainLibrary defaultConfig .contactChange 2 "new" token now)

/-- **One second apart**: the first link is active, the cooldown is a minute, and the
second mail goes out. -/
theorem changes_not_spaced :
    ¬ MailsSpaced plainLibrary defaultConfig aliceWaits (twoResends 1000) := by
  intro hspaced
  have hfirst : Enqueued plainLibrary aliceWaits (aliceAfter [.resendEmailChange 2 "s1"])
      (aliceLink 1 "s1" 0) := by
    refine ⟨⟨linkMail defaultConfig .contactChange (alice none none) "new" "s1" 0, "s1",
      ?_, rfl, rfl, rfl⟩, ?_⟩ <;> decide +kernel
  have hsecond : Enqueued plainLibrary
      (aliceAfter [.resendEmailChange 2 "s1", .tick 1000]) (aliceAfter (twoResends 1000))
      (aliceLink 2 "s2" 1000) := by
    refine ⟨⟨linkMail defaultConfig .contactChange (alice none none) "new" "s2" 1000, "s2",
      ?_, rfl, rfl, rfl⟩, ?_⟩ <;> decide +kernel
  have hactive : StillActive (aliceAfter [.resendEmailChange 2 "s1", .tick 1000])
      (aliceLink 1 "s1" 0) := by
    refine ⟨?_, rfl, ?_⟩ <;> decide +kernel
  have hearly := hspaced [] (.resendEmailChange 2 "s1") [.tick 1000]
    (.resendEmailChange 2 "s2") [] rfl _ _ _ _ rfl rfl rfl rfl _ _ hfirst hsecond rfl rfl rfl
    hactive
  exact absurd hearly (by decide +kernel)

end AsterYggdrasil.Contact
