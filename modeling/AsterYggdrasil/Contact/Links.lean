import AsterYggdrasil.Contact.Service
import AsterYggdrasil.Interleave.Outcomes

/-!
# Sending a link

What the parts of the operations do when they run alone: the lookups and what they
find out, the transactions, and the one effect they share, `LinkSent`.  A link that
is sent replaces the unused links of its account and purpose, and the mail that
carries it goes into the outbox in the same transaction.
-/

namespace AsterYggdrasil.Contact

open Interleave Relational Prog
open AsterYggdrasil.Panel (VerificationPurpose)

variable {lib : ContactLibrary} {cfg : ContactConfig} {s s' : ContactState} {α : Type}

/-! ## Rows -/

/-- Nobody but the account `excludeUserId` uses the address or wants to. -/
def ContactState.AddressFree (s : ContactState) (email : String)
    (excludeUserId : Option Nat) : Prop :=
  ∀ a ∈ s.accounts.rows, a.email = some email ∨ a.pendingEmail = some email →
    some a.id = excludeUserId

theorem accountById_eq_some {id : Nat} {a : Account} (h : s.accountById id = some a) :
    a ∈ s.accounts.rows ∧ a.id = id := by
  obtain ⟨ha, hid⟩ := Table.of_find? h
  exact ⟨ha, of_decide_eq_true hid⟩

/-- The row an address is looked up by is the only one with it. -/
theorem find?_free {s : ContactState} {p : Account → Bool} {exclude : Option Nat}
    (hclash : ∀ a b, p a = true → p b = true → accountSchema.clash a b = true) :
    ((s.accounts.find? p).any fun a => some a.id ≠ exclude) = false ↔
      ∀ a ∈ s.accounts.rows, p a = true → some a.id = exclude := by
  cases h : s.accounts.find? p with
  | none =>
      have hnone := Table.find?_eq_none.mp h
      refine ⟨fun _ a ha hp => ?_, fun _ => rfl⟩
      rw [hnone a ha] at hp
      cases hp
  | some b =>
      obtain ⟨hb, hpb⟩ := Table.of_find? h
      constructor
      · intro hexcluded a ha hp
        rw [s.accounts.eq_of_clash ha hb (hclash a b hp hpb)]
        simpa using hexcluded
      · intro hall
        simpa using hall b hb hpb

theorem email_clash {email : String} (a b : Account)
    (ha : decide (a.email = some email) = true) (hb : decide (b.email = some email) = true) :
    accountSchema.clash a b = true := by
  simp only [decide_eq_true_eq] at ha hb
  simp [accountSchema, ha, hb]

theorem pendingEmail_clash {email : String} (a b : Account)
    (ha : decide (a.pendingEmail = some email) = true)
    (hb : decide (b.pendingEmail = some email) = true) :
    accountSchema.clash a b = true := by
  simp only [decide_eq_true_eq] at ha hb
  simp [accountSchema, ha, hb]

/-! ## Lookups -/

theorem looks_query {i : ContactStmt} (h : (i.exec s).2 = s) :
    (query i).Looks contactMachine s fun r => r = (i.exec s).1 := looks_stmt h

theorem outcomes_query {E : AsterError → ContactState → Prop} (i : ContactStmt)
    {K : i.Reply → ContactState → Prop} (h : K (i.exec s).1 (i.exec s).2) :
    (query i).Outcomes contactMachine E K s := outcomes_stmt h

theorem looks_required {e : AsterError} {found : Option α} :
    (required e found).Looks contactMachine s fun a => found = some a := by
  cases found with
  | none => exact looks_err e
  | some a => exact looks_ok rfl

theorem looks_checked {r : Except AsterError α} :
    (checked r).Looks contactMachine s fun a => r = .ok a := looks_ofExcept

theorem looks_userFindById (id : Nat) :
    (userFindById id).Looks contactMachine s fun a => s.accountById id = some a := by
  refine (looks_query rfl).bind fun r hr => ?_
  subst hr
  exact looks_required

/-- The address is free in both columns. -/
theorem looks_ensureEmailAvailable (email : String) (exclude : Option Nat) :
    (ensureEmailAvailable email exclude).Looks contactMachine s fun _ =>
      s.AddressFree email exclude := by
  refine (looks_query rfl).bind fun r hr => ?_
  subst hr
  refine looks_rejectIf.bind fun _ huser => ?_
  refine (looks_query rfl).bind fun r hr => ?_
  subst hr
  refine looks_rejectIf.mono fun _ hpending => ?_
  intro a ha htaken
  rcases htaken with hemail | hemail
  · exact (find?_free email_clash).mp huser a ha (decide_eq_true hemail)
  · exact (find?_free pendingEmail_clash).mp hpending a ha (decide_eq_true hemail)

/-! ## The pool and the transactions -/

/-- A lookup on the pool. -/
theorem looks_onPool {K : α → Prop} {p : OnConnection α} (hp : p.Looks contactMachine s K) :
    (onPool p).Looks (stepMachine lib cfg) s K := by
  refine wp_hoist.mpr (Wp.mono hp ?_)
  rintro r s' ⟨hsame, hr⟩
  refine ⟨hsame, fun a ha => hr a ?_⟩
  cases r with
  | ok b => cases ha; rfl
  | error e => cases ha

/-- A transaction that fails leaves the state as it was. -/
theorem outcomes_withTxn {t : ContactTxn} {K : t.Result → ContactState → Prop}
    (h : (t.body lib cfg).Outcomes contactMachine (fun _ _ => True) K s) :
    (withTxn t).Outcomes (stepMachine lib cfg) (fun _ s' => s' = s) K s := by
  refine wp_stmt_bind.mpr ?_
  have hexec : (stepMachine lib cfg).exec (.txn t) s = t.commit lib cfg s := rfl
  rw [hexec]
  unfold ContactTxn.commit
  cases hrun : (t.body lib cfg).run contactMachine s with
  | mk r s₁ =>
      cases r with
      | ok a =>
          have hK := h.of_ok (a := a) (by rw [hrun])
          rw [hrun] at hK
          exact outcomes_ok hK
      | error e => exact outcomes_err rfl

/-- Statements on the pool. -/
theorem within_onPool {P : ContactStep → Prop} {p : OnConnection α}
    (hp : p.Within fun i => P (.sql i)) : (onPool p).Within P := hp.hoist

theorem within_withTxn {P : ContactStep → Prop} {t : ContactTxn} (ht : P (.txn t)) :
    (withTxn t).Within P := by
  refine Within.stmt_bind ht fun r => ?_
  cases r <;> trivial

/-- An update of an account that answers with a row has written it. -/
theorem outcomes_userUpdate (id : Nat) (patch : AccountPatch) :
    (userUpdate id patch).Outcomes contactMachine (fun _ _ => True)
      (fun a s' => ∃ old accounts, s.accountById id = some old ∧ a = patchAccount patch old ∧
        s.accounts.update? (fun a => a.id = id) (patchAccount patch) (fun _ => rfl) =
          some accounts ∧
        s' = { s with accounts := accounts }) s := by
  have hstmt : (query (.userUpdate id patch)).Outcomes contactMachine (fun _ _ => True)
      (fun r s' => ∀ a, r = some a → ∃ old accounts, s.accountById id = some old ∧
        a = patchAccount patch old ∧
        s.accounts.update? (fun a => a.id = id) (patchAccount patch) (fun _ => rfl) =
          some accounts ∧
        s' = { s with accounts := accounts }) s := by
    refine outcomes_query (.userUpdate id patch) ?_
    simp only [ContactStmt.exec]
    cases hfound : s.accountById id with
    | none => exact fun a h => by cases h
    | some old =>
        dsimp only
        cases hupdate : s.accounts.update? (fun a => a.id = id) (patchAccount patch)
            (fun _ => rfl) with
        | none => exact fun a h => by cases h
        | some accounts =>
            intro a h
            cases h
            exact ⟨old, accounts, rfl, rfl, rfl, rfl⟩
  refine Outcomes.bind hstmt ?_
  intro r s₁ hr
  cases r with
  | none => exact outcomes_err trivial
  | some a => exact outcomes_ok (hr a rfl)

/-! ## One link -/

/-- The columns of a link that is issued now. -/
def linkInput (lib : ContactLibrary) (cfg : ContactConfig) (purpose : VerificationPurpose)
    (userId : Nat) (address token : String) (now : Nat) : CreateContactToken where
  userId := userId
  channel := .email
  purpose := purpose
  target := address
  tokenHash := lib.sha256Hex token
  expiresAt := now + cfg.policy.ttlSecs purpose * 1000
  createdAt := now

/-- The mail with the link. -/
def linkMail (cfg : ContactConfig) (purpose : VerificationPurpose) (user : Account)
    (address token : String) (now : Nat) : MailOutbox where
  toAddress := address
  toName := some user.username
  payload := linkPayload purpose user.username token cfg.siteName
  createdAt := now

/-- What a link asks of the tables: its end is in the calendar, and no link that stays has
the hash of its secret. -/
structure CanSend (lib : ContactLibrary) (cfg : ContactConfig) (purpose : VerificationPurpose)
    (userId : Nat) (token : String) (s : ContactState) : Prop where
  expires : afterSeconds s.now (cfg.policy.ttlSecs purpose) "contact verification ttl" =
    .ok (s.now + cfg.policy.ttlSecs purpose * 1000)
  fresh : ∀ t ∈ s.tokens.rows, t.tokenHash = lib.sha256Hex token →
    t.unusedFor userId .email purpose = true

/-- A link has been issued and its mail enqueued. -/
structure LinkSent (lib : ContactLibrary) (cfg : ContactConfig) (purpose : VerificationPurpose)
    (user : Account) (address token : String) (s s' : ContactState) : Prop where
  tokens : ∃ id, s'.tokens.rows =
    (s.tokens.rows.filter fun t => !t.unusedFor user.id .email purpose) ++
      [newContactToken id (linkInput lib cfg purpose user.id address token s.now)]
  outbox : s'.outbox = s.outbox ++ [linkMail cfg purpose user address token s.now]
  canSend : CanSend lib cfg purpose user.id token s

/-- A time that is computed lies the seconds after the start. -/
theorem afterSeconds_eq {start value due : Nat} {what : String}
    (h : afterSeconds start value what = .ok due) : due = start + value * 1000 := by
  unfold afterSeconds at h
  by_cases hfits : i64Max < value
  · rw [if_pos hfits] at h
    cases h
  · rw [if_neg hfits] at h
    by_cases hends : maxUtc < start + value * 1000
    · rw [if_pos hends] at h
      cases h
    · rw [if_neg hends] at h
      cases h
      rfl

/-- An insert of a link that answers with a row has added it. -/
theorem outcomes_tokenInsert (id : Nat) (input : CreateContactToken) :
    (query (.tokenInsert id input)).Outcomes contactMachine (fun _ _ => True)
      (fun row s' => row.isSome → ∃ tokens,
        s.tokens.insert? (newContactToken id input) = some tokens ∧
          s' = { s with tokens := tokens }) s := by
  refine outcomes_query _ ?_
  show ((ContactStmt.tokenInsert id input).exec s).1.isSome → _
  simp only [ContactStmt.exec]
  by_cases huser : (s.accountById input.userId).isSome
  · simp only [huser, if_true]
    cases s.tokens.insert? (newContactToken id input) with
    | none => exact fun h => by cases h
    | some tokens => exact fun _ => ⟨tokens, rfl, rfl⟩
  · simp only [huser]
    exact fun h => by cases h

/-- **Every link is sent in the same way.** -/
theorem outcomes_sendLink (purpose : VerificationPurpose) (user : Account)
    (address token : String) :
    (sendLink lib cfg purpose user address token).Outcomes contactMachine (fun _ _ => True)
      (fun _ s' => LinkSent lib cfg purpose user address token s s') s := by
  unfold sendLink issueContactVerificationToken enqueue
  simp only [bind_eq, bind_assoc, pure_eq, ok_bind]
  refine outcomes_of_run (a := s.now) rfl ?_
  refine outcomes_of_run (a := ()) rfl ?_
  refine looks_checked.bind_outcomes (fun _ => trivial) fun expiresAt hexpires => ?_
  have hcleared : (query .tokenNextId).Outcomes contactMachine (fun _ _ => True)
      (fun _ s₁ => s₁.tokens.rows =
          (s.tokens.rows.filter fun t => !t.unusedFor user.id .email purpose) ∧
        s₁.now = s.now ∧ s₁.outbox = s.outbox)
      ((ContactStmt.tokenDeleteActive user.id .email purpose).exec s).2 := by
    exact outcomes_query _ ⟨rfl, rfl, rfl⟩
  refine Outcomes.bind hcleared ?_
  rintro id s₁ ⟨hrows, hnow, houtbox⟩
  obtain rfl := afterSeconds_eq hexpires
  refine Outcomes.bind (outcomes_tokenInsert id _) ?_
  intro row s₂ hinserted
  refine looks_required.bind_outcomes (fun _ => trivial) fun r hr => ?_
  obtain ⟨tokens, hinsert, rfl⟩ := hinserted (hr ▸ rfl)
  refine outcomes_of_run (a := s₁.now) rfl ?_
  refine outcomes_query (.mailInsert (linkMail cfg purpose user address token s₁.now)) ?_
  obtain ⟨hrows', -, -, hclash⟩ := Table.insert?_eq_some hinsert
  refine ⟨⟨id, ?_⟩, ?_, hexpires, fun t ht hhash => ?_⟩
  · show tokens.rows = _
    rw [hrows', hrows]
    rfl
  · show s₁.outbox ++ [linkMail cfg purpose user address token s₁.now] = _
    rw [houtbox, hnow]
  · -- a link that stays would clash with the new one
    by_contra hstays
    have hmem : t ∈ s₁.tokens.rows := by
      rw [hrows]
      exact List.mem_filter.mpr ⟨ht, by simpa using hstays⟩
    have hno := hclash t hmem
    simp [contactTokenSchema, newContactToken, hhash] at hno

/-- An insert that no constraint refuses. -/
theorem exec_tokenInsert {id userId : Nat} {input : CreateContactToken}
    {tokens : Table contactTokenSchema} (hinput : input.userId = userId)
    (huser : (s.accountById userId).isSome)
    (hinsert : s.tokens.insert? (newContactToken id input) = some tokens) :
    (ContactStmt.tokenInsert id input).exec s =
      (some (newContactToken id input), { s with tokens := tokens }) := by
  simp only [ContactStmt.exec, hinput, huser, if_true, hinsert]

/-- The state a new link is inserted in: the unused ones before it are gone, and its
primary key is drawn. -/
def ContactState.cleared (s : ContactState) (userId : Nat) (purpose : VerificationPurpose) :
    ContactState :=
  { s with
    tokens := (s.tokens.delete (ContactVerificationToken.unusedFor userId .email purpose)).nextId.2 }

/-- A new link clashes with no link that stays. -/
theorem noClash_newLink {purpose : VerificationPurpose} {userId : Nat}
    {address token : String} (h : CanSend lib cfg purpose userId token s)
    {t : ContactVerificationToken} (ht : t ∈ (s.cleared userId purpose).tokens.rows) :
    contactTokenSchema.clash t (newContactToken s.tokens.seq
      (linkInput lib cfg purpose userId address token s.now)) = false := by
  obtain ⟨hmem, hstays⟩ := List.mem_filter.mp ht
  have hstays : t.unusedFor userId .email purpose = false := by simpa using hstays
  have hid : t.id ≠ s.tokens.seq := Nat.ne_of_lt (s.tokens.fresh t hmem)
  have hhash : t.tokenHash ≠ lib.sha256Hex token := by
    intro hsame
    rw [h.fresh t hmem hsame] at hstays
    cases hstays
  have hlink : sameActiveLink t (newContactToken s.tokens.seq
      (linkInput lib cfg purpose userId address token s.now)) =
        t.unusedFor userId .email purpose := Bool.and_true _
  simp only [contactTokenSchema, Bool.or_eq_false_iff, decide_eq_false_iff_not]
  exact ⟨⟨hid, hhash⟩, hlink.trans hstays⟩

/-- **A link that can be sent is sent.** -/
theorem succeeds_sendLink {purpose : VerificationPurpose} {user : Account}
    (address : String) {token : String} (h : CanSend lib cfg purpose user.id token s)
    (huser : (s.accountById user.id).isSome) :
    (sendLink lib cfg purpose user address token).Succeeds contactMachine
      (fun _ _ => True) s := by
  unfold sendLink issueContactVerificationToken enqueue checked
  simp only [bind_eq, bind_assoc, pure_eq, ok_bind]
  refine Succeeds.stmt_bind (Succeeds.stmt_bind ?_)
  show Succeeds contactMachine _ (Prog.bind (Prog.ofExcept (afterSeconds s.now _ _)) _) _
  rw [h.expires]
  obtain ⟨tokens, hinsert⟩ := Table.exists_insert? (t := (s.cleared user.id purpose).tokens)
    (r := newContactToken s.tokens.seq (linkInput lib cfg purpose user.id address token s.now))
    (fun t ht => noClash_newLink h ht) (Nat.lt_succ_self _)
  have hcleared : ((s.cleared user.id purpose).accountById user.id).isSome := huser
  have hexec := exec_tokenInsert rfl hcleared hinsert
  refine Succeeds.stmt_bind (Succeeds.stmt_bind ?_)
  show Succeeds contactMachine _ (Prog.bind (required .databaseOperation
    ((ContactStmt.tokenInsert s.tokens.seq
      (linkInput lib cfg purpose user.id address token s.now)).exec
        (s.cleared user.id purpose)).1) _)
    ((ContactStmt.tokenInsert s.tokens.seq
      (linkInput lib cfg purpose user.id address token s.now)).exec
        (s.cleared user.id purpose)).2
  rw [hexec]
  exact Succeeds.stmt_bind ⟨(), rfl, trivial⟩

/-- A transaction that succeeds is committed. -/
theorem succeeds_withTxn {t : ContactTxn} {K : t.Result → ContactState → Prop}
    (h : (t.body lib cfg).Succeeds contactMachine K s) :
    (withTxn t).Succeeds (stepMachine lib cfg) K s := by
  obtain ⟨a, ha, hK⟩ := h
  refine Succeeds.stmt_bind ?_
  have hexec : (stepMachine lib cfg).exec (.txn t) s = t.commit lib cfg s := rfl
  rw [hexec]
  unfold ContactTxn.commit
  cases hrun : (t.body lib cfg).run contactMachine s with
  | mk r s₁ =>
      rw [hrun] at ha hK
      cases ha
      exact succeeds_ok hK

/-- A program on the pool runs as it does on its connection. -/
theorem run_onPool {p : OnConnection α} {a : α} (h : p.run contactMachine s = (.ok a, s')) :
    (onPool p).run (stepMachine lib cfg) s = (.ok a, s') := by
  have hview (i) (s : ContactState) :
      sqlHom.reply i ((stepMachine lib cfg).exec (sqlHom.stmt i) s).1 =
          (contactMachine.exec i (id s)).1 ∧
        id ((stepMachine lib cfg).exec (sqlHom.stmt i) s).2 = (contactMachine.exec i (id s)).2 :=
    ⟨rfl, rfl⟩
  obtain ⟨hresult, hstate⟩ := run_hoist_part (M := contactMachine) (N := stepMachine lib cfg)
    (h := sqlHom) (g := id) hview p s
  refine Prod.ext (hresult.trans ?_) (hstate.trans ?_)
  · rw [id, h]
    rfl
  · rw [id, h]

/-- The purpose of a link in a mail, and its secret. -/
def MailTemplatePayload.link? : MailTemplatePayload → Option (VerificationPurpose × String)
  | .registerActivation _ token _ => some (.registerActivation, token)
  | .contactChangeConfirmation _ token _ => some (.contactChange, token)
  | .passwordReset _ token _ => some (.passwordReset, token)
  | .passwordResetNotice _ _ | .contactChangeNotice _ _ _ _ => none

theorem link?_linkPayload (purpose : VerificationPurpose) (username token siteName : String) :
    (linkPayload purpose username token siteName).link? = some (purpose, token) := by
  cases purpose <;> rfl

/-! ## The statements of a confirmation -/

section Within

variable {P : ContactStmt → Prop}

theorem within_query {i : ContactStmt} (h : P i) : (query i).Within P := ⟨h, fun _ => trivial⟩

theorem within_required {e : AsterError} {found : Option α} : (required e found).Within P := by
  cases found <;> trivial

theorem within_checked {r : Except AsterError α} : (checked r).Within P := Within.ofExcept

theorem within_userFindById {id : Nat} (h : P (.userFindById id)) :
    (userFindById id).Within P := (within_query h).bind fun _ => within_required

theorem within_userUpdate {id : Nat} {patch : AccountPatch} (h : P (.userUpdate id patch)) :
    (userUpdate id patch).Within P := (within_query h).bind fun _ => within_required

theorem within_ensureEmailAvailable {email : String} {exclude : Option Nat}
    (hemail : P (.userFindByEmail email)) (hpending : P (.userFindByPendingEmail email)) :
    (ensureEmailAvailable email exclude).Within P :=
  (within_query hemail).bind fun _ => Within.rejectIf.bind fun _ =>
    (within_query hpending).bind fun _ => Within.rejectIf

theorem within_enqueue {toAddress : String} {toName : Option String}
    {payload : MailTemplatePayload} (hnow : P .now)
    (hmail : ∀ now, P (.mailInsert ⟨toAddress, toName, payload, now⟩)) :
    (enqueue toAddress toName payload).Within P :=
  (within_query hnow).bind fun now => within_query (hmail now)

theorem within_followLink {token : String} (invalid used expired : String)
    (hfind : P (.tokenFindByHash (lib.sha256Hex token))) (hnow : P .now) :
    (followLink lib token invalid used expired).Within P :=
  (within_query hfind).bind fun _ => within_required.bind fun _ => Within.rejectIf.bind fun _ =>
    (within_query hnow).bind fun _ => Within.rejectIf.bind fun _ => trivial

end Within

/-- The statements with which the link `id` is followed. -/
def ContactStmt.Follows (id : Nat) : ContactStmt → Prop
  | .now | .userFindById _ | .userFindByEmail _ | .userFindByPendingEmail _
  | .userUpdate _ _ => True
  | .tokenMarkConsumed id' => id' = id
  | .mailInsert mail => mail.payload.link? = none
  | _ => False

theorem within_confirmActivation (id : Nat) (user : Account) (target : String) (now : Nat) :
    (confirmActivation user target now).Within (ContactStmt.Follows id) := by
  refine Within.rejectIf.bind fun _ => ?_
  by_cases hunverified : user.emailVerifiedAt.isNone
  · rw [if_pos hunverified]
    exact (within_userUpdate trivial).bind fun _ => trivial
  · rw [if_neg hunverified]
    trivial

theorem within_confirmChange (id : Nat) (user : Account) (target : String) (now : Nat) :
    (confirmChange cfg user target now).Within (ContactStmt.Follows id) := by
  refine Within.rejectIf.bind fun _ => ?_
  refine (within_ensureEmailAvailable trivial trivial).bind fun _ => ?_
  by_cases hchanged : user.email ≠ some target
  · rw [if_pos hchanged]
    exact (within_userUpdate trivial).bind fun _ => within_checked.bind fun _ =>
      within_enqueue trivial fun _ => rfl
  · rw [if_neg hchanged]
    trivial

theorem within_confirmBody (record : ContactVerificationToken) :
    (confirmBody cfg record).Within (ContactStmt.Follows record.id) := by
  refine (within_userFindById trivial).bind fun user => ?_
  refine Within.rejectIf.bind fun _ => Within.rejectIf.bind fun _ => ?_
  have hmark : ContactStmt.Follows record.id (.tokenMarkConsumed record.id) := rfl
  refine (within_query hmark).bind fun _ => Within.rejectIf.bind fun _ => ?_
  refine (within_query trivial).bind fun now => ?_
  cases record.purpose with
  | registerActivation => exact within_confirmActivation _ _ _ _
  | contactChange => exact within_confirmChange _ _ _ _
  | passwordReset => trivial

theorem within_confirmResetBody (record : ContactVerificationToken) (newPassword : String) :
    (confirmResetBody lib cfg record newPassword).Within (ContactStmt.Follows record.id) := by
  refine (within_userFindById trivial).bind fun user => ?_
  refine Within.rejectIf.bind fun _ => Within.rejectIf.bind fun _ => ?_
  have hmark : ContactStmt.Follows record.id (.tokenMarkConsumed record.id) := rfl
  refine (within_query hmark).bind fun _ => Within.rejectIf.bind fun _ => ?_
  refine within_checked.bind fun _ => within_checked.bind fun _ => ?_
  refine (within_query trivial).bind fun now => ?_
  refine (within_userUpdate trivial).bind fun updated => within_checked.bind fun _ => ?_
  exact (within_enqueue trivial fun _ => rfl).bind fun _ => trivial

end AsterYggdrasil.Contact
