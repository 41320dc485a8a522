import AsterYggdrasil.External.SiteHistory

/-!
# Every invitation has one outcome

An invitation is accepted by one account, or it is revoked, or it expires, and
whatever happens first is final.  `acceptance_redeems` is about the acceptance that
succeeds: at its commit the invitation of its token was still pending, the update of
its transaction came before the expiry, and the invitation is accepted by the new
account from then on.  `one_outcome` follows for any two calls of a run.
-/

namespace AsterYggdrasil.External

open Interleave Relational Prog

/-! ## Marking invitations -/

/-- The invitations under the writes of a transaction that inserts none. -/
@[reducible] def invitationRows :
    Store.Rows accountStore siteProtection fun i => StoreStmt.insertsInvitation i = false where
  Row := Invitation
  rows s := s.invitations.rows
  key r := .invitation r.id
  mark i now r := i.markInvitation now r
  redo i now s hi := exec_invitations hi (s.setNow now)
  immediate i now r hi himm := by
    apply markInvitation_unwritten
    cases i with
    | account i =>
        cases i with
        | service i => exact List.not_mem_nil
        | _ => cases himm
    | _ => first | exact List.not_mem_nil | cases himm
  same _ _ r h hr := h.1 r hr rfl

/-- The account functions insert no invitation. -/
theorem within_accounts {α : Type} (p : OnConnection α) :
    (onStatements p).Within fun i => StoreStmt.insertsInvitation i = false := by
  induction p with
  | ok a => trivial
  | err e => trivial
  | act i k ih =>
      refine Within.bind ?_ fun r => ih r
      unfold expand
      split
      · exact ⟨rfl, fun _ => ⟨rfl, fun _ => trivial⟩⟩
      · exact ⟨rfl, fun _ => ⟨rfl, fun _ => trivial⟩⟩
      · exact ⟨rfl, fun _ => ⟨rfl, fun _ => trivial⟩⟩
      · exact ⟨by cases i <;> rfl, fun _ => trivial⟩

/-- The writes of a transaction let an invitation age. -/
theorem marks_ages (buf : accountStore.Buffer) (r : Invitation) :
    r.Ages (invitationRows.marks buf r) := by
  induction buf generalizing r with
  | nil => exact .refl r
  | cons w buf ih => exact (w.1.markInvitation_ages w.2 r).trans (ih _)

/-- The row of an id, later. -/
theorem Ages.invitation {s s' : AccountState} (h : Ages s s') {r r' : Invitation}
    (hr : r ∈ s.invitations.rows) (hr' : r' ∈ s'.invitations.rows) (hid : r'.id = r.id) :
    r.Ages r' := by
  obtain ⟨x, hx, hages⟩ := h.invitations r hr
  rwa [s'.invitations.eq_of_ident hr' hx (hid.trans hages.id.symm)]

/-- The row of a token, later. -/
theorem Ages.invitationOfHash {s s' : AccountState} (h : Ages s s') {r r' : Invitation}
    (hr : r ∈ s.invitations.rows) (hr' : r' ∈ s'.invitations.rows)
    (hhash : r'.tokenHash = r.tokenHash) : r.Ages r' := by
  obtain ⟨x, hx, hages⟩ := h.invitations r hr
  have hclash : invitationSchema.clash r' x = true := by
    simp [invitationSchema, hhash, hages.tokenHash]
  rwa [s'.invitations.eq_of_clash hr' hx hclash]

/-- An invitation that is no longer pending stays in its table. -/
theorem Ages.final {s s' : AccountState} (h : Ages s s') {r : Invitation}
    (hr : r ∈ s.invitations.rows) (hstatus : r.status ≠ .pending) :
    r ∈ s'.invitations.rows := by
  obtain ⟨r', hr', hages⟩ := h.invitations r hr
  rwa [hages.final hstatus] at hr'

/-! ## What the functions answer -/

theorem whole_invitationFindById (id : Nat) :
    (invitationFindById id).Within fun i => AccountStmt.whole i = true := by
  refine Within.stmt_bind rfl fun found => ?_
  cases found <;> trivial

theorem whole_refreshExpiredStatus (r : Invitation) :
    (refreshExpiredStatus r).Within fun i => AccountStmt.whole i = true := by
  unfold refreshExpiredStatus
  split
  · refine Within.stmt_bind rfl fun now => ?_
    split
    · refine Within.stmt_bind rfl fun marked => ?_
      cases marked
      · exact whole_invitationFindById _
      · trivial
    · trivial
  · trivial

theorem invitationFindById_reads {id : Nat} {r : Invitation} {tr : Trace accountMachine}
    (h : (invitationFindById id).Ran accountMachine tr (.ok r)) :
    r.id = id ∧ ∃ ev ∈ tr, r ∈ ev.2.invitations.rows := by
  obtain ⟨s, rest, rfl, hrest⟩ := ran_stmt_bind.mp h
  cases hfound : s.invitations.find? fun r => r.id = id with
  | none =>
      simp only [AccountStmt.exec, hfound] at hrest
      cases hrest.2
  | some r' =>
      simp only [AccountStmt.exec, hfound] at hrest
      cases hrest.2
      obtain ⟨hr, hid⟩ := Table.of_find? hfound
      exact ⟨by simpa using hid, _, List.mem_cons_self .., hr⟩

/-- `refresh_expired_status` answers the invitation it was given, or it answers that
it has expired, or it has read it again. -/
theorem refreshExpiredStatus_reads {r r' : Invitation} {tr : Trace accountMachine}
    (h : (refreshExpiredStatus r).Ran accountMachine tr (.ok r')) :
    r'.id = r.id ∧ (r' = r ∨ r'.status = .expired ∨ ∃ ev ∈ tr, r' ∈ ev.2.invitations.rows) := by
  unfold refreshExpiredStatus at h
  split at h
  · obtain ⟨s, rest, rfl, hchecked⟩ := ran_stmt_bind.mp h
    split at hchecked
    · obtain ⟨s', rest', rfl, hmarked⟩ := ran_stmt_bind.mp hchecked
      split at hmarked
      · cases hmarked.2
        exact ⟨rfl, Or.inr (Or.inl rfl)⟩
      · obtain ⟨hid, ev, hev, hr⟩ := invitationFindById_reads hmarked
        exact ⟨hid, Or.inr (Or.inr ⟨ev, by simp [hev], hr⟩)⟩
    · cases hchecked.2
      exact ⟨rfl, Or.inl rfl⟩
  · cases h.2
    exact ⟨rfl, Or.inl rfl⟩

section InTxn

variable {lib : Library} {x : Nat} {buf writes : accountStore.Buffer}
  {tr : Trace accountStore.readCommitted}

/-- An account that has been inserted is the one that was asked for. -/
theorem inTxn_userCreate {input : CreateAccount} {u : User}
    (h : InTxn x (onConn (.userCreate input)) buf tr writes (some u)) :
    ∃ id, u = newAccount id input := by
  obtain ⟨s, rest, -, -, s', rest', -, -, -, -, hreply⟩ := h.ran
  refine ⟨(accountStore.view buf s).users.nextId.1, ?_⟩
  change some u = (StoreStmt.exec (.userInsert (accountStore.view buf s).users.nextId.1 input)
    (accountStore.view _ s')).1 at hreply
  simp only [StoreStmt.exec] at hreply
  split at hreply
  · cases hreply
    rfl
  · cases hreply

/-- The account has the email that was asked for. -/
theorem createUserWithRole_email {input : CreateUserWithRole} {u : User}
    (h : InTxn x (createUserWithRole lib input) buf tr writes u) :
    ∃ email, lib.normalizeEmail input.email = .ok email ∧ u.email = some email := by
  obtain ⟨_, _, _, _, -, -, h⟩ := inTxn_bind h
  obtain ⟨email, hemail, h⟩ := inTxn_checked h
  obtain ⟨_, -, h⟩ := inTxn_checked h
  obtain ⟨_, -, h⟩ := inTxn_checked h
  obtain ⟨_, _, _, _, -, -, h⟩ := inTxn_bind h
  obtain ⟨_, _, _, _, -, -, h⟩ := inTxn_bind h
  obtain ⟨hash, -, h⟩ := inTxn_checked h
  obtain ⟨row, mid, tr₁, tr₂, -, hrow, h⟩ := inTxn_bind h
  rw [(inTxn_found h).2.2] at hrow
  obtain ⟨id, hid⟩ := inTxn_userCreate hrow
  refine ⟨email, hemail, ?_⟩
  rw [hid]
  rfl

/-- What the transaction of an acceptance went through: it found the invitation `r`
of the token, created the account for the email of what it read of it last (`r₁`),
and marked it in the state `s₂`, where it was pending and had not expired. -/
structure Accepting (lib : Library) (x : Nat) (tokenHash : String) (u : User)
    (tr : Trace accountStore.readCommitted) (writes : accountStore.Buffer)
    (r r₁ : Invitation) (s₁ s₂ : AccountShared) (buf : accountStore.Buffer) : Prop where
  found : r ∈ s₁.committed.invitations.rows
  hash : r.tokenHash = tokenHash
  id : r₁.id = r.id
  reread : r₁ = r ∨ ∃ b i s, (.exec x b i, s) ∈ tr ∧ b <+: writes ∧
    r₁ ∈ (accountStore.view b s).invitations.rows
  email : ∃ email, lib.normalizeEmail r₁.email = .ok email ∧ u.email = some email
  started : x ∉ s₂.closed
  marks : (.exec x buf (.account (.invitationMarkAcceptedIfPending r.id u.id)), s₂) ∈ tr
  marked : ∃ r' ∈ (accountStore.view buf s₂).invitations.rows, r'.id = r.id ∧
    r'.status = .pending ∧ (accountStore.view buf s₂).now < r'.expiresAt
  writes : writes = buf ++ [(.account (.invitationMarkAcceptedIfPending r.id u.id),
    (accountStore.view buf s₂).now)]

theorem inTxn_acceptInvitation {check : String → Except AsterError Unit}
    {input : AcceptInvitation} {u : User}
    (h : InTxn x (acceptInvitationTxn lib check input) [] tr writes u) :
    ∃ first rest r r₁ s₁ s₂ buf, tr = (first, s₁) :: rest ∧
      Accepting lib x input.tokenHash u rest writes r r₁ s₁ s₂ buf := by
  have hbuffers := h.ran.buffers
  obtain ⟨s₁, rest, rfl, hopen, h⟩ := inTxn_stmt_bind rfl h
  obtain ⟨r, hfound, h⟩ := inTxn_required h
  obtain ⟨r₁, b₁, tr₁, tr₂, htr, hrefresh, h⟩ := inTxn_bind h
  obtain ⟨hpending, h⟩ := inTxn_rejectIf h
  obtain ⟨_, b₂, tr₃, tr₄, rfl, hfresh, h⟩ := inTxn_bind h
  obtain ⟨_, -, h⟩ := inTxn_checked h
  obtain ⟨s₃, rest₃, rfl, -, h⟩ := inTxn_stmt_bind rfl h
  obtain ⟨-, h⟩ := inTxn_rejectIf h
  obtain ⟨s₄, rest₄, rfl, -, h⟩ := inTxn_stmt_bind rfl h
  obtain ⟨u', b₅, tr₅, tr₆, rfl, hcreate, h⟩ := inTxn_bind h
  obtain ⟨s₂, rest₂, rfl, hopen₂, h⟩ := inTxn_stmt_bind rfl h
  obtain ⟨hr, hhash⟩ := Table.of_find? hfound
  obtain ⟨seen, hseen, hviews⟩ := inTxn_ran (whole_refreshExpiredStatus r) hrefresh
  obtain ⟨hid, hread⟩ := refreshExpiredStatus_reads hseen
  cases hmarked : ((AccountStmt.invitationMarkAcceptedIfPending r₁.id u'.id).exec
      (accountStore.view b₅ s₂)).1 with
  | false =>
      rw [hmarked] at h
      obtain ⟨_, _, _, _, -, -, h⟩ := inTxn_bind h
      exact (inTxn_err h).elim
  | true =>
      rw [hmarked] at h
      obtain ⟨rfl, rfl, rfl⟩ := inTxn_ok h
      obtain ⟨r', hr', hopen'⟩ := exists_of_select hmarked
      simp only [Bool.and_eq_true, decide_eq_true_eq] at hopen'
      refine ⟨_, _, r, r₁, s₁, s₂, b₅, rfl, ?_⟩
      constructor
      · exact hr
      · simpa using hhash
      · exact hid
      · rcases hread with heq | hexpired | ⟨ev, hev, hrow⟩
        · exact Or.inl heq
        · simp [hexpired] at hpending
        · obtain ⟨b, s, hmem, hview⟩ := hviews ev hev
          have hrest : (.exec x b (.account ev.1), s) ∈ rest := by
            rw [htr]
            exact List.mem_append_left _ hmem
          obtain ⟨b', i, hev', hb⟩ := hbuffers _ (List.mem_cons_of_mem _ hrest)
          cases hev'
          exact Or.inr ⟨b, _, s, hrest, hb, hview ▸ hrow⟩
      · exact createUserWithRole_email hcreate
      · exact hopen₂
      · rw [htr, hid]
        simp
      · exact ⟨r', hr', hopen'.1.1.trans hid, hopen'.1.2, hopen'.2⟩
      · rw [hid]

end InTxn

/-! ## The acceptance that succeeds -/

/-- The account `userId` has redeemed the invitation. -/
structure Invitation.RedeemedBy (r : Invitation) (userId : Nat) : Prop where
  status : r.status = .accepted
  acceptedUserId : r.acceptedUserId = some userId
  inTime : ∃ t, r.acceptedAt = some t ∧ t < r.expiresAt

section Commit

variable {lib : Library} {x : Nat} {tokenHash : String} {u : User}
  {tr : Trace accountStore.readCommitted} {writes buf : accountStore.Buffer}
  {r r₁ : Invitation} {s₁ s₂ s₃ : AccountShared}

/-- A row a transaction sees, and the committed row it stands for. -/
theorem mem_view {b : accountStore.Buffer} {s : AccountShared}
    (hb : ∀ w ∈ b, StoreStmt.insertsInvitation w.1 = false) {r : Invitation}
    (hr : r ∈ (accountStore.view b s).invitations.rows) :
    ∃ r₀ ∈ s.committed.invitations.rows, invitationRows.marks b r₀ = r := by
  have hrows : (accountStore.view b s).invitations.rows =
      s.committed.invitations.rows.map (invitationRows.marks b) :=
    invitationRows.rows_replay hb s.committed
  rw [hrows] at hr
  exact List.mem_map.mp hr

/-- **The commit of an acceptance.**  The invitation it found is still pending when
it commits, and redeemed from then on. -/
theorem Accepting.commit (h : Accepting lib x tokenHash u tr writes r r₁ s₁ s₂ buf)
    (hwrites : ∀ w ∈ writes, StoreStmt.insertsInvitation w.1 = false)
    (hlater : ∀ ev ∈ tr, Ages s₁.committed ev.2.committed)
    (hlast : siteProtection.Undisturbed (accountStore.exec (.exec x buf
      (.account (.invitationMarkAcceptedIfPending r.id u.id))) s₂).2 s₃)
    (hopen : x ∉ s₃.closed) :
    ∃ r₀ ∈ s₃.committed.invitations.rows, ∃ r' ∈
      (accountStore.exec (.commit x writes) s₃).2.committed.invitations.rows,
      r₀.tokenHash = tokenHash ∧ r₀.status = .pending ∧ r₀.Ages r' ∧ r'.RedeemedBy u.id ∧
      (r'.id = r.id ∧ r'.acceptedAt = some (accountStore.view buf s₂).now ∧
        (accountStore.view buf s₂).now < r'.expiresAt) ∧
      ∃ email, lib.normalizeEmail r'.email = .ok email ∧ u.email = some email := by
  have hfirst : ∀ b, b <+: writes → ∀ w ∈ b, StoreStmt.insertsInvitation w.1 = false :=
    fun b hb w hw => hwrites w (hb.subset hw)
  obtain ⟨r', hr', hid', hpending, hfresh⟩ := h.marked
  have hbuf : buf <+: writes := h.writes ▸ List.prefix_append _ _
  obtain ⟨r₀, hr₀, rfl⟩ := mem_view (hfirst buf hbuf) hr'
  have hages := marks_ages buf r₀
  have hid : r₀.id = r.id := hages.id.symm.trans hid'
  have hold : r.Ages r₀ := (hlater _ h.marks).invitation h.found hr₀ hid
  have hpending₀ : r₀.status = .pending := by
    by_contra hfinal
    rw [hages.final hfinal] at hpending
    exact hfinal hpending
  obtain ⟨hstill, hpost⟩ := invitationRows.committed (r := r₀) (b := writes) rfl h.started
    hopen hlast (List.mem_singleton.mpr (congrArg StoreKey.invitation hid)) hr₀ hwrites
  have hredeemed : invitationRows.marks writes r₀ =
      { invitationRows.marks buf r₀ with
        status := .accepted
        acceptedUserId := some u.id
        acceptedAt := some (accountStore.view buf s₂).now } := by
    rw [h.writes, Store.Rows.marks_append, Store.Rows.marks_cons, Store.Rows.marks_nil]
    simp [StoreStmt.markInvitation, hid', hpending, hfresh]
  rw [hredeemed] at hpost
  refine ⟨r₀, hstill, _, hpost, hold.tokenHash.trans h.hash, hpending₀, ?_,
    ⟨rfl, rfl, _, rfl, hfresh⟩, ⟨hid', rfl, hfresh⟩, ?_⟩
  · rw [← hredeemed]
    exact marks_ages writes r₀
  · obtain ⟨email, hemail, huser⟩ := h.email
    refine ⟨email, ?_, huser⟩
    have hsame : r₁.email = r.email := by
      rcases h.reread with rfl | ⟨b, i, s, hread, hb, hrow⟩
      · rfl
      · obtain ⟨r₂, hr₂, rfl⟩ := mem_view (hfirst b hb) hrow
        have hages₂ := marks_ages b r₂
        have hold₂ := (hlater _ hread).invitation h.found hr₂ (hages₂.id.symm.trans h.id)
        exact hages₂.email.trans hold₂.email
    have hfinal : (invitationRows.marks buf r₀).email = r₁.email :=
      (hages.email.trans hold.email).trans hsame.symm
    rw [← hemail]
    exact congrArg lib.normalizeEmail hfinal

end Commit

/-! ## Runs -/

/-- A site without accounts, after a run. -/
def newSite (sched : List (Action SiteCall)) : SiteConfig :=
  (Config.initial (accountStore.start (.fresh .empty .empty 0))).runs
    (SiteCall.body plainLibrary) sched

/-- The invitation of `email` with this token, for a minute. -/
def inviting (email token : String) : SiteCall :=
  .createInvitation plainProvision.policy email token 60

/-- The acceptance of the second invitation. -/
def accepting : SiteCall :=
  .acceptInvitation plainProvision.policy "u1" " t2 " "neo42" "password"

/-- Two invitations for one email and one for another: the second one is accepted,
the third one revoked. -/
def threeInvitations : List (Action SiteCall) :=
  undisturbed 0 (inviting "neo@example.org" "t1") 7 ++
    undisturbed 1 (inviting "neo@example.org" "t2") 8 ++
    undisturbed 2 (inviting "trinity@example.org" "t3") 7 ++
    undisturbed 3 accepting 14 ++ undisturbed 4 (.revokeInvitation 3) 4

/-- The account of the acceptance. -/
def neo : User :=
  newAccount 1
    { publicUuid := "u1"
      username := "neo42"
      email := some "neo@example.org"
      passwordHash := "$argon2id$password"
      role := .user
      emailVerifiedAt := some 0
      status := .active
      mustChangePassword := false }

theorem threeInvitations_accepted :
    Returned (newSite threeInvitations) 3 accepting (.user neo) :=
  returned_of rfl rfl (by decide +kernel)

section Runs

variable {lib : Library} {s₀ : AccountShared} {sched : List (Action SiteCall)}
  {c : SiteConfig}

/-- The transaction that committed with the event `e` has marked the invitation `r`
accepted for the account `userId` before, at a time before its expiry. -/
def Invitation.MarkedBefore (r : Invitation) (c : SiteConfig)
    (e : Event accountStore.readCommitted) (userId : Nat) : Prop :=
  ∃ x buf writes s, e.stmt = .commit x writes ∧
    [(.exec x buf (.account (.invitationMarkAcceptedIfPending r.id userId)), s),
      (e.stmt, e.pre)].Sublist (c.trace e.tid) ∧
    r.acceptedAt = some (accountStore.view buf s).now ∧
    (accountStore.view buf s).now < r.expiresAt

/-- The commit of an acceptance that has returned. -/
theorem acceptance_commit
    (hc : c = (Config.initial s₀).runs (SiteCall.body lib) sched) {i : Nat}
    {policy : AuthPolicy} {publicUuid token username password : String} {u : User}
    (h : Returned c i (.acceptInvitation policy publicUuid token username password)
      (.user u)) :
    ∃ e ∈ c.log, e.tid = i ∧ ∃ r ∈ e.pre.committed.invitations.rows,
      ∃ r' ∈ e.post.committed.invitations.rows,
        r.tokenHash = lib.sha256Hex (trim token) ∧ r.status = .pending ∧ r.Ages r' ∧
        r'.RedeemedBy u.id ∧ r'.MarkedBefore c e u.id ∧
        ∃ email, lib.normalizeEmail r'.email = .ok email ∧ u.email = some email := by
  have hgood := good_site lib hc
  obtain ⟨u', hresponse, haccept⟩ := (h.went hc).operation
  cases hresponse
  obtain ⟨_, tr₃, tr₄, htr, hcheck, htxn⟩ := onPool_bind haccept
  obtain ⟨rfl, -⟩ := onPool_passed hcheck
  obtain ⟨b, mid, s₃, writes, rfl, hopen, hin⟩ := onPool_withTxn htxn
  have hwrites := hin.ran.within (within_accounts _) (by simp)
  obtain ⟨first, rest, r, r₁, s₁, s₂, buf, rfl, haccepting⟩ := inTxn_acceptInvitation hin
  have hpair := trace_later hgood i
  rw [htr, List.nil_append, List.cons_append] at hpair
  obtain ⟨hfirst, hrest⟩ := List.pairwise_cons.mp hpair.of_cons
  have hlater : ∀ ev ∈ rest, Ages s₁.committed ev.2.committed :=
    fun ev hev => (hfirst ev (List.mem_append_left _ hev)).before
  have hlast := ((List.pairwise_append.mp hrest).2.2 _ haccepting.marks _
    (List.mem_singleton_self _)).undisturbed
  have hmem : (.commit b.next writes, s₃) ∈ c.trace i := by
    rw [htr]
    simp
  obtain ⟨e, he, htid, hstmt, hpre⟩ := Config.mem_trace.mp hmem
  obtain ⟨r₀, hr₀, r', hr', hhash, hpending, hages, hredeemed, ⟨hid, hat, htime⟩, hemail⟩ :=
    haccepting.commit hwrites hlater hlast hopen
  have horder : [(.exec b.next buf (.account (.invitationMarkAcceptedIfPending r'.id u.id)), s₂),
      (e.stmt, e.pre)].Sublist (c.trace e.tid) := by
    rw [hid, hstmt, hpre, htid, htr]
    have hmark := List.singleton_sublist.mpr haccepting.marks
    have hpair := (hmark.append (List.Sublist.refl [(.commit b.next writes, s₃)]))
    exact ((hpair.cons _).cons _)
  rw [← hstmt, ← hpre] at hr'
  exact ⟨e, he, htid, r₀, hpre ▸ hr₀, r', hr', hhash, hpending, hages, hredeemed,
    ⟨_, buf, writes, s₂, hstmt, horder, hat, htime⟩, hemail⟩

/-- Call `i` has redeemed the invitation of the token for the account `u`: in the
state its transaction committed in, that invitation was pending, and at the end of the
run it is redeemed by `u`, who has the invited email.  The transaction had marked it
before by a clock that was short of the expiry. -/
def Redeems (lib : Library) (c : SiteConfig) (i : Nat) (token : String) (u : User) : Prop :=
  ∃ e ∈ c.log, e.tid = i ∧ ∃ r ∈ e.pre.committed.invitations.rows,
    ∃ r' ∈ c.shared.committed.invitations.rows,
      r.tokenHash = lib.sha256Hex (trim token) ∧ r.status = .pending ∧ r.Ages r' ∧
      r'.RedeemedBy u.id ∧ r'.MarkedBefore c e u.id ∧
      ∃ email, lib.normalizeEmail r'.email = .ok email ∧ u.email = some email

/-- **A successful acceptance redeems its invitation.**  The invitation of the token
was pending when it committed, the update that accepts it came before the invitation
expired, and it is redeemed by the new account for the rest of the run. -/
theorem acceptance_redeems
    (hc : c = (Config.initial s₀).runs (SiteCall.body lib) sched) {i : Nat}
    {policy : AuthPolicy} {publicUuid token username password : String} {u : User}
    (h : Returned c i (.acceptInvitation policy publicUuid token username password)
      (.user u)) : Redeems lib c i token u := by
  obtain ⟨e, he, htid, r, hr, r', hr', hhash, hpending, hages, hredeemed, hemail⟩ :=
    acceptance_commit hc h
  have hfinal : r'.status ≠ .pending := by
    rw [hredeemed.status]
    decide
  have hlast := (ages_later (good_site lib hc) he).final hr' hfinal
  exact ⟨e, he, htid, r, hr, r', hlast, hhash, hpending, hages, hredeemed, hemail⟩

/-- The second invitation is redeemed. -/
theorem threeInvitations_redeemed :
    Redeems plainLibrary (newSite threeInvitations) 3 " t2 " neo :=
  acceptance_redeems rfl threeInvitations_accepted

/-! ## Revocations -/

/-- What a revocation went through: it marked the invitation in the state `s` and
read it again afterwards. -/
theorem alone_revokeInvitation {id : Nat} {r : Invitation}
    {tr : Trace accountStore.readCommitted} (h : Alone (revokeInvitation id) tr r) :
    ∃ past rest s, tr = past ++ (.auto (.invitationMarkRevokedIfPending id), s) :: rest ∧
      (∃ r₀ ∈ s.committed.invitations.rows, r₀.id = id ∧ r₀.status = .pending) ∧
      r.id = id ∧ ∃ ev ∈ rest, r ∈ ev.2.committed.invitations.rows := by
  obtain ⟨r₁, tr₁, rest₁, rfl, hfind, h⟩ := alone_bind h
  obtain ⟨r₂, tr₂, rest₂, rfl, hrefresh, h⟩ := alone_bind h
  obtain ⟨_, tr₃, rest₃, rfl, -, h⟩ := alone_bind h
  obtain ⟨marked, tr₄, rest₄, rfl, hmark, h⟩ := alone_bind h
  obtain ⟨s, rfl, rfl⟩ := alone_stmt hmark
  obtain ⟨_, hfound, -⟩ := alone_accounts (whole_invitationFindById id) hfind
  obtain ⟨_, hread, -⟩ := alone_accounts (whole_refreshExpiredStatus r₁) hrefresh
  have hid : r₂.id = id :=
    (refreshExpiredStatus_reads hread).1.trans (invitationFindById_reads hfound).1
  rw [hid] at h ⊢
  cases hmarked : ((StoreStmt.invitationMarkRevokedIfPending id).exec s.committed).1 with
  | false =>
      rw [hmarked] at h
      obtain ⟨_, _, _, -, -, h⟩ := alone_accounts_bind h
      exact (alone_err h).elim
  | true =>
      rw [hmarked] at h
      obtain ⟨r₀, hr₀, hpending⟩ := exists_of_select hmarked
      obtain ⟨seen, hlast, hstates⟩ := alone_accounts (whole_invitationFindById id) h
      obtain ⟨hid', ev, hev, hr⟩ := invitationFindById_reads hlast
      obtain ⟨s', hmem, hstate⟩ := hstates ev hev
      simp only [Bool.and_eq_true, decide_eq_true_eq] at hpending
      refine ⟨tr₁ ++ (tr₂ ++ tr₃), rest₄, s, by simp, ⟨r₀, hr₀, hpending⟩, hid', _, hmem, ?_⟩
      rwa [← hstate]

/-- **A revocation that has returned is final.**  The invitation was pending when it
was revoked, and it is revoked at the end of the run. -/
theorem revoked_for_good (hc : c = (Config.initial s₀).runs (SiteCall.body lib) sched)
    {i id : Nat} {r : Invitation} (h : Returned c i (.revokeInvitation id) (.invitation r)) :
    r.id = id ∧ r.status = .revoked ∧ r ∈ c.shared.committed.invitations.rows := by
  have hgood := good_site lib hc
  obtain ⟨r', hresponse, hrevoke⟩ := (h.went hc).alone
  cases hresponse
  obtain ⟨past, rest, s, htr, ⟨r₀, hr₀, hid₀, hpending⟩, hid, ev, hev, hr⟩ :=
    alone_revokeInvitation hrevoke
  have hpair := trace_later hgood i
  rw [htr] at hpair
  have hlater := (List.pairwise_cons.mp (List.pairwise_append.mp hpair).2.1).1 ev hev
  have hmem : ev ∈ c.trace i := by
    rw [htr]
    simp [hev]
  have hpost : { r₀ with status := .revoked, revokedAt := some s.committed.now } ∈
      (accountStore.exec (.auto (.invitationMarkRevokedIfPending id))
        s).2.committed.invitations.rows := by
    have hmark : StoreStmt.markInvitation s.committed.now
        (.invitationMarkRevokedIfPending id) r₀ =
          { r₀ with status := .revoked, revokedAt := some s.committed.now } := by
      simp [StoreStmt.markInvitation, hid₀, hpending]
    rw [← hmark]
    exact List.mem_map_of_mem hr₀
  have hrevoked := hlater.after.final hpost (by simp)
  have heq := ev.2.committed.invitations.eq_of_ident hr hrevoked (hid.trans hid₀.symm)
  have hstatus : r.status = .revoked := by rw [heq]
  have hfinal : r.status ≠ .pending := by
    rw [hstatus]
    decide
  exact ⟨hid, hstatus, (trace_ages hgood hmem).final hr hfinal⟩

/-- The invitation of the token is no longer pending. -/
def TokenSpent (tokenHash : String) (s : AccountShared) : Prop :=
  ∃ r ∈ s.committed.invitations.rows, r.tokenHash = tokenHash ∧ r.status ≠ .pending

theorem TokenSpent.rely {tokenHash : String} {s s' : AccountShared}
    (hrely : siteDiscipline.rely s s') (h : TokenSpent tokenHash s) : TokenSpent tokenHash s' := by
  obtain ⟨r, hr, hhash, hstatus⟩ := h
  exact ⟨r, hrely.2.final hr hstatus, hhash, hstatus⟩

theorem not_tokenSpent {s : AccountShared} {r : Invitation}
    (hr : r ∈ s.committed.invitations.rows) (hpending : r.status = .pending) :
    ¬ TokenSpent r.tokenHash s := by
  rintro ⟨r', hr', hhash, hstatus⟩
  have hages := (Ages.refl s.committed).invitationOfHash hr hr' hhash
  have heq := s.committed.invitations.eq_of_ident hr' hr hages.id
  rw [heq] at hstatus
  exact hstatus hpending

/-- The commit of a successful acceptance spends its token. -/
theorem acceptance_spends (hc : c = (Config.initial s₀).runs (SiteCall.body lib) sched)
    {i : Nat} {policy : AuthPolicy} {publicUuid token username password : String} {u : User}
    (h : Returned c i (.acceptInvitation policy publicUuid token username password)
      (.user u)) :
    ∃ e ∈ c.log, e.tid = i ∧ ¬ TokenSpent (lib.sha256Hex (trim token)) e.pre ∧
      TokenSpent (lib.sha256Hex (trim token)) e.post := by
  obtain ⟨e, he, htid, r, hr, r', hr', hhash, hpending, hages, hredeemed, -⟩ :=
    acceptance_commit hc h
  rw [← hhash]
  have hfinal : r'.status ≠ .pending := by
    rw [hredeemed.status]
    decide
  exact ⟨e, he, htid, not_tokenSpent hr hpending, r', hr', hages.tokenHash, hfinal⟩

/-- Nobody but call `i` has redeemed the invitation of the token, and nobody has
revoked it. -/
def OnlyOutcome (lib : Library) (c : SiteConfig) (i : Nat) (token : String) : Prop :=
  (∀ j policy publicUuid token' username password u,
    Returned c j (.acceptInvitation policy publicUuid token' username password) (.user u) →
      lib.sha256Hex (trim token') = lib.sha256Hex (trim token) → j = i) ∧
  ∀ j id r, Returned c j (.revokeInvitation id) (.invitation r) →
    r.tokenHash ≠ lib.sha256Hex (trim token)

/-- **One outcome.**  No two acceptances with one token succeed, and none with the
token of an invitation that somebody has revoked. -/
theorem one_outcome (hc : c = (Config.initial s₀).runs (SiteCall.body lib) sched) {i : Nat}
    {policy : AuthPolicy} {publicUuid token username password : String} {u : User}
    (h : Returned c i (.acceptInvitation policy publicUuid token username password)
      (.user u)) : OnlyOutcome lib c i token := by
  have hgood := good_site lib hc
  obtain ⟨e, he, rfl, hpre, hpost⟩ := acceptance_spends hc h
  constructor
  · intro j policy' publicUuid' token' username' password' u' h' hsame
    obtain ⟨e', he', rfl, hpre', hpost'⟩ := acceptance_spends hc h'
    rw [hsame] at hpre' hpost'
    rw [hgood.flip_unique (fun _ _ => TokenSpent.rely) he' he hpre' hpost' hpre hpost]
  · intro j id r h' hhash
    obtain ⟨_, he', -, r₁, -, r', hpost', hhash', -, hages, hredeemed, -⟩ :=
      acceptance_commit hc h
    have hfinal : r'.status ≠ .pending := by
      rw [hredeemed.status]
      decide
    have hr' := (ages_later hgood he').final hpost' hfinal
    obtain ⟨-, hstatus, hr⟩ := revoked_for_good hc h'
    have hsame : r.tokenHash = r'.tokenHash :=
      hhash.trans (hages.tokenHash.trans hhash').symm
    have heq := (Ages.refl c.shared.committed).invitationOfHash hr' hr hsame
    have hrow := c.shared.committed.invitations.eq_of_ident hr hr' heq.id
    rw [hrow, hredeemed.status] at hstatus
    cases hstatus

/-- The second invitation has this outcome only. -/
theorem threeInvitations_outcome :
    OnlyOutcome plainLibrary (newSite threeInvitations) 3 " t2 " :=
  one_outcome rfl threeInvitations_accepted

/-! ## New invitations -/

/-- The writes of a transaction draw no key. -/
theorem replay_invitationSeq (buf : accountStore.Buffer) (s : AccountState) :
    (accountStore.replay buf s).invitations.seq = s.invitations.seq := by
  induction buf generalizing s with
  | nil => rfl
  | cons w buf ih =>
      rw [Store.replay_cons, ih]
      unfold Store.rewrite
      by_cases himm : w.1.immediate = true
      · rw [if_pos himm]
      · rw [if_neg himm]
        rcases exec_invitationSeq w.1 (s.setNow w.2) with hsame | hdraw
        · exact hsame
        · rw [hdraw] at himm
          exact absurd rfl himm

/-- The transaction inserted the invitation `r` in the state `s`, as the last of its
writes and the only insert. -/
structure Inserting (x : Nat) (r : Invitation) (tr : Trace accountStore.readCommitted)
    (writes buf : accountStore.Buffer) (s : AccountShared) : Prop where
  inserts : (.exec x buf (.invitationInsert r), s) ∈ tr
  started : x ∉ s.closed
  marks : ∀ w ∈ buf, StoreStmt.insertsInvitation w.1 = false
  accepted : ((StoreStmt.invitationInsert r).exec (accountStore.view buf s)).1 = some r
  writes : writes = buf ++ [(.invitationInsert r, (accountStore.view buf s).now)]

/-- Its keys were free then. -/
theorem Inserting.free {x : Nat} {r : Invitation} {tr : Trace accountStore.readCommitted}
    {writes buf : accountStore.Buffer} {s : AccountShared}
    (h : Inserting x r tr writes buf s) :
    r.id < s.committed.invitations.seq ∧ ∀ r₀ ∈ s.committed.invitations.rows,
      r₀.id ≠ r.id ∧ r₀.tokenHash ≠ r.tokenHash := by
  have haccepted := h.accepted
  simp only [StoreStmt.exec] at haccepted
  cases hinsert : (accountStore.view buf s).invitations.insert? r with
  | none =>
      rw [hinsert] at haccepted
      cases haccepted
  | some invitations =>
      obtain ⟨-, -, hid, hclash⟩ := Table.insert?_eq_some hinsert
      constructor
      · exact (replay_invitationSeq buf s.committed) ▸ hid
      · intro r₀ hr₀
        have hmarked : invitationRows.marks buf r₀ ∈
            (accountStore.view buf s).invitations.rows := by
          have hrows : (accountStore.view buf s).invitations.rows =
              s.committed.invitations.rows.map (invitationRows.marks buf) :=
            invitationRows.rows_replay h.marks s.committed
          rw [hrows]
          exact List.mem_map_of_mem hr₀
        have hages := marks_ages buf r₀
        have hfree := hclash _ hmarked
        simp only [invitationSchema, hages.id, hages.tokenHash, Bool.or_eq_false_iff,
          decide_eq_false_iff_not] at hfree
        exact hfree

/-- **The commit of an insert.**  Nobody has taken the keys of the invitation in the
meantime, so it is stored. -/
theorem Inserting.commit {x : Nat} {r : Invitation} {tr : Trace accountStore.readCommitted}
    {writes buf : accountStore.Buffer} {s s' : AccountShared}
    (h : Inserting x r tr writes buf s)
    (hlast : siteProtection.Undisturbed
      (accountStore.exec (.exec x buf (.invitationInsert r)) s).2 s')
    (hages : Ages s.committed s'.committed) (hopen : x ∉ s'.closed) :
    r ∈ (accountStore.exec (.commit x writes) s').2.committed.invitations.rows := by
  obtain ⟨hid, hfree⟩ := h.free
  have hkept : ∀ k ∈ invitationKeys r, sameAt k s.committed s'.committed := by
    intro k hk
    apply Store.Protection.same_at_commit (π := siteProtection) rfl h.started hopen _ hlast
    exact hk
  have hsameId := hkept (.invitation r.id) (by simp [invitationKeys])
  have hsameHash := hkept (.invitationHash r.tokenHash) (by simp [invitationKeys])
  have hrows : (accountStore.replay buf s'.committed).invitations.rows =
      s'.committed.invitations.rows.map (invitationRows.marks buf) :=
    invitationRows.rows_replay h.marks s'.committed
  have hclash : ∀ a ∈ (accountStore.replay buf s'.committed).invitations.rows,
      invitationSchema.clash a r = false := by
    intro a ha
    rw [hrows] at ha
    obtain ⟨r₀, hr₀, rfl⟩ := List.mem_map.mp ha
    have hold := marks_ages buf r₀
    simp only [invitationSchema, hold.id, hold.tokenHash, Bool.or_eq_false_iff,
      decide_eq_false_iff_not]
    constructor
    · intro heq
      obtain ⟨r₁, hr₁, hid₁⟩ := hsameId.2 r₀ hr₀ heq
      exact (hfree r₁ hr₁).1 hid₁
    · intro heq
      obtain ⟨r₁, hr₁, hhash₁⟩ := hsameHash r₀ hr₀ heq
      exact (hfree r₁ hr₁).2 hhash₁
  have hseq : r.id < (accountStore.replay buf s'.committed).invitations.seq := by
    rw [replay_invitationSeq]
    exact Nat.lt_of_lt_of_le hid hages.sequence
  obtain ⟨invitations, hinsert⟩ := Table.exists_insert? hclash hseq
  obtain ⟨hstored, -, -, -⟩ := Table.insert?_eq_some hinsert
  have hwritten : (accountStore.replay writes s'.committed).invitations = invitations := by
    have hreplay : accountStore.replay writes s'.committed =
        StoreStmt.redo (.invitationInsert r) (accountStore.view buf s).now
          (accountStore.replay buf s'.committed) := by
      rw [h.writes]
      unfold Store.replay
      rw [List.foldl_append]
      rfl
    have hsame : ((accountStore.replay buf s'.committed).setNow
        (accountStore.view buf s).now).invitations =
          (accountStore.replay buf s'.committed).invitations := rfl
    rw [hreplay]
    simp only [StoreStmt.redo, StoreStmt.exec, hsame, hinsert]
    rfl
  simp only [Store.exec, hopen, if_false, Store.close, hwritten, hstored]
  exact List.mem_append_right _ (List.mem_singleton_self r)

/-- An insert at the end of a transaction answers with its row. -/
theorem inside_inserted {x : Nat} {buf buf' : accountStore.Buffer} {s : AccountState}
    {t : Nat} {tr : Trace accountStore.readCommitted} {row r : Invitation}
    (h : Inside x (requiredRow .databaseOperation ((StoreStmt.invitationInsert row).exec s).1)
      (buf ++ [(.invitationInsert row, t)]) tr buf' r) :
    ((StoreStmt.invitationInsert row).exec s).1 = some row ∧
      buf' = buf ++ [(.invitationInsert row, t)] ∧ r = row := by
  cases hinsert : s.invitations.insert? row with
  | none =>
      simp only [StoreStmt.exec, hinsert] at h
      exact h.ran.elim
  | some invitations =>
      simp only [StoreStmt.exec, hinsert] at h ⊢
      obtain ⟨-, hbuf, hrow⟩ := h.ran
      exact ⟨trivial, hbuf, hrow⟩

/-- What the transaction of a new invitation went through: it marks every invitation
that is pending for the email and inserts the new one. -/
theorem inside_createInvitation {x : Nat} {email tokenHash : String} {now expiresAt : Nat}
    {tr : Trace accountStore.readCommitted} {writes : accountStore.Buffer} {r : Invitation}
    (h : Inside x (createInvitationTxn email tokenHash now expiresAt) [] tr writes r) :
    (∃ id, r = newInvitation id email tokenHash now expiresAt) ∧
    (∃ buf s, Inserting x r tr writes buf s) ∧
    ∃ ev ∈ tr, ∀ r₀ ∈ ev.2.committed.invitations.rows, r₀.email = email →
      r₀.status = .pending → ∃ t, (.invitationMarkRevokedIfPending r₀.id, t) ∈ writes := by
  obtain ⟨_, b₁, tr₁, tr₂, rfl, hunused, h⟩ := inside_bind h
  obtain ⟨s', rest', rfl, -, hpassed⟩ := inside_stmt_bind hunused
  obtain ⟨rfl, rfl⟩ := inside_passed hpassed
  obtain ⟨s, rest, rfl, -, h⟩ := inside_stmt_bind h
  obtain ⟨_, b₂, tr₃, tr₄, rfl, hloop, h⟩ := inside_bind h
  have hgrows := h.ran.grows
  obtain ⟨s₃, rest₃, rfl, -, h⟩ := inside_stmt_bind h
  obtain ⟨s₄, rest₄, rfl, hopen, h⟩ := inside_stmt_bind h
  have hmarks : ∀ w ∈ b₂, StoreStmt.insertsInvitation w.1 = false := by
    apply hloop.ran.within (P := fun i => StoreStmt.insertsInvitation i = false)
    · apply Within.forEach
      exact fun r => Within.stmt_bind rfl fun _ => trivial
    · simp [StoreStmt.insertsInvitation]
  obtain ⟨hinserted, rfl, rfl⟩ := inside_inserted h
  refine ⟨⟨_, rfl⟩, ⟨_, s₄, ?_, hopen, ?_, hinserted, rfl⟩, ?_⟩
  · simp
  · intro w hw
    rcases List.mem_append.mp hw with hmark | hdraw
    · exact hmarks w hmark
    · rw [List.mem_singleton.mp hdraw]
      rfl
  · refine ⟨(_, s), List.mem_append_right _ (List.mem_cons_self ..),
      fun r₀ hr₀ hemail hpending => ?_⟩
    have hfound : r₀ ∈ ((StoreStmt.invitationFindPendingByEmail email).exec
        (accountStore.view ([] ++ [(.account (.userFindByEmail email),
          (accountStore.view [] s').now)]) s)).1 := by
      refine (List.mem_insertionSort _).mpr (Table.mem_select.mpr ⟨hr₀, ?_⟩)
      simp [hemail, hpending]
    obtain ⟨b, tr', b', hmark, hb'⟩ := inside_forEach hloop hfound
    obtain ⟨s₅, rest₅, -, -, hdone⟩ := inside_stmt_bind hmark
    have hwrite := (hb'.trans hgrows).subset (hdone.ran.grows.subset
      (List.mem_append_right _ (List.mem_singleton_self _)))
    exact ⟨_, hwrite⟩

/-- A mark on an invitation, laid over a later state. -/
theorem rewrite_revoked {id t : Nat} {s : AccountState} {r : Invitation}
    (hr : r ∈ s.invitations.rows) (hid : r.id = id) :
    ∃ r' ∈ (accountStore.rewrite (.invitationMarkRevokedIfPending id, t) s).invitations.rows,
      r.Ages r' ∧ r'.status ≠ .pending := by
  let mark := StoreStmt.markInvitation t (.invitationMarkRevokedIfPending id)
  refine ⟨mark r, List.mem_map_of_mem hr, StoreStmt.markInvitation_ages _ t r, ?_⟩
  by_cases hpending : r.status = .pending
  · simp [mark, StoreStmt.markInvitation, hid, hpending]
  · simp [mark, StoreStmt.markInvitation, hpending]

/-- What a transaction marks is no longer pending when it commits. -/
theorem replay_revoked {writes : accountStore.Buffer} {id t : Nat}
    (hwrites : ∀ w ∈ writes, StoreStmt.ordinary w.1 = true)
    (hmark : (.invitationMarkRevokedIfPending id, t) ∈ writes) {s : AccountState}
    {r : Invitation} (hr : r ∈ s.invitations.rows) (hid : r.id = id) :
    ∃ r' ∈ (accountStore.replay writes s).invitations.rows,
      r.Ages r' ∧ r'.status ≠ .pending := by
  obtain ⟨past, rest, rfl⟩ := List.append_of_mem hmark
  have hpast := siteEvolution.replay (fun w hw => hwrites w (List.mem_append_left _ hw)) s
  obtain ⟨r₁, hr₁, hages₁⟩ := hpast.invitations r hr
  obtain ⟨r₂, hr₂, hages₂, hfinal⟩ := rewrite_revoked (t := t) hr₁ (hages₁.id.trans hid)
  have hrest := siteEvolution.replay
    (fun w hw => hwrites w (List.mem_append_right _ (List.mem_cons_of_mem _ hw)))
    (accountStore.rewrite (.invitationMarkRevokedIfPending id, t)
      (accountStore.replay past s))
  have hsame : accountStore.replay (past ++ (.invitationMarkRevokedIfPending id, t) :: rest) s =
      accountStore.replay rest (accountStore.rewrite (.invitationMarkRevokedIfPending id, t)
        (accountStore.replay past s)) := by
    unfold Store.replay
    rw [List.foldl_append, List.foldl_cons]
  rw [hsame]
  exact ⟨r₂, hrest.final hr₂ hfinal, hages₁.trans hages₂, hfinal⟩

/-- Call `i` has invited the email of `r`, and whatever was pending for it when the
transaction of the call began is not pending at the end of the run. -/
def Supersedes (c : SiteConfig) (i : Nat) (r : Invitation) : Prop :=
  ∃ e ∈ c.log, e.tid = i ∧ e.stmt = .begin ∧
    ∀ r₀ ∈ e.pre.committed.invitations.rows, r₀.email = r.email →
      ∃ r' ∈ c.shared.committed.invitations.rows, r₀.Ages r' ∧ r'.status ≠ .pending

/-- Call `i` has committed a transaction that stored the invitation `r`, which has
only aged since. -/
def Stores (c : SiteConfig) (i : Nat) (r : Invitation) : Prop :=
  ∃ e ∈ c.log, e.tid = i ∧ (∃ x writes, e.stmt = .commit x writes) ∧
    r ∈ e.post.committed.invitations.rows ∧
    ∃ r' ∈ c.shared.committed.invitations.rows, r.Ages r'

/-- **A new invitation supersedes the older ones** for its email.  It is stored, pending
and with the hash of its token, when the call commits. -/
theorem creation_supersedes (hc : c = (Config.initial s₀).runs (SiteCall.body lib) sched)
    {i : Nat} {policy : AuthPolicy} {email token : String} {ttlSecs : Nat} {r : Invitation}
    (h : Returned c i (.createInvitation policy email token ttlSecs) (.invitation r)) :
    lib.normalizeEmail email = .ok r.email ∧ r.tokenHash = lib.sha256Hex token ∧
      r.status = .pending ∧ Stores c i r ∧ Supersedes c i r := by
  have hgood := good_site lib hc
  obtain ⟨r', tr₁, tr₂, htr, hcreate, hdone⟩ := (h.went hc).bind
  obtain ⟨rfl, hresponse⟩ := hdone.done
  cases hresponse
  obtain ⟨normalized, tr₃, tr₄, rfl, hemail, hcreate⟩ := hcreate.bind
  obtain ⟨_, tr₅, tr₆, rfl, -, hcreate⟩ := hcreate.bind
  obtain ⟨now, tr₇, tr₈, rfl, -, hcreate⟩ := hcreate.bind
  obtain ⟨_, tr₉, tr₁₀, rfl, -, hcreate⟩ := hcreate.bind
  obtain ⟨_, tr₁₁, tr₁₂, rfl, -, hcreate⟩ := hcreate.bind
  obtain ⟨b, mid, s₃, writes, rfl, hopen, hin⟩ := hcreate.transaction
  obtain ⟨⟨id, rfl⟩, hinsert, ev, hev, hmarks⟩ := inside_createInvitation hin
  have hordinary := hin.ran.within (within_createInvitation _ _ _ _) (by simp)
  have hbegin : (.begin, b) ∈ c.trace i := by
    rw [htr]
    simp
  have hcommit : (.commit b.next writes, s₃) ∈ c.trace i := by
    rw [htr]
    simp
  have hread : ev ∈ c.trace i := by
    rw [htr]
    simp [hev]
  have hpair := trace_later hgood i
  rw [htr, List.append_nil] at hpair
  have htxn := (List.pairwise_append.mp (List.pairwise_append.mp (List.pairwise_append.mp
    (List.pairwise_append.mp (List.pairwise_append.mp hpair).2.1).2.1).2.1).2.1).2.1
  obtain ⟨hfirst, hrest⟩ := List.pairwise_cons.mp htxn
  have hlast := (List.pairwise_append.mp hrest).2.2 ev hev _ (List.mem_singleton_self _)
  obtain ⟨e, he, htid, hstmt, hpre⟩ := Config.mem_trace.mp hbegin
  obtain ⟨e', he', htid', hstmt', hpre'⟩ := Config.mem_trace.mp hcommit
  obtain ⟨buf, s₂, hinserting⟩ := hinsert
  have hbetween := (List.pairwise_append.mp hrest).2.2 _ hinserting.inserts _
    (List.mem_singleton_self _)
  have hstored := hinserting.commit hbetween.undisturbed hbetween.before hopen
  rw [← hstmt', ← hpre'] at hstored
  have haged := (ages_later hgood he').invitations _ hstored
  refine ⟨hemail.checked, rfl, rfl, ⟨e', he', htid', ⟨_, _, hstmt'⟩, hstored, haged⟩,
    e, he, htid, hstmt, fun r₀ hr₀ hsame => ?_⟩
  rw [hpre] at hr₀
  obtain ⟨r₁, hr₁, hages₁⟩ :=
    (hfirst ev (List.mem_append_left _ hev)).before.invitations r₀ hr₀
  by_cases hpending : r₁.status = .pending
  · obtain ⟨t, hmark⟩ := hmarks r₁ hr₁ (hages₁.email.trans hsame) hpending
    obtain ⟨r₂, hr₂, hages₂⟩ := hlast.before.invitations r₁ hr₁
    obtain ⟨r₃, hr₃, hages₃, hfinal⟩ := replay_revoked hordinary hmark hr₂ hages₂.id
    have hpost : r₃ ∈ e'.post.committed.invitations.rows := by
      unfold Event.post
      rw [hstmt', hpre']
      simpa only [Store.exec, hopen, if_false, Store.close] using hr₃
    exact ⟨r₃, (ages_later hgood he').final hpost hfinal,
      (hages₁.trans hages₂).trans hages₃, hfinal⟩
  · exact ⟨r₁, (trace_ages hgood hread).final hr₁ hpending, hages₁, hpending⟩

/-- The second invitation is stored and supersedes the first one. -/
theorem threeInvitations_superseded :
    Stores (newSite threeInvitations) 1
        (newInvitation 2 "neo@example.org" "sha256:t2" 0 60000) ∧
      Supersedes (newSite threeInvitations) 1
        (newInvitation 2 "neo@example.org" "sha256:t2" 0 60000) :=
  have h : Returned (newSite threeInvitations) 1 (inviting "neo@example.org" "t2")
      (.invitation (newInvitation 2 "neo@example.org" "sha256:t2" 0 60000)) :=
    returned_of rfl rfl (by decide +kernel)
  (creation_supersedes rfl h).2.2.2

end Runs

end AsterYggdrasil.External
