import AsterYggdrasil.External.Site
import AsterYggdrasil.Relational.Rewrites

/-!
# What the locks of the site protect

The rows of invitations and flows change in few ways, and each statement that
changes one has its row locked.  `changeLogin` and its siblings say what each
statement of the store makes of each row; from them follow how the tables age
(`Ages`) and that a transaction finds at its commit the rows it has locked
(`siteProtection`).  `good_site` is the conclusion for every run of the site.
-/

namespace AsterYggdrasil.External

open Interleave Relational Prog

/-! ## What a statement makes of a row -/

namespace StoreStmt

/-- A login flow after the statement. -/
def changeLogin : StoreStmt → LoginFlow → Option LoginFlow
  | .account (.loginFlowConsume id now), f =>
      some (if f.id = id && f.unusedAt now then f.consume now else f)
  | .account (.loginFlowCleanupExpired now), f => if f.expiresAt < now then none else some f
  | .account (.providerDelete id), f => if f.providerId = id then none else some f
  | _, f => some f

/-- A binding flow after the statement. -/
def changeBinding : StoreStmt → BindingFlow → Option BindingFlow
  | .account (.bindingFlowConsume id now), f =>
      some (if f.id = id && f.unusedAt now then f.consume now else f)
  | .account (.bindingFlowCleanupExpired now), f =>
      if f.expiresAt < now then none else some f
  | .account (.providerDelete id), f => if f.providerId = id then none else some f
  | .account (.service (.db (.userDelete id))), f => if f.userId = id then none else some f
  | _, f => some f

/-- An email flow after the statement. -/
def changeEmail : StoreStmt → EmailFlow → Option EmailFlow
  | .account (.emailFlowConsume id now), f =>
      some (if f.id = id && f.unusedAt now then f.consume now else f)
  | .account (.emailFlowUpdateRequest id email hash now), f =>
      some (if f.id = id && f.verificationTokenHash.isNone && f.unusedAt now
        then f.request email hash now else f)
  | .account (.emailFlowCleanupExpired now), f => if f.expiresAt < now then none else some f
  | .account (.providerDelete id), f => if f.providerId = id then none else some f
  | _, f => some f

/-- An invitation after the statement, at the time `now`. -/
def markInvitation (now : Nat) : StoreStmt → Invitation → Invitation
  | .account (.invitationMarkExpiredIfPending id), r =>
      if r.id = id && r.status = .pending then { r with status := .expired } else r
  | .account (.invitationMarkAcceptedIfPending id userId), r =>
      if r.id = id && r.status = .pending && decide (now < r.expiresAt) then
        { r with
          status := .accepted
          acceptedUserId := some userId
          acceptedAt := some now }
      else r
  | .invitationMarkRevokedIfPending id, r =>
      if r.id = id && r.status = .pending then
        { r with status := .revoked, revokedAt := some now }
      else r
  | _, r => r

/-- The statement inserts an invitation. -/
def insertsInvitation : StoreStmt → Bool
  | .invitationInsert _ => true
  | _ => false

end StoreStmt

/-- The statement may change invitations or flows. -/
def StoreStmt.touchesFlows : StoreStmt → Bool
  | .account i =>
      match i with
      | .service (.db (.userDelete _)) | .invitationMarkExpiredIfPending _
      | .invitationMarkAcceptedIfPending _ _ | .providerDelete _ | .loginFlowCreate _
      | .loginFlowConsume _ _ | .loginFlowCleanupExpired _ | .bindingFlowCreate _ _
      | .bindingFlowConsume _ _ | .bindingFlowCleanupExpired _ | .emailFlowCreate _
      | .emailFlowUpdateRequest _ _ _ _ | .emailFlowConsume _ _
      | .emailFlowCleanupExpired _ => true
      | _ => false
  | .invitationNextId | .invitationInsert _ | .invitationMarkRevokedIfPending _ => true
  | _ => false

/-- The tables of invitations and flows agree. -/
structure SameFlows (s s' : AccountState) : Prop where
  invitations : s'.invitations = s.invitations
  loginFlows : s'.loginFlows = s.loginFlows
  bindingFlows : s'.bindingFlows = s.bindingFlows
  emailFlows : s'.emailFlows = s.emailFlows

theorem SameFlows.refl (s : AccountState) : SameFlows s s := ⟨rfl, rfl, rfl, rfl⟩

/-- A statement of the service touches no flow unless it deletes a user. -/
theorem sameFlows_cascade (i : ServiceStmt) (s : AccountState)
    (hi : (StoreStmt.account (.service i)).touchesFlows = false) :
    SameFlows s (AccountState.cascade i s) := by
  cases i with
  | db i =>
      cases i with
      | userDelete id => cases hi
      | _ => exact .refl s
  | _ => exact .refl s

/-- **Frame.**  Most statements leave invitations and flows alone. -/
theorem sameFlows_exec {i : StoreStmt} (hi : i.touchesFlows = false) (s : AccountState) :
    SameFlows s (i.exec s).2 := by
  cases i with
  | account i =>
      cases i with
      | service i =>
          have h := sameFlows_cascade i { s with service := (i.exec s.service).2 } hi
          exact ⟨h.invitations, h.loginFlows, h.bindingFlows, h.emailFlows⟩
      | userCreate input =>
          simp only [StoreStmt.exec, AccountStmt.exec]
          split <;> exact ⟨rfl, rfl, rfl, rfl⟩
      | providerCreate row =>
          simp only [StoreStmt.exec, AccountStmt.exec]
          split <;> exact ⟨rfl, rfl, rfl, rfl⟩
      | identityCreate input =>
          simp only [StoreStmt.exec, AccountStmt.exec]
          split
          · split <;> exact ⟨rfl, rfl, rfl, rfl⟩
          · exact ⟨rfl, rfl, rfl, rfl⟩
      | providerUpdate id patch => exact ⟨rfl, rfl, rfl, rfl⟩
      | identityTouchLogin id email display metadata now => exact ⟨rfl, rfl, rfl, rfl⟩
      | identityDeleteForUser id userId => exact ⟨rfl, rfl, rfl, rfl⟩
      | _ => first | exact ⟨rfl, rfl, rfl, rfl⟩ | cases hi
  | userInsert id input =>
      simp only [StoreStmt.exec]
      split <;> exact ⟨rfl, rfl, rfl, rfl⟩
  | identityInsert id input =>
      simp only [StoreStmt.exec]
      split
      · split <;> exact ⟨rfl, rfl, rfl, rfl⟩
      · exact ⟨rfl, rfl, rfl, rfl⟩
  | profileInsert id input =>
      simp only [StoreStmt.exec]
      split
      · split <;> exact ⟨rfl, rfl, rfl, rfl⟩
      · exact ⟨rfl, rfl, rfl, rfl⟩
  | userNextId => exact ⟨rfl, rfl, rfl, rfl⟩
  | identityNextId => exact ⟨rfl, rfl, rfl, rfl⟩
  | profileNextId => exact ⟨rfl, rfl, rfl, rfl⟩
  | _ => first | exact ⟨rfl, rfl, rfl, rfl⟩ | cases hi

/-- What the statement makes of the flows. -/
structure RewritesFlows (i : StoreStmt) (s s' : AccountState) : Prop where
  login : Table.Rewrites s.loginFlows s'.loginFlows i.changeLogin
  binding : Table.Rewrites s.bindingFlows s'.bindingFlows i.changeBinding
  email : Table.Rewrites s.emailFlows s'.emailFlows i.changeEmail

theorem RewritesFlows.of_same {i : StoreStmt} {s s' : AccountState}
    (hi : i.touchesFlows = false) (h : SameFlows s s') : RewritesFlows i s s' := by
  have hnone : i.changeLogin = some ∧ i.changeBinding = some ∧ i.changeEmail = some := by
    cases i with
    | account i =>
        cases i with
        | service i =>
            cases i with
            | db i => cases i <;> first | exact ⟨rfl, rfl, rfl⟩ | cases hi
            | _ => exact ⟨rfl, rfl, rfl⟩
        | _ => first | exact ⟨rfl, rfl, rfl⟩ | cases hi
    | _ => exact ⟨rfl, rfl, rfl⟩
  constructor
  · rw [h.loginFlows, hnone.1]
    exact .refl _
  · rw [h.bindingFlows, hnone.2.1]
    exact .refl _
  · rw [h.emailFlows, hnone.2.2]
    exact .refl _

/-- **What every statement of the store makes of the flows.** -/
theorem rewritesFlows_exec (i : StoreStmt) (s : AccountState) :
    RewritesFlows i s (i.exec s).2 := by
  by_cases hi : i.touchesFlows = false
  · exact .of_same hi (sameFlows_exec hi s)
  · cases i with
    | account i =>
        cases i with
        | service i =>
            cases i with
            | db i =>
                cases i with
                | userDelete id =>
                    exact ⟨.refl _, .of_delete fun f : BindingFlow => f.userId = id, .refl _⟩
                | _ => exact absurd rfl hi
            | _ => exact absurd rfl hi
        | providerDelete id =>
            exact ⟨.of_delete fun f : LoginFlow => f.providerId = id,
              .of_delete fun f : BindingFlow => f.providerId = id,
              .of_delete fun f : EmailFlow => f.providerId = id⟩
        | loginFlowCreate input =>
            simp only [StoreStmt.exec, AccountStmt.exec]
            split
            · split
              · next flows h => exact ⟨.of_insert? rfl h, .refl _, .refl _⟩
              · exact ⟨.of_nextId, .refl _, .refl _⟩
            · exact ⟨.of_nextId, .refl _, .refl _⟩
        | bindingFlowCreate userId input =>
            simp only [StoreStmt.exec, AccountStmt.exec]
            split
            · split
              · next flows h => exact ⟨.refl _, .of_insert? rfl h, .refl _⟩
              · exact ⟨.refl _, .of_nextId, .refl _⟩
            · exact ⟨.refl _, .of_nextId, .refl _⟩
        | emailFlowCreate input =>
            simp only [StoreStmt.exec, AccountStmt.exec]
            split
            · split
              · next flows h => exact ⟨.refl _, .refl _, .of_insert? rfl h⟩
              · exact ⟨.refl _, .refl _, .of_nextId⟩
            · exact ⟨.refl _, .refl _, .of_nextId⟩
        | loginFlowConsume id now =>
            exact ⟨.of_modify _ (LoginFlow.consume now) (fun _ => rfl) fun _ _ => rfl,
              .refl _, .refl _⟩
        | bindingFlowConsume id now =>
            exact ⟨.refl _,
              .of_modify _ (BindingFlow.consume now) (fun _ => rfl) fun _ _ => rfl, .refl _⟩
        | emailFlowConsume id now =>
            exact ⟨.refl _, .refl _,
              .of_modify _ (EmailFlow.consume now) (fun _ => rfl) fun _ _ => rfl⟩
        | emailFlowUpdateRequest id email hash now =>
            exact ⟨.refl _, .refl _,
              .of_modify _ (EmailFlow.request email hash now) (fun _ => rfl) fun _ _ => rfl⟩
        | loginFlowCleanupExpired now =>
            exact ⟨.of_delete fun f : LoginFlow => f.expiresAt < now, .refl _, .refl _⟩
        | bindingFlowCleanupExpired now =>
            exact ⟨.refl _, .of_delete fun f : BindingFlow => f.expiresAt < now, .refl _⟩
        | emailFlowCleanupExpired now =>
            exact ⟨.refl _, .refl _, .of_delete fun f : EmailFlow => f.expiresAt < now⟩
        | _ => first | exact ⟨.refl _, .refl _, .refl _⟩ | exact absurd rfl hi
    | invitationInsert row =>
        simp only [StoreStmt.exec]
        split <;> exact ⟨.refl _, .refl _, .refl _⟩
    | _ => first | exact ⟨.refl _, .refl _, .refl _⟩ | exact absurd rfl hi

/-- A statement that inserts no invitation marks them one by one. -/
theorem exec_invitations {i : StoreStmt} (hi : i.insertsInvitation = false)
    (s : AccountState) :
    (i.exec s).2.invitations.rows = s.invitations.rows.map (i.markInvitation s.now) := by
  by_cases htouch : i.touchesFlows = false
  · have hid : i.markInvitation s.now = id := by
      funext r
      cases i with
      | account i => cases i <;> first | rfl | cases htouch
      | _ => first | rfl | cases htouch
    rw [(sameFlows_exec htouch s).invitations, hid, List.map_id]
  · have hsame : ∀ {t : Table invitationSchema}, t.rows = s.invitations.rows →
        t.rows = s.invitations.rows.map id := fun h => by rw [h, List.map_id]
    cases i with
    | account i =>
        cases i with
        | service i =>
            cases i with
            | db i =>
                cases i with
                | userDelete id => exact hsame rfl
                | _ => exact absurd rfl htouch
            | _ => exact absurd rfl htouch
        | invitationMarkExpiredIfPending id => rfl
        | invitationMarkAcceptedIfPending id userId => rfl
        | loginFlowCreate input =>
            simp only [StoreStmt.exec, AccountStmt.exec]
            split
            · split <;> exact hsame rfl
            · exact hsame rfl
        | bindingFlowCreate userId input =>
            simp only [StoreStmt.exec, AccountStmt.exec]
            split
            · split <;> exact hsame rfl
            · exact hsame rfl
        | emailFlowCreate input =>
            simp only [StoreStmt.exec, AccountStmt.exec]
            split
            · split <;> exact hsame rfl
            · exact hsame rfl
        | _ => first | exact hsame rfl | exact absurd rfl htouch
    | invitationMarkRevokedIfPending id => rfl
    | invitationInsert row => cases hi
    | _ => first | exact hsame rfl | exact absurd rfl htouch

/-- An insert adds its row or nothing. -/
theorem exec_invitationInsert (row : Invitation) (s : AccountState) :
    ((StoreStmt.invitationInsert row).exec s).2.invitations.rows = s.invitations.rows ∨
      ((∀ r ∈ s.invitations.rows, invitationSchema.clash r row = false) ∧
        ((StoreStmt.invitationInsert row).exec s).2.invitations.rows =
          s.invitations.rows ++ [row]) := by
  simp only [StoreStmt.exec]
  split
  · next invitations h =>
      obtain ⟨hrows, -, -, hfree⟩ := Table.insert?_eq_some h
      exact Or.inr ⟨hfree, hrows⟩
  · exact Or.inl rfl

/-! ## How the site ages -/

/-- What may happen to a row: an invitation that is no longer pending stays as it
is. -/
structure Invitation.Ages (r r' : Invitation) : Prop where
  id : r'.id = r.id
  tokenHash : r'.tokenHash = r.tokenHash
  email : r'.email = r.email
  expiresAt : r'.expiresAt = r.expiresAt
  final : r.status ≠ .pending → r' = r

/-- A login flow that has been used stays used. -/
structure LoginFlow.Ages (f f' : LoginFlow) : Prop where
  providerId : f'.providerId = f.providerId
  stateHash : f'.stateHash = f.stateHash
  expiresAt : f'.expiresAt = f.expiresAt
  used : f.consumedAt.isSome → f' = f

structure BindingFlow.Ages (f f' : BindingFlow) : Prop where
  userId : f'.userId = f.userId
  providerId : f'.providerId = f.providerId
  stateHash : f'.stateHash = f.stateHash
  expiresAt : f'.expiresAt = f.expiresAt
  used : f.consumedAt.isSome → f' = f

/-- The email of an email flow is asked for once. -/
structure EmailFlow.Ages (f f' : EmailFlow) : Prop where
  providerId : f'.providerId = f.providerId
  subject : f'.identityNamespace = f.identityNamespace ∧ f'.subject = f.subject
  flowTokenHash : f'.flowTokenHash = f.flowTokenHash
  expiresAt : f'.expiresAt = f.expiresAt
  requested : f.verificationTokenHash.isSome →
    f'.verificationTokenHash = f.verificationTokenHash ∧ f'.targetEmail = f.targetEmail
  used : f.consumedAt.isSome → f' = f

theorem Invitation.Ages.refl (r : Invitation) : r.Ages r := ⟨rfl, rfl, rfl, rfl, fun _ => rfl⟩

theorem Invitation.Ages.trans {a b c : Invitation} (hab : a.Ages b) (hbc : b.Ages c) :
    a.Ages c := by
  refine ⟨hbc.id.trans hab.id, hbc.tokenHash.trans hab.tokenHash, hbc.email.trans hab.email,
    hbc.expiresAt.trans hab.expiresAt, fun h => ?_⟩
  have hb := hab.final h
  rw [hb] at hbc
  exact hbc.final h

theorem LoginFlow.Ages.refl (f : LoginFlow) : f.Ages f := ⟨rfl, rfl, rfl, fun _ => rfl⟩

theorem LoginFlow.Ages.trans {a b c : LoginFlow} (hab : a.Ages b) (hbc : b.Ages c) :
    a.Ages c := by
  refine ⟨hbc.providerId.trans hab.providerId, hbc.stateHash.trans hab.stateHash,
    hbc.expiresAt.trans hab.expiresAt, fun h => ?_⟩
  have hb := hab.used h
  rw [hb] at hbc
  exact hbc.used h

theorem BindingFlow.Ages.refl (f : BindingFlow) : f.Ages f :=
  ⟨rfl, rfl, rfl, rfl, fun _ => rfl⟩

theorem BindingFlow.Ages.trans {a b c : BindingFlow} (hab : a.Ages b) (hbc : b.Ages c) :
    a.Ages c := by
  refine ⟨hbc.userId.trans hab.userId, hbc.providerId.trans hab.providerId,
    hbc.stateHash.trans hab.stateHash, hbc.expiresAt.trans hab.expiresAt, fun h => ?_⟩
  have hb := hab.used h
  rw [hb] at hbc
  exact hbc.used h

theorem EmailFlow.Ages.refl (f : EmailFlow) : f.Ages f :=
  ⟨rfl, ⟨rfl, rfl⟩, rfl, rfl, fun _ => ⟨rfl, rfl⟩, fun _ => rfl⟩

theorem EmailFlow.Ages.trans {a b c : EmailFlow} (hab : a.Ages b) (hbc : b.Ages c) :
    a.Ages c := by
  constructor
  · exact hbc.providerId.trans hab.providerId
  · exact ⟨hbc.subject.1.trans hab.subject.1, hbc.subject.2.trans hab.subject.2⟩
  · exact hbc.flowTokenHash.trans hab.flowTokenHash
  · exact hbc.expiresAt.trans hab.expiresAt
  · intro h
    obtain ⟨htoken, hemail⟩ := hab.requested h
    rw [← htoken] at h
    obtain ⟨htoken', hemail'⟩ := hbc.requested h
    exact ⟨htoken'.trans htoken, hemail'.trans hemail⟩
  · intro h
    have hb := hab.used h
    rw [hb] at hbc
    exact hbc.used h

/-- A flow that can be used has not been used. -/
theorem notUsed_of_unusedAt {expiresAt now : Nat} {consumedAt : Option Nat}
    (h : unusedAt expiresAt consumedAt now = true) : consumedAt = none ∧ now < expiresAt := by
  simpa [unusedAt] using h

namespace StoreStmt

variable (i : StoreStmt)

theorem changeLogin_ages (f f' : LoginFlow) (h : i.changeLogin f = some f') :
    f.id = f'.id ∧ f.Ages f' := by
  unfold changeLogin at h
  split at h
  · next id now =>
      cases h
      split
      · next hunused =>
          have hnone := (notUsed_of_unusedAt (Bool.and_eq_true_iff.mp hunused).2).1
          exact ⟨rfl, rfl, rfl, rfl, fun hused => by simp [hnone] at hused⟩
      · exact ⟨rfl, .refl f⟩
  all_goals grind [LoginFlow.Ages.refl]

theorem changeBinding_ages (f f' : BindingFlow) (h : i.changeBinding f = some f') :
    f.id = f'.id ∧ f.Ages f' := by
  unfold changeBinding at h
  split at h
  · next id now =>
      cases h
      split
      · next hunused =>
          have hnone := (notUsed_of_unusedAt (Bool.and_eq_true_iff.mp hunused).2).1
          exact ⟨rfl, rfl, rfl, rfl, rfl, fun hused => by simp [hnone] at hused⟩
      · exact ⟨rfl, .refl f⟩
  all_goals grind [BindingFlow.Ages.refl]

theorem changeEmail_ages (f f' : EmailFlow) (h : i.changeEmail f = some f') :
    f.id = f'.id ∧ f.Ages f' := by
  unfold changeEmail at h
  split at h
  · next id now =>
      cases h
      split
      · next hunused =>
          have hnone := (notUsed_of_unusedAt (Bool.and_eq_true_iff.mp hunused).2).1
          exact ⟨rfl, rfl, ⟨rfl, rfl⟩, rfl, rfl, fun _ => ⟨rfl, rfl⟩,
            fun hused => by simp [hnone] at hused⟩
      · exact ⟨rfl, .refl f⟩
  · next id email hash now =>
      cases h
      split
      · next hunused =>
          obtain ⟨hfirst, hunused⟩ := Bool.and_eq_true_iff.mp hunused
          have hnone := (notUsed_of_unusedAt hunused).1
          have hnotyet := (Bool.and_eq_true_iff.mp hfirst).2
          exact ⟨rfl, rfl, ⟨rfl, rfl⟩, rfl, rfl, fun hsome => by simp_all,
            fun hused => by simp [hnone] at hused⟩
      · exact ⟨rfl, .refl f⟩
  all_goals grind [EmailFlow.Ages.refl]

theorem markInvitation_ages (now : Nat) (r : Invitation) :
    r.Ages (i.markInvitation now r) := by
  unfold markInvitation
  split
  all_goals first
    | exact .refl r
    | split
      · next hpending =>
          refine ⟨rfl, rfl, rfl, rfl, fun hfinal => absurd ?_ hfinal⟩
          grind
      · exact .refl r

end StoreStmt

/-- An invitation is an old one, marked or not, or it is the one inserted. -/
theorem exec_invitation_origin (i : StoreStmt) {s : AccountState} {r : Invitation}
    (hr : r ∈ (i.exec s).2.invitations.rows) :
    (∃ r₀ ∈ s.invitations.rows, r₀.id = r.id ∧ r₀.tokenHash = r.tokenHash) ∨
      i = .invitationInsert r := by
  cases hinsert : i.insertsInvitation with
  | false =>
      rw [exec_invitations hinsert] at hr
      obtain ⟨r₀, hr₀, rfl⟩ := List.mem_map.mp hr
      have hages := i.markInvitation_ages s.now r₀
      exact Or.inl ⟨r₀, hr₀, hages.id.symm, hages.tokenHash.symm⟩
  | true =>
      cases i with
      | invitationInsert row =>
          rcases exec_invitationInsert row s with hrows | ⟨-, hrows⟩
          · rw [hrows] at hr
            exact Or.inl ⟨r, hr, rfl, rfl⟩
          · rw [hrows] at hr
            rcases List.mem_append.mp hr with hold | hnew
            · exact Or.inl ⟨r, hold, rfl, rfl⟩
            · rw [List.mem_singleton.mp hnew]
              exact Or.inr rfl
      | account i => cases i <;> cases hinsert
      | _ => cases hinsert

/-- The keys of invitations are drawn by the sequence alone. -/
theorem exec_invitationSeq (i : StoreStmt) (s : AccountState) :
    (i.exec s).2.invitations.seq = s.invitations.seq ∨ i = .invitationNextId := by
  by_cases htouch : i.touchesFlows = false
  · rw [(sameFlows_exec htouch s).invitations]
    exact Or.inl rfl
  · cases i with
    | account i =>
        cases i with
        | service i =>
            cases i with
            | db i => exact Or.inl (by cases i <;> rfl)
            | _ => exact absurd rfl htouch
        | loginFlowCreate input =>
            simp only [StoreStmt.exec, AccountStmt.exec]
            split
            · split <;> exact Or.inl rfl
            · exact Or.inl rfl
        | bindingFlowCreate userId input =>
            simp only [StoreStmt.exec, AccountStmt.exec]
            split
            · split <;> exact Or.inl rfl
            · exact Or.inl rfl
        | emailFlowCreate input =>
            simp only [StoreStmt.exec, AccountStmt.exec]
            split
            · split <;> exact Or.inl rfl
            · exact Or.inl rfl
        | _ => first | exact Or.inl rfl | exact absurd rfl htouch
    | invitationInsert row =>
        simp only [StoreStmt.exec]
        split
        · next invitations h =>
            obtain ⟨-, hseq, -, -⟩ := Table.insert?_eq_some h
            exact Or.inl hseq
        · exact Or.inl rfl
    | invitationNextId => exact Or.inr rfl
    | _ => first | exact Or.inl rfl | exact absurd rfl htouch

/-- Later states of the site: no invitation disappears, and every flow with an
old number is an old flow. -/
structure Ages (s s' : AccountState) : Prop where
  invitations : ∀ r ∈ s.invitations.rows, ∃ r' ∈ s'.invitations.rows, r.Ages r'
  sequence : s.invitations.seq ≤ s'.invitations.seq
  loginFlows : Table.Evolves LoginFlow.Ages s.loginFlows s'.loginFlows
  bindingFlows : Table.Evolves BindingFlow.Ages s.bindingFlows s'.bindingFlows
  emailFlows : Table.Evolves EmailFlow.Ages s.emailFlows s'.emailFlows

theorem Ages.refl (s : AccountState) : Ages s s :=
  ⟨fun r hr => ⟨r, hr, .refl r⟩, Nat.le_refl _, .refl LoginFlow.Ages.refl _,
    .refl BindingFlow.Ages.refl _, .refl EmailFlow.Ages.refl _⟩

theorem Ages.trans {a b c : AccountState} (hab : Ages a b) (hbc : Ages b c) : Ages a c := by
  refine ⟨fun r hr => ?_, hab.sequence.trans hbc.sequence,
    hab.loginFlows.trans (fun _ _ _ => .trans) hbc.loginFlows,
    hab.bindingFlows.trans (fun _ _ _ => .trans) hbc.bindingFlows,
    hab.emailFlows.trans (fun _ _ _ => .trans) hbc.emailFlows⟩
  obtain ⟨r', hr', h⟩ := hab.invitations r hr
  obtain ⟨r'', hr'', h'⟩ := hbc.invitations r' hr'
  exact ⟨r'', hr'', h.trans h'⟩

/-- **Every statement lets the site age.** -/
theorem ages_exec (i : StoreStmt) (s : AccountState) : Ages s (i.exec s).2 := by
  have hflows := rewritesFlows_exec i s
  have hseq : s.invitations.seq ≤ (i.exec s).2.invitations.seq := by
    rcases exec_invitationSeq i s with hsame | rfl
    · exact Nat.le_of_eq hsame.symm
    · exact Nat.le_succ _
  refine ⟨fun r hr => ?_, hseq, hflows.login.evolves i.changeLogin_ages,
    hflows.binding.evolves i.changeBinding_ages, hflows.email.evolves i.changeEmail_ages⟩
  cases hinsert : i.insertsInvitation with
  | false =>
      rw [exec_invitations hinsert]
      exact ⟨_, List.mem_map_of_mem hr, i.markInvitation_ages _ r⟩
  | true =>
      cases i with
      | invitationInsert row =>
          rcases exec_invitationInsert row s with hrows | ⟨-, hrows⟩
          · rw [hrows]
            exact ⟨r, hr, .refl r⟩
          · rw [hrows]
            exact ⟨r, List.mem_append_left _ hr, .refl r⟩
      | account i => cases i <;> cases hinsert
      | _ => cases hinsert

/-- So does a write that is laid over a later state. -/
theorem ages_redo (i : StoreStmt) (now : Nat) (s : AccountState) : Ages s (i.redo now s) := by
  obtain ⟨hinv, hseq, hlogin, hbinding, hemail⟩ := ages_exec i (s.setNow now)
  exact ⟨hinv, hseq, hlogin, hbinding, hemail⟩

/-! ## What a lock protects -/

/-- The row with this lock is still there as it was, and nobody has inserted an
invitation under the key. -/
def sameAt : StoreKey → AccountState → AccountState → Prop
  | .invitation id, s, s' =>
      (∀ r ∈ s.invitations.rows, r.id = id → r ∈ s'.invitations.rows) ∧
        ∀ r ∈ s'.invitations.rows, r.id = id → ∃ r₀ ∈ s.invitations.rows, r₀.id = id
  | .invitationHash hash, s, s' =>
      ∀ r ∈ s'.invitations.rows, r.tokenHash = hash →
        ∃ r₀ ∈ s.invitations.rows, r₀.tokenHash = hash
  | .loginFlow id, s, s' => ∀ f ∈ s.loginFlows.rows, f.id = id → f ∈ s'.loginFlows.rows
  | .bindingFlow id, s, s' => ∀ f ∈ s.bindingFlows.rows, f.id = id → f ∈ s'.bindingFlows.rows
  | .emailFlow id, s, s' => ∀ f ∈ s.emailFlows.rows, f.id = id → f ∈ s'.emailFlows.rows
  | _, _, _ => True

/-- The statements that appear in transactions: none of them starts or deletes
flows. -/
def StoreStmt.ordinary : StoreStmt → Bool
  | .account i =>
      match i with
      | .service (.db (.userDelete _)) | .providerDelete _ | .loginFlowCreate _
      | .loginFlowCleanupExpired _ | .bindingFlowCreate _ _ | .bindingFlowCleanupExpired _
      | .emailFlowCreate _ | .emailFlowCleanupExpired _ => false
      | _ => true
  | _ => true

/-- The rows of invitations and flows an ordinary statement may change. -/
def StoreStmt.writes : StoreStmt → List StoreKey
  | .account (.invitationMarkExpiredIfPending id) => [.invitation id]
  | .account (.invitationMarkAcceptedIfPending id _) => [.invitation id]
  | .account (.loginFlowConsume id _) => [.loginFlow id]
  | .account (.bindingFlowConsume id _) => [.bindingFlow id]
  | .account (.emailFlowUpdateRequest id _ _ _) => [.emailFlow id]
  | .account (.emailFlowConsume id _) => [.emailFlow id]
  | .invitationMarkRevokedIfPending id => [.invitation id]
  | .invitationInsert row => invitationKeys row
  | _ => []

theorem sameAt_refl (k : StoreKey) (s : AccountState) : sameAt k s s := by
  cases k with
  | invitation id => exact ⟨fun _ h _ => h, fun r hr hid => ⟨r, hr, hid⟩⟩
  | invitationHash hash => exact fun r hr hhash => ⟨r, hr, hhash⟩
  | _ => first | exact fun _ h _ => h | trivial

theorem sameAt_trans (k : StoreKey) (a b c : AccountState) (hab : sameAt k a b)
    (hbc : sameAt k b c) : sameAt k a c := by
  cases k with
  | invitation id =>
      refine ⟨fun r hr hid => hbc.1 r (hab.1 r hr hid) hid, fun r hr hid => ?_⟩
      obtain ⟨r₁, hr₁, hid₁⟩ := hbc.2 r hr hid
      exact hab.2 r₁ hr₁ hid₁
  | invitationHash hash =>
      intro r hr hhash
      obtain ⟨r₁, hr₁, hhash₁⟩ := hbc r hr hhash
      exact hab r₁ hr₁ hhash₁
  | _ => first | exact fun r hr hid => hbc r (hab r hr hid) hid | trivial

/-- What is written is locked. -/
theorem writes_locks {i : StoreStmt} {k : StoreKey} (hk : k ∈ i.writes) (s : AccountState) :
    k ∈ i.locks s := by
  cases i with
  | account i => cases i <;> first | exact hk | cases hk
  | invitationMarkRevokedIfPending id => exact hk
  | invitationInsert row => exact hk
  | _ => cases hk

section Unwritten

variable {i : StoreStmt}

theorem changeLogin_unwritten (hi : i.ordinary = true) {f : LoginFlow}
    (h : .loginFlow f.id ∉ i.writes) : i.changeLogin f = some f := by
  unfold StoreStmt.changeLogin
  split <;> simp_all [StoreStmt.writes, StoreStmt.ordinary]

theorem changeBinding_unwritten (hi : i.ordinary = true) {f : BindingFlow}
    (h : .bindingFlow f.id ∉ i.writes) : i.changeBinding f = some f := by
  unfold StoreStmt.changeBinding
  split <;> simp_all [StoreStmt.writes, StoreStmt.ordinary]

theorem changeEmail_unwritten (hi : i.ordinary = true) {f : EmailFlow}
    (h : .emailFlow f.id ∉ i.writes) : i.changeEmail f = some f := by
  unfold StoreStmt.changeEmail
  split <;> simp_all [StoreStmt.writes, StoreStmt.ordinary]

theorem markInvitation_unwritten {now : Nat} {r : Invitation}
    (h : .invitation r.id ∉ i.writes) : i.markInvitation now r = r := by
  unfold StoreStmt.markInvitation
  split <;> simp_all [StoreStmt.writes]

/-- The row of a key that the statement does not write. -/
theorem sameAt_unwritten {k : StoreKey} {s : AccountState}
    (hlogin : ∀ f ∈ s.loginFlows.rows, k = .loginFlow f.id → i.changeLogin f = some f)
    (hbinding : ∀ f ∈ s.bindingFlows.rows, k = .bindingFlow f.id →
      i.changeBinding f = some f)
    (hemail : ∀ f ∈ s.emailFlows.rows, k = .emailFlow f.id → i.changeEmail f = some f)
    (hinvitation : k ∉ i.writes) : sameAt k s (i.exec s).2 := by
  have hflows := rewritesFlows_exec i s
  cases k with
  | loginFlow id =>
      intro f hf hid
      exact hflows.login.kept f hf f (hlogin f hf (by rw [hid]))
  | bindingFlow id =>
      intro f hf hid
      exact hflows.binding.kept f hf f (hbinding f hf (by rw [hid]))
  | emailFlow id =>
      intro f hf hid
      exact hflows.email.kept f hf f (hemail f hf (by rw [hid]))
  | invitation id =>
      constructor
      · intro r hr hid
        cases hinsert : i.insertsInvitation with
        | false =>
            rw [exec_invitations hinsert]
            have hsame : i.markInvitation s.now r = r :=
              markInvitation_unwritten (by rwa [hid])
            have hmem := List.mem_map_of_mem (f := i.markInvitation s.now) hr
            rwa [hsame] at hmem
        | true =>
            cases i with
            | invitationInsert row =>
                rcases exec_invitationInsert row s with hrows | ⟨-, hrows⟩
                · rwa [hrows]
                · rw [hrows]
                  exact List.mem_append_left _ hr
            | account i => cases i <;> cases hinsert
            | _ => cases hinsert
      · intro r hr hid
        rcases exec_invitation_origin i hr with ⟨r₀, hr₀, hid₀, -⟩ | rfl
        · exact ⟨r₀, hr₀, hid₀.trans hid⟩
        · rw [← hid] at hinvitation
          exact absurd (List.mem_cons_self ..) hinvitation
  | invitationHash hash =>
      intro r hr hhash
      rcases exec_invitation_origin i hr with ⟨r₀, hr₀, -, hhash₀⟩ | rfl
      · exact ⟨r₀, hr₀, hhash₀.trans hhash⟩
      · rw [← hhash] at hinvitation
        exact absurd (List.mem_cons_of_mem _ (List.mem_cons_self ..)) hinvitation
  | _ => trivial

end Unwritten

/-- A deletion locks the rows it deletes. -/
theorem sameAt_unlocked {i : StoreStmt} {k : StoreKey} {s : AccountState}
    (hk : k ∉ i.locks s) : sameAt k s (i.exec s).2 := by
  have hunwritten : k ∉ i.writes := fun h => hk (writes_locks h s)
  cases hi : i.ordinary with
  | true =>
      apply sameAt_unwritten _ _ _ hunwritten
      · rintro f - rfl
        exact changeLogin_unwritten hi hunwritten
      · rintro f - rfl
        exact changeBinding_unwritten hi hunwritten
      · rintro f - rfl
        exact changeEmail_unwritten hi hunwritten
  | false =>
      apply sameAt_unwritten _ _ _ hunwritten
      · rintro f hf rfl
        unfold StoreStmt.changeLogin
        split <;> simp_all [StoreStmt.locks, AccountStmt.locks, AccountState.dependents]
        all_goals grind
      · rintro f hf rfl
        unfold StoreStmt.changeBinding
        split <;> simp_all [StoreStmt.locks, AccountStmt.locks, AccountState.dependents]
        all_goals grind
      · rintro f hf rfl
        unfold StoreStmt.changeEmail
        split <;> simp_all [StoreStmt.locks, AccountStmt.locks, AccountState.dependents]
        all_goals grind

/-- Immediate statements are about other tables. -/
theorem sameAt_immediate {i : StoreStmt} (hi : i.immediate = true) (k : StoreKey)
    (s : AccountState) : sameAt k s (i.exec s).2 := by
  have hnone : i.writes = [] ∧ i.ordinary = true := by
    cases i with
    | account i =>
        cases i with
        | service i =>
            cases i with
            | db i => cases i <;> first | exact ⟨rfl, rfl⟩ | cases hi
            | _ => exact ⟨rfl, rfl⟩
        | _ => cases hi
    | _ => first | exact ⟨rfl, rfl⟩ | cases hi
  have hunwritten : ∀ k, k ∉ i.writes := fun k h => by
    rw [hnone.1] at h
    cases h
  exact sameAt_unwritten (fun f _ _ => changeLogin_unwritten hnone.2 (hunwritten _))
    (fun f _ _ => changeBinding_unwritten hnone.2 (hunwritten _))
    (fun f _ _ => changeEmail_unwritten hnone.2 (hunwritten _)) (hunwritten k)

/-- **The locks of the site.** -/
def siteProtection :
    accountStore.Protection (fun i => StoreStmt.ordinary i = true) fun _ => True where
  same := sameAt
  refl := sameAt_refl
  trans := sameAt_trans
  writes i _ := i.writes
  locks _ s _ _ hk := writes_locks hk s
  redo i now s k hi hk := by
    have h := sameAt_unwritten (s := s.setNow now)
      (fun f _ heq => changeLogin_unwritten hi (heq ▸ hk))
      (fun f _ heq => changeBinding_unwritten hi (heq ▸ hk))
      (fun f _ heq => changeEmail_unwritten hi (heq ▸ hk)) hk
    cases k <;> exact h
  immediate i s k _ himm := sameAt_immediate himm k s
  auto _ _ _ _ hk := sameAt_unlocked hk

/-- The site ages with every statement. -/
def siteEvolution :
    accountStore.Evolution (fun i => StoreStmt.ordinary i = true) fun _ => True where
  rel := Ages
  refl := .refl
  trans _ _ _ := .trans
  redo i now s _ := ages_redo i now s
  immediate i s _ _ := ages_exec i s
  auto i s _ := ages_exec i s

/-- What the calls of the site rely on. -/
def siteDiscipline : Discipline accountStore.readCommitted :=
  siteProtection.discipline siteEvolution

end AsterYggdrasil.External
