import AsterYggdrasil.Panel.Rotation

/-!
# Raising the session version

Every token carries the `session_version` its account had when the token was
issued, and is accepted only while the account still has it.  Password changes
and the administrator's revocation raise the version: they read the row, add one
and write the sum back by primary key.  Two of them that overlap write the same
sum.

`versions_final` says what the version is good for: in every run in which the row
still has the version that was read when the sum is written, and the sum does not
overflow, a token from before a completed operation is never accepted again.
`overlapping_bumps` is a run of two operations that leaves the version at a value
that is already in use.
-/

namespace AsterYggdrasil.Panel

open Interleave Relational Prog

/-! ## The version an operation has read -/

/-- The version that a statement reads of an account by its id. -/
def PanelStmt.readsVersion (id : Nat) : PanelStmt → PanelState → Option (Option Int)
  | .db (.userFindById id'), s =>
      if id' = id then
        some ((s.db.users.find? fun u => u.id = id).map User.sessionVersion)
      else none
  | _, _ => none

/-- The version of the account that the trace has read last. -/
def lastRead (id : Nat) (tr : Trace panelMachine) : Option Int :=
  tr.foldl (fun v e => (PanelStmt.readsVersion id e.1 e.2).getD v) none

/-- A statement that reads the version is the last to have done so. -/
@[simp] theorem lastRead_append (id : Nat) (tr : Trace panelMachine) (i : PanelStmt)
    (s : PanelState) :
    lastRead id (tr ++ [(i, s)]) = (i.readsVersion id s).getD (lastRead id tr) := by
  simp [lastRead]

/-- The account and the version that the statement writes. -/
def PanelStmt.writesVersion : PanelStmt → Option (Nat × Int)
  | .db (.userUpdate id patch) => patch.sessionVersion.map fun v => (id, v)
  | _ => none

/-- `v` is what the operations of the panel make of the version they have read:
one more, in one of the two ways the code adds. -/
def IsSucc (read v : Int) : Prop := v = saturatingSucc read ∨ v = i64Add read 1

/-- An `i64` that is not `i64::MAX`. -/
def BelowMax (v : Int) : Prop := -(i64Max + 1 : Int) ≤ v ∧ v < i64Max

instance (v : Int) : Decidable (BelowMax v) := inferInstanceAs (Decidable (_ ∧ _))

/-- Below the greatest integer the successor is one more. -/
theorem IsSucc.eq {read v : Int} (h : IsSucc read v) (hread : BelowMax read) :
    v = read + 1 := by
  obtain ⟨hlow, hhigh⟩ := hread
  rcases h with rfl | rfl
  · unfold saturatingSucc
    omega
  · unfold i64Add i64Max at *
    omega

/-! ## Versions only grow -/

/-- The version of an account has not gone down. -/
def Grown (u u' : User) : Prop := u.sessionVersion ≤ u'.sessionVersion

/-- A version is no smaller than itself. -/
theorem Grown.refl (u : User) : Grown u u := Int.le_refl _

/-- Growth adds up. -/
theorem Grown.trans (u u' u'' : User) (h : Grown u u') (h' : Grown u' u'') : Grown u u'' :=
  Int.le_trans h h'

/-- No version has gone down. -/
abbrev VersionsKept (s s' : PanelState) : Prop :=
  Table.Evolves Grown s.db.users s'.db.users

/-- The version that the statement writes, if any, is above the one it replaces. -/
def PanelStmt.Raises (i : PanelStmt) (s : PanelState) : Prop :=
  ∀ id v, i.writesVersion = some (id, v) → ∀ u ∈ s.db.users.rows, u.id = id →
    u.sessionVersion < v

/-- An update of an account is refused, or writes the patched row. -/
theorem exec_userUpdate (id : Nat) (patch : UserPatch) (db : Db) :
    ((DbStmt.userUpdate id patch).exec db = (none, db)) ∨
    ∃ u users, db.users.find? (fun u => u.id = id) = some u ∧
      (DbStmt.userUpdate id patch).exec db =
        (some (Db.patchUser patch u), { db with users := users }) ∧
      users.seq = db.users.seq ∧
      users.rows = db.users.rows.map fun u =>
        if decide (u.id = id) = true then Db.patchUser patch u else u := by
  cases hfind : db.users.find? (fun u => u.id = id) with
  | none => exact Or.inl (by simp [DbStmt.exec, hfind])
  | some u =>
      cases hupdate : db.users.update? (fun u => u.id = id) (Db.patchUser patch)
          (fun _ => rfl) with
      | none => exact Or.inl (by simp [DbStmt.exec, hfind, hupdate])
      | some users =>
          obtain ⟨hrows, hseq⟩ := Table.update?_eq_some hupdate
          exact Or.inr ⟨u, users, rfl, by simp [DbStmt.exec, hfind, hupdate], hseq, hrows⟩

/-- **A statement that raises versions** lowers none. -/
theorem exec_versionsKept {i : PanelStmt} {s : PanelState} (h : i.Raises s) :
    VersionsKept s (i.exec s).2 := by
  have hsame : ∀ {users : Table userSchema}, users = s.db.users →
      Table.Evolves Grown s.db.users users := by
    rintro users rfl
    exact .refl Grown.refl _
  cases i with
  | db i =>
      cases i with
      | userInsert input =>
          cases hinsert : s.db.users.nextId.2.insert? (Db.newUser s.db.users.seq input) with
          | none =>
              refine .of_subset Grown.refl ?_ ?_
              · simp [PanelStmt.exec, DbStmt.exec, hinsert]
              · simp [PanelStmt.exec, DbStmt.exec, hinsert]
          | some users =>
              obtain ⟨hrows, hseq, -, -⟩ := Table.insert?_eq_some hinsert
              refine .of_append Grown.refl (Db.newUser s.db.users.seq input) ?_ (Nat.le_refl _) ?_
              · simp [PanelStmt.exec, DbStmt.exec, hinsert, hseq]
              · simp [PanelStmt.exec, DbStmt.exec, hinsert, hrows]
      | userUpdate id patch =>
          rcases exec_userUpdate id patch s.db with hsame' | ⟨u, users, -, hexec, hseq, hrows⟩
          · refine hsame ?_
            simp only [PanelStmt.exec, hsame']
          · simp only [PanelStmt.exec, hexec]
            refine .of_map hseq hrows fun u' hu' => ?_
            split
            · next hid =>
                refine ⟨rfl, ?_⟩
                cases hpatch : patch.sessionVersion with
                | none => simp [Grown, Db.patchUser, hpatch]
                | some v =>
                    have hlt := h id v (by simp [PanelStmt.writesVersion, hpatch]) u' hu'
                      (by simpa using hid)
                    simp only [Grown, Db.patchUser, hpatch, Option.getD_some]
                    omega
            · exact ⟨rfl, Grown.refl u'⟩
      | userDelete id =>
          exact .of_subset Grown.refl (Nat.le_refl _) fun u hu => (List.mem_filter.mp hu).1
      | profileInsert input | profileUpdateName id name renameCount | tokenInsert id input
      | banInsert input =>
          refine hsame ?_
          simp only [PanelStmt.exec, DbStmt.exec]
          split
          · first | rfl | (split <;> rfl)
          · first | rfl | (split <;> rfl)
      | _ => exact hsame rfl
  | sessionCreate input =>
      refine hsame ?_
      simp only [PanelStmt.exec]
      split
      · rfl
      · split
        · rfl
        · rfl
  | sessionRotateRefresh current next columns =>
      refine hsame ?_
      simp only [PanelStmt.exec]
      split
      · rfl
      · rfl
  | _ => exact hsame rfl

/-! ## The discipline of the version -/

/-- The row still has the version that the operation has read, and there is a
next one. -/
def ReadCurrent (tr : Trace panelMachine) (i : PanelStmt) (s : PanelState) : Prop :=
  match i.writesVersion with
  | none => True
  | some (id, _) => ∀ v ∈ lastRead id tr, BelowMax v ∧
      ∀ u ∈ s.db.users.rows, u.id = id → u.sessionVersion = v

/-- The version that is written comes from the one that was read. -/
def WritesSucc (tr : Trace panelMachine) (i : PanelStmt) : Prop :=
  ∀ id w, i.writesVersion = some (id, w) →
    ∃ v, lastRead id tr = some v ∧ IsSucc v w

/-- Whoever writes the successor of a version that is still current raises it. -/
theorem raises_of_readCurrent {tr : Trace panelMachine} {i : PanelStmt} {s : PanelState}
    (hcurrent : ReadCurrent tr i s) (hsucc : WritesSucc tr i) : i.Raises s := by
  intro id w hw u hu hid
  obtain ⟨v, hread, hsucc⟩ := hsucc id w hw
  rw [ReadCurrent, hw] at hcurrent
  obtain ⟨hbelow, hrow⟩ := hcurrent v hread
  have hversion := hrow u hu hid
  have hnext := hsucc.eq hbelow
  omega

/-- Versions grow, as long as every write finds the version it has read. -/
def versionDiscipline : Discipline panelMachine where
  inv _ := True
  rely := VersionsKept
  own := ReadCurrent
  guar tr i _ := WritesSucc tr i
  refl s := .refl Grown.refl s.db.users
  trans _ _ _ := .trans Grown.trans
  step _ _ _ _ hown hguar :=
    ⟨True.intro, exec_versionsKept (raises_of_readCurrent hown hguar)⟩

/-! ## What the operations do -/

/-- The account whose version the statement has raised. -/
def PanelStmt.bumped : PanelStmt → PanelState → Option Nat
  | .db (.userUpdate id patch), s =>
      if patch.sessionVersion.isSome && ((DbStmt.userUpdate id patch).exec s.db).1.isSome then
        some id
      else none
  | _, _ => none

/-- A statement of the trace has raised the version of the account. -/
def Bumped (id : Nat) (tr : Trace panelMachine) : Prop :=
  ∃ e ∈ tr, PanelStmt.bumped e.1 e.2 = some id

/-- What has been bumped stays so. -/
theorem Bumped.mono {id : Nat} {tr tr' : Trace panelMachine} (h : Bumped id tr)
    (hpre : tr <+: tr') : Bumped id tr' := by
  obtain ⟨e, he, hbumped⟩ := h
  exact ⟨e, hpre.subset he, hbumped⟩

/-- The statement writes no version. -/
def PanelStmt.Quiet (i : PanelStmt) : Prop := i.writesVersion = none

/-- A quiet statement writes no version. -/
theorem PanelStmt.Quiet.writesSucc {i : PanelStmt} (h : i.Quiet) (tr : Trace panelMachine) :
    WritesSucc tr i := by
  intro id w hw
  rw [h] at hw
  cases hw

section Reads

variable {D : Discipline panelMachine} {α : Type} {tr : Trace panelMachine} {s : PanelState}
  {K : α → Trace panelMachine → PanelState → Prop}

/-- Reading an account by its id. -/
theorem Ensures.account {userId : Nat} {f : User → PanelProg α}
    (hguar : ∀ tr s, D.guar tr (.db (.userFindById userId)) s)
    (h : ∀ user s', s'.db.users.find? (fun u => u.id = userId) = some user → D.inv s' →
      (f user).Ensures D (OnOk K) (tr ++ [(.db (.userFindById userId), s')]) s') :
    ((onAccounts (userFindById userId)).bind f).Ensures D (OnOk K) tr s := by
  refine Ensures.stmt_bind (i := PanelStmt.db (.userFindById userId))
    (f := fun found => ((DbProg.required (.recordNotFound s!"user #{userId}") found).hoist
      accountsHom id).bind f) fun s' _ hinv _ => ⟨hguar tr s', fun _ => ?_⟩
  have hreply : (panelMachine.exec (.db (.userFindById userId)) s').1 =
      s'.db.users.find? fun u => u.id = userId := rfl
  rw [hreply]
  cases hfind : s'.db.users.find? fun u => u.id = userId with
  | none => exact .err _ _ _
  | some user => exact h user s' hfind hinv

end Reads

section Operations

variable {tr : Trace panelMachine} {s : PanelState}

/-- A statement that writes no version. -/
theorem Ensures.quiet_bind {α : Type} {K : α → Trace panelMachine → PanelState → Prop}
    {i : PanelStmt} (hi : i.Quiet) {f : i.Reply → PanelProg α}
    (h : ∀ s', (f (i.exec s').1).Ensures versionDiscipline (OnOk K) (tr ++ [(i, s')])
      (i.exec s').2) :
    ((sql i).bind f).Ensures versionDiscipline (OnOk K) tr s :=
  Ensures.stmt_bind fun s' _ _ _ => ⟨hi.writesSucc tr, fun _ => h s'⟩

/-- Reading an account that is about to be updated. -/
theorem Ensures.readAccount {α : Type} {K : α → Trace panelMachine → PanelState → Prop}
    {userId : Nat} {f : User → PanelProg α}
    (h : ∀ user tr s, user.id = userId → lastRead userId tr = some user.sessionVersion →
      (f user).Ensures versionDiscipline (OnOk K) tr s) :
    ((onAccounts (userFindById userId)).bind f).Ensures versionDiscipline (OnOk K) tr s := by
  refine Ensures.account (fun tr s => PanelStmt.Quiet.writesSucc (by rfl) tr)
    fun user s' hfind _ => h user _ _ ?_ ?_
  · simpa using (Table.of_find? hfind).2
  · simp [PanelStmt.readsVersion, hfind]

/-- Writing the next version. -/
theorem Ensures.writeVersion {α : Type} {K : α → Trace panelMachine → PanelState → Prop}
    {userId : Nat} {patch : UserPatch} {v w : Int} {f : Option User → PanelProg α}
    (hread : lastRead userId tr = some v) (hpatch : patch.sessionVersion = some w)
    (hsucc : IsSucc v w)
    (hnone : ∀ tr s, (f none).Ensures versionDiscipline (OnOk K) tr s)
    (hsome : ∀ u tr s, u.id = userId → Bumped userId tr →
      (f (some u)).Ensures versionDiscipline (OnOk K) tr s) :
    ((sql (.db (.userUpdate userId patch))).bind f).Ensures versionDiscipline
      (OnOk K) tr s := by
  refine Ensures.stmt_bind fun s' _ _ _ => ⟨?_, fun _ => ?_⟩
  · intro id w' hw
    simp only [PanelStmt.writesVersion, hpatch, Option.map_some, Option.some.injEq,
      Prod.mk.injEq] at hw
    obtain ⟨rfl, rfl⟩ := hw
    exact ⟨v, hread, hsucc⟩
  · have hreply : (panelMachine.exec (.db (.userUpdate userId patch)) s').1 =
        ((DbStmt.userUpdate userId patch).exec s'.db).1 := rfl
    rw [hreply]
    rcases exec_userUpdate userId patch s'.db with hnone' | ⟨u, users, hfind, hexec, -, -⟩
    · rw [hnone']
      exact hnone _ _
    · rw [hexec]
      have hid : u.id = userId := by simpa using (Table.of_find? hfind).2
      refine hsome _ _ _ hid ⟨_, List.mem_append_right _ (List.mem_singleton_self _), ?_⟩
      simp [PanelStmt.bumped, hpatch, hexec]

variable {verifyPassword : String → String → Except AsterError Bool}
  {hashPassword : String → Except AsterError String}

/-- A pure result in front of a program. -/
theorem Ensures.lift_bind {α β : Type} {D : Discipline panelMachine}
    {K : β → Trace panelMachine → PanelState → Prop} {r : Except AsterError α}
    {f : α → PanelProg β} (h : ∀ a, r = .ok a → (f a).Ensures D (OnOk K) tr s) :
    ((lift r).bind f).Ensures D (OnOk K) tr s := by
  cases r with
  | ok a => exact h a rfl
  | error e => exact .err e tr s

/-- A new password comes with the successor of the version that was read. -/
theorem ensures_updatePassword {user : User}
    (hread : lastRead user.id tr = some user.sessionVersion) (newPassword : String) :
    (updatePasswordInConnection hashPassword user newPassword).Ensures versionDiscipline
      (OnOk fun u tr _ => u.id = user.id ∧ Bumped user.id tr) tr s :=
  Ensures.lift_bind fun _ _ => Ensures.writeVersion hread rfl (Or.inl rfl)
    (fun tr s => .err _ tr s) fun u tr s hid hdone s' _ _ u' hu' => by
      cases hu'
      exact ⟨hid, hdone⟩

/-- Through `replace_password` too. -/
theorem ensures_replacePassword {user : User}
    (hread : lastRead user.id tr = some user.sessionVersion) (newPassword : String) :
    (replacePassword hashPassword user newPassword).Ensures versionDiscipline
      (OnOk fun u tr _ => Bumped u.id tr) tr s := by
  refine Ensures.bind_ok True.intro (ensures_updatePassword hread newPassword)
    fun u tr s _ hdone => ?_
  refine Ensures.quiet_bind (by rfl) fun s' => ?_
  intro s'' _ _ u' hu'
  cases hu'
  rw [hdone.1]
  exact hdone.2.mono (List.prefix_append _ _)

/-- `change_password` bumps the version. -/
theorem ensures_changePassword (userId : Nat) (currentPassword newPassword : String) :
    (changePassword verifyPassword hashPassword userId currentPassword
      newPassword).Ensures versionDiscipline (OnOk fun u tr _ => Bumped u.id tr) tr s := by
  refine Ensures.readAccount fun user tr s hid hread => ?_
  refine Ensures.rejectIf_ok fun _ => ?_
  refine Ensures.rejectIf_ok fun _ => ?_
  refine Ensures.lift_bind fun valid _ => ?_
  refine Ensures.rejectIf_ok fun _ => ?_
  refine Ensures.rejectIf_ok fun _ => ?_
  exact ensures_replacePassword (hid ▸ hread) newPassword

/-- So does the first local password. -/
theorem ensures_setLocalPassword (userId : Nat) (newPassword : String) :
    (setLocalPassword verifyPassword hashPassword userId newPassword).Ensures
      versionDiscipline (OnOk fun u tr _ => Bumped u.id tr) tr s := by
  refine Ensures.readAccount fun user tr s hid hread => ?_
  refine Ensures.rejectIf_ok fun _ => ?_
  refine Ensures.quiet_bind (by rfl) fun s' => ?_
  refine Ensures.rejectIf_ok fun _ => ?_
  refine Ensures.lift_bind fun same _ => ?_
  refine Ensures.rejectIf_ok fun _ => ?_
  refine ensures_replacePassword ?_ newPassword
  rw [hid]
  simpa [PanelStmt.readsVersion] using hread

/-- So does a reset. -/
theorem ensures_confirmPasswordReset (tokenHash newPassword : String) :
    (confirmPasswordReset hashPassword tokenHash newPassword).Ensures versionDiscipline
      (OnOk fun u tr _ => Bumped u.id tr) tr s := by
  refine Ensures.lift_bind fun _ _ => ?_
  refine Ensures.quiet_bind (by rfl) fun s' => ?_
  cases hfound : ((PanelStmt.contactTokenFindByHash tokenHash).exec s').1 with
  | none => exact .err _ _ _
  | some record =>
      refine Ensures.rejectIf_ok fun _ => ?_
      refine Ensures.rejectIf_ok fun _ => ?_
      refine Ensures.quiet_bind (by rfl) fun s' => ?_
      refine Ensures.rejectIf_ok fun _ => ?_
      refine Ensures.readAccount fun user tr s hid hread => ?_
      refine Ensures.rejectIf_ok fun _ => ?_
      refine Ensures.rejectIf_ok fun _ => ?_
      refine Ensures.lift_bind fun _ _ => ?_
      refine Ensures.quiet_bind (by rfl) fun s' => ?_
      refine Ensures.rejectIf_ok fun _ => ?_
      refine (ensures_updatePassword ?_ newPassword).mono fun tr r s hdone u hu => ?_
      · rw [hid]
        simpa [PanelStmt.readsVersion] using hread
      · obtain ⟨hid', hbumped⟩ := hdone u hu
        exact hid' ▸ hbumped

/-- So does an administrator's revocation. -/
theorem ensures_revokeUserSessions (userId : Nat) :
    (revokeUserSessions userId).Ensures versionDiscipline
      (OnOk fun _ tr _ => Bumped userId tr) tr s := by
  refine Ensures.readAccount fun _ tr s _ _ => ?_
  refine Ensures.bind_ok (K := fun _ tr _ => Bumped userId tr) True.intro ?_
    fun _ tr s _ hdone => ?_
  · refine Ensures.readAccount fun user tr s hid hread => ?_
    exact Ensures.writeVersion hread rfl (Or.inr rfl) (fun tr s => .err _ tr s)
      fun u tr s _ hdone s' _ _ _ _ => hdone
  · refine Ensures.stmt_bind fun s' _ _ _ =>
      ⟨PanelStmt.Quiet.writesSucc (by rfl) tr, fun _ => ?_⟩
    intro s'' _ _ _ _
    exact hdone.mono (List.prefix_append _ _)

/-- `bump_session_version` of `update_user`. -/
def bumpsVersion (input : AdminUpdateUser) : Bool :=
  input.passwordHash.isSome || input.status = some .disabled ||
    input.mustChangePassword.isSome

/-- The statements of an account, one program after another. -/
theorem onAccounts_bind {α β : Type} (p : DbProg α) (f : α → DbProg β) :
    onAccounts (p.bind f) = (onAccounts p).bind fun a => onAccounts (f a) :=
  hoist_bind accountsHom id p f

/-- The check that a username is free writes nothing. -/
theorem quiet_ensureUsernameAvailable (username : String) (owner : Option Nat) :
    (onAccounts (ensureUsernameAvailable username owner)).Within PanelStmt.Quiet := by
  refine Within.hoist ?_
  refine Within.stmt_bind rfl fun user => Within.rejectIf.bind fun _ => ?_
  exact Within.stmt_bind rfl fun profile => Within.rejectIf

/-- The update of the row bumps the version where it is told to. -/
theorem ensures_userUpdateAdmin (id : Nat) (input : AdminUpdateUser) (bump : Bool) :
    (onAccounts (userUpdateAdmin id input bump)).Ensures versionDiscipline
      (OnOk fun _ tr _ => bump = true → Bumped id tr) tr s := by
  rw [userUpdateAdmin, bind_eq, onAccounts_bind]
  refine Ensures.readAccount fun existing tr s _ hread => ?_
  cases bump with
  | false =>
      refine (Ensures.of_within (D := versionDiscipline) (P := PanelStmt.Quiet)
        (fun tr i s hi _ _ => hi.writesSucc tr) ?_ tr s).mono fun tr r s _ _ _ h => ?_
      · refine Within.hoist (Within.stmt_bind rfl fun r => ?_)
        cases r <;> trivial
      · cases h
  | true =>
      exact Ensures.writeVersion hread rfl (Or.inr rfl) (fun tr s => .err _ tr s)
        fun u tr s _ hdone s' _ _ _ _ _ => hdone

/-- An administrator's update bumps it with a new password, with a disabled status and with
the obligation to change the password. -/
theorem ensures_updateUser (id : Nat) (input : AdminUpdateUser) :
    (updateUser id input).Ensures versionDiscipline
      (OnOk fun _ tr _ => bumpsVersion input = true → Bumped id tr) tr s := by
  refine Ensures.readAccount fun existing tr s _ _ => ?_
  refine Ensures.rejectIf_ok fun _ => ?_
  unfold updateUserTxn
  cases input.username with
  | none => exact ensures_userUpdateAdmin id _ _
  | some username =>
      simp only [bind_eq, onAccounts_bind]
      exact Ensures.within_bind (D := versionDiscipline) (P := PanelStmt.Quiet)
        (fun tr i s hi _ _ => hi.writesSucc tr) True.intro
        (quiet_ensureUsernameAvailable username (some id))
        fun _ tr s _ _ _ => ensures_userUpdateAdmin id _ _

end Operations

/-! ## Every interleaving -/

/-- The account whose tokens a request has invalidated when it answers. -/
def Request.invalidated : Request → Reply → Option Nat
  | .changePassword _ _ _, .user u => some u.id
  | .setLocalPassword _ _, .user u => some u.id
  | .confirmPasswordReset _ _, .user u => some u.id
  | .updateUser id input, _ => if bumpsVersion input then some id else none
  | .revokeUserSessions userId, _ => some userId
  | _, _ => none

/-- The claims whose version the request checks. -/
def Request.checks : Request → Option AccessClaims
  | .refresh (.ok claims) _ => some claims
  | .currentUser (.ok claims) _ => some claims
  | _ => none

section Requests

variable {verifyPassword : String → String → Except AsterError Bool}
  {hashPassword : String → Except AsterError String} {tr : Trace panelMachine}
  {s : PanelState}

/-- A pure result issues nothing. -/
theorem within_lift {α : Type} {P : PanelStmt → Prop} (r : Except AsterError α) :
    (lift r).Within P := by
  cases r <;> trivial

/-- Nor does looking at an expected row. -/
theorem within_required {α : Type} {P : PanelStmt → Prop} (e : AsterError) (r : Option α) :
    (required e r).Within P := by
  cases r <;> trivial

/-- Finding an account writes nothing. -/
theorem quiet_account (id : Nat) :
    (onAccounts (userFindById id)).Within PanelStmt.Quiet := by
  refine Within.hoist (Within.stmt_bind rfl fun r => ?_)
  cases r <;> trivial

/-- New sessions carry the version and leave it. -/
theorem quiet_issueTokens (ctx : SessionContext) (user : User) :
    (issueTokens ctx user).Within PanelStmt.Quiet := by
  refine Within.stmt_bind rfl fun now => (within_lift _).bind fun tokens => ?_
  refine Within.bind ?_ fun _ => trivial
  refine Within.stmt_bind rfl fun now => ?_
  exact Within.stmt_bind rfl fun r => within_required _ r

/-- So does a login. -/
theorem quiet_login (identifier password : String) (ctx : SessionContext) :
    (login verifyPassword identifier password ctx).Within PanelStmt.Quiet := by
  refine Within.rejectIf.bind fun _ => Within.stmt_bind rfl fun r => ?_
  refine (within_required _ r).bind fun user => Within.rejectIf.bind fun _ => ?_
  refine Within.rejectIf.bind fun _ => (within_lift _).bind fun valid => ?_
  exact Within.rejectIf.bind fun _ => quiet_issueTokens ctx user

/-- Looking for a session writes no version. -/
theorem quiet_liveSession (jti : String) : (liveSession jti).Within PanelStmt.Quiet := by
  refine Within.stmt_bind rfl fun r => ?_
  split
  · trivial
  · refine Within.stmt_bind rfl fun reused => ?_
    split
    · trivial
    · trivial

/-- Rotation writes the session, not the user. -/
theorem quiet_rotateTokens (ctx : SessionContext) (user : User) (session : AuthSession) :
    (rotateTokens ctx user session).Within PanelStmt.Quiet := by
  refine Within.stmt_bind rfl fun now => (within_lift _).bind fun tokens => ?_
  refine Within.stmt_bind rfl fun lastSeenAt => Within.bind ?_ fun rotated => ?_
  · refine Within.stmt_bind rfl fun r => (within_required _ r).bind fun _ => trivial
  · exact Within.rejectIf.bind fun _ => trivial

/-- So does a refresh. -/
theorem quiet_refresh (decoded : Decoded) (ctx : SessionContext) :
    (refresh decoded ctx).Within PanelStmt.Quiet := by
  refine (within_lift _).bind fun claims => Within.rejectIf.bind fun _ => ?_
  refine (within_required _ _).bind fun jti => (quiet_liveSession jti).bind fun session => ?_
  refine Within.stmt_bind rfl fun now => Within.rejectIf.bind fun _ => ?_
  refine Within.rejectIf.bind fun _ => (quiet_account _).bind fun user => ?_
  refine Within.rejectIf.bind fun _ => Within.rejectIf.bind fun _ => ?_
  exact Within.rejectIf.bind fun _ => quiet_rotateTokens ctx user session

/-- A logout revokes one session. -/
theorem quiet_logout (decoded : Decoded) : (logout decoded).Within PanelStmt.Quiet := by
  unfold logout
  split
  · split
    · trivial
    · trivial
  · split
    · trivial
    · split
      · trivial
      · refine Within.stmt_bind rfl fun _ => ?_
        exact Within.stmt_bind rfl fun _ => trivial

/-- So does a user's own revocation. -/
theorem quiet_revokeSession (userId : Nat) (sessionId : String) (current : Option Decoded) :
    (revokeSession userId sessionId current).Within PanelStmt.Quiet := by
  refine Within.stmt_bind rfl fun r => (within_required _ r).bind fun session => ?_
  refine Within.stmt_bind rfl fun now => Within.bind ?_ fun _ => trivial
  exact Within.stmt_bind rfl fun _ => trivial

/-- Or it revokes all but one. -/
theorem quiet_revokeOtherSessions (userId : Nat) (current : Decoded) :
    (revokeOtherSessions userId current).Within PanelStmt.Quiet := by
  refine Within.bind ?_ fun jti => Within.stmt_bind rfl fun r => ?_
  · refine (within_lift _).bind fun claims => Within.rejectIf.bind fun _ => ?_
    exact within_required _ _
  · refine (within_required _ r).bind fun session => Within.rejectIf.bind fun _ => ?_
    exact Within.rejectIf.bind fun _ => Within.stmt_bind rfl fun now => ⟨rfl, fun _ => trivial⟩

/-- Reading the current user writes nothing. -/
theorem quiet_currentUser (decoded : Decoded) (allowed : Bool) :
    (currentUser decoded allowed).Within PanelStmt.Quiet := by
  refine (within_lift _).bind fun claims => Within.rejectIf.bind fun _ => ?_
  refine (quiet_account _).bind fun user => Within.rejectIf.bind fun _ => ?_
  refine Within.rejectIf.bind fun _ => Within.rejectIf.bind fun _ => ?_
  exact Within.rejectIf.bind fun _ => Within.rejectIf.bind fun _ => trivial

/-- A deletion raises no version. -/
theorem quiet_deleteUser (userId : Nat) :
    (deleteUser userId).Within PanelStmt.Quiet := by
  refine Within.rejectIf.bind fun _ => (quiet_account _).bind fun _ => ?_
  refine Within.stmt_bind rfl fun _ => (quiet_account _).bind fun _ => ?_
  exact ⟨rfl, fun _ => trivial⟩

/-- Requests that write no version. -/
theorem ensures_quiet {call : Request}
    (hbody : (call.body verifyPassword hashPassword).Within PanelStmt.Quiet)
    (hcall : ∀ reply, call.invalidated reply = none) :
    (call.body verifyPassword hashPassword).Ensures versionDiscipline
      (OnOk fun reply tr _ => ∀ id, call.invalidated reply = some id → Bumped id tr)
      tr s := by
  refine (Ensures.of_within (D := versionDiscipline) (P := PanelStmt.Quiet)
    (fun tr i s hi _ _ => hi.writesSucc tr) hbody tr s).mono ?_
  intro tr r s _ reply _ id hid
  rw [hcall reply] at hid
  cases hid

/-- A program whose value only has to be wrapped. -/
theorem ensures_reply {α : Type} {p : PanelProg α} {g : α → Reply}
    {K : Reply → Trace panelMachine → Prop}
    (h : p.Ensures versionDiscipline (OnOk fun a tr _ => K (g a) tr) tr s) :
    (p.bind fun a => .ok (g a)).Ensures versionDiscipline
      (OnOk fun reply tr _ => K reply tr) tr s := by
  refine Ensures.bind_ok True.intro h fun a tr s _ hK s' _ _ reply hreply => ?_
  cases hreply
  exact hK

/-- **Every request that invalidates tokens has raised the version.** -/
theorem ensures_invalidated (call : Request) :
    (call.body verifyPassword hashPassword).Ensures versionDiscipline
      (OnOk fun reply tr _ => ∀ id, call.invalidated reply = some id → Bumped id tr)
      tr s := by
  cases call with
  | changePassword userId current new =>
      refine ensures_reply ((ensures_changePassword userId current new).mono ?_)
      intro tr r s h u hu id hid
      cases hid
      exact h u hu
  | setLocalPassword userId new =>
      refine ensures_reply ((ensures_setLocalPassword userId new).mono ?_)
      intro tr r s h u hu id hid
      cases hid
      exact h u hu
  | confirmPasswordReset tokenHash new =>
      refine ensures_reply ((ensures_confirmPasswordReset tokenHash new).mono ?_)
      intro tr r s h u hu id hid
      cases hid
      exact h u hu
  | updateUser userId input =>
      refine ensures_reply ((ensures_updateUser userId input).mono ?_)
      intro tr r s h u hu id hid
      simp only [Request.invalidated, Option.ite_none_right_eq_some, Option.some.injEq] at hid
      exact hid.2 ▸ h u hu hid.1
  | revokeUserSessions userId =>
      refine ensures_reply ((ensures_revokeUserSessions userId).mono ?_)
      intro tr r s h u hu id hid
      cases hid
      exact h u hu
  | login identifier password ctx =>
      exact ensures_quiet ((quiet_login identifier password ctx).bind fun _ => trivial)
        fun _ => rfl
  | issueTokensForUserId userId ctx =>
      refine ensures_quiet (Within.bind ?_ fun _ => trivial) fun _ => rfl
      exact (quiet_account userId).bind fun user => quiet_issueTokens ctx user
  | refresh decoded ctx =>
      exact ensures_quiet ((quiet_refresh decoded ctx).bind fun _ => trivial) fun _ => rfl
  | logout decoded =>
      exact ensures_quiet ((quiet_logout decoded).bind fun _ => trivial) fun _ => rfl
  | revokeSession userId sessionId current =>
      exact ensures_quiet ((quiet_revokeSession userId sessionId current).bind
        fun _ => trivial) fun _ => rfl
  | revokeOtherSessions userId current =>
      exact ensures_quiet ((quiet_revokeOtherSessions userId current).bind
        fun _ => trivial) fun _ => rfl
  | currentUser decoded allowed =>
      exact ensures_quiet ((quiet_currentUser decoded allowed).bind fun _ => trivial)
        fun _ => rfl
  | deleteUser userId =>
      exact ensures_quiet ((quiet_deleteUser userId).bind fun _ => trivial) fun _ => rfl
  | cleanupExpired =>
      refine ensures_quiet (Within.bind ?_ fun _ => trivial) fun _ => rfl
      exact Within.stmt_bind rfl fun now => ⟨rfl, fun _ => trivial⟩
  | wait ms => exact ensures_quiet (Within.stmt_bind rfl fun _ => trivial) fun _ => rfl

/-- A statement of the trace ran while the account had this version. -/
def VersionSeen (id : Nat) (v : Int) (tr : Trace panelMachine) : Prop :=
  ∃ e ∈ tr, ∃ u ∈ e.2.db.users.rows, u.id = id ∧ u.sessionVersion = v

/-- The check of a version that was just read, and whatever follows it. -/
theorem ensures_versionSeen {α : Type} {id : Nat} {user : User} {i : PanelStmt}
    (hfind : s.db.users.find? (fun u => u.id = id) = some user) (p : PanelProg α) :
    p.Ensures (.free panelMachine)
      (OnOk fun _ tr _ => VersionSeen id user.sessionVersion tr) (tr ++ [(i, s)]) s := by
  refine (Ensures.unguarded (M := panelMachine) (fun _ _ _ => True.intro) p _ s).with_past.mono
    ?_
  rintro tr' r s' ⟨hpast, -⟩ a _
  obtain ⟨hrow, hid⟩ := Table.of_find? hfind
  exact ⟨(i, s), hpast.subset (by simp), user, hrow, by simpa using hid, rfl⟩

/-- A refresh has seen the version that its token carries. -/
theorem ensures_refresh_version (claims : AccessClaims) (ctx : SessionContext) :
    (refresh (.ok claims) ctx).Ensures (.free panelMachine)
      (OnOk fun _ tr _ => VersionSeen claims.userId claims.sessionVersion tr) tr s := by
  refine Ensures.rejectIf_ok fun _ => ?_
  refine Ensures.skip fun jti tr s _ => ?_
  refine Ensures.skip fun session tr s _ => ?_
  refine Ensures.skip fun now tr s _ => ?_
  refine Ensures.rejectIf_ok fun _ => ?_
  refine Ensures.rejectIf_ok fun _ => ?_
  refine Ensures.account (D := .free panelMachine) (fun _ _ => True.intro) fun user s' hfind _ => ?_
  refine Ensures.rejectIf_ok fun _ => Ensures.rejectIf_ok fun hversion => ?_
  have hversion : claims.sessionVersion = user.sessionVersion := by simpa using hversion
  rw [hversion]
  exact ensures_versionSeen hfind _

/-- So has a request with an access token. -/
theorem ensures_currentUser_version (claims : AccessClaims) (allowed : Bool) :
    (currentUser (.ok claims) allowed).Ensures (.free panelMachine)
      (OnOk fun _ tr _ => VersionSeen claims.userId claims.sessionVersion tr) tr s := by
  refine Ensures.rejectIf_ok fun _ => ?_
  refine Ensures.account (D := .free panelMachine) (fun _ _ => True.intro) fun user s' hfind _ => ?_
  refine Ensures.rejectIf_ok fun _ => Ensures.rejectIf_ok fun hversion => ?_
  have hversion : user.sessionVersion = claims.sessionVersion := by simpa using hversion
  rw [← hversion]
  exact ensures_versionSeen hfind _

/-- A token is accepted only after its version was found in the account. -/
theorem ensures_checked (call : Request) (s : PanelState) :
    (call.body verifyPassword hashPassword).Ensures (.free panelMachine)
      (fun tr r _ => ∀ claims, call.checks = some claims → ∀ reply, r = .ok reply →
        VersionSeen claims.userId claims.sessionVersion tr) [] s := by
  have hdone : ∀ {α : Type} {p : PanelProg α} {g : α → Reply} (claims : AccessClaims),
      p.Ensures (.free panelMachine)
        (OnOk fun _ tr _ => VersionSeen claims.userId claims.sessionVersion tr) [] s →
      (p.bind fun a => .ok (g a)).Ensures (.free panelMachine)
        (OnOk fun _ tr _ => VersionSeen claims.userId claims.sessionVersion tr) [] s := by
    intro α p g claims hp
    exact Ensures.bind_ok True.intro hp fun a tr s _ hseen s' _ _ reply _ => hseen
  cases hcall : call.checks with
  | none =>
      refine (Ensures.unguarded (M := panelMachine) (fun _ _ _ => True.intro) _ [] s).mono ?_
      intro tr r s _ claims hclaims
      cases hclaims
  | some claims =>
      refine Ensures.mono (Q := OnOk fun _ tr _ =>
        VersionSeen claims.userId claims.sessionVersion tr) ?_ ?_
      · unfold Request.checks at hcall
        split at hcall
        · cases hcall
          exact hdone claims (ensures_refresh_version claims _)
        · cases hcall
          exact hdone claims (ensures_currentUser_version claims _)
        · cases hcall
      · intro tr r s hr claims' hclaims reply hok
        cases hclaims
        exact hr reply hok

end Requests

section Runs

open Config

variable {verifyPassword : String → String → Except AsterError Bool}
  {hashPassword : String → Except AsterError String}

/-- Every write of a version finds the version that its operation has read. -/
def WritesCurrent (c : PanelPool) (i : Nat) (st : PanelStmt) : Prop :=
  ReadCurrent (c.trace i) st c.shared

instance (tr : Trace panelMachine) (i : PanelStmt) (s : PanelState) :
    Decidable (ReadCurrent tr i s) := by
  unfold ReadCurrent
  split <;> infer_instance

instance (c : PanelPool) (i : Nat) (st : PanelStmt) : Decidable (WritesCurrent c i st) :=
  inferInstanceAs (Decidable (ReadCurrent (c.trace i) st c.shared))

/-- The event has raised the version of the account. -/
def PanelEvent.bumped (e : PanelEvent) : Option Nat := PanelStmt.bumped e.stmt e.pre

/-- The write itself. -/
theorem version_lt_of_bumped {e : PanelEvent} {id : Nat} (h : e.bumped = some id)
    (hraises : PanelStmt.Raises e.stmt e.pre) {u u' : User} (hu : u ∈ e.pre.db.users.rows)
    (hid : u.id = id) (hu' : u' ∈ e.post.db.users.rows) (hid' : u'.id = id) :
    u.sessionVersion < u'.sessionVersion := by
  obtain ⟨id₀, patch, hstmt⟩ : ∃ id₀ patch, e.stmt = .db (.userUpdate id₀ patch) := by
    unfold PanelEvent.bumped PanelStmt.bumped at h
    split at h
    · next id₀ patch hstmt => exact ⟨id₀, patch, hstmt⟩
    · cases h
  rw [PanelEvent.bumped, hstmt] at h
  simp only [PanelStmt.bumped, Option.ite_none_right_eq_some, Bool.and_eq_true,
    Option.some.injEq] at h
  obtain ⟨⟨hpatch, hdone⟩, rfl⟩ := h
  obtain ⟨w, hw⟩ := Option.isSome_iff_exists.mp hpatch
  rcases exec_userUpdate id₀ patch e.pre.db with hnone | ⟨u₀, users, -, hexec, -, hrows⟩
  · simp [hnone] at hdone
  · have hpost : e.post.db.users = users := by
      show (PanelStmt.exec e.stmt e.pre).2.db.users = users
      rw [hstmt, PanelStmt.exec, hexec]
    rw [hpost, hrows] at hu'
    obtain ⟨u₁, hu₁, rfl⟩ := List.mem_map.mp hu'
    have hid₁ : u₁.id = id₀ := by
      split at hid'
      · exact hid'
      · exact hid'
    rw [if_pos (by simpa using hid₁)]
    simp only [Db.patchUser, hw, Option.getD_some]
    exact hraises id₀ w (by simp [hstmt, PanelStmt.writesVersion, hw]) u hu hid

/-- Before the write, the write, and after it. -/
theorem version_lt_across {e : PanelEvent} {id : Nat} (h : e.bumped = some id)
    (hraises : PanelStmt.Raises e.stmt e.pre) {s s' : PanelState}
    (hbefore : VersionsKept s e.pre) (hafter : VersionsKept e.post s') {u u' : User}
    (hu : u ∈ s.db.users.rows) (hid : u.id = id) (hu' : u' ∈ s'.db.users.rows)
    (hid' : u'.id = id) : u.sessionVersion < u'.sessionVersion := by
  have hwrite : VersionsKept e.pre e.post := exec_versionsKept hraises
  have hlt : u'.id < s.db.users.seq := by
    have := s.db.users.fresh u hu
    rw [hid', ← hid]
    exact this
  have hlt₁ := Nat.lt_of_lt_of_le hlt hbefore.seq
  have hlt₂ := Nat.lt_of_lt_of_le hlt₁ hwrite.seq
  obtain ⟨u₂, hu₂, hid₂, hgrown₂⟩ := hafter.rows u' hu' hlt₂
  have hid₂ : u₂.id = u'.id := hid₂
  have hlt₂ : u₂.id < e.pre.db.users.seq := by omega
  obtain ⟨u₁, hu₁, hid₁, -⟩ := hwrite.rows u₂ hu₂ hlt₂
  have hid₁ : u₁.id = u₂.id := hid₁
  have hstep := version_lt_of_bumped h hraises hu₁ (by omega) hu₂ (by omega)
  have hgrown : Grown u u₁ := hbefore.row hu hu₁ (by change u.id = u₁.id; omega)
  calc u.sessionVersion ≤ u₁.sessionVersion := hgrown
    _ < u₂.sessionVersion := hstep
    _ ≤ u'.sessionVersion := hgrown₂

/-- **The version is good for what it is there for.**  In every run in which each
write of a version finds the version that was read: when a request that
invalidates tokens has returned, it has raised the version, and every version the
account had up to that write stays below the current one, and no token that
carries it is accepted by a `refresh` or `current_user` that starts then. -/
theorem versions_final {s₀ : PanelState} {before later : List (Action Request)}
    {c₁ c₂ : PanelPool}
    (hadm : Admissible (Request.body verifyPassword hashPassword) WritesCurrent
      (initial s₀) (before ++ later))
    (hc₁ : c₁ = (initial s₀).runs (Request.body verifyPassword hashPassword) before)
    (hc₂ : c₂ = c₁.runs (Request.body verifyPassword hashPassword) later)
    {i id : Nat} {th : Thread panelSignature AsterError Request Reply} {reply : Reply}
    (hth : c₁.threads[i]? = some th) (hok : c₁.result? i = some (.ok reply))
    (hinvalid : th.call.invalidated reply = some id) :
    ∃ past e rest, c₁.log = past ++ e :: rest ∧ e.tid = i ∧ PanelEvent.bumped e = some id ∧
      ∀ d ∈ past ++ [e], ∀ u ∈ d.pre.db.users.rows, u.id = id →
        (∀ u' ∈ c₂.shared.db.users.rows, u'.id = id →
          u.sessionVersion < u'.sessionVersion) ∧
        ∀ j th' claims reply', c₁.threads.length ≤ j → c₂.threads[j]? = some th' →
          th'.call.checks = some claims → claims.userId = id →
          claims.sessionVersion = u.sessionVersion →
          c₂.result? j ≠ some (.ok reply') := by
  have hrun : c₂ = (initial s₀).runs (Request.body verifyPassword hashPassword)
      (before ++ later) := by
    rw [runs_append, hc₂, hc₁]
  have hguard : ∀ (c : PanelPool) (i : Nat) (st : PanelStmt), WritesCurrent c i st →
      panelMachine.enabled st c.shared = true →
      versionDiscipline.own (c.trace i) st c.shared := fun _ _ _ h _ => h
  have hgood₁ : Good versionDiscipline (fun _ call => OnOk fun reply tr _ =>
      ∀ id, call.invalidated reply = some id → Bumped id tr) c₁ := by
    rw [hc₁]
    exact good_runs hguard (fun _ call _ _ => ensures_invalidated call)
      (good_initial True.intro) (admissible_append.mp hadm).1
  have hgood : Good versionDiscipline (fun _ call => OnOk fun reply tr _ =>
      ∀ id, call.invalidated reply = some id → Bumped id tr) c₂ := by
    rw [hrun]
    exact good_runs hguard (fun _ call _ _ => ensures_invalidated call)
      (good_initial True.intro) hadm
  have hraises : ∀ e ∈ c₂.log, PanelStmt.Raises e.stmt e.pre := by
    intro e he
    obtain ⟨-, -, tr, -, hown, hguar⟩ := hgood.events e he
    exact raises_of_readCurrent hown hguar
  obtain ⟨⟨st, s⟩, he, hbumped⟩ := hgood₁.result hth hok reply rfl id hinvalid
  obtain ⟨e, hlog, rfl, rfl, rfl⟩ := mem_trace.mp he
  obtain ⟨past, rest, hsplit⟩ := List.append_of_mem hlog
  have hlog₂ : c₁.log <+: c₂.log := by
    rw [hc₂]
    exact log_prefix c₁ later
  obtain ⟨new, hnew⟩ := hlog₂
  have hlinked := hgood.linked
  have he₂ : e ∈ c₂.log := by
    rw [← hnew]
    exact List.mem_append_left _ hlog
  refine ⟨past, e, rest, hsplit, rfl, hbumped, fun d hd u hu hid => ?_⟩
  have hbefore : VersionsKept d.pre e.pre := by
    rcases List.mem_append.mp hd with hd | hd
    · have hd₂ : d ∈ c₂.log := by
        rw [← hnew, hsplit]
        simp [hd]
      have hstep : VersionsKept d.pre d.post := exec_versionsKept (hraises d hd₂)
      rw [← hnew, hsplit, List.append_assoc] at hlinked
      have hlink := (List.pairwise_append.mp hlinked).2.2 d hd e (by simp)
      exact versionDiscipline.trans _ _ _ hstep hlink
    · rw [List.mem_singleton.mp hd]
      exact versionDiscipline.refl _
  refine ⟨fun u' hu' hid' => ?_, ?_⟩
  · exact version_lt_across hbumped (hraises e he₂) hbefore (hgood.events e he₂).2.1
      hu hid hu' hid'
  · intro j th' claims reply' hj hth' hchecks hclaims hversion hok'
    obtain ⟨⟨st, s⟩, hb, u', hu', hid', hseen⟩ :=
      result_of_free ensures_checked hrun hth' hok' claims hchecks reply' rfl
    obtain ⟨b, hblog, rfl, rfl, rfl⟩ := mem_trace.mp hb
    have hafter : VersionsKept e.post b.pre := by
      have hb := hblog
      have hpair := hgood.linked
      rw [← hnew] at hb hpair
      rcases List.mem_append.mp hb with hb | hb
      · have hlt := tid_lt hc₁ b hb
        omega
      · exact (List.pairwise_append.mp hpair).2.2 e hlog b hb
    have hlt := version_lt_across hbumped (hraises e he₂) hbefore hafter hu hid hu'
      (hid'.trans hclaims)
    omega

/-- A panel whose account has been there for a while. -/
def bumpRun (sched : List (Action Request)) : PanelPool :=
  (initial onePanel).runs (Request.body (fun a b => .ok (a = b)) .ok) sched

/-- The access token of the account at a version. -/
def accessClaims (version : Int) : Decoded := .ok ⟨1, version, none, false, .access, 60⟩

/-- A revocation by the administrator, and nobody else. -/
def revokeAlone : List (Action Request) :=
  .spawn (.revokeUserSessions 1) :: List.replicate 4 (.run 0)

/-- A request with the old token. -/
def askWithOldToken : List (Action Request) :=
  [.spawn (.currentUser (accessClaims 1) false), .run 1]

/-- After the revocation the token of version 1 is refused. -/
theorem versions_final_alone : ¬ ∃ reply,
    (bumpRun (revokeAlone ++ askWithOldToken)).result? 1 = some (.ok reply) := by
  have hadm : Admissible (Request.body (fun a b => .ok (a = b)) .ok) WritesCurrent
      (initial onePanel) (revokeAlone ++ askWithOldToken) := by decide +kernel
  have hruns : bumpRun (revokeAlone ++ askWithOldToken) = (bumpRun revokeAlone).runs
      (Request.body (fun a b => .ok (a = b)) .ok) askWithOldToken := runs_append _ _ _
  have hok : (bumpRun revokeAlone).result? 0 = some (.ok (.count 0)) := by decide +kernel
  intro ⟨reply, hreply⟩
  obtain ⟨past, e, rest, hlog, -, -, hfinal⟩ := versions_final hadm rfl hruns rfl hok rfl
  -- the account had version 1 when the first statement ran
  have hfirst : ((past ++ e :: rest).head?.map fun d => d.pre.db.users.rows) =
      some onePlayer.db.users.rows := by
    rw [← hlog]
    rfl
  obtain ⟨d, hd, hrows⟩ : ∃ d ∈ past ++ [e], d.pre.db.users.rows = onePlayer.db.users.rows := by
    cases past with
    | nil => exact ⟨e, by simp, Option.some.inj hfirst⟩
    | cons d past => exact ⟨d, by simp, Option.some.inj hfirst⟩
  obtain ⟨u, hu⟩ : ∃ u, onePlayer.db.users.rows = [u] ∧ u.id = 1 ∧ u.sessionVersion = 1 :=
    ⟨_, rfl, rfl, rfl⟩
  exact (hfinal d hd u (by simp [hrows, hu.1]) hu.2.1).2 1 _ _ reply (by decide +kernel)
    rfl rfl rfl hu.2.2.symm hreply

/-- A password change reads the account, and a revocation runs while it is on its
way; then a token is issued. -/
def issueBetween : List (Action Request) :=
  [.spawn (.revokeUserSessions 1), .spawn (.changePassword 1 "pw" "new password"),
    .run 0, .run 0, .run 1, .run 0, .run 0,
    .spawn (.issueTokensForUserId 1 (drawingJti "a" "session"))] ++
    List.replicate 4 (.run 2)

/-- The password change comes to its end, and the token is used. -/
def finishChange : List (Action Request) :=
  [.run 1, .run 1, .spawn (.currentUser (accessClaims 2) false), .run 3]

/-- **Two overlapping increments.**  The token of version 2 is issued before the
password change writes its version, which is 2; the change succeeds, and the token
is still accepted. -/
theorem overlapping_bumps :
    (((bumpRun issueBetween).result? 2).map fun r => r.map fun
      | .tokens bundle => bundle.access.sessionVersion
      | _ => 0) = some (.ok 2) ∧
    ((bumpRun issueBetween).pending 1).bind PanelStmt.writesVersion = some (1, 2) ∧
    (((bumpRun (issueBetween ++ finishChange)).result? 1).map fun r => r.map fun
      | .user u => u.sessionVersion
      | _ => 0) = some (.ok 2) ∧
    (((bumpRun (issueBetween ++ finishChange)).result? 3).map fun r => r.map fun
      | .user u => u.id
      | _ => 0) = some (.ok 1) := by
  decide +kernel

end Runs

end AsterYggdrasil.Panel
