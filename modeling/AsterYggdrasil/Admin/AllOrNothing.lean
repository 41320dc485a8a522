import AsterYggdrasil.Admin.UserDeletion

/-!
# All or nothing

A deleted account should leave nothing behind, and a deletion that fails should
have changed nothing (`AllOrNothing`).  `Deletable` says when no profile of the
account gets in the way; together with the accounts that are refused at once
these are exactly the ones for which the deletion is all or nothing
(`deleteUser_allOrNothing_iff`).
-/

namespace AsterYggdrasil.Admin

open Interleave Relational
open Interleave.Prog (Succeeds succeeds_ok succeeds_stmt succeeds_forEach)
open Textures

/-! ## What is expected -/

/-- Nothing of the user is left. -/
structure Gone (userId : Nat) (s : DirectoryState) : Prop where
  user : ∀ u ∈ s.db.users.rows, u.id ≠ userId
  profiles : ∀ p ∈ s.db.profiles.rows, p.userId ≠ userId
  tokens : ∀ t ∈ s.db.tokens.rows, t.userId ≠ userId
  bans : ∀ b ∈ s.db.bans.rows, b.userId ≠ userId
  textures : ∀ t ∈ s.textures.textures.rows, t.userId ≠ userId
  /-- every binding is one of a profile that is there -/
  bindings : ∀ b ∈ s.textures.bindings.rows, s.textures.hasProfile b.profileId = true
  presets : ∀ f ∈ s.textures.preferences.rows, s.textures.hasProfile f.profileId = true
  reports : ∀ r ∈ s.textures.reports.rows, r.reporterUserId ≠ userId
  sessions : ∀ r ∈ s.sessions.rows, r.userId ≠ userId
  userProfiles : ∀ p ∈ s.userProfiles, p.userId ≠ userId

/-- Avatars, profiles, textures, bindings and tokens are as before. -/
structure Unchanged (s s' : DirectoryState) : Prop where
  avatars : s'.userProfiles = s.userProfiles
  objects : s'.textures.objects = s.textures.objects
  profiles : s'.db.profiles.rows = s.db.profiles.rows
  textures : s'.textures.textures.rows = s.textures.textures.rows
  bindings : s'.textures.bindings.rows = s.textures.bindings.rows
  tokens : s'.db.tokens.rows = s.db.tokens.rows

theorem Unchanged.refl (s : DirectoryState) : Unchanged s s := ⟨rfl, rfl, rfl, rfl, rfl, rfl⟩

/-- A user other than the super administrator is deleted with everything that is
the user's, and an error has changed nothing. -/
def AllOrNothing (userId : Nat) (s : DirectoryState)
    (r : Except TextureFailure DeleteAdminUserOutput) (s' : DirectoryState) : Prop :=
  (userId ≠ superAdminUserId → s.textures.hasUser userId = true →
    (∃ out, r = .ok out) ∧ Gone userId s') ∧
  ∀ e, r = .error e → Unchanged s s'

/-- No profile of the user is in the way: the user may manage profiles, and none
is an official one. -/
def Deletable (userId : Nat) (s : TextureState) : Prop :=
  ∀ p ∈ s.service.db.profiles.rows, p.userId = userId →
    s.notBanned userId .minecraftProfileManage = true ∧ p.source ≠ .microsoft

/-! ## A profile that is in the way -/

section Stuck

variable {s : TextureState} {userId : Nat} {uuid : String}

theorem exec_sameProfiles {i : TextureStmt} (hdrop : i.kind ≠ .dropProfile)
    (haccount : i.kind ≠ .account) (s : TextureState) :
    (i.exec s).2.service.db.profiles.rows = s.service.db.profiles.rows := by
  cases i with
  | service i =>
      have hkeeps : i.keepsProfiles = true := by
        unfold TextureStmt.kind at hdrop haccount
        grind
      simp only [TextureStmt.exec, cascade_of_keeps hkeeps]
      exact exec_profiles hkeeps s.service
  | textureInsert | bindingInsert | bindingSetTexture | preferenceInsert
  | preferenceSetTexture | reportInsert | tagInsert =>
      simp only [TextureStmt.exec, TextureState.insertTexture, TextureState.insertBinding,
        TextureState.setBindingTexture, TextureState.insertPreference,
        TextureState.setPreferenceTexture, TextureState.insertReport,
        TextureState.insertTagBinding]
      repeat' split
      all_goals rfl
  | _ => rfl

/-- A profile stays where no profile is dropped. -/
theorem keeps_profile {α : Type} {kinds : List StmtKind} {p : TextureProg α}
    (q : MinecraftProfile) (hp : Touches kinds p) (hdrop : .dropProfile ∉ kinds)
    (haccount : .account ∉ kinds) :
    p.Keeps textureMachine (fun s => q ∈ s.service.db.profiles.rows) fun _ => True := by
  refine Prog.Within.keeps (Prog.Within.mono hp fun i hi s hs => ?_)
  have hkind : i.kind ≠ .dropProfile ∧ i.kind ≠ .account := by
    constructor
    · intro h
      rw [h] at hi
      exact hi.elim (fun h => by cases h) hdrop
    · intro h
      rw [h] at hi
      exact hi.elim (fun h => by cases h) haccount
  rw [exec_sameProfiles hkind.1 hkind.2]
  exact hs

/-- An official profile survives every attempt, and one on itself fails. -/
theorem ends_deleteProfile {q : MinecraftProfile} (hq : q ∈ s.service.db.profiles.rows)
    (hsource : q.source = .microsoft) (howner : q.userId = userId) :
    (Textures.deleteProfileForUser userId uuid).Ends textureMachine
      (fun s => q ∈ s.service.db.profiles.rows) (fun _ _ => q.uuid ≠ uuid) s := by
  refine (looks_ensureUserNotBanned _ _ _).bind_ends hq fun _ _ => ?_
  refine (looks_query rfl).bind_ends hq fun found hfound => ?_
  cases found with
  | none =>
      refine Prog.ends_ok hq fun huuid => ?_
      have hmiss := List.find?_eq_none.mp hfound.symm q hq
      simp [huuid, howner] at hmiss
  | some profile =>
      obtain ⟨hmem, hcond⟩ := Table.of_find? hfound.symm
      simp only [Bool.and_eq_true, decide_eq_true_eq] at hcond
      refine Prog.looks_rejectIf.bind_ends hq fun _ hlocal => ?_
      have hne : profile ≠ q := by
        rintro rfl
        simp [hsource] at hlocal
      have hother : q.uuid ≠ uuid := by
        intro huuid
        exact hne (s.service.db.profiles.eq_of_clash hmem hq
          (by simp [profileSchema, hcond.1, huuid]))
      have hid : q.id ≠ profile.id := fun h =>
        hne (s.service.db.profiles.eq_of_ident hmem hq h.symm)
      have hevicted : Touches [] (ofService (fun _ => TextureFailure.aster .databaseOperation)
          (invalidateTokenCacheForSelectedProfile profile.id)) :=
        touches_service (keeps_invalidateForProfile profile.id)
      refine Prog.Ends.bind (keeps_profile q hevicted (by simp) (by simp) s hq)
        fun _ s₁ hq₁ _ => ?_
      have hdeleted : Touches [.unbind, .remove, .erase]
          ((deleteAllTexturesForProfile profile).hoist ⟨id, fun _ r => r⟩
            TextureFailure.asInternal) :=
        Prog.Within.hoist (touches_deleteAllTexturesForProfile profile)
      refine Prog.Ends.bind (keeps_profile q hdeleted (by simp) (by simp) s₁ hq₁)
        fun _ s₂ hq₂ _ => ?_
      refine Prog.Ends.bind (K := fun _ _ => True) ⟨hq₂, fun _ _ => trivial⟩
        fun _ s₃ hq₃ _ => ?_
      refine (looks_query rfl).bind_ends hq₃ fun found _ => ?_
      dsimp only
      split
      · exact ⟨List.mem_filter.mpr ⟨hq₃, by simpa using hid⟩, fun _ _ => hother⟩
      · exact Prog.ends_ok hq₃ hother

/-- A ban stops the deletion of every profile. -/
theorem banned_deleteProfile (hban : s.notBanned userId .minecraftProfileManage = false) :
    (Textures.deleteProfileForUser userId uuid).Wp textureMachine
      (fun r _ => ∃ e, r = .error e) s := by
  refine (looks_ensureUserNotBanned _ _ _).wp_bind (fun e => ⟨e, rfl⟩) fun _ h => ?_
  rw [hban] at h
  cases h

end Stuck

/-! ## The steps of the whole deletion -/

section Steps

variable {α : Type} {userId : Nat} {s : DirectoryState}

theorem cascade_textures (i : TextureStmt) (s : DirectoryState) :
    (DirectoryState.cascade i s).textures = s.textures := by
  unfold DirectoryState.cascade
  split <;> rfl

theorem view_textures (i : TextureStmt) (s : DirectoryState) :
    ((DeletionStmt.texture i).exec s).1 = (i.exec s.textures).1 ∧
      ((DeletionStmt.texture i).exec s).2.textures = (i.exec s.textures).2 :=
  ⟨rfl, cascade_textures i _⟩

/-- On the textures a call of the texture service does what it does there. -/
theorem run_onTextures (p : TextureProg α) (s : DirectoryState) :
    ((onTextures p).run deletionMachine s).1 = (p.run textureMachine s.textures).1 ∧
      ((onTextures p).run deletionMachine s).2.textures =
        (p.run textureMachine s.textures).2 := by
  obtain ⟨hresult, hstate⟩ := Prog.run_hoist_part (M := textureMachine) (N := deletionMachine)
    (h := texturesHom) (g := id) (fun i s => view_textures i s) p s
  refine ⟨hresult.trans ?_, hstate⟩
  cases (p.run textureMachine s.textures).1 <;> rfl

/-- The statements of a deletion, but for the last one. -/
def deletes : DeletionStmt → Bool
  | .texture i => wanes i
  | _ => true

theorem exec_deletes {i : DeletionStmt} (hi : deletes i = true) (s : DirectoryState) :
    Wanes s.textures (i.exec s).2.textures := by
  cases i with
  | texture i =>
      rw [(view_textures i s).2]
      exact exec_wanes hi s.textures
  | _ => exact Wanes.refl _

abbrev Deleting (p : DeletionProg α) : Prop := p.Within fun i => deletes i = true

/-- What is known after a part of the deletion. -/
theorem succeeds_deletes {p : DeletionProg α} {K L : α → DirectoryState → Prop}
    (hp : p.Succeeds deletionMachine K s) (hw : Deleting p)
    (h : ∀ a s', Wanes s.textures s'.textures → K a s' → L a s') :
    p.Succeeds deletionMachine L s := by
  have hwithin := Prog.Within.mono hw fun _ hi => exec_deletes hi
  exact (hp.respects (r := fun s s' : DirectoryState => Wanes s.textures s'.textures)
    (fun _ => Wanes.refl _) (fun _ _ _ => Wanes.trans) hwithin).mono
    fun a s' hr => h a s' hr.1 hr.2

theorem deleting_onTextures {p : TextureProg α} (hp : Waning p) : Deleting (onTextures p) :=
  Prog.Within.hoist hp

theorem deleting_onService {p : Service α}
    (hp : p.Within fun i => serviceWanes i = true) : Deleting (onService p) :=
  deleting_onTextures (Prog.Within.hoist hp)

theorem succeeds_onTextures {p : TextureProg α} {K : α → TextureState → Prop}
    (hp : p.Succeeds textureMachine K s.textures) :
    (onTextures p).Succeeds deletionMachine (fun a s' => K a s'.textures) s :=
  Succeeds.hoist (M := textureMachine) (N := deletionMachine)
    (fun i s => view_textures i s) hp

theorem succeeds_onService {p : Service α}
    (hp : p.Succeeds serviceMachine (fun _ _ => True) s.textures.service) :
    (onService p).Succeeds deletionMachine (fun _ _ => True) s :=
  succeeds_onTextures (succeeds_ofService hp)

/-! ### The profiles -/

theorem Deletable.wanes {s s' : TextureState} (h : Deletable userId s) (hw : Wanes s s') :
    ∀ p ∈ s'.service.db.profiles.rows, p.userId = userId → p.source ≠ .microsoft :=
  fun p hp howner => (h p (hw.profiles hp) howner).2

theorem notBanned_wanes {s s' : TextureState} (hw : Wanes s s') (scope : UserBanScope) :
    s'.notBanned userId scope = s.notBanned userId scope := by
  show (!(Db.findEffectiveBan _ _ _).isSome) = !(Db.findEffectiveBan _ _ _).isSome
  rw [Db.findEffectiveBan, Db.findEffectiveBan, hw.bans, hw.now]

/-- Profiles of a deletable account are deleted. -/
theorem succeeds_deleteProfiles (hs : BindingsRefer s.textures)
    (hdel : Deletable userId s.textures) {profiles : List MinecraftProfile}
    (hprofiles : ∀ p ∈ profiles, p ∈ s.db.profiles.rows ∧ p.userId = userId) :
    (deleteProfiles userId profiles).Succeeds deletionMachine
      (fun _ s' => Wanes s.textures s'.textures) s := by
  refine succeeds_forEach profiles (fun p hp s₁ hw => ?_) (Wanes.refl _)
  have hban : s₁.textures.notBanned userId .minecraftProfileManage = true := by
    rw [notBanned_wanes hw]
    exact (hdel p (hprofiles p hp).1 (hprofiles p hp).2).1
  have hprofile : (onTextures (Textures.deleteProfileForUser userId p.uuid)).Succeeds
      deletionMachine (fun _ _ => True) s₁ :=
    succeeds_onTextures (succeeds_deleteProfileForUser (hw.refer hs) hban (hdel.wanes hw))
  refine Succeeds.bind (succeeds_deletes (L := fun _ s' => Wanes s.textures s'.textures)
    hprofile (deleting_onTextures (waning_deleteProfileForUser _ _))
    fun _ _ h _ => hw.trans h) fun _ _ h => succeeds_ok h

/-- A program that ends in an error. -/
abbrev Fails (p : DeletionProg α) (s : DirectoryState) : Prop :=
  p.Wp deletionMachine (fun r _ => ∃ e, r = .error e) s

/-- An official profile of the account stops the deletion. -/
theorem deleteProfiles_stuck {q : MinecraftProfile} (hsource : q.source = .microsoft)
    (howner : q.userId = userId) {profiles : List MinecraftProfile} (hlisted : q ∈ profiles)
    (hq : q ∈ s.db.profiles.rows) : Fails (deleteProfiles userId profiles) s := by
  induction profiles generalizing s with
  | nil => cases hlisted
  | cons p profiles ih =>
      have hends : (Textures.deleteProfileForUser userId p.uuid).Ends textureMachine _ _ _ :=
        ends_deleteProfile hq hsource howner
      obtain ⟨hkept, hother⟩ := hends
      obtain ⟨hresult, hstate⟩ := run_onTextures (Textures.deleteProfileForUser userId p.uuid) s
      refine Prog.wp_bind.mpr (Prog.wp_run_bind (fun done s' hrun => ?_) fun e _ _ => ⟨e, rfl⟩)
      rw [hrun] at hresult hstate
      have hne : q ≠ p := by
        rintro rfl
        exact hother done hresult.symm rfl
      refine ih ((List.mem_cons.mp hlisted).resolve_left hne) ?_
      show q ∈ s'.textures.service.db.profiles.rows
      rw [hstate]
      exact hkept

/-- A ban stops the deletion at the first profile. -/
theorem deleteProfiles_banned
    (hban : s.textures.notBanned userId .minecraftProfileManage = false)
    {profiles : List MinecraftProfile} (hne : profiles ≠ []) :
    Fails (deleteProfiles userId profiles) s := by
  cases profiles with
  | nil => exact absurd rfl hne
  | cons p profiles =>
      have hfails : (Textures.deleteProfileForUser userId p.uuid).Wp textureMachine _ _ :=
        banned_deleteProfile hban
      obtain ⟨e, he⟩ := hfails
      have hresult := (run_onTextures (Textures.deleteProfileForUser userId p.uuid) s).1.trans he
      refine Prog.wp_bind.mpr (Prog.wp_run_bind (fun done s' hrun => ?_) fun e _ _ => ⟨e, rfl⟩)
      rw [hrun] at hresult
      cases hresult

/-! ### The avatar and the wardrobe -/

theorem deleting_uploadedAvatar (userId : Nat) :
    Deleting (deleteUploadedAvatarForUser userId) := by
  have hobject : ∀ key, Deleting (sql (.texture (.objectDelete key))) :=
    fun _ => ⟨rfl, fun _ => trivial⟩
  refine Prog.Within.stmt_bind rfl fun found => ?_
  cases found with
  | none => trivial
  | some profile =>
      dsimp only
      unfold deleteUploadObjects
      split
      · trivial
      · split
        · trivial
        · exact Prog.Within.forEach (fun _ => hobject _) avatarSizes

/-- Only objects are deleted with the avatar. -/
theorem succeeds_uploadedAvatar (userId : Nat) (s : DirectoryState) :
    (deleteUploadedAvatarForUser userId).Succeeds deletionMachine
      (fun _ s' => s'.textures.service = s.textures.service) s := by
  refine Succeeds.stmt_bind ?_
  dsimp only
  split
  · unfold deleteUploadObjects
    split
    · exact succeeds_ok rfl
    · split
      · exact succeeds_ok rfl
      · exact succeeds_forEach avatarSizes (fun _ _ _ hs => ⟨_, rfl, hs⟩) rfl
  · exact succeeds_ok rfl

theorem waning_deleteWardrobeTexture (userId id : Nat) :
    Waning (deleteWardrobeTextureUnchecked userId id) := by
  refine Waning.after_query rfl fun _ => (waning_deleteByIdForUser _ _).bind fun deleted => ?_
  refine waning_required.bind fun texture => ?_
  exact (waning_cleanupTextureBlob _).bind fun _ => trivial

/-- Only a texture that is not there cannot be deleted. -/
theorem wp_deleteWardrobeTexture (userId id : Nat) (s : TextureState) :
    (deleteWardrobeTextureUnchecked userId id).Wp textureMachine
      (fun r _ => ∀ e, r = .error e → isNotFound e = true) s := by
  refine Prog.wp_stmt_bind.mpr (Prog.wp_bind.mpr
    (Prog.Wp.mono (succeeds_deleteByIdForUser id userId _) ?_))
  rintro _ s₁ ⟨deleted, rfl, -⟩
  cases deleted with
  | none =>
      rintro e ⟨⟩
      rfl
  | some texture =>
      have hcleaned : ((cleanupTextureBlobIfUnreferenced texture.storageKey).bind
          fun _ => .ok texture).Succeeds textureMachine (fun _ _ => True) s₁ :=
        (succeeds_cleanupTextureBlob _ _).bind fun _ _ _ => succeeds_ok trivial
      obtain ⟨_, hok, -⟩ := hcleaned
      intro e he
      cases hok.symm.trans he

theorem deleting_deleteWardrobeTextures (userId : Nat) (textures : List MinecraftTexture) :
    Deleting (deleteWardrobeTextures userId textures) := by
  induction textures with
  | nil => trivial
  | cons texture textures ih =>
      have hone : Deleting (onTextures (deleteWardrobeTextureUnchecked userId texture.id)) :=
        deleting_onTextures (waning_deleteWardrobeTexture _ _)
      refine hone.attempt.bind fun outcome => ?_
      cases outcome with
      | ok deleted => exact ih.bind fun _ => trivial
      | error e =>
          dsimp only
          split
          · exact ih
          · trivial

theorem succeeds_deleteWardrobeTextures (userId : Nat) (textures : List MinecraftTexture)
    (s : DirectoryState) :
    (deleteWardrobeTextures userId textures).Succeeds deletionMachine
      (fun _ _ => True) s := by
  induction textures generalizing s with
  | nil => exact succeeds_ok trivial
  | cons texture textures ih =>
      have hone : (onTextures (deleteWardrobeTextureUnchecked userId texture.id)).Wp
          deletionMachine (fun r _ => ∀ e, r = .error e → isNotFound e = true) s := by
        intro e he
        exact wp_deleteWardrobeTexture userId texture.id s.textures e
          ((run_onTextures _ s).1.symm.trans he)
      refine Prog.wp_bind.mpr (Prog.wp_attempt.mpr (Prog.Wp.mono hone fun r s' hr => ?_))
      cases r with
      | ok deleted => exact (ih s').bind fun _ _ _ => succeeds_ok trivial
      | error e =>
          show Prog.Wp _ _ (if isNotFound e then _ else _) s'
          rw [if_pos (hr e rfl)]
          exact ih s'

/-! ### The rest -/

/-- The row of the user takes along what is left. -/
theorem gone_userDelete (userId : Nat) (s : DirectoryState) :
    Gone userId ((DeletionStmt.texture (.service (.db (.userDelete userId)))).exec s).2 where
  user u hu := by simpa using (List.mem_filter.mp hu).2
  profiles p hp := by simpa using (List.mem_filter.mp hp).2
  tokens t ht := by simpa using (List.mem_filter.mp ht).2
  bans b hb := by simpa using (List.mem_filter.mp hb).2
  textures t ht := by simpa using (List.mem_filter.mp ht).2
  bindings b hb := (Bool.not_not _).symm.trans (List.mem_filter.mp hb).2
  presets f hf := (Bool.not_not _).symm.trans (List.mem_filter.mp hf).2
  reports r hr := by simpa using (List.mem_filter.mp hr).2
  sessions r hr := by simpa using (List.mem_filter.mp hr).2
  userProfiles p hp := by simpa using (List.mem_filter.mp hp).2

theorem Wanes.hasUser {s s' : TextureState} (h : Wanes s s') :
    s'.hasUser userId = s.hasUser userId := by
  rw [TextureState.hasUser, TextureState.hasUser, h.users]

/-- A user who is there is found. -/
theorem succeeds_userById (huser : s.textures.hasUser userId = true) :
    (userById userId).Succeeds deletionMachine (fun _ s' => s' = s) s := by
  obtain ⟨u, hu⟩ := Option.isSome_iff_exists.mp huser
  refine Succeeds.stmt_bind ?_
  simp only [DeletionStmt.exec, TextureStmt.exec, ServiceStmt.exec, DbStmt.exec, hu]
  exact succeeds_ok rfl

/-- A part of the deletion while the user is there. -/
theorem succeeds_hasUser {p : DeletionProg α} (hp : p.Succeeds deletionMachine (fun _ _ => True) s)
    (hw : Deleting p) (huser : s.textures.hasUser userId = true) :
    p.Succeeds deletionMachine (fun _ s' => s'.textures.hasUser userId = true) s :=
  succeeds_deletes hp hw fun _ _ h _ => h.hasUser.trans huser

theorem succeeds_deleteRest (huser : s.textures.hasUser userId = true) (user : AdminUserInfo) :
    (deleteRest userId user).Succeeds deletionMachine (fun _ s' => Gone userId s') s := by
  have hall : (deleteAllWardrobeTexturesForUser userId).Succeeds deletionMachine
      (fun _ _ => True) s :=
    Succeeds.stmt_bind (succeeds_deleteWardrobeTextures userId _ _)
  have hwardrobe : ((deleteAllWardrobeTexturesForUser userId).hoist ⟨id, fun _ r => r⟩
      TextureFailure.asInternal : DeletionProg _).Succeeds deletionMachine
        (fun _ _ => True) s :=
    (Succeeds.hoist (N := deletionMachine) (h := ⟨id, fun _ r => r⟩)
      (g := TextureFailure.asInternal) (fun _ _ => ⟨rfl, rfl⟩) hall).mono fun _ _ _ => trivial
  have hdeleting : Deleting ((deleteAllWardrobeTexturesForUser userId).hoist
      ⟨id, fun _ r => r⟩ TextureFailure.asInternal : DeletionProg _) :=
    Prog.Within.hoist (Prog.Within.stmt_bind rfl
      fun textures => deleting_deleteWardrobeTextures userId textures)
  refine (succeeds_hasUser hwardrobe hdeleting huser).bind fun deleted s₁ h₁ => ?_
  refine Succeeds.stmt_bind ?_
  have hlisted : (onService (invalidateTokenCacheForUser userId)).Succeeds deletionMachine
      (fun _ _ => True) (DeletionStmt.exec (.sessionRevokeForUser userId) s₁).2 :=
    succeeds_onService (Succeeds.stmt_bind
      ((succeeds_invalidateHashes _ _).bind fun _ _ _ => succeeds_ok trivial))
  refine (succeeds_hasUser hlisted ?_ h₁).bind fun tokenHashes s₂ h₂ => ?_
  · exact deleting_onService (Prog.Within.stmt_bind rfl
      fun hashes => (waning_invalidateHashes hashes).bind fun _ => trivial)
  have hrevoked : (onService (onPool .aster (revokeAllForUserReturningHashes userId))).Succeeds
      deletionMachine (fun _ _ => True) s₂ := by
    refine succeeds_onService ?_
    rw [onPool_revokeAllForUser]
    exact ⟨_, rfl, trivial⟩
  refine (succeeds_hasUser hrevoked ?_ h₂).bind fun _ s₃ h₃ => ?_
  · refine deleting_onService ?_
    rw [onPool_revokeAllForUser]
    exact ⟨rfl, fun _ => ⟨rfl, fun _ => ⟨rfl, fun _ => ⟨rfl, fun _ => ⟨rfl, fun _ => trivial⟩⟩⟩⟩⟩
  refine (succeeds_hasUser (succeeds_onService (succeeds_invalidateHashes tokenHashes _)) ?_
    h₃).bind fun _ s₄ h₄ => ?_
  · exact deleting_onService (waning_invalidateHashes tokenHashes)
  refine (succeeds_userById h₄).bind ?_
  rintro _ _ rfl
  exact Succeeds.stmt_bind (succeeds_ok (gone_userDelete userId _))

end Steps

/-! ## The whole -/

section Whole

variable {userId : Nat} {s : DirectoryState}

theorem fails_after {α β : Type} {p : DeletionProg α} {f : α → DeletionProg β}
    {K : α → DirectoryState → Prop} (hp : p.Succeeds deletionMachine K s)
    (hf : ∀ a s', K a s' → Fails (f a) s') : Fails (p.bind f) s := by
  refine Prog.wp_bind.mpr (Prog.Wp.mono hp ?_)
  rintro _ s' ⟨a, rfl, ha⟩
  exact hf a s' ha

theorem Fails.bind {α β : Type} {p : DeletionProg α} {f : α → DeletionProg β}
    (hp : Fails p s) : Fails (p.bind f) s := by
  refine Prog.wp_bind.mpr (Prog.Wp.mono hp ?_)
  rintro _ s' ⟨e, rfl⟩
  exact ⟨e, rfl⟩

theorem looks_getUser :
    (getUser userId).Looks deletionMachine s fun _ => s.textures.hasUser userId = true := by
  refine Prog.Looks.bind (K := fun _ => s.textures.hasUser userId = true) ?_
    fun user huser => ⟨rfl, fun _ _ => huser⟩
  refine Prog.Looks.bind (Prog.looks_stmt rfl) fun found hfound => ?_
  cases found with
  | none => exact Prog.looks_err _
  | some user =>
      refine Prog.looks_ok ?_
      exact (congrArg Option.isSome hfound).symm

theorem succeeds_getUser (huser : s.textures.hasUser userId = true) :
    (getUser userId).Succeeds deletionMachine (fun _ s' => s' = s) s := by
  refine (succeeds_userById huser).bind ?_
  rintro user _ rfl
  exact ⟨_, rfl, rfl⟩

theorem mem_listed {p : MinecraftProfile} {db : Db} :
    p ∈ (DbStmt.exec (.profileListByUser userId) db).1 ↔
      p ∈ db.profiles.rows ∧ p.userId = userId := by
  show p ∈ List.insertionSort _ _ ↔ _
  rw [List.mem_insertionSort]
  simp [Table.select]

/-- The deletion up to the profiles, and what it has left of the service. -/
theorem deleteUser_eq (hsuper : userId ≠ superAdminUserId) :
    deleteUser userId = (getUser userId).bind fun user =>
      (deleteUploadedAvatarForUser userId).bind fun _ =>
      (sql (.texture (.service (.db (.profileListByUser userId))))).bind fun profiles =>
      (deleteProfiles userId profiles).bind fun _ => deleteRest userId user := by
  simp only [deleteUser, Prog.bind_eq, hsuper, decide_false]
  rfl

/-- **A deletable account is deleted.** -/
theorem succeeds_deleteUser (hs : BindingsRefer s.textures) (hsuper : userId ≠ superAdminUserId)
    (huser : s.textures.hasUser userId = true) (hdel : Deletable userId s.textures) :
    (deleteUser userId).Succeeds deletionMachine (fun _ s' => Gone userId s') s := by
  rw [deleteUser_eq hsuper]
  refine (succeeds_getUser huser).bind ?_
  rintro user s rfl
  refine (succeeds_deletes (L := fun _ s' => Wanes s.textures s'.textures)
    (succeeds_uploadedAvatar userId s) (deleting_uploadedAvatar userId)
    fun _ _ h _ => h).bind fun _ s₁ hw => ?_
  refine Succeeds.stmt_bind ?_
  have hdel₁ : Deletable userId s₁.textures := by
    intro p hp howner
    rw [notBanned_wanes hw]
    exact hdel p (hw.profiles hp) howner
  refine (succeeds_deleteProfiles (hw.refer hs) hdel₁ fun p hp => mem_listed.mp hp).bind
    fun _ s₂ hw₂ => ?_
  exact succeeds_deleteRest (hw₂.hasUser.trans (hw.hasUser.trans huser)) user

/-- **An account with a profile in the way is not deleted.** -/
theorem fails_deleteUser (huser : s.textures.hasUser userId = true)
    (hsuper : userId ≠ superAdminUserId) (hdel : ¬ Deletable userId s.textures) :
    Fails (deleteUser userId) s := by
  obtain ⟨p, hp, howner, hcause⟩ : ∃ p ∈ s.db.profiles.rows, p.userId = userId ∧
      (s.textures.notBanned userId .minecraftProfileManage = false ∨
        p.source = .microsoft) := by
    by_contra hnone
    refine hdel fun p hp howner => ?_
    by_contra hbad
    refine hnone ⟨p, hp, howner, ?_⟩
    rwa [not_and_or, Bool.not_eq_true, not_not] at hbad
  rw [deleteUser_eq hsuper]
  refine fails_after (succeeds_getUser huser) ?_
  rintro user s rfl
  refine fails_after (succeeds_uploadedAvatar userId s) fun _ s₁ hservice => ?_
  have hlisted : p ∈ (DbStmt.exec (.profileListByUser userId) s₁.textures.service.db).1 := by
    rw [hservice]
    exact mem_listed.mpr ⟨hp, howner⟩
  refine Fails.bind (p := deleteProfiles userId _) ?_
  rcases hcause with hban | hsource
  · refine deleteProfiles_banned ?_ (List.ne_nil_of_mem hlisted)
    show s₁.textures.notBanned userId _ = false
    rw [TextureState.notBanned, hservice]
    exact hban
  · refine deleteProfiles_stuck hsource howner hlisted ?_
    show p ∈ s₁.textures.service.db.profiles.rows
    rw [hservice]
    exact hp

/-- The accounts that are deleted or left as they are. -/
def Deletes (userId : Nat) (s : DirectoryState) : Prop :=
  userId = superAdminUserId ∨ s.textures.hasUser userId = false ∨
    Deletable userId s.textures

/-- **When a deletion is all or nothing.**  It is exactly if the account has no
profile, or may manage its profiles and has no official one. -/
theorem deleteUser_allOrNothing_iff (hs : BindingsRefer s.textures) :
    (deleteUser userId).Wp deletionMachine (AllOrNothing userId s) s ↔ Deletes userId s := by
  by_cases hsuper : userId = superAdminUserId
  · refine iff_of_true ?_ (Or.inl hsuper)
    simp only [deleteUser, Prog.bind_eq, hsuper, decide_true]
    exact ⟨fun h => absurd rfl h, fun e he => .refl s⟩
  rw [Deletes, or_iff_right hsuper]
  cases huser : s.textures.hasUser userId with
  | false =>
      refine iff_of_true ?_ (Or.inl rfl)
      rw [deleteUser_eq hsuper]
      refine looks_getUser.wp_bind (fun e => ⟨fun _ h => ?_, fun _ _ => .refl s⟩) fun _ h => ?_
      all_goals
        rw [huser] at h
        cases h
  | true =>
      rw [or_iff_right (by simp)]
      constructor
      · intro hall
        by_contra hdel
        obtain ⟨e, he⟩ := fails_deleteUser huser hsuper hdel
        obtain ⟨⟨out, hout⟩, -⟩ := hall.1 hsuper huser
        cases hout.symm.trans he
      · intro hdel
        obtain ⟨out, hout, hgone⟩ := succeeds_deleteUser hs hsuper huser hdel
        exact ⟨fun _ _ => ⟨⟨out, hout⟩, hgone⟩, fun e he => by cases hout.symm.trans he⟩

/-- The two players; Bob has an uploaded avatar. -/
def bobsAccount : DirectoryState where
  textures :=
    { twoPlayers with
      objects := [("avatar/user/2/v1/512.webp", [5]), ("avatar/user/2/v1/1024.webp", [6])] }
  sessions := .empty
  userProfiles := [⟨2, none, .upload, some "avatar/user/2/v1", 1, 0, 0⟩]

/-- Bob has an official profile besides his local one. -/
def bobsOfficialProfile : DirectoryState :=
  { bobsAccount with
    textures :=
      { bobsAccount.textures with
        service :=
          { twoPlayers.service with
            db :=
              { twoPlayers.service.db with
                profiles := ⟨[⟨1, 2, "uuid2", "Bob", "bob", .localProfile, .default,
                    "skin,cape", 0, 0, 0⟩,
                  ⟨2, 2, "uuid4", "BobMs", "bobms", .microsoft, .default, "skin,cape", 0, 0,
                    0⟩], 3, by decide, by decide⟩ } } } }

/-- Bob's account is deleted. -/
theorem bob_deleted :
    (deleteUser 2).Wp deletionMachine (AllOrNothing 2 bobsAccount) bobsAccount := by
  refine (deleteUser_allOrNothing_iff ?_).mpr (Or.inr (Or.inr ?_))
  · intro b hb
    cases hb
  · intro p hp howner
    have hlocal : ∀ p ∈ twoPlayers.service.db.profiles.rows, p.source ≠ .microsoft := by
      decide +kernel
    exact ⟨by decide +kernel, hlocal p hp⟩

/-- **An account that is half deleted.**  The official profile is rejected; the
avatar and the local profile are gone, the user is not. -/
theorem official_profile_blocks :
    ((deleteUser 2).run deletionMachine bobsOfficialProfile).1 =
        .error (.aster (.authForbidden (some .minecraftProfileDeleteForbidden)
          "official Minecraft profile cannot be deleted on this site")) ∧
      ((deleteUser 2).run deletionMachine bobsOfficialProfile).2.textures.objects = [] ∧
      ((deleteUser 2).run deletionMachine bobsOfficialProfile).2.db.profiles.rows.map
        MinecraftProfile.uuid = ["uuid4"] ∧
      ((deleteUser 2).run deletionMachine bobsOfficialProfile).2.textures.hasUser 2 = true ∧
      ¬ (deleteUser 2).Wp deletionMachine (AllOrNothing 2 bobsOfficialProfile)
        bobsOfficialProfile := by
  have hrejected : ((deleteUser 2).run deletionMachine bobsOfficialProfile).1 =
      .error (.aster (.authForbidden (some .minecraftProfileDeleteForbidden)
        "official Minecraft profile cannot be deleted on this site")) := by
    decide +kernel
  refine ⟨hrejected, by decide +kernel, by decide +kernel, by decide +kernel, fun h => ?_⟩
  obtain ⟨out, hout⟩ := (h.1 (by decide) (by decide +kernel)).1
  cases hrejected.symm.trans hout

end Whole

end AsterYggdrasil.Admin
