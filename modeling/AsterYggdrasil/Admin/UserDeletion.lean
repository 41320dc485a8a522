import AsterYggdrasil.Panel.Sessions
import AsterYggdrasil.Texture.Bindings

/-!
# Deleting an account

An administrator deletes an account in a dozen steps, none of them in a
transaction: the objects of the avatar, every profile with its textures and
tokens, the wardrobe, the sessions, the tokens, and at last the row of the user,
which takes along what is left.  A profile is deleted the way its owner would
delete it, so a ban and an official profile stop the deletion half way.

Every statement of the deletion but the last only takes content away (`Wanes`),
so what makes a profile deletable lasts to the end.
-/

namespace AsterYggdrasil.Admin

open Interleave Relational
open Interleave.Prog (Succeeds succeeds_ok succeeds_stmt succeeds_forEach)
open Textures

/-! ## The state -/

inductive AvatarSource
  | none | gravatar | upload
  deriving DecidableEq, Repr

/-- A row of `user_profiles`. -/
structure UserProfile where
  userId : Nat
  displayName : Option String
  avatarSource : AvatarSource
  avatarKey : Option String
  avatarVersion : Nat
  createdAt : Nat
  updatedAt : Nat
  deriving DecidableEq, Repr

/-- The textures with the accounts under them, the sessions of the panel, and
the profiles of the users. -/
structure DirectoryState where
  textures : TextureState
  sessions : Table Panel.sessionSchema
  userProfiles : List UserProfile

namespace DirectoryState

def db (s : DirectoryState) : Db := s.textures.service.db

/-- `ON DELETE CASCADE` of a user, on the tables beside the textures. -/
def dropUser (s : DirectoryState) (userId : Nat) : DirectoryState :=
  { s with
    sessions := s.sessions.delete fun r => r.userId = userId
    userProfiles := s.userProfiles.filter fun p => p.userId ≠ userId }

def cascade (i : TextureStmt) (s : DirectoryState) : DirectoryState :=
  match i with
  | .service (.db (.userDelete userId)) => s.dropUser userId
  | _ => s

end DirectoryState

/-- One statement of the deletion, or one access to the object store. -/
inductive DeletionStmt
  | texture (i : TextureStmt)
  | textureListByUser (userId : Nat)
  | userProfileFind (userId : Nat)
  | sessionCountActive (userId : Nat)
  | sessionRevokeForUser (userId : Nat)

@[reducible] def DeletionStmt.Reply : DeletionStmt → Type
  | .texture i => i.Reply
  | .textureListByUser _ => List MinecraftTexture
  | .userProfileFind _ => Option UserProfile
  | .sessionCountActive _ | .sessionRevokeForUser _ => Nat

@[reducible] def deletionSignature : Signature := ⟨DeletionStmt, DeletionStmt.Reply⟩

/-- What one statement does. -/
def DeletionStmt.exec : (i : DeletionStmt) → DirectoryState → i.Reply × DirectoryState
  | .texture i, s =>
      ((i.exec s.textures).1,
        DirectoryState.cascade i { s with textures := (i.exec s.textures).2 })
  | .textureListByUser userId, s =>
      -- ordered by `updated_at` and `id`, both descending
      ((s.textures.textures.select fun t => t.userId = userId && t.isWardrobeItem).insertionSort
        fun a b => b.updatedAt < a.updatedAt ∨ b.updatedAt = a.updatedAt ∧ b.id ≤ a.id, s)
  | .userProfileFind userId, s => (s.userProfiles.find? fun p => p.userId = userId, s)
  | .sessionCountActive userId, s =>
      ((s.sessions.select fun r => r.userId = userId && r.revokedAt.isNone &&
        decide (s.textures.now < r.refreshExpiresAt)).length, s)
  | .sessionRevokeForUser userId, s =>
      let live := fun r : Panel.AuthSession => r.userId = userId && r.revokedAt.isNone
      ((s.sessions.select live).length,
        { s with
          sessions := s.sessions.modify live
            (fun r => { r with revokedAt := some s.textures.now }) (fun _ => rfl)
            fun _ _ => rfl })

/-- The statements of the deletion as a machine. -/
@[reducible] def deletionMachine : Machine deletionSignature where
  State := DirectoryState
  exec := DeletionStmt.exec

abbrev DeletionProg := Prog deletionSignature TextureFailure

def sql (i : DeletionStmt) : DeletionProg i.Reply := Prog.stmt (S := deletionSignature) i

def texturesHom : Signature.Hom textureSignature deletionSignature :=
  ⟨.texture, fun _ r => r⟩

/-- A call of the texture service, or of the service below it. -/
def onTextures {α : Type} (p : TextureProg α) : DeletionProg α := p.hoist texturesHom id

/-! ## The parts of the deletion -/

/-- `AVATAR_SIZE_SM` and `AVATAR_SIZE_LG`. -/
def avatarSizes : List Nat := [512, 1024]

/-- `user_avatar_prefix`. -/
def userAvatarPrefix (userId version : Nat) : String := s!"avatar/user/{userId}/v{version}"

/-- `user_avatar_variant_key`. -/
def userAvatarVariantKey (keyPrefix : String) (size : Nat) : String :=
  s!"{keyPrefix}/{size}.webp"

/-- `resolve_stored_avatar_prefix`: the stored prefix, if it is the expected one. -/
def resolveStoredAvatarPrefix (profile : UserProfile) : Option String :=
  ((profile.avatarKey.map External.trim).filter fun stored => stored ≠ "").filter
    fun stored => stored = userAvatarPrefix profile.userId profile.avatarVersion

/-- `delete_upload_objects`. -/
def deleteUploadObjects (profile : UserProfile) : DeletionProg Unit :=
  if profile.avatarSource ≠ .upload then pure ()
  else
    match resolveStoredAvatarPrefix profile with
    | none => pure ()
    | some keyPrefix => Prog.forEach avatarSizes fun size =>
        sql (.texture (.objectDelete (userAvatarVariantKey keyPrefix size)))

/-- `delete_uploaded_avatar_for_user`. -/
def deleteUploadedAvatarForUser (userId : Nat) : DeletionProg Unit := do
  match ← sql (.userProfileFind userId) with
  | some profile => deleteUploadObjects profile
  | none => pure ()

/-- `delete_wardrobe_texture_unchecked`: `delete_wardrobe_texture` without the
check for a ban. -/
def deleteWardrobeTextureUnchecked (userId wardrobeTextureId : Nat) :
    TextureProg MinecraftTexture := do
  let _ ← Textures.query (.bindingListByTexture wardrobeTextureId)
  let deleted ← required (wardrobeTextureNotFound wardrobeTextureId)
    (← deleteByIdForUser wardrobeTextureId userId)
  cleanupTextureBlobIfUnreferenced deleted.storageKey
  pure deleted

/-- `error.kind() == TextureErrorKind::NotFound`. -/
def isNotFound : TextureFailure → Bool
  | .texture e => e.kind = .notFound
  | .aster _ => false

/-- The loop of `delete_all_wardrobe_textures_for_user`. -/
def deleteWardrobeTextures (userId : Nat) :
    List MinecraftTexture → DeletionProg (List MinecraftTexture)
  | [] => pure []
  | texture :: textures => do
      match ← (onTextures (deleteWardrobeTextureUnchecked userId texture.id)).attempt with
      | .ok deleted => do
          let rest ← deleteWardrobeTextures userId textures
          pure (deleted :: rest)
      | .error e =>
          if isNotFound e then deleteWardrobeTextures userId textures
          else .err e

/-- `delete_all_wardrobe_textures_for_user`. -/
def deleteAllWardrobeTexturesForUser (userId : Nat) :
    DeletionProg (List MinecraftTexture) := do
  let textures ← sql (.textureListByUser userId)
  deleteWardrobeTextures userId textures

/-- `user_repo::find_by_id`. -/
def userById (id : Nat) : DeletionProg User := do
  match ← sql (.texture (.service (.db (.userFindById id)))) with
  | some user => pure user
  | none => .err (.aster (.recordNotFound s!"user #{id}"))

/-- `AdminUserInfo`, as far as the deletion reports it. -/
structure AdminUserInfo where
  user : User
  profileCount : Nat
  activeSessionCount : Nat
  profile : Option UserProfile
  deriving DecidableEq, Repr

/-- `get_user`. -/
def getUser (id : Nat) : DeletionProg AdminUserInfo := do
  let user ← userById id
  let profileCount ← sql (.texture (.service (.db (.profileCountByUser id))))
  let activeSessionCount ← sql (.sessionCountActive id)
  let profile ← sql (.userProfileFind id)
  pure ⟨user, profileCount, activeSessionCount, profile⟩

/-- `DeleteAdminUserOutput`, without what the deletions of the profiles count. -/
structure DeleteAdminUserOutput where
  user : AdminUserInfo
  deletedProfileCount : Nat
  deletedWardrobeTextureCount : Nat
  revokedSessionCount : Nat
  deriving DecidableEq, Repr

/-- A call of the service that has no error of its own. -/
def onService {α : Type} (p : Service α) : DeletionProg α :=
  onTextures (ofService (fun _ => .aster .databaseOperation) p)

/-- The profiles of the account, one after the other, the way the owner would
delete them. -/
def deleteProfiles (userId : Nat) (profiles : List MinecraftProfile) : DeletionProg Unit :=
  Prog.forEach profiles fun profile => do
    let _ ← onTextures (Textures.deleteProfileForUser userId profile.uuid)
    pure ()

/-- `delete_user` after the profiles. -/
def deleteRest (userId : Nat) (user : AdminUserInfo) : DeletionProg DeleteAdminUserOutput := do
  let deleted ← (deleteAllWardrobeTexturesForUser userId).hoist ⟨id, fun _ r => r⟩
    TextureFailure.asInternal
  let revokedSessionCount ← sql (.sessionRevokeForUser userId)
  let tokenHashes ← onService (invalidateTokenCacheForUser userId)
  let _ ← onService (onPool .aster (revokeAllForUserReturningHashes userId))
  onService (invalidateTokenCacheHashes tokenHashes)
  let _ ← userById userId
  sql (.texture (.service (.db (.userDelete userId))))
  pure ⟨user, user.profileCount, deleted.length, revokedSessionCount⟩

/-- `delete_user`. -/
def deleteUser (userId : Nat) : DeletionProg DeleteAdminUserOutput := do
  Prog.rejectIf (userId = superAdminUserId)
    (.aster (.authForbidden none "super administrator cannot be deleted"))
  let user ← getUser userId
  deleteUploadedAvatarForUser userId
  let profiles ← sql (.texture (.service (.db (.profileListByUser userId))))
  deleteProfiles userId profiles
  deleteRest userId user

/-! ## Statements that take content away -/

/-- The foreign key of the bindings. -/
def BindingsRefer (s : TextureState) : Prop :=
  ∀ b ∈ s.bindings.rows, s.hasTexture b.textureId = true

/-- `s'` is `s` with less content: the users, their bans and the clock are the
same, no profile is new, and the bindings still refer. -/
structure Wanes (s s' : TextureState) : Prop where
  users : s'.service.db.users = s.service.db.users
  bans : s'.service.db.bans = s.service.db.bans
  now : s'.service.db.now = s.service.db.now
  profiles : s'.service.db.profiles.rows ⊆ s.service.db.profiles.rows
  refer : BindingsRefer s → BindingsRefer s'

theorem Wanes.refl (s : TextureState) : Wanes s s :=
  ⟨rfl, rfl, rfl, List.Subset.refl _, id⟩

theorem Wanes.trans {a b c : TextureState} (h : Wanes a b) (h' : Wanes b c) : Wanes a c :=
  ⟨h'.users.trans h.users, h'.bans.trans h.bans, h'.now.trans h.now,
    List.Subset.trans h'.profiles h.profiles, fun hs => h'.refer (h.refer hs)⟩

/-- The statements of the service that a deletion issues, but for the last one. -/
def serviceWanes : ServiceStmt → Bool
  | .db .now | .db (.userFindById _) | .db (.banFindEffectiveForScope _ _)
  | .db (.profileFindById _) | .db (.profileFindByUuidForUser _ _)
  | .db (.profileListByUser _) | .db (.profileCountByUser _) | .db (.profileDelete _)
  | .db (.tokenListActiveHashesForUser _)
  | .db (.tokenListActiveHashesForSelectedProfile _)
  | .db (.tokenListRecentRevokedHashesForUser _ _) | .db (.tokenRevokeAllForUser _)
  | .db (.tokenRevokeAllForSelectedProfile _) | .deleteToken _ => true
  | _ => false

/-- The statements on textures that a deletion issues. -/
def wanes : TextureStmt → Bool
  | .service i => serviceWanes i
  | .textureFindById _ | .textureFindByIdForUser _ _ | .textureCountByStorageKey _
  | .bindingFindByProfileAndType _ _ | .bindingListByProfile _ | .bindingListByTexture _
  | .bindingCountByTexture _ | .textureDelete _ | .bindingDelete _ | .objectDelete _ => true
  | _ => false

/-- **A statement of these kinds** adds no row of a table. -/
theorem exec_wanes {i : TextureStmt} (hi : wanes i = true) (s : TextureState) :
    Wanes s (i.exec s).2 := by
  cases i with
  | service i =>
      cases i with
      | db i =>
          cases i with
          | profileDelete id =>
              refine ⟨rfl, rfl, rfl, List.filter_sublist.subset, fun hs b hb => ?_⟩
              exact hs b (List.mem_filter.mp hb).1
          | tokenRevokeAllForUser userId => exact ⟨rfl, rfl, rfl, List.Subset.refl _, id⟩
          | tokenRevokeAllForSelectedProfile profileId =>
              exact ⟨rfl, rfl, rfl, List.Subset.refl _, id⟩
          | _ => first | exact Wanes.refl s | cases hi
      | deleteToken hash => exact ⟨rfl, rfl, rfl, List.Subset.refl _, id⟩
      | _ => cases hi
  | textureDelete id =>
      refine ⟨rfl, rfl, rfl, List.Subset.refl _, fun _ b hb => ?_⟩
      have hfound := (List.mem_filter.mp hb).2
      show ((s.dropTextures _).textureById b.textureId).isSome = true
      simpa [TextureState.textureById, TextureState.dropTextures] using hfound
  | bindingDelete id =>
      refine ⟨rfl, rfl, rfl, List.Subset.refl _, fun hs b hb => ?_⟩
      exact hs b (List.mem_filter.mp hb).1
  | objectDelete storageKey => exact ⟨rfl, rfl, rfl, List.Subset.refl _, id⟩
  | _ => first | exact Wanes.refl s | cases hi

/-- A program that only takes content away. -/
abbrev Waning {α : Type} (p : TextureProg α) : Prop := p.Within fun i => wanes i = true

/-- What is known after a program that only takes content away. -/
theorem succeeds_wanes {α : Type} {p : TextureProg α} {s : TextureState}
    {K L : α → TextureState → Prop} (hp : p.Succeeds textureMachine K s) (hw : Waning p)
    (h : ∀ a s', Wanes s s' → K a s' → L a s') : p.Succeeds textureMachine L s := by
  have hwithin := Prog.Within.mono hw fun _ hi => exec_wanes hi
  exact (hp.respects (r := Wanes) Wanes.refl (fun _ _ _ => Wanes.trans) hwithin).mono
    fun a s' hr => h a s' hr.1 hr.2

/-! ## The deletion of one profile -/

section Waning

variable {α : Type}

/-- So a program of one such statement lets the tables wane. -/
theorem waning_query {i : TextureStmt} (hi : wanes i = true) : Waning (Textures.query i) :=
  ⟨hi, fun _ => trivial⟩

/-- The rule for one statement and what follows. -/
theorem Waning.after_query {i : TextureStmt} {f : i.Reply → TextureProg α}
    (hi : wanes i = true) (hf : ∀ r, Waning (f r)) : Waning ((Textures.query i).bind f) :=
  ⟨hi, hf⟩

/-- Looking at an expected row lets them be. -/
theorem waning_required {e : TextureFailure} {found : Option α} :
    Waning (required e found) := by
  cases found <;> trivial

/-- So does the ban check. -/
theorem waning_ensureUserNotBanned (g : AsterError → TextureFailure) (userId : Nat)
    (scope : UserBanScope) : Waning (ensureUserNotBanned g userId scope) :=
  Waning.after_query rfl fun _ => Prog.Within.rejectIf

/-- The cleanup of an object deletes no row. -/
theorem waning_cleanupTextureBlob (storageKey : String) :
    Waning (cleanupTextureBlobIfUnreferenced storageKey) := by
  refine Waning.after_query rfl fun refCount => ?_
  split
  · trivial
  · exact waning_query rfl

/-- The row of a texture goes. -/
theorem waning_deleteByIdForUser (id userId : Nat) : Waning (deleteByIdForUser id userId) := by
  refine Waning.after_query rfl fun found => ?_
  cases found with
  | none => trivial
  | some texture => exact Waning.after_query rfl fun _ => trivial

/-- It goes with its object. -/
theorem waning_cleanupTextureAsset (texture : MinecraftTexture) :
    Waning (cleanupTextureAssetIfUnreferenced texture) := by
  unfold cleanupTextureAssetIfUnreferenced
  split
  · trivial
  · refine Waning.after_query rfl fun refCount => ?_
    split
    · trivial
    · refine (waning_deleteByIdForUser _ _).bind fun _ => ?_
      exact waning_cleanupTextureBlob _

/-- Unbinding takes rows away. -/
theorem waning_deleteTextureForProfile (profile : MinecraftProfile) (textureType : TextureType) :
    Waning (deleteTextureForProfileUnchecked profile textureType) := by
  have hdelete : Waning (deleteForProfile profile.id textureType) := by
    refine Prog.Within.bind (Waning.after_query rfl fun found => ?_) fun found => ?_
    · cases found with
      | none => trivial
      | some binding =>
          refine Prog.Within.bind ?_ fun _ => trivial
          exact Waning.after_query rfl fun _ => waning_required
    · cases found with
      | none => trivial
      | some existing => exact Waning.after_query rfl fun _ => trivial
  refine hdelete.bind fun found => ?_
  cases found with
  | none => trivial
  | some deleted => exact (waning_cleanupTextureAsset _).bind fun _ => trivial

/-- For both kinds of textures. -/
theorem waning_deleteAllTexturesForProfile (profile : MinecraftProfile) :
    Waning (deleteAllTexturesForProfile profile) := by
  refine Waning.after_query rfl fun textures => Prog.Within.forEach (fun b => ?_) textures
  exact (waning_deleteTextureForProfile _ _).bind fun _ => trivial

/-- Evicting cached tokens. -/
theorem waning_invalidateHashes (hashes : List String) :
    (invalidateTokenCacheHashes hashes).Within fun i => serviceWanes i = true := by
  have hstep : ∀ hash, (step (.deleteToken hash)).Within fun i => serviceWanes i = true :=
    fun _ => ⟨rfl, fun _ => trivial⟩
  exact Prog.Within.forEach hstep hashes

/-- So does the deletion of a profile. -/
theorem waning_deleteProfileForUser (userId : Nat) (uuid : String) :
    Waning (Textures.deleteProfileForUser userId uuid) := by
  refine (waning_ensureUserNotBanned _ _ _).bind fun _ => Waning.after_query rfl fun found => ?_
  cases found with
  | none => trivial
  | some profile =>
      refine Prog.Within.rejectIf.bind fun _ => Prog.Within.bind ?_ fun _ => ?_
      · refine Prog.Within.hoist (Prog.Within.stmt_bind rfl fun hashes => ?_)
        exact (waning_invalidateHashes hashes).bind fun _ => trivial
      · refine Prog.Within.bind (Prog.Within.hoist (waning_deleteAllTexturesForProfile profile))
          fun _ => Waning.after_query rfl fun _ => Waning.after_query rfl fun found => ?_
        dsimp only
        split
        · exact Waning.after_query rfl fun _ => trivial
        · trivial

end Waning

section Succeeds

variable {s : TextureState}

/-- The cleanup of an object does not fail. -/
theorem succeeds_cleanupTextureBlob (storageKey : String) (s : TextureState) :
    (cleanupTextureBlobIfUnreferenced storageKey).Succeeds textureMachine
      (fun _ _ => True) s := by
  refine Succeeds.stmt_bind ?_
  dsimp only
  split
  · exact succeeds_ok trivial
  · exact ⟨_, rfl, trivial⟩

/-- Nor does the deletion of a row. -/
theorem succeeds_deleteByIdForUser (id userId : Nat) (s : TextureState) :
    (deleteByIdForUser id userId).Succeeds textureMachine (fun _ _ => True) s := by
  refine Succeeds.stmt_bind ?_
  dsimp only
  split
  · exact succeeds_ok trivial
  · exact Succeeds.stmt_bind (succeeds_ok trivial)

/-- Nor do both together. -/
theorem succeeds_cleanupTextureAsset (texture : MinecraftTexture) (s : TextureState) :
    (cleanupTextureAssetIfUnreferenced texture).Succeeds textureMachine
      (fun _ _ => True) s := by
  unfold cleanupTextureAssetIfUnreferenced
  split
  · exact succeeds_ok trivial
  · refine Succeeds.stmt_bind ?_
    dsimp only
    split
    · exact succeeds_ok trivial
    · refine (succeeds_deleteByIdForUser _ _ _).bind fun _ s' _ => ?_
      exact succeeds_cleanupTextureBlob _ s'

/-- The texture of a binding is found. -/
theorem succeeds_findByProfileAndType (hs : BindingsRefer s) (profileId : Nat)
    (textureType : TextureType) :
    (findByProfileAndType profileId textureType).Succeeds textureMachine
      (fun _ s' => s' = s) s := by
  refine Succeeds.stmt_bind ?_
  cases hfound : s.bindings.find? fun b =>
      b.profileId = profileId && b.textureType = textureType with
  | none =>
      simp only [TextureStmt.exec, hfound]
      exact succeeds_ok rfl
  | some binding =>
      have hrefer : (s.textureById binding.textureId).isSome = true :=
        hs binding (Table.of_find? hfound).1
      obtain ⟨t, ht⟩ := Option.isSome_iff_exists.mp hrefer
      simp only [TextureStmt.exec, hfound]
      refine Succeeds.bind (K := fun _ s' => s' = s) (Succeeds.stmt_bind ?_) fun texture s' hs' =>
        succeeds_ok hs'
      simp only [TextureStmt.exec, ht]
      exact succeeds_ok rfl

/-- Unbinding does not fail where every binding refers to its texture. -/
theorem succeeds_deleteTextureForProfile (hs : BindingsRefer s) (profile : MinecraftProfile)
    (textureType : TextureType) :
    (deleteTextureForProfileUnchecked profile textureType).Succeeds textureMachine
      (fun _ _ => True) s := by
  refine Succeeds.bind (K := fun _ _ => True) ?_ fun found s' _ => ?_
  · refine (succeeds_findByProfileAndType hs _ _).bind fun found s' _ => ?_
    cases found with
    | none => exact succeeds_ok trivial
    | some existing => exact Succeeds.stmt_bind (succeeds_ok trivial)
  · cases found with
    | none => exact succeeds_ok trivial
    | some deleted =>
        exact (succeeds_cleanupTextureAsset _ _).bind fun _ _ _ => succeeds_ok trivial

/-- For both kinds of textures, and the references stay. -/
theorem succeeds_deleteAllTexturesForProfile (hs : BindingsRefer s)
    (profile : MinecraftProfile) :
    (deleteAllTexturesForProfile profile).Succeeds textureMachine
      (fun _ s' => BindingsRefer s') s := by
  refine Succeeds.stmt_bind (succeeds_forEach _ (fun b _ s₁ hs₁ => ?_) hs)
  refine Succeeds.bind (K := fun _ s' => BindingsRefer s') ?_ fun _ _ h => succeeds_ok h
  exact succeeds_wanes (succeeds_deleteTextureForProfile hs₁ profile _)
    (waning_deleteTextureForProfile profile _) fun _ _ h _ => h.refer hs₁

/-- The cascade of a deletion reaches the texture tables only. -/
theorem cascade_service (i : ServiceStmt) (s : TextureState) :
    (TextureState.cascade i s).service = s.service := by
  unfold TextureState.cascade
  split <;> rfl

/-- The service alone decides whether a call of it succeeds. -/
theorem succeeds_ofService {α : Type} {g : ServiceError → TextureFailure} {p : Service α}
    (hp : p.Succeeds serviceMachine (fun _ _ => True) s.service) :
    (ofService g p).Succeeds textureMachine (fun _ _ => True) s :=
  Succeeds.hoist (M := serviceMachine) (N := textureMachine)
    (fun i _ => ⟨rfl, cascade_service i _⟩) hp

/-- Evictions do not fail. -/
theorem succeeds_invalidateHashes (hashes : List String) (s : ServiceState) :
    (invalidateTokenCacheHashes hashes).Succeeds serviceMachine (fun _ _ => True) s :=
  succeeds_forEach (I := fun _ => True) hashes (fun _ _ _ _ => ⟨_, rfl, trivial⟩) trivial

/-- **Deleting a local profile** of a user who may manage profiles succeeds. -/
theorem succeeds_deleteProfileForUser {userId : Nat} {uuid : String} (hs : BindingsRefer s)
    (hban : s.notBanned userId .minecraftProfileManage = true)
    (hlocal : ∀ p ∈ s.service.db.profiles.rows, p.userId = userId → p.source ≠ .microsoft) :
    (Textures.deleteProfileForUser userId uuid).Succeeds textureMachine
      (fun _ _ => True) s := by
  have hallowed : (ensureUserNotBanned TextureFailure.aster userId
      .minecraftProfileManage).Succeeds textureMachine (fun _ s' => s' = s) s := by
    refine ⟨(), ?_, ?_⟩ <;> rw [run_ensureUserNotBanned hban]
  refine hallowed.bind ?_
  rintro _ s' rfl
  refine Succeeds.stmt_bind ?_
  cases hfound : s'.service.db.profiles.find? fun p => p.uuid = uuid && p.userId = userId with
  | none =>
      simp only [TextureStmt.exec, ServiceStmt.exec, DbStmt.exec, hfound]
      exact succeeds_ok trivial
  | some profile =>
      obtain ⟨hmem, hcond⟩ := Table.of_find? hfound
      have howner : profile.userId = userId := by
        simp only [Bool.and_eq_true, decide_eq_true_eq] at hcond
        exact hcond.2
      have hsource : profile.source ≠ .microsoft := hlocal profile hmem howner
      simp only [TextureStmt.exec, ServiceStmt.exec, DbStmt.exec, hfound, hsource,
        decide_false]
      refine Succeeds.bind (K := fun _ s₁ => s₁ = s') (succeeds_ok rfl) ?_
      rintro _ s₁ rfl
      refine (succeeds_wanes (L := fun _ s' => BindingsRefer s') (succeeds_ofService ?_) ?_
        fun _ _ h _ => h.refer hs).bind fun _ s₂ hs₂ => ?_
      · refine Succeeds.stmt_bind ?_
        exact (succeeds_invalidateHashes _ _).bind fun _ _ _ => succeeds_ok trivial
      · refine Prog.Within.hoist (Prog.Within.stmt_bind rfl fun hashes => ?_)
        exact (waning_invalidateHashes hashes).bind fun _ => trivial
      · refine Succeeds.bind (Succeeds.hoist (M := textureMachine) (N := textureMachine)
          (fun i s => ⟨rfl, rfl⟩) (succeeds_deleteAllTexturesForProfile hs₂ profile))
          fun _ s₃ _ => Succeeds.stmt_bind (Succeeds.stmt_bind ?_)
        dsimp only
        split
        · exact Succeeds.stmt_bind (succeeds_ok trivial)
        · exact succeeds_ok trivial

end Succeeds

end AsterYggdrasil.Admin
