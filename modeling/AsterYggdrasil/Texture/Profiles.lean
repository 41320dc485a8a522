import AsterYggdrasil.Texture.Wardrobe

/-!
# Textures: what profiles show

Binding a texture to a profile, remembering the last local one, uploads of a
launcher, imports from Mojang, and everything that takes a binding away: unbinding,
deleting by hash, deleting a profile, and the registration of bound textures in
the wardrobe.
-/

namespace AsterYggdrasil.Textures

open Interleave Relational
open External (trimChars)

/-! ## Bindings -/

/-- The texture a binding refers to. -/
def boundTexture (textureId : Nat) : TextureProg MinecraftTexture := do
  required (.ofAster (.recordNotFound s!"texture '{textureId}'"))
    (← query (.textureFindById textureId))

/-- Write a binding over the one the profile has, or insert one. -/
def writeBinding (profileId textureId : Nat) (textureType : TextureType) :
    TextureProg (Option Binding) := do
  match ← query (.bindingFindByProfileAndType profileId textureType) with
  | some existing => query (.bindingSetTexture existing.id textureId)
  | none => query (.bindingInsert profileId textureId textureType)

/-- `upsert_for_profile`. -/
def upsertForProfile (profileId textureId : Nat) (textureType : TextureType) :
    TextureProg ProfileTexture := do
  let written ← writeBinding profileId textureId textureType
  let binding ← required (.ofAster .databaseOperation) written
  let texture ← boundTexture binding.textureId
  pure ⟨binding, texture⟩

/-- `minecraft_profile_texture_repo::find_by_profile_and_type`. -/
def findByProfileAndType (profileId : Nat) (textureType : TextureType) :
    TextureProg (Option ProfileTexture) := do
  match ← query (.bindingFindByProfileAndType profileId textureType) with
  | none => pure none
  | some binding => do
      let texture ← boundTexture binding.textureId
      pure (some ⟨binding, texture⟩)

/-- `delete_for_profile`. -/
def deleteForProfile (profileId : Nat) (textureType : TextureType) :
    TextureProg (Option ProfileTexture) := do
  match ← findByProfileAndType profileId textureType with
  | none => pure none
  | some existing => do
      query (.bindingDelete existing.binding.id)
      pure (some existing)

/-- `cleanup_texture_asset_if_unreferenced`. -/
def cleanupTextureAssetIfUnreferenced (texture : MinecraftTexture) : TextureProg Unit :=
  if texture.isWardrobeItem then pure ()
  else do
    let refCount ← query (.bindingCountByTexture texture.id)
    if refCount ≠ 0 then pure ()
    else do
      let _ ← deleteByIdForUser texture.id texture.userId
      cleanupTextureBlobIfUnreferenced texture.storageKey

/-- The texture that was bound before, unless it is bound again. -/
def cleanupPrevious (previous : Option ProfileTexture) (bound : ProfileTexture) :
    TextureProg Unit :=
  match previous with
  | some previous =>
      if previous.texture.id ≠ bound.texture.id then
        cleanupTextureAssetIfUnreferenced previous.texture
      else pure ()
  | none => pure ()

/-- `minecraft_profile_texture_preference_repo::upsert`. -/
def upsertPreference (profileId textureId : Nat) (textureType : TextureType) :
    TextureProg (Option Preference) := do
  match ← query (.preferenceFindByProfileAndType profileId textureType) with
  | some existing => query (.preferenceSetTexture existing.id textureId)
  | none => query (.preferenceInsert profileId textureId textureType)

/-- `remember_local_texture_preset`. -/
def rememberLocalTexturePreset (profile : MinecraftProfile) (texture : MinecraftTexture) :
    TextureProg Unit :=
  if texture.source ≠ .localTexture || !texture.isWardrobeItem then pure ()
  else do
    let written ← upsertPreference profile.id texture.id texture.textureType
    let _ ← required (.ofAster .databaseOperation) written
    pure ()

/-! ## Permissions -/

/-- `ensure_upload_allowed`. -/
def ensureUploadAllowed (profile : MinecraftProfile) (textureType : TextureType) :
    TextureProg Unit :=
  let allowed := (profile.uploadableTextures.toList.splitOn ',').any fun item =>
    trimChars item = textureType.asStr.toList
  Prog.rejectIf (!allowed) (.new .uploadDisabled)

/-- `ensure_profile_texture_mutation_allowed`. -/
def ensureProfileTextureMutationAllowed (policy : TexturePolicy)
    (profile : MinecraftProfile) : TextureProg Unit :=
  Prog.rejectIf (profile.source = .microsoft &&
    !policy.allowMicrosoftProfileTextureOverride) (.new .uploadDisabled)

/-- What every change of a profile's texture by its user checks. -/
def ensureTextureChangeAllowed (policy : TexturePolicy) (userId : Nat)
    (profile : MinecraftProfile) (textureType : TextureType) : TextureProg Unit := do
  ensureUserNotBanned .ofAster userId .textureUpload
  ensureUserNotBanned .ofAster userId .minecraftProfileManage
  ensureProfileTextureMutationAllowed policy profile
  ensureUploadAllowed profile textureType

/-- `authenticate_texture_access`; every failure of the token is the same. -/
def authenticateTextureAccess (accessToken profileUuid : String) :
    TextureProg MinecraftProfile := do
  let token ← ofService (fun _ => .new .invalidToken) (activeToken accessToken none)
  let selectedProfileId ← required (.new .invalidToken) token.selectedProfileId
  let found ← query (.service (.db (.profileFindById selectedProfileId)))
  let profile ← required (.ofAster
    (.recordNotFound s!"minecraft profile #{selectedProfileId}")) found
  Prog.rejectIf (profile.uuid ≠ profileUuid) (.new .forbiddenProfile)
  pure profile

/-! ## Binding -/

/-- `StoredTexture`: the binding with its texture, the profile, and the texture
of the wardrobe. -/
structure StoredTexture where
  texture : ProfileTexture
  profile : MinecraftProfile
  wardrobeTexture : MinecraftTexture
  deriving DecidableEq, Repr

/-- Bind a texture, remember it if it is local, and clean up after the texture
that was bound before. -/
def bindTexture (profile : MinecraftProfile) (wardrobeTexture : MinecraftTexture)
    (textureType : TextureType) : TextureProg StoredTexture := do
  let previous ← findByProfileAndType profile.id textureType
  let texture ← upsertForProfile profile.id wardrobeTexture.id textureType
  rememberLocalTexturePreset profile texture.texture
  cleanupPrevious previous texture
  pure ⟨texture, profile, wardrobeTexture⟩

/-- `bind_wardrobe_texture_to_profile`. -/
def bindWardrobeTextureToProfile (policy : TexturePolicy) (userId : Nat)
    (profile : MinecraftProfile) (wardrobeTextureId : Nat) (textureType : TextureType) :
    TextureProg StoredTexture := do
  ensureTextureChangeAllowed policy userId profile textureType
  let found ← query (.textureFindByIdForUser wardrobeTextureId userId)
  -- the braces of this text are not an interpolation in the source
  let wardrobeTexture ← required
    (.withDetail .notFound "wardrobe texture #\x7bwardrobe_texture_id\x7d") found
  Prog.rejectIf (wardrobeTexture.textureType ≠ textureType)
    (.withDetail .invalidTextureType
      "Wardrobe texture type does not match the target slot.")
  bindTexture profile wardrobeTexture textureType

/-- `store_texture`.  When the binding cannot be written the source cleans up
after the uploaded texture; it is a texture of the wardrobe, so that does
nothing. -/
def storeTexture (codecs : TextureCodecs) (policy : TexturePolicy)
    (profile : MinecraftProfile) (textureType : TextureType)
    (textureModel : MinecraftTextureModel) (upload : List UInt8) :
    TextureProg StoredTexture := do
  ensureTextureChangeAllowed policy profile.userId profile textureType
  let wardrobeTexture ← storeOrReuseWardrobeTexture codecs policy
    { userId := profile.userId
      textureType := textureType
      source := .localTexture
      textureModel := textureModel
      upload := upload
      visibility := .privateItem
      displayName := none }
  bindTexture profile wardrobeTexture textureType

/-! ## Imports from Mojang -/

/-- `OfficialTextureBindingMode`. -/
inductive OfficialTextureBindingMode
  | preserveLocal | replaceCurrent
  deriving DecidableEq, Repr

/-- `official_texture_display_name`. -/
def officialTextureDisplayName : TextureType → String
  | .skin => "Official Minecraft skin"
  | .cape => "Official Minecraft cape"

/-- `should_bind`: a local texture is preserved unless it is to be replaced. -/
def shouldBind (bindingMode : OfficialTextureBindingMode)
    (previous : Option ProfileTexture) (textureType : TextureType) : Bool :=
  bindingMode = .replaceCurrent ||
    match previous with
    | none => true
    | some previous =>
        previous.texture.source = .mojang && previous.texture.textureType = textureType

/-- `import_official_texture_to_profile_with_mode`. -/
def importOfficialTextureToProfileWithMode (codecs : TextureCodecs)
    (policy : TexturePolicy) (profile : MinecraftProfile) (textureType : TextureType)
    (textureModel : MinecraftTextureModel) (sourceUrl : String)
    (bindingMode : OfficialTextureBindingMode) : TextureProg Unit := do
  let upload ← Prog.ofExcept
    ((codecs.download sourceUrl policy.maxTextureUploadBytes).mapError .texture)
  let wardrobeTexture ← storeOrReuseWardrobeTexture codecs policy
    { userId := profile.userId
      textureType := textureType
      source := .mojang
      textureModel := textureModel
      upload := upload
      visibility := .privateItem
      displayName := some (officialTextureDisplayName textureType) }
  let previous ← findByProfileAndType profile.id textureType
  if !shouldBind bindingMode previous textureType then pure ()
  else do
    let texture ← upsertForProfile profile.id wardrobeTexture.id textureType
    cleanupPrevious previous texture

/-! ## Presets -/

/-- The local texture a profile remembers for one type, if it still fits. -/
def localTexturePreset (userId : Nat) (profile : MinecraftProfile)
    (textureType : TextureType) : TextureProg (Option MinecraftTexture) := do
  match ← query (.preferenceFindByProfileAndType profile.id textureType) with
  | none => pure none
  | some preference => do
      let found ← query (.textureFindByIdForUser preference.textureId userId)
      pure (found.filter fun texture => texture.textureType = textureType &&
        texture.source = .localTexture && texture.isWardrobeItem)

/-- Bind the preset of one type: how many textures that applies. -/
def applyPreset (policy : TexturePolicy) (userId : Nat) (profile : MinecraftProfile)
    (textureType : TextureType) : TextureProg Nat := do
  match ← localTexturePreset userId profile textureType with
  | none => pure 0
  | some texture => do
      let _ ← bindWardrobeTextureToProfile policy userId profile texture.id textureType
      pure 1

/-- `apply_local_texture_presets_to_profile`: the textures of the profile. -/
def applyLocalTexturePresetsToProfile (policy : TexturePolicy) (userId : Nat)
    (profile : MinecraftProfile) : TextureProg (List ProfileTexture) := do
  Prog.rejectIf (profile.source ≠ .microsoft) (.new .forbiddenProfile)
  let skins ← applyPreset policy userId profile .skin
  let capes ← applyPreset policy userId profile .cape
  Prog.rejectIf (skins + capes = 0) (.withDetail .notFound "local texture preset")
  query (.bindingListByProfile profile.id)

/-! ## Taking bindings away -/

/-- `delete_texture_for_profile_unchecked`. -/
def deleteTextureForProfileUnchecked (profile : MinecraftProfile)
    (textureType : TextureType) : TextureProg (Option ProfileTexture) := do
  match ← deleteForProfile profile.id textureType with
  | none => pure none
  | some deleted => do
      cleanupTextureAssetIfUnreferenced deleted.texture
      pure (some deleted)

/-- `delete_texture`. -/
def deleteTexture (policy : TexturePolicy) (profile : MinecraftProfile)
    (textureType : TextureType) : TextureProg (Option ProfileTexture) := do
  ensureTextureChangeAllowed policy profile.userId profile textureType
  deleteTextureForProfileUnchecked profile textureType

/-- `delete_official_texture_for_profile_if_bound`. -/
def deleteOfficialTextureForProfileIfBound (profile : MinecraftProfile)
    (textureType : TextureType) : TextureProg (Option ProfileTexture) := do
  let current ← findByProfileAndType profile.id textureType
  if current.any fun c => c.texture.source = .mojang then
    deleteTextureForProfileUnchecked profile textureType
  else pure none

/-- `DeletedMinecraftTexture`. -/
structure DeletedMinecraftTexture where
  texture : ProfileTexture
  profile : MinecraftProfile
  deriving DecidableEq, Repr

/-- One binding of `delete_textures_by_hash`, whose profile has to exist. -/
def deleteBoundByHash (b : ProfileTexture) : TextureProg (Option DeletedMinecraftTexture) := do
  let found ← query (.service (.db (.profileFindById b.binding.profileId)))
  let profile ← required (.ofAster
    (.recordNotFound s!"minecraft profile #{b.binding.profileId}")) found
  let deleted ← deleteTextureForProfileUnchecked profile b.binding.textureType
  pure (deleted.map fun texture => ⟨texture, profile⟩)

/-- The first loop of `delete_textures_by_hash`: the bindings it has removed. -/
def deleteAllBoundByHash : List ProfileTexture → TextureProg (List DeletedMinecraftTexture)
  | [] => pure []
  | b :: bound => do
      let deleted ← deleteBoundByHash b
      let rest ← deleteAllBoundByHash bound
      pure (deleted.toList ++ rest)

/-- `delete_textures_by_hash`. -/
def deleteTexturesByHash (hash : String) : TextureProg (List DeletedMinecraftTexture) :=
  if !isValidTextureHash hash then pure []
  else do
    let bound ← query (.bindingListByHash hash)
    let deleted ← deleteAllBoundByHash bound
    let textures ← query (.textureListByHash hash)
    Prog.forEach textures fun texture => query (.textureDelete texture.id)
    Prog.forEach textures fun texture =>
      cleanupTextureBlobIfUnreferenced texture.storageKey
    pure deleted

/-- `delete_all_textures_for_profile`. -/
def deleteAllTexturesForProfile (profile : MinecraftProfile) : TextureProg Unit := do
  let textures ← query (.bindingListByProfile profile.id)
  Prog.forEach textures fun b => do
    let _ ← deleteTextureForProfileUnchecked profile b.binding.textureType
    pure ()

/-- `delete_profile_for_user`, with its textures: whether there was such a
profile. -/
def deleteProfileForUser (userId : Nat) (uuid : String) : TextureProg Bool := do
  ensureUserNotBanned .aster userId .minecraftProfileManage
  match ← query (.service (.db (.profileFindByUuidForUser uuid userId))) with
  | none => pure false
  | some profile => do
      rejectIf (profile.source = .microsoft)
        (.authForbidden (some .minecraftProfileDeleteForbidden)
          "official Minecraft profile cannot be deleted on this site")
      let _ ← ofService (fun _ => .aster .databaseOperation)
        (invalidateTokenCacheForSelectedProfile profile.id)
      (deleteAllTexturesForProfile profile).hoist ⟨id, fun _ r => r⟩
        TextureFailure.asInternal
      let _ ← query (.service (.db (.tokenRevokeAllForSelectedProfile profile.id)))
      let found ← query (.service (.db (.profileFindById profile.id)))
      if found.isSome then
        query (.service (.db (.profileDelete profile.id)))
      pure true

/-! ## Registration of bound textures -/

/-- `WardrobeRegistrationResult`. -/
structure WardrobeRegistrationResult where
  scannedBindings : Nat
  convertedTextures : Nat
  reboundBindings : Nat
  removedDuplicateTextures : Nat
  deriving DecidableEq, Repr

/-- Bind the wardrobe texture instead of its duplicate, and delete the
duplicate. -/
def rebindToWardrobe (b : ProfileTexture) (existing : MinecraftTexture)
    (result : WardrobeRegistrationResult) : TextureProg WardrobeRegistrationResult := do
  let _ ← upsertForProfile b.binding.profileId existing.id b.binding.textureType
  let result := { result with reboundBindings := result.reboundBindings + 1 }
  match ← deleteByIdForUser b.texture.id b.texture.userId with
  | none => pure result
  | some deleted => do
      cleanupTextureBlobIfUnreferenced deleted.storageKey
      pure { result with
        removedDuplicateTextures := result.removedDuplicateTextures + 1 }

/-- One binding, as it was when the registration began. -/
def registerBinding (b : ProfileTexture) (result : WardrobeRegistrationResult) :
    TextureProg WardrobeRegistrationResult :=
  if b.texture.isWardrobeItem then pure result
  else do
    let found ← query (.textureFindWardrobeByFingerprint b.texture.userId
      b.texture.fingerprint)
    match found with
    | none => do
        let _ ← required (.ofAster .databaseOperation)
          (← query (.textureMarkAsWardrobeItem b.texture.id))
        pure { result with convertedTextures := result.convertedTextures + 1 }
    | some existing => rebindToWardrobe b existing result

/-- The loop of `register_bound_textures_in_wardrobe`. -/
def registerBindings :
    List ProfileTexture → WardrobeRegistrationResult →
      TextureProg WardrobeRegistrationResult
  | [], result => pure result
  | b :: bindings, result => do
      let result ← registerBinding b result
      registerBindings bindings result

/-- `register_bound_textures_in_wardrobe`. -/
def registerBoundTexturesInWardrobe : TextureProg WardrobeRegistrationResult := do
  let bindings ← query .bindingListAll
  registerBindings bindings ⟨bindings.length, 0, 0, 0⟩

end AsterYggdrasil.Textures
