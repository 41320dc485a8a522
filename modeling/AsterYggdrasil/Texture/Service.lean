import AsterYggdrasil.Texture.Profiles

/-!
# Textures: everything a client can ask

`TextureCall` lists the requests and background tasks that touch textures.  A
request that works on a profile reads the profile first, as its route does.
The policies belong to a call: they may change between one call and the next.
-/

namespace AsterYggdrasil.Textures

open Interleave Relational
open Bans (NullablePatch)
open Renderer (RgbaImage)

/-- The profile a request of its user names. -/
def profileOfUser (uuid : String) (userId : Nat) : TextureProg MinecraftProfile := do
  let found ← query (.service (.db (.profileFindByUuidForUser uuid userId)))
  required (.aster (.recordNotFound s!"minecraft profile '{uuid}'")) found

/-- The profile an administrator names. -/
def profileByUuid (uuid : String) : TextureProg MinecraftProfile := do
  let found ← query (.service (.db (.profileFindByUuid uuid)))
  required (.aster (.recordNotFound s!"minecraft profile '{uuid}'")) found

/-- The calls on textures. -/
inductive TextureCall
  | storeWardrobe (policy : TexturePolicy) (userId : Nat) (textureType : TextureType)
      (textureModel : MinecraftTextureModel) (visibility : Visibility)
      (upload : List UInt8)
  | storeTexture (policy : TexturePolicy) (accessToken profileUuid : String)
      (textureType : TextureType) (textureModel : MinecraftTextureModel)
      (upload : List UInt8)
  | importOfficial (policy : TexturePolicy) (profileUuid : String)
      (textureType : TextureType) (textureModel : MinecraftTextureModel)
      (sourceUrl : String) (bindingMode : OfficialTextureBindingMode)
  | replace (policy : TexturePolicy) (userId textureId : Nat)
      (textureModel : MinecraftTextureModel) (upload : List UInt8)
  | copy (policy : TexturePolicy) (userId textureId : Nat)
      (displayName : Option (NullablePatch String))
  | updateMetadata (userId textureId : Nat) (displayName : Option (NullablePatch String))
      (textureModel : Option MinecraftTextureModel) (visibility : Option Visibility)
  | submit (policy : TexturePolicy) (userId textureId : Nat)
  | withdraw (policy : TexturePolicy) (userId textureId : Nat)
  | approve (policy : TexturePolicy) (reviewerUserId textureId : Nat)
      (reviewNote : Option String) (tagIds : Option (List Nat))
  | reject (policy : TexturePolicy) (reviewerUserId textureId : Nat)
      (reviewNote : Option String)
  | unpublish (policy : TexturePolicy) (reviewerUserId textureId : Nat)
      (reviewNote : Option String)
  | createReport (policy : TexturePolicy) (reporterUserId textureId : Nat)
      (reason : ReportReason) (message : Option String)
  | acceptReport (policy : TexturePolicy) (handlerUserId reportId : Nat)
      (adminNote : Option String)
  | bind (policy : TexturePolicy) (userId : Nat) (profileUuid : String) (textureId : Nat)
      (textureType : TextureType)
  | unbind (policy : TexturePolicy) (userId : Nat) (profileUuid : String)
      (textureType : TextureType)
  | applyLocalPresets (policy : TexturePolicy) (userId : Nat) (profileUuid : String)
  | deleteProfileTexture (profileUuid : String) (textureType : TextureType)
  | deleteOfficialIfBound (profileUuid : String) (textureType : TextureType)
  | deleteWardrobe (userId textureId : Nat)
  | deleteLibrary (textureId : Nat)
  | deleteByHash (hash : String)
  | deleteProfile (userId : Nat) (profileUuid : String)
  | registerBound
  | cleanupOrphans
  | wait (ms : Nat)

/-- What a call answers. -/
inductive TextureResponse
  | done
  | texture (texture : MinecraftTexture)
  | stored (stored : StoredTexture)
  | deletedTextures (deleted : List DeletedMinecraftTexture)
  | unbound (binding : Option ProfileTexture)
  | bindings (bindings : List ProfileTexture)
  | report (report : TextureReport)
  | deletedProfile (found : Bool)
  | registered (result : WardrobeRegistrationResult)
  | cleaned (result : OrphanTextureCleanupResult)
  deriving DecidableEq, Repr

/-- The program of a call. -/
def TextureCall.body (codecs : TextureCodecs) :
    TextureCall → TextureProg TextureResponse
  | .storeWardrobe policy userId textureType textureModel visibility upload => do
      let texture ← storeWardrobeTexture codecs policy userId textureType textureModel
        visibility upload
      pure (.texture texture)
  | .storeTexture policy accessToken profileUuid textureType textureModel upload => do
      let profile ← authenticateTextureAccess accessToken profileUuid
      let stored ← Textures.storeTexture codecs policy profile textureType textureModel
        upload
      pure (.stored stored)
  | .importOfficial policy profileUuid textureType textureModel sourceUrl bindingMode => do
      let profile ← profileByUuid profileUuid
      importOfficialTextureToProfileWithMode codecs policy profile textureType
        textureModel sourceUrl bindingMode
      pure .done
  | .replace policy userId textureId textureModel upload => do
      let texture ← replaceWardrobeTextureContent codecs policy userId textureId
        textureModel upload
      pure (.texture texture)
  | .copy policy userId textureId displayName => do
      let texture ← copyPublicTextureToWardrobe policy userId textureId displayName
      pure (.texture texture)
  | .updateMetadata userId textureId displayName textureModel visibility => do
      let texture ← updateWardrobeTextureMetadata userId textureId displayName
        textureModel visibility
      pure (.texture texture)
  | .submit policy userId textureId => do
      let texture ← submitTextureLibraryReview policy userId textureId
      pure (.texture texture)
  | .withdraw policy userId textureId => do
      let texture ← withdrawTextureLibrarySubmission policy userId textureId
      pure (.texture texture)
  | .approve policy reviewerUserId textureId reviewNote tagIds => do
      let texture ← approveTextureLibraryTexture policy reviewerUserId textureId
        reviewNote tagIds
      pure (.texture texture)
  | .reject policy reviewerUserId textureId reviewNote => do
      let texture ← rejectTextureLibraryTexture policy reviewerUserId textureId reviewNote
      pure (.texture texture)
  | .unpublish policy reviewerUserId textureId reviewNote => do
      let texture ← unpublishTextureLibraryTexture policy reviewerUserId textureId
        reviewNote
      pure (.texture texture)
  | .createReport policy reporterUserId textureId reason message => do
      let report ← createTextureLibraryReport policy reporterUserId textureId reason
        message
      pure (.report report)
  | .acceptReport policy handlerUserId reportId adminNote => do
      let report ← acceptTextureLibraryReport policy handlerUserId reportId adminNote
      pure (.report report)
  | .bind policy userId profileUuid textureId textureType => do
      let profile ← profileOfUser profileUuid userId
      let stored ← bindWardrobeTextureToProfile policy userId profile textureId textureType
      pure (.stored stored)
  | .unbind policy userId profileUuid textureType => do
      let profile ← profileOfUser profileUuid userId
      let deleted ← deleteTexture policy profile textureType
      pure (.unbound deleted)
  | .applyLocalPresets policy userId profileUuid => do
      let profile ← profileOfUser profileUuid userId
      let textures ← applyLocalTexturePresetsToProfile policy userId profile
      pure (.bindings textures)
  | .deleteProfileTexture profileUuid textureType => do
      let profile ← profileByUuid profileUuid
      let deleted ← deleteTextureForProfileUnchecked profile textureType
      pure (.unbound deleted)
  | .deleteOfficialIfBound profileUuid textureType => do
      let profile ← profileByUuid profileUuid
      let deleted ← deleteOfficialTextureForProfileIfBound profile textureType
      pure (.unbound deleted)
  | .deleteWardrobe userId textureId => do
      let texture ← deleteWardrobeTexture userId textureId
      pure (.texture texture)
  | .deleteLibrary textureId => do
      let (texture, _) ← deleteTextureLibraryTexture textureId
      pure (.texture texture)
  | .deleteByHash hash => do
      let deleted ← deleteTexturesByHash hash
      pure (.deletedTextures deleted)
  | .deleteProfile userId profileUuid => do
      let found ← Textures.deleteProfileForUser userId profileUuid
      pure (.deletedProfile found)
  | .registerBound => do
      let result ← registerBoundTexturesInWardrobe
      pure (.registered result)
  | .cleanupOrphans => do
      let result ← cleanupOrphanTextureBlobs
      pure (.cleaned result)
  | .wait ms => do
      query (.service (.db (.advanceClock ms)))
      pure .done

/-! ## Two players -/

/-- Uploads show one colour, which tells their length; there are two hashes, for the even
and the odd ones. -/
def plainImages : PngCodec where
  header upload := if upload.isEmpty then .error "empty file" else .ok (64, 32)
  decode upload :=
    match RgbaImage.fromPixel 64 32 ⟨UInt8.ofNat upload.length, 0, 0, 255⟩ with
    | some image => .ok image
    | none => .error "no buffer"
  encode image := .ok [(image.pixelAt 0 0).red]
  sha256Hex bytes :=
    String.ofList (List.replicate 64 (if bytes.headD 0 % 2 = 0 then 'a' else 'b'))
  sha256Hex_valid bytes := by split <;> simp [isValidTextureHash, isAsciiHexdigit]

/-- Codecs that accept every upload but the empty one, and know two images. -/
def twoImages : TextureCodecs where
  png := plainImages
  download _ _ := .error ⟨.storage, none⟩

/-- Everything is allowed, and submissions are reviewed. -/
def openPolicy : TexturePolicy where
  libraryEnabled := true
  reviewRequired := true
  allowMicrosoftProfileTextureOverride := true
  maxTexturePixels := 4096
  maxTextureUploadBytes := 4096

/-- An administrator and two players, each with a profile; nobody has a
texture. -/
def twoPlayers : TextureState where
  service :=
    { db :=
        { users := ⟨[⟨1, "u1", "root", none, "pw", .admin, .active, false, 1, none⟩,
              ⟨2, "u2", "bob", none, "pw", .user, .active, false, 1, none⟩,
              ⟨3, "u3", "eve", none, "pw", .user, .active, false, 1, none⟩], 4,
            by decide, by decide⟩
          profiles := ⟨[⟨1, 2, "uuid2", "Bob", "bob", .localProfile, .default, "skin,cape",
                0, 0, 0⟩,
              ⟨2, 3, "uuid3", "Eve", "eve", .localProfile, .default, "skin,cape", 0, 0, 0⟩],
            3, by decide, by decide⟩
          tokens := .empty
          bans := .empty
          profileTextures := []
          forwardServers := []
          now := 10 }
      tokenCache := fun _ => none
      joinCache := fun _ => none
      forwardCache := none
      nameSummaries := fun _ => none }
  textures := .empty
  bindings := .empty
  preferences := .empty
  reports := .empty
  tags := []
  tags_nodup := List.nodup_nil
  textureTags := .empty
  objects := []

end AsterYggdrasil.Textures
