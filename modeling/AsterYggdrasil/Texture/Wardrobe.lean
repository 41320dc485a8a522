import AsterYggdrasil.Texture.Processing

/-!
# Textures: the wardrobe and its objects

Uploading, replacing, copying and deleting the textures of a wardrobe, and what
keeps the object store in step: an object is put before a row names it, and
deleted when a count finds no row that does.
-/

namespace AsterYggdrasil.Textures

open Interleave Relational
open Bans (NullablePatch)

/-- The libraries the texture service rests on: those of PNG images and hashes, and the
download of an official texture with the limit on bytes. -/
structure TextureCodecs where
  png : PngCodec
  download : String → Nat → Except TextureError (List UInt8)

/-- `process_texture_file` over these libraries. -/
def TextureCodecs.process (codecs : TextureCodecs) (upload : List UInt8)
    (textureType : TextureType) (maxPixels : UInt64) :
    Except AsterError TextureProcessingResult :=
  processTextureFile codecs.png upload textureType maxPixels

/-- `PNG_CONTENT_TYPE`. -/
def pngContentType : String := "image/png"

/-- `WARDROBE_REPLACE_MAX_ATTEMPTS`. -/
def wardrobeReplaceMaxAttempts : Nat := 4

/-- `i32::MAX`. -/
def i32Max : Nat := 2147483647

/-- The processed upload; what goes wrong there is an invalid PNG. -/
def processUpload (codecs : TextureCodecs) (policy : TexturePolicy)
    (textureType : TextureType) (upload : List UInt8) :
    TextureProg TextureProcessingResult :=
  Prog.ofExcept ((codecs.process upload textureType policy.maxTexturePixels).mapError
    fun e => .withDetail .invalidPng e.message)

/-- Size, width and height have to fit their columns. -/
def fitColumns (processing : TextureProcessingResult) : TextureProg Unit := do
  Prog.rejectIf (i64Max < processing.fileSize)
    (.ofAster (.numberOutOfRange "texture file size"))
  Prog.rejectIf (i32Max < processing.width)
    (.ofAster (.numberOutOfRange "texture width"))
  Prog.rejectIf (i32Max < processing.height)
    (.ofAster (.numberOutOfRange "texture height"))

/-- The error of a wardrobe texture that is not there. -/
def wardrobeTextureNotFound (textureId : Nat) : TextureFailure :=
  .withDetail .notFound s!"wardrobe texture #{textureId}"

/-! ## Objects nobody refers to -/

/-- `cleanup_texture_blob_if_unreferenced`. -/
def cleanupTextureBlobIfUnreferenced (storageKey : String) : TextureProg Unit := do
  let refCount ← query (.textureCountByStorageKey storageKey)
  if refCount ≠ 0 then pure ()
  else query (.objectDelete storageKey)

/-- `OrphanTextureCleanupResult`. -/
structure OrphanTextureCleanupResult where
  scanned : Nat
  deleted : Nat
  skipped : Nat
  deriving DecidableEq, Repr

/-- The loop of `cleanup_orphan_texture_blobs`. -/
def cleanupStorageKeys :
    List String → OrphanTextureCleanupResult → TextureProg OrphanTextureCleanupResult
  | [], result => pure result
  | storageKey :: storageKeys, result => do
      let references ← query (.textureCountByStorageKey storageKey)
      if 0 < references then
        cleanupStorageKeys storageKeys { result with skipped := result.skipped + 1 }
      else do
        query (.objectDelete storageKey)
        cleanupStorageKeys storageKeys { result with deleted := result.deleted + 1 }

/-- `cleanup_orphan_texture_blobs`. -/
def cleanupOrphanTextureBlobs : TextureProg OrphanTextureCleanupResult := do
  let storageKeys ← query .objectListKeys
  let textureStorageKeys := storageKeys.filter isTextureBlobStorageKey
  cleanupStorageKeys textureStorageKeys ⟨textureStorageKeys.length, 0, 0⟩

/-! ## Uploading -/

/-- `StoreTextureAssetInput`, with the uploaded bytes. -/
structure StoreTextureAsset where
  userId : Nat
  textureType : TextureType
  source : TextureSource
  textureModel : MinecraftTextureModel
  upload : List UInt8
  visibility : Visibility
  displayName : Option String
  deriving DecidableEq, Repr

/-- What the lookup of `store_or_reuse_wardrobe_texture` compares. -/
def StoreTextureAsset.fingerprint (input : StoreTextureAsset) (hash : String) :
    Fingerprint :=
  ⟨input.textureType, input.source, hash, input.textureModel⟩

/-- The row `store_or_reuse_wardrobe_texture` inserts. -/
def StoreTextureAsset.row (input : StoreTextureAsset)
    (processing : TextureProcessingResult) : CreateTexture where
  userId := input.userId
  textureType := input.textureType
  source := input.source
  hash := processing.hash
  storageKey := objectStorageKey processing.hash
  mimeType := pngContentType
  fileSize := processing.fileSize
  width := processing.width
  height := processing.height
  textureModel := input.textureModel
  visibility := input.visibility
  isWardrobeItem := true
  displayName := input.displayName

/-- Put the object, then insert the row. -/
def storeNewTexture (input : StoreTextureAsset) (processing : TextureProcessingResult) :
    TextureProg MinecraftTexture := do
  query (.objectPut (objectStorageKey processing.hash) processing.bytes)
  fitColumns processing
  match ← query (.textureInsert (input.row processing)) with
  | some texture => pure texture
  | none => do
      cleanupTextureBlobIfUnreferenced (objectStorageKey processing.hash)
      .err (.ofAster .databaseOperation)

/-- `store_or_reuse_wardrobe_texture`. -/
def storeOrReuseWardrobeTexture (codecs : TextureCodecs) (policy : TexturePolicy)
    (input : StoreTextureAsset) : TextureProg MinecraftTexture := do
  let processing ← processUpload codecs policy input.textureType input.upload
  let found ← query (.textureFindWardrobeByFingerprint input.userId
    (input.fingerprint processing.hash))
  match found with
  | some existing => pure existing
  | none => storeNewTexture input processing

/-- `store_wardrobe_texture`. -/
def storeWardrobeTexture (codecs : TextureCodecs) (policy : TexturePolicy) (userId : Nat)
    (textureType : TextureType) (textureModel : MinecraftTextureModel)
    (visibility : Visibility) (upload : List UInt8) : TextureProg MinecraftTexture := do
  ensureUserNotBanned .ofAster userId .textureUpload
  storeOrReuseWardrobeTexture codecs policy
    { userId := userId
      textureType := textureType
      source := .localTexture
      textureModel := textureModel
      upload := upload
      visibility := visibility
      displayName := none }

/-! ## Replacing -/

/-- `replace_wardrobe_content_for_user`: the row after the update, if the update
hit it and it is still there. -/
def replaceWardrobeContentForUser (texture : MinecraftTexture) (userId : Nat)
    (input : ReplaceContent) : TextureProg (Option MinecraftTexture) := do
  let replaced ← query (.textureReplaceContent texture.id userId texture.updatedAt input)
  if replaced then query (.textureFindByIdForUser texture.id userId)
  else pure none

/-- The loop of `replace_wardrobe_texture_content`, with the attempts that are
left after this one.  It returns the row it replaced and the row it left. -/
def replaceAttempts (userId textureId : Nat) (input : ReplaceContent) :
    Nat → MinecraftTexture → TextureProg (MinecraftTexture × MinecraftTexture)
  | left, existing => do
      match ← replaceWardrobeContentForUser existing userId input with
      | some texture => pure (existing, texture)
      | none => do
          let found ← query (.textureFindByIdForUser textureId userId)
          match found.filter MinecraftTexture.isWardrobeItem with
          | none => do
              cleanupTextureBlobIfUnreferenced input.storageKey
              .err (wardrobeTextureNotFound textureId)
          | some current =>
              -- someone else has stored the same content
              if current.hash = input.hash && current.textureModel = input.textureModel then
                pure (existing, current)
              else
                match left with
                | 0 => do
                    cleanupTextureBlobIfUnreferenced input.storageKey
                    .err (.new .conflict)
                | left + 1 => replaceAttempts userId textureId input left current

/-- The columns a replacement sets. -/
def replacement (processing : TextureProcessingResult)
    (textureModel : MinecraftTextureModel) : ReplaceContent where
  hash := processing.hash
  storageKey := objectStorageKey processing.hash
  mimeType := pngContentType
  fileSize := processing.fileSize
  width := processing.width
  height := processing.height
  textureModel := textureModel

/-- The object of a replacement is put only when the content changes. -/
def putNewContent (existing : MinecraftTexture) (processing : TextureProcessingResult) :
    TextureProg Unit :=
  if processing.hash ≠ existing.hash then
    query (.objectPut (objectStorageKey processing.hash) processing.bytes)
  else pure ()

/-- The object of the replaced content, if the key has changed. -/
def cleanupReplaced (existing updated : MinecraftTexture) : TextureProg Unit :=
  if existing.storageKey ≠ updated.storageKey then
    cleanupTextureBlobIfUnreferenced existing.storageKey
  else pure ()

/-- `replace_wardrobe_texture_content` from the changed content on. -/
def replaceWith (userId textureId : Nat) (existing : MinecraftTexture)
    (processing : TextureProcessingResult) (textureModel : MinecraftTextureModel) :
    TextureProg MinecraftTexture := do
  fitColumns processing
  putNewContent existing processing
  let _ ← query (.bindingListByTexture existing.id)
  let (replaced, updated) ← replaceAttempts userId textureId
    (replacement processing textureModel) (wardrobeReplaceMaxAttempts - 1) existing
  cleanupReplaced replaced updated
  pure updated

/-- `replace_wardrobe_texture_content`. -/
def replaceWardrobeTextureContent (codecs : TextureCodecs) (policy : TexturePolicy)
    (userId wardrobeTextureId : Nat) (textureModel : MinecraftTextureModel)
    (upload : List UInt8) : TextureProg MinecraftTexture := do
  ensureUserNotBanned .ofAster userId .textureUpload
  Prog.rejectIf (wardrobeTextureId = 0) (wardrobeTextureNotFound wardrobeTextureId)
  let found ← query (.textureFindByIdForUser wardrobeTextureId userId)
  let existing ← required (wardrobeTextureNotFound wardrobeTextureId)
    (found.filter MinecraftTexture.isWardrobeItem)
  let processing ← processUpload codecs policy existing.textureType upload
  let textureModel := effectiveModel existing textureModel
  if processing.hash = existing.hash && textureModel = existing.textureModel then
    pure existing
  else replaceWith userId wardrobeTextureId existing processing textureModel

/-! ## Copying from the library -/

/-- The row `create_wardrobe_copy` inserts. -/
def wardrobeCopy (source : MinecraftTexture) (userId : Nat)
    (displayName : Option String) : CreateTexture where
  userId := userId
  textureType := source.textureType
  source := .localTexture
  hash := source.hash
  storageKey := source.storageKey
  mimeType := source.mimeType
  fileSize := source.fileSize
  width := source.width
  height := source.height
  textureModel := source.textureModel
  visibility := .privateItem
  isWardrobeItem := true
  displayName := displayName

/-- The name of a copy. -/
def copyDisplayName (source : MinecraftTexture) :
    Option (NullablePatch String) → Except AsterError (Option String)
  | some value => normalizeTextureDisplayNamePatch value
  | none => .ok source.displayName

/-- A name is used once in a wardrobe. -/
def ensureDisplayNameFree (userId : Nat) : Option String → TextureProg Unit
  | some displayName => do
      let found ← query (.textureFindWardrobeByDisplayName userId displayName)
      rejectIf found.isSome
        (.validation (some .wardrobeTextureNameTaken) "wardrobe texture name already exists")
  | none => pure ()

/-- `copy_public_texture_to_wardrobe`. -/
def copyPublicTextureToWardrobe (policy : TexturePolicy) (userId textureId : Nat)
    (displayName : Option (NullablePatch String)) : TextureProg MinecraftTexture := do
  ensureTextureLibraryEnabled policy
  ensureUserNotBanned .aster userId .textureLibraryInteract
  rejectIf (textureId = 0)
    (.recordNotFoundCode .textureLibraryTextureNotFound "invalid public texture id")
  let found ← query (.textureFindPublicWardrobeById textureId)
  let source ← required (.aster (.recordNotFoundCode .textureLibraryTextureNotFound
    s!"public texture '{textureId}'")) found
  let own ← query (.textureFindWardrobeByFingerprint userId
    ⟨source.textureType, .localTexture, source.hash, source.textureModel⟩)
  match own with
  | some existing => pure existing
  | none => do
      let displayName ← checked (copyDisplayName source displayName)
      ensureDisplayNameFree userId displayName
      let inserted ← query (.textureInsert (wardrobeCopy source userId displayName))
      let copied ← required (.aster .databaseOperation) inserted
      let tagIds ← query (.tagListForTexture source.id)
      if tagIds.isEmpty then pure copied
      else do
        replaceTextureTags copied.id tagIds
        pure copied

/-! ## Deleting -/

/-- `delete_by_id_for_user`. -/
def deleteByIdForUser (id userId : Nat) : TextureProg (Option MinecraftTexture) := do
  match ← query (.textureFindByIdForUser id userId) with
  | none => pure none
  | some texture => do
      query (.textureDelete texture.id)
      pure (some texture)

/-- `delete_wardrobe_by_id`. -/
def deleteWardrobeById (id : Nat) : TextureProg (Option MinecraftTexture) := do
  let found ← query (.textureFindById id)
  match found.filter MinecraftTexture.isWardrobeItem with
  | none => pure none
  | some texture => do
      query (.textureDelete texture.id)
      pure (some texture)

/-- `delete_wardrobe_texture`. -/
def deleteWardrobeTexture (userId wardrobeTextureId : Nat) :
    TextureProg MinecraftTexture := do
  ensureUserNotBanned .ofAster userId .textureUpload
  let _ ← query (.bindingListByTexture wardrobeTextureId)
  let deleted ← required (wardrobeTextureNotFound wardrobeTextureId)
    (← deleteByIdForUser wardrobeTextureId userId)
  cleanupTextureBlobIfUnreferenced deleted.storageKey
  pure deleted

/-- `minecraft_profile_texture_repo::delete_by_texture_id`. -/
def deleteBindingsByTextureId (textureId : Nat) : TextureProg (List ProfileTexture) := do
  let bindings ← query (.bindingListByTexture textureId)
  Prog.forEach bindings fun b => query (.bindingDelete b.binding.id)
  pure bindings

/-- The error of a library texture that is not there. -/
def libraryTextureNotFound (textureId : Nat) : TextureFailure :=
  .withDetail .notFound s!"texture library texture #{textureId}"

/-- `delete_texture_library_texture`: the row and the number of bindings. -/
def deleteTextureLibraryTexture (textureId : Nat) :
    TextureProg (MinecraftTexture × Nat) := do
  Prog.rejectIf (textureId = 0) (libraryTextureNotFound textureId)
  let found ← query (.textureFindById textureId)
  let _ ← required (libraryTextureNotFound textureId)
    (found.filter MinecraftTexture.isWardrobeItem)
  let bindings ← deleteBindingsByTextureId textureId
  let deleted ← required (libraryTextureNotFound textureId)
    (← deleteWardrobeById textureId)
  cleanupTextureBlobIfUnreferenced deleted.storageKey
  pure (deleted, bindings.length)

end AsterYggdrasil.Textures
