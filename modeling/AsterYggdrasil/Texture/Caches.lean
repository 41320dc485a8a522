import AsterYggdrasil.Interleave.Outcomes
import AsterYggdrasil.Texture.Profiles

/-!
# The caches of textures

Reads of textures fill two caches: the properties of a profile, under keys that
begin with its id, and the object behind a hash.  A deletion invalidates what it
has made stale, and the profile is touched, so that a reader who is late writes
under an old key.

The caches come on top of the tables.  Without the statements on them,
`deleteTexturesByHashCached` is the deletion on the tables
(`deleteTexturesByHashCached_uncached`).
-/

namespace AsterYggdrasil.Textures

open Interleave Relational
open Interleave.Prog

/-! ## The state -/

/-- `TextureBlob`. -/
structure TextureBlob where
  storageKey : String
  deriving DecidableEq, Repr

/-- The tables and objects with the two caches.  A key of the properties is the id
of the profile and a rest. -/
structure CachedState where
  rows : TextureState
  properties : Nat → String → Option (List ProfileProperty)
  lookups : String → Option TextureBlob

inductive CachedStmt
  | rows (i : TextureStmt)
  | invalidateProfileProperties (profileId : Nat)
  | touchProfile (profileId : Nat)
  | deleteTextureBlobLookup (hash : String)

@[reducible] def CachedStmt.Reply : CachedStmt → Type
  | .rows i => i.Reply
  | .invalidateProfileProperties _ | .touchProfile _ | .deleteTextureBlobLookup _ => Unit

@[reducible] def cachedSignature : Signature := ⟨CachedStmt, CachedStmt.Reply⟩

/-- `minecraft_profile_repo::touch_by_id`. -/
def TextureState.touchProfile (s : TextureState) (id : Nat) : TextureState :=
  { s with
    service := { s.service with
      db := { s.service.db with
        profiles := s.service.db.profiles.modify (fun p => p.id = id)
          (fun p => { p with updatedAt := s.now }) (fun _ => rfl) (fun _ _ => rfl) } } }

def CachedStmt.exec : (i : CachedStmt) → CachedState → i.Reply × CachedState
  | .rows i, s => ((i.exec s.rows).1, { s with rows := (i.exec s.rows).2 })
  | .invalidateProfileProperties profileId, s =>
      ((), { s with
        properties := fun id rest => if id = profileId then none else s.properties id rest })
  | .touchProfile profileId, s => ((), { s with rows := s.rows.touchProfile profileId })
  | .deleteTextureBlobLookup hash, s =>
      ((), { s with lookups := fun h => if h = hash then none else s.lookups h })

@[reducible] def cachedMachine : Machine cachedSignature where
  State := CachedState
  exec := CachedStmt.exec

/-- Programs that also write to the caches. -/
abbrev CachedProg := Prog cachedSignature TextureFailure

def cacheQuery (i : CachedStmt) : CachedProg i.Reply := Prog.stmt (S := cachedSignature) i

def rowsHom : Signature.Hom textureSignature cachedSignature := ⟨.rows, fun _ r => r⟩

/-- A program on the tables. -/
def ofRows {α : Type} (p : TextureProg α) : CachedProg α := p.hoist rowsHom id

/-! ## Invalidation -/

/-- `invalidate_profile_texture_caches`. -/
def invalidateProfileTextureCaches (profileId : Nat) : CachedProg Unit := do
  cacheQuery (.invalidateProfileProperties profileId)
  cacheQuery (.touchProfile profileId)

/-- `invalidate_texture_asset_caches`. -/
def invalidateTextureAssetCaches (texture : MinecraftTexture) : CachedProg Unit :=
  if isValidTextureHash texture.hash then cacheQuery (.deleteTextureBlobLookup texture.hash)
  else pure ()

/-! ## Deleting by hash -/

/-- One binding of `delete_textures_by_hash`. -/
def deleteBoundByHashCached (b : ProfileTexture) :
    CachedProg (Option DeletedMinecraftTexture) := do
  let found ← ofRows (query (.service (.db (.profileFindById b.binding.profileId))))
  let profile ← ofRows (required (.ofAster
    (.recordNotFound s!"minecraft profile #{b.binding.profileId}")) found)
  match ← ofRows (deleteForProfile profile.id b.binding.textureType) with
  | none => pure none
  | some deleted => do
      ofRows (cleanupTextureAssetIfUnreferenced deleted.texture)
      invalidateProfileTextureCaches profile.id
      invalidateTextureAssetCaches deleted.texture
      pure (some ⟨deleted, profile⟩)

/-- The first loop of `delete_textures_by_hash`. -/
def deleteAllBoundByHashCached :
    List ProfileTexture → CachedProg (List DeletedMinecraftTexture)
  | [] => pure []
  | b :: bound => do
      let deleted ← deleteBoundByHashCached b
      let rest ← deleteAllBoundByHashCached bound
      pure (deleted.toList ++ rest)

/-- One row of the second loop. -/
def cleanupDeletedAsset (texture : MinecraftTexture) : CachedProg Unit := do
  ofRows (cleanupTextureBlobIfUnreferenced texture.storageKey)
  invalidateTextureAssetCaches texture

/-- `delete_textures_by_hash`, with its caches. -/
def deleteTexturesByHashCached (hash : String) : CachedProg (List DeletedMinecraftTexture) :=
  if !isValidTextureHash hash then pure []
  else do
    let bound ← ofRows (query (.bindingListByHash hash))
    let deleted ← deleteAllBoundByHashCached bound
    let textures ← ofRows (query (.textureListByHash hash))
    ofRows (Prog.forEach textures fun texture => query (.textureDelete texture.id))
    Prog.forEach textures cleanupDeletedAsset
    pure deleted

/-! ## Without the caches -/

/-- A statement without the caches. -/
def uncached : (i : CachedStmt) → TextureProg i.Reply
  | .rows i => query i
  | .invalidateProfileProperties _ | .touchProfile _ | .deleteTextureBlobLookup _ => pure ()

theorem translate_ofRows {α : Type} (p : TextureProg α) : (ofRows p).translate uncached = p := by
  induction p with
  | ok a => rfl
  | err e => rfl
  | act i k ih =>
      have hrest : (fun r => (ofRows (k r)).translate uncached) = k := funext ih
      exact congrArg (Prog.act i) hrest

theorem translate_invalidateTextureAssetCaches (texture : MinecraftTexture) :
    (invalidateTextureAssetCaches texture).translate uncached = pure () := by
  unfold invalidateTextureAssetCaches
  split <;> rfl

theorem translate_deleteBoundByHashCached (b : ProfileTexture) :
    (deleteBoundByHashCached b).translate uncached = deleteBoundByHash b := by
  unfold deleteBoundByHashCached deleteBoundByHash deleteTextureForProfileUnchecked
  simp only [bind_eq, translate_bind, translate_ofRows, bind_assoc]
  congr 1
  funext found
  congr 1
  funext profile
  congr 1
  funext deleted
  cases deleted with
  | none => rfl
  | some deleted =>
      simp only [translate_bind, translate_ofRows, bind_assoc,
        translate_invalidateTextureAssetCaches]
      rfl

theorem translate_deleteAllBoundByHashCached (bound : List ProfileTexture) :
    (deleteAllBoundByHashCached bound).translate uncached = deleteAllBoundByHash bound := by
  induction bound with
  | nil => rfl
  | cons b bound ih =>
      unfold deleteAllBoundByHashCached deleteAllBoundByHash
      simp only [bind_eq, translate_bind, translate_deleteBoundByHashCached, ih]
      rfl

theorem cleanupTextureBlob_bind (storageKey : String) :
    ((cleanupTextureBlobIfUnreferenced storageKey).bind fun _ => pure ()) =
      cleanupTextureBlobIfUnreferenced storageKey := by
  unfold cleanupTextureBlobIfUnreferenced
  simp only [bind_eq, bind_assoc]
  congr 1
  funext refCount
  split <;> rfl

theorem translate_cleanupDeletedAssets (textures : List MinecraftTexture) :
    (Prog.forEach textures cleanupDeletedAsset).translate uncached =
      Prog.forEach textures fun texture => cleanupTextureBlobIfUnreferenced texture.storageKey := by
  induction textures with
  | nil => rfl
  | cons texture textures ih =>
      have hone : (cleanupDeletedAsset texture).translate uncached =
          cleanupTextureBlobIfUnreferenced texture.storageKey := by
        unfold cleanupDeletedAsset
        simp only [bind_eq, translate_bind, translate_ofRows,
          translate_invalidateTextureAssetCaches]
        exact cleanupTextureBlob_bind _
      change ((cleanupDeletedAsset texture).bind fun _ =>
        Prog.forEach textures cleanupDeletedAsset).translate uncached = _
      rw [translate_bind, hone, ih]
      rfl

/-- **Without its statements on the caches, the deletion is the one on the tables.** -/
theorem deleteTexturesByHashCached_uncached (hash : String) :
    (deleteTexturesByHashCached hash).translate uncached = deleteTexturesByHash hash := by
  unfold deleteTexturesByHashCached deleteTexturesByHash
  split
  · rfl
  · simp only [bind_eq, translate_bind, translate_ofRows, translate_deleteAllBoundByHashCached,
      translate_cleanupDeletedAssets]
    rfl

end AsterYggdrasil.Textures
