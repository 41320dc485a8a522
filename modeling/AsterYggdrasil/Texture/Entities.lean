import AsterYggdrasil.Yggdrasil.Entities

/-!
# Textures: the rows

A texture row says who owns an image, what it is, and how far it has come in
the public library; the image itself lies in object storage under the row's
`storageKey`.  A profile shows at most one texture of each type through a
binding, and remembers the last local one as a preference.

Many rows may share one image.  The key is made from the hash of the image, so
equal images share an object, and `isTextureBlobStorageKey` is how the
maintenance task recognises such keys among everything else in the store.
-/

namespace AsterYggdrasil.Textures

open Relational

inductive TextureType
  | skin | cape
  deriving DecidableEq, Repr

inductive TextureSource
  | localTexture | mojang
  deriving DecidableEq, Repr

inductive Visibility
  | privateItem | publicItem
  deriving DecidableEq, Repr

/-- `MinecraftTextureLibraryStatus`. -/
inductive LibraryStatus
  | privateItem | pendingReview | published | rejected
  deriving DecidableEq, Repr

inductive ReportStatus
  | pending | accepted | rejected
  deriving DecidableEq, Repr

inductive ReportReason
  | inappropriate | offensive | copyright | misleading | broken | spam | other
  deriving DecidableEq, Repr

/-- A row of `minecraft_textures`. -/
structure MinecraftTexture where
  id : Nat
  userId : Nat
  textureType : TextureType
  source : TextureSource
  hash : String
  storageKey : String
  mimeType : String
  fileSize : Nat
  width : Nat
  height : Nat
  textureModel : MinecraftTextureModel
  visibility : Visibility
  isWardrobeItem : Bool
  displayName : Option String
  libraryStatus : LibraryStatus
  librarySubmittedAt : Option Nat
  libraryReviewedAt : Option Nat
  libraryReviewerUserId : Option Nat
  libraryReviewNote : Option String
  createdAt : Nat
  updatedAt : Nat
  deriving DecidableEq, Repr

/-- What `find_wardrobe_by_fingerprint` compares. -/
structure Fingerprint where
  textureType : TextureType
  source : TextureSource
  hash : String
  textureModel : MinecraftTextureModel
  deriving DecidableEq, Repr

def MinecraftTexture.fingerprint (t : MinecraftTexture) : Fingerprint :=
  ⟨t.textureType, t.source, t.hash, t.textureModel⟩

/-- A row of `minecraft_profile_textures`. -/
structure Binding where
  id : Nat
  profileId : Nat
  textureId : Nat
  textureType : TextureType
  createdAt : Nat
  updatedAt : Nat
  deriving DecidableEq, Repr

/-- `ProfileTexture`: a binding joined with its texture. -/
structure ProfileTexture where
  binding : Binding
  texture : MinecraftTexture
  deriving DecidableEq, Repr

/-- A row of `minecraft_profile_texture_preferences`. -/
structure Preference where
  id : Nat
  profileId : Nat
  textureType : TextureType
  textureId : Nat
  createdAt : Nat
  updatedAt : Nat
  deriving DecidableEq, Repr

/-- A row of `minecraft_texture_reports`. -/
structure TextureReport where
  id : Nat
  textureId : Nat
  reporterUserId : Nat
  reason : ReportReason
  message : Option String
  status : ReportStatus
  adminNote : Option String
  handledByUserId : Option Nat
  handledAt : Option Nat
  createdAt : Nat
  updatedAt : Nat
  deriving DecidableEq, Repr

/-- A row of `minecraft_texture_tag_bindings`. -/
structure TagBinding where
  id : Nat
  textureId : Nat
  tagId : Nat
  createdAt : Nat
  deriving DecidableEq, Repr

/-! ## Unique indexes -/

/-- Textures are unique by id only: no index knows the fingerprint. -/
def textureSchema : Schema MinecraftTexture where
  ident := MinecraftTexture.id
  clash a b := a.id = b.id
  clash_symm a b := by simp [eq_comm]
  clash_of_ident a b h := by simp [h]

/-- A profile has one binding of each type. -/
def bindingSchema : Schema Binding where
  ident := Binding.id
  clash a b := a.id = b.id || (a.profileId = b.profileId && a.textureType = b.textureType)
  clash_symm a b := by
    rw [Bool.eq_iff_iff]
    simp only [Bool.or_eq_true, Bool.and_eq_true, decide_eq_true_eq]
    grind
  clash_of_ident a b h := by simp [h]

/-- A profile has one preference of each type. -/
def preferenceSchema : Schema Preference where
  ident := Preference.id
  clash a b := a.id = b.id || (a.profileId = b.profileId && a.textureType = b.textureType)
  clash_symm a b := by
    rw [Bool.eq_iff_iff]
    simp only [Bool.or_eq_true, Bool.and_eq_true, decide_eq_true_eq]
    grind
  clash_of_ident a b h := by simp [h]

def reportSchema : Schema TextureReport where
  ident := TextureReport.id
  clash a b := a.id = b.id
  clash_symm a b := by simp [eq_comm]
  clash_of_ident a b h := by simp [h]

/-- A texture has each tag once. -/
def tagBindingSchema : Schema TagBinding where
  ident := TagBinding.id
  clash a b := a.id = b.id || (a.textureId = b.textureId && a.tagId = b.tagId)
  clash_symm a b := by
    rw [Bool.eq_iff_iff]
    simp only [Bool.or_eq_true, Bool.and_eq_true, decide_eq_true_eq]
    grind
  clash_of_ident a b h := by simp [h]

/-! ## Hashes and storage keys -/

/-- `u8::is_ascii_hexdigit`. -/
def isAsciiHexdigit (c : Char) : Bool :=
  c.isDigit || ('a' ≤ c && c ≤ 'f') || ('A' ≤ c && c ≤ 'F')

/-- `is_valid_texture_hash`. -/
def isValidTextureHash (hash : String) : Bool :=
  hash.toList.length = 64 && hash.toList.all isAsciiHexdigit

/-- `object_storage_key`: two digits, a slash, the hash, `.png`. -/
def objectStorageKey (hash : String) : String :=
  String.ofList (hash.toList.take 2) ++ "/" ++ hash ++ ".png"

/-- `str::split_once`, on characters. -/
def splitOnce (c : Char) : List Char → Option (List Char × List Char)
  | [] => none
  | x :: xs =>
      if x = c then some ([], xs)
      else (splitOnce c xs).map fun (a, b) => (x :: a, b)

/-- `str::strip_suffix`, on characters. -/
def stripSuffix (suffix cs : List Char) : Option (List Char) :=
  if suffix.isSuffixOf cs then some (cs.take (cs.length - suffix.length)) else none

/-- `is_texture_blob_storage_key`. -/
def isTextureBlobStorageKey (storageKey : String) : Bool :=
  match splitOnce '/' storageKey.toList with
  | none => false
  | some (keyPrefix, fileName) =>
      if keyPrefix.length ≠ 2 || !keyPrefix.all isAsciiHexdigit then false
      else
        match stripSuffix ".png".toList fileName with
        | none => false
        | some hash =>
            hash.length = 64 && keyPrefix.isPrefixOf hash && hash.all isAsciiHexdigit

theorem splitOnce_append {c : Char} {xs ys : List Char} (h : c ∉ xs) :
    splitOnce c (xs ++ c :: ys) = some (xs, ys) := by
  induction xs with
  | nil => simp [splitOnce]
  | cons x xs ih =>
      have hx : x ≠ c := fun heq => h (heq ▸ List.mem_cons_self ..)
      have hxs : c ∉ xs := fun hmem => h (List.mem_cons_of_mem _ hmem)
      simp [splitOnce, hx, ih hxs]

theorem stripSuffix_append (suffix xs : List Char) :
    stripSuffix suffix (xs ++ suffix) = some xs := by
  have hsuffix : suffix.isSuffixOf (xs ++ suffix) = true :=
    List.isSuffixOf_iff_suffix.mpr (List.suffix_append xs suffix)
  simp [stripSuffix, hsuffix]

/-- **Keys made from hashes have the form the maintenance task looks for.** -/
theorem isTextureBlobStorageKey_objectStorageKey {hash : String}
    (h : isValidTextureHash hash = true) :
    isTextureBlobStorageKey (objectStorageKey hash) = true := by
  simp only [isValidTextureHash, Bool.and_eq_true, decide_eq_true_eq] at h
  obtain ⟨hlength, hall⟩ := h
  have htake : (hash.toList.take 2).all isAsciiHexdigit = true := by
    rw [List.all_eq_true] at hall ⊢
    exact fun c hc => hall c (List.mem_of_mem_take hc)
  have hslash : '/' ∉ hash.toList.take 2 := by
    intro hmem
    have hdigit := List.all_eq_true.mp htake _ hmem
    revert hdigit
    decide
  have hkey : (objectStorageKey hash).toList =
      hash.toList.take 2 ++ '/' :: (hash.toList ++ ".png".toList) := by
    simp [objectStorageKey]
  have hprefix : (hash.toList.take 2).isPrefixOf hash.toList = true :=
    List.isPrefixOf_iff_prefix.mpr (List.take_prefix 2 _)
  rw [isTextureBlobStorageKey, hkey, splitOnce_append hslash]
  simp only [List.length_take, hlength, htake, stripSuffix_append, hprefix, hall]
  rfl

/-! ## Errors -/

inductive TextureErrorKind
  | invalidTextureType | uploadDisabled | userBanForbidden | invalidToken
  | forbiddenProfile | notFound | conflict | invalidContentType | missingFile
  | invalidPng | invalidDimensions | storage
  deriving DecidableEq, Repr

structure TextureError where
  kind : TextureErrorKind
  detail : Option String
  deriving DecidableEq, Repr

/-- What a texture function fails with: its own error or the panel's. -/
inductive TextureFailure
  | texture (e : TextureError)
  | aster (e : AsterError)
  deriving DecidableEq, Repr

/-- `TextureError::new`. -/
def TextureFailure.new (kind : TextureErrorKind) : TextureFailure := .texture ⟨kind, none⟩

/-- `TextureError::with_detail`. -/
def TextureFailure.withDetail (kind : TextureErrorKind) (detail : String) :
    TextureFailure := .texture ⟨kind, some detail⟩

/-- `AsterError::api_error_code_override`. -/
def apiErrorCodeOverride : AsterError → Option AsterErrorCode
  | .validation code _ => code
  | .authForbidden code _ => code
  | .recordNotFoundCode code _ => some code
  | .gone code _ => some code
  | _ => none

/-- `From<AsterError> for TextureError`. -/
def TextureFailure.ofAster (e : AsterError) : TextureFailure :=
  if apiErrorCodeOverride e = some .userBanForbidden then .new .userBanForbidden
  else .new .storage

/-- The text of an error that carries none of its own. -/
def TextureErrorKind.message : TextureErrorKind → String
  | .invalidTextureType => "Invalid texture type."
  | .uploadDisabled => "Texture upload is disabled."
  | .userBanForbidden => "Texture upload is restricted for this account."
  | .invalidToken => "Invalid token."
  | .forbiddenProfile => "Profile does not belong to this user."
  | .notFound => "Texture not found."
  | .conflict => "Texture was modified concurrently; try again."
  | .invalidContentType => "Texture file must be image/png."
  | .missingFile => "Texture upload file is missing."
  | .invalidPng => "Invalid PNG texture."
  | .invalidDimensions => "Invalid texture dimensions."
  | .storage => "Object storage failed."

/-- `protocol_message`: only some kinds show their detail. -/
def TextureError.protocolMessage (e : TextureError) : String :=
  match e.kind with
  | .notFound | .conflict | .invalidPng | .invalidDimensions =>
      e.detail.getD e.kind.message
  | _ => e.kind.message

/-- `AsterError::internal_error(error.protocol_message())`. -/
def TextureFailure.asInternal : TextureFailure → TextureFailure
  | .texture e => .aster (.internal e.protocolMessage)
  | .aster e => .aster e

/-- `UserBanScope::as_str`. -/
def scopeAsStr : UserBanScope → String
  | .yggdrasilAccess => "yggdrasil_access"
  | .yggdrasilJoin => "yggdrasil_join"
  | .minecraftProfileManage => "minecraft_profile_manage"
  | .textureUpload => "texture_upload"
  | .textureLibraryInteract => "texture_library_interact"

/-- `MinecraftTextureType::as_str`. -/
def TextureType.asStr : TextureType → String
  | .skin => "skin"
  | .cape => "cape"

end AsterYggdrasil.Textures
