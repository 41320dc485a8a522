import AsterYggdrasil.Ban.Service
import AsterYggdrasil.Texture.Database

/-!
# Textures: the public library

Submitting a texture, withdrawing it, and what moderators do with it; editing
its metadata; reports.  Each operation reads the row, checks what it has read,
and writes by primary key.  The tags and the uploader that an answer shows are
not read here; the answer is the row.
-/

namespace AsterYggdrasil.Textures

open Interleave Relational
open Bans (NullablePatch)
open External (trim)

/-- The part of the runtime policies the texture functions read. -/
structure TexturePolicy where
  libraryEnabled : Bool
  reviewRequired : Bool
  allowMicrosoftProfileTextureOverride : Bool
  maxTexturePixels : UInt64
  maxTextureUploadBytes : Nat
  deriving DecidableEq, Repr

/-! ## Checks -/

/-- `ban_service::ensure_user_not_banned`. -/
def ensureUserNotBanned (g : AsterError → TextureFailure) (userId : Nat)
    (scope : UserBanScope) : TextureProg Unit := do
  let ban ← query (.service (.db (.banFindEffectiveForScope userId scope)))
  Prog.rejectIf ban.isSome (g (.authForbidden (some .userBanForbidden)
    s!"user is banned from {scopeAsStr scope}"))

/-- `ensure_texture_library_enabled`. -/
def ensureTextureLibraryEnabled (policy : TexturePolicy) : TextureProg Unit :=
  rejectIf (!policy.libraryEnabled)
    (.validation (some .textureLibraryDisabled) "public texture library is disabled")

/-- Trim a text, drop it when nothing is left, refuse it when it is too long. -/
def normalizeText (maxChars : Nat) (code : AsterErrorCode) (message value : String) :
    Except AsterError (Option String) :=
  let value := trim value
  if value.isEmpty then .ok none
  else if maxChars < value.length then .error (.validation (some code) message)
  else .ok (some value)

/-- `normalize_review_note`. -/
def normalizeReviewNote : String → Except AsterError (Option String) :=
  normalizeText 512 .textureLibraryReviewNoteInvalid
    "review note must not exceed 512 characters"

/-- `normalize_review_note_optional`. -/
def normalizeReviewNoteOptional : Option String → Except AsterError (Option String)
  | some value => normalizeReviewNote value
  | none => .ok none

/-- `normalize_review_note_required`. -/
def normalizeReviewNoteRequired (value : Option String) : Except AsterError String := do
  match ← normalizeReviewNoteOptional value with
  | some note => .ok note
  | none =>
      .error (.validation (some .textureLibraryReviewNoteInvalid)
        "review note is required when rejecting a texture library submission")

/-- `normalize_report_message`. -/
def normalizeReportMessage : Option String → Except AsterError (Option String)
  | some value =>
      normalizeText 1000 .textureReportMessageInvalid
        "report message must not exceed 1000 characters" value
  | none => .ok none

/-- `normalize_admin_report_note`. -/
def normalizeAdminReportNote : Option String → Except AsterError (Option String)
  | some value =>
      normalizeText 512 .textureReportMessageInvalid
        "admin note must not exceed 512 characters" value
  | none => .ok none

/-- `normalize_texture_display_name`. -/
def normalizeTextureDisplayName : String → Except AsterError (Option String) :=
  normalizeText 96 .wardrobeTextureNameInvalid
    "texture display name must not exceed 96 characters"

/-- `normalize_texture_display_name_patch`. -/
def normalizeTextureDisplayNamePatch :
    NullablePatch String → Except AsterError (Option String)
  | .absent => .ok none
  | .null => .ok none
  | .value value => normalizeTextureDisplayName value

/-- `display_name.map(normalize_texture_display_name_patch).transpose()`. -/
def normalizeDisplayNameChange :
    Option (NullablePatch String) → Except AsterError (Option (Option String))
  | none => .ok none
  | some patch => (normalizeTextureDisplayNamePatch patch).map some

/-- `normalize_texture_tag_ids`. -/
def normalizeTextureTagIds (tagIds : List Nat) : Except AsterError (List Nat) :=
  if tagIds.any fun id => id = 0 then
    .error (.recordNotFoundCode .textureLibraryTagNotFound
      "invalid texture library tag id")
  else .ok (tagIds.dedup.insertionSort fun a b => a ≤ b)

/-! ## Looking rows up -/

/-- `user_wardrobe_texture`. -/
def userWardrobeTexture (userId textureId : Nat) : TextureProg MinecraftTexture := do
  rejectIf (textureId = 0)
    (.recordNotFoundCode .wardrobeTextureNotFound "invalid wardrobe texture id")
  let found ← query (.textureFindByIdForUser textureId userId)
  required (.aster (.recordNotFoundCode .wardrobeTextureNotFound
      s!"wardrobe texture '{textureId}'"))
    (found.filter MinecraftTexture.isWardrobeItem)

/-- `admin_wardrobe_texture`. -/
def adminWardrobeTexture (textureId : Nat) : TextureProg MinecraftTexture := do
  rejectIf (textureId = 0)
    (.recordNotFoundCode .textureLibraryTextureNotFound
      "invalid texture library texture id")
  let found ← query (.textureFindById textureId)
  required (.aster (.recordNotFoundCode .textureLibraryTextureNotFound
      s!"texture library texture '{textureId}'"))
    (found.filter MinecraftTexture.isWardrobeItem)

/-- `public_reportable_texture`. -/
def publicReportableTexture (textureId : Nat) : TextureProg MinecraftTexture := do
  rejectIf (textureId = 0)
    (.recordNotFoundCode .textureLibraryTextureNotFound
      "invalid texture library texture id")
  required (.aster (.validation (some .textureReportTextureNotReportable)
      "only published public texture library entries can be reported"))
    (← query (.textureFindPublicWardrobeById textureId))

/-- `admin_texture_report`. -/
def adminTextureReport (reportId : Nat) : TextureProg TextureReport := do
  rejectIf (reportId = 0)
    (.recordNotFoundCode .textureReportNotFound "invalid texture report id")
  required (.aster (.recordNotFoundCode .textureReportNotFound
      s!"texture report '{reportId}'"))
    (← query (.reportFindById reportId))

/-- `pending_admin_texture_report`. -/
def pendingAdminTextureReport (reportId : Nat) : TextureProg TextureReport := do
  let report ← adminTextureReport reportId
  rejectIf (report.status ≠ .pending)
    (.validation (some .textureReportNotPending)
      "only pending texture reports can be handled")
  pure report

/-! ## Repository calls -/

/-- `update_library_review`. -/
def updateLibraryReview (texture : MinecraftTexture) (input : UpdateReview) :
    TextureProg MinecraftTexture := do
  required (.aster .databaseOperation)
    (← query (.textureUpdateReview texture.id input))

/-- `replace_texture_tags`. -/
def replaceTextureTags (textureId : Nat) (tagIds : List Nat) : TextureProg Unit := do
  query (.tagDeleteForTexture textureId)
  let now ← utcNow
  Prog.forEach tagIds fun tagId => do
    let inserted ← query (.tagInsert textureId tagId now)
    rejectIf (!inserted) .databaseOperation

/-- `replace_library_texture_tags_for_admin`. -/
def replaceLibraryTextureTagsForAdmin (textureId : Nat) (tagIds : List Nat) :
    TextureProg Unit := do
  let uniqueTagIds ← checked (normalizeTextureTagIds tagIds)
  let tags ← query (.tagFindByIds uniqueTagIds)
  rejectIf (tags.length ≠ uniqueTagIds.length)
    (.recordNotFoundCode .textureLibraryTagNotFound
      "one or more texture library tags were not found")
  replaceTextureTags textureId uniqueTagIds

/-- The tags an approval brings along. -/
def replaceGivenTags (textureId : Nat) : Option (List Nat) → TextureProg Unit
  | some tagIds => replaceLibraryTextureTagsForAdmin textureId tagIds
  | none => pure ()

/-- `handle_pending_for_texture`. -/
def handlePendingForTexture (textureId : Nat) (input : HandleReport) :
    TextureProg Unit := do
  let reports ← query (.reportListPendingForTexture textureId)
  Prog.forEach reports fun report => do
    let _ ← required (.aster .databaseOperation)
      (← query (.reportHandle report.id input))

/-! ## The owner -/

/-- A skin takes the model it is given, a cape has none. -/
def effectiveModel (texture : MinecraftTexture) (model : MinecraftTextureModel) :
    MinecraftTextureModel :=
  if texture.textureType = .skin then model else .default

/-- `update_wardrobe_texture_metadata`. -/
def updateWardrobeTextureMetadata (userId textureId : Nat)
    (displayName : Option (NullablePatch String))
    (textureModel : Option MinecraftTextureModel) (visibility : Option Visibility) :
    TextureProg MinecraftTexture := do
  ensureUserNotBanned .aster userId .textureUpload
  let texture ← userWardrobeTexture userId textureId
  let displayName ← checked (normalizeDisplayNameChange displayName)
  required (.aster .databaseOperation)
    (← query (.textureUpdateMetadata texture.id
      { displayName := displayName
        textureModel := textureModel.map (effectiveModel texture)
        visibility := visibility }))

/-- What `submit` writes at time `now`. -/
def submission (policy : TexturePolicy) (now : Nat) : UpdateReview where
  libraryStatus := if policy.reviewRequired then .pendingReview else .published
  librarySubmittedAt := some (some now)
  libraryReviewedAt := some (if policy.reviewRequired then none else some now)
  libraryReviewerUserId := some none
  libraryReviewNote := some none

/-- `submit_texture_library_review`. -/
def submitTextureLibraryReview (policy : TexturePolicy) (userId textureId : Nat) :
    TextureProg MinecraftTexture := do
  ensureTextureLibraryEnabled policy
  ensureUserNotBanned .aster userId .textureLibraryInteract
  let texture ← userWardrobeTexture userId textureId
  rejectIf (texture.visibility ≠ .publicItem)
    (.validation (some .textureLibraryTextureNotPublic)
      "texture must be public before it can be submitted to the library")
  let now ← utcNow
  updateLibraryReview texture (submission policy now)

/-- What `withdraw` writes. -/
def withdrawal : UpdateReview where
  libraryStatus := .privateItem
  librarySubmittedAt := some none
  libraryReviewedAt := some none
  libraryReviewerUserId := some none
  libraryReviewNote := some none

/-- `withdraw_texture_library_submission`. -/
def withdrawTextureLibrarySubmission (policy : TexturePolicy) (userId textureId : Nat) :
    TextureProg MinecraftTexture := do
  ensureTextureLibraryEnabled policy
  ensureUserNotBanned .aster userId .textureLibraryInteract
  let texture ← userWardrobeTexture userId textureId
  updateLibraryReview texture withdrawal

/-! ## The moderators -/

/-- A review by `reviewerUserId` at time `now`. -/
def reviewed (libraryStatus : LibraryStatus) (submittedAt : Option (Option Nat))
    (reviewerUserId now : Nat) (note : Option String) : UpdateReview where
  libraryStatus := libraryStatus
  librarySubmittedAt := submittedAt
  libraryReviewedAt := some (some now)
  libraryReviewerUserId := some (some reviewerUserId)
  libraryReviewNote := some note

/-- `approve_texture_library_texture`. -/
def approveTextureLibraryTexture (policy : TexturePolicy)
    (reviewerUserId textureId : Nat) (reviewNote : Option String)
    (tagIds : Option (List Nat)) : TextureProg MinecraftTexture := do
  ensureTextureLibraryEnabled policy
  let texture ← adminWardrobeTexture textureId
  rejectIf (texture.libraryStatus ≠ .pendingReview)
    (.validation (some .textureLibraryTextureNotPending)
      "only pending texture library submissions can be approved")
  rejectIf (texture.visibility ≠ .publicItem)
    (.validation (some .textureLibraryTextureNotPublic)
      "texture must be public before it can be published")
  replaceGivenTags texture.id tagIds
  let now ← utcNow
  let note ← checked (normalizeReviewNoteOptional reviewNote)
  updateLibraryReview texture (reviewed .published none reviewerUserId now note)

/-- `reject_texture_library_texture`. -/
def rejectTextureLibraryTexture (policy : TexturePolicy)
    (reviewerUserId textureId : Nat) (reviewNote : Option String) :
    TextureProg MinecraftTexture := do
  ensureTextureLibraryEnabled policy
  let texture ← adminWardrobeTexture textureId
  rejectIf (texture.libraryStatus ≠ .pendingReview)
    (.validation (some .textureLibraryTextureNotPending)
      "only pending texture library submissions can be rejected")
  let note ← checked (normalizeReviewNoteRequired reviewNote)
  let now ← utcNow
  updateLibraryReview texture (reviewed .rejected none reviewerUserId now (some note))

/-- `unpublish_texture_library_texture`. -/
def unpublishTextureLibraryTexture (policy : TexturePolicy)
    (reviewerUserId textureId : Nat) (reviewNote : Option String) :
    TextureProg MinecraftTexture := do
  ensureTextureLibraryEnabled policy
  let texture ← adminWardrobeTexture textureId
  rejectIf (texture.libraryStatus ≠ .published)
    (.validation (some .textureLibraryTextureNotPublished)
      "only published texture library entries can be unpublished")
  let note ← checked (normalizeReviewNoteOptional reviewNote)
  let now ← utcNow
  let updated ← updateLibraryReview texture
    (reviewed .privateItem (some none) reviewerUserId now note)
  handlePendingForTexture textureId
    { status := .accepted
      adminNote := note
      handledByUserId := reviewerUserId
      handledAt := now }
  pure updated

/-! ## Reports -/

/-- `create_texture_library_report`. -/
def createTextureLibraryReport (policy : TexturePolicy)
    (reporterUserId textureId : Nat) (reason : ReportReason) (message : Option String) :
    TextureProg TextureReport := do
  ensureTextureLibraryEnabled policy
  ensureUserNotBanned .aster reporterUserId .textureLibraryInteract
  let texture ← publicReportableTexture textureId
  rejectIf (texture.userId = reporterUserId)
    (.validation (some .textureReportSelfReportNotAllowed)
      "users cannot report their own texture library entries")
  let pending ← query (.reportFindPending reporterUserId textureId)
  rejectIf pending.isSome
    (.validation (some .textureReportPendingExists)
      "a pending report already exists for this texture")
  let message ← checked (normalizeReportMessage message)
  required (.aster .databaseOperation)
    (← query (.reportInsert ⟨textureId, reporterUserId, reason, message⟩))

/-- `accept_texture_library_report`. -/
def acceptTextureLibraryReport (policy : TexturePolicy) (handlerUserId reportId : Nat)
    (adminNote : Option String) : TextureProg TextureReport := do
  ensureTextureLibraryEnabled policy
  let report ← pendingAdminTextureReport reportId
  let texture ← adminWardrobeTexture report.textureId
  let note ← checked (normalizeAdminReportNote adminNote)
  let now ← utcNow
  let _ ← updateLibraryReview texture
    (reviewed .privateItem (some none) handlerUserId now note)
  required (.aster .databaseOperation)
    (← query (.reportHandle report.id
      { status := .accepted
        adminNote := note
        handledByUserId := handlerUserId
        handledAt := now }))

end AsterYggdrasil.Textures
