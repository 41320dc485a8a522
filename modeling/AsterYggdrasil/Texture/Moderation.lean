import AsterYggdrasil.Texture.Footprint

/-!
# Textures: the work of the moderators

The calls on the public library, with the checks that stand in front of them and
the reads behind them: after a review the answer shows the tags and the uploader
of the texture.  A rejected report and a replacement of tags complete what
`Library` defines.

`UploadersExist` is a foreign key of the schema.  Every statement keeps it, so the
read of the uploader always finds its row.
-/

namespace AsterYggdrasil.Textures

open Interleave Relational
open Interleave.Prog

/-! ## The operations -/

/-- `replace_wardrobe_texture_tags`; the answer shows the tags that were found. -/
def replaceWardrobeTextureTags (userId textureId : Nat) (tagIds : List Nat) :
    TextureProg (MinecraftTexture × List Nat) := do
  ensureUserNotBanned .aster userId .textureUpload
  let texture ← userWardrobeTexture userId textureId
  let uniqueTagIds ← checked (normalizeTextureTagIds tagIds)
  let tags ← query (.tagFindByIds uniqueTagIds)
  rejectIf (tags.length ≠ uniqueTagIds.length)
    (.recordNotFoundCode .textureLibraryTagNotFound
      "one or more texture library tags were not found")
  replaceTextureTags texture.id uniqueTagIds
  pure (texture, tags)

/-- `reject_texture_library_report`. -/
def rejectTextureLibraryReport (policy : TexturePolicy) (handlerUserId reportId : Nat)
    (adminNote : Option String) : TextureProg TextureReport := do
  ensureTextureLibraryEnabled policy
  let report ← pendingAdminTextureReport reportId
  let note ← checked (normalizeAdminReportNote adminNote)
  let now ← utcNow
  required (.aster .databaseOperation)
    (← query (.reportHandle report.id
      { status := .rejected
        adminNote := note
        handledByUserId := handlerUserId
        handledAt := now }))

/-- What `PublicTextureLibraryTextureMetadata` is made from. -/
structure TextureLibraryMetadata where
  texture : MinecraftTexture
  tags : List Nat
  uploader : User
  deriving DecidableEq, Repr

/-- `admin_texture_library_metadata`. -/
def adminTextureLibraryMetadata (texture : MinecraftTexture) :
    TextureProg TextureLibraryMetadata := do
  let tags ← query (.tagListForTexture texture.id)
  let uploader ← required (.aster (.recordNotFound s!"user #{texture.userId}"))
    (← query (.service (.db (.userFindById texture.userId))))
  pure ⟨texture, tags, uploader⟩

/-! ## The calls -/

/-- The calls of the moderators, and those that give them work. -/
inductive ModerationCall
  | submit (policy : TexturePolicy) (userId textureId : Nat)
  | approve (policy : TexturePolicy) (reviewerUserId textureId : Nat)
      (reviewNote : Option String) (tagIds : Option (List Nat))
  | reject (policy : TexturePolicy) (reviewerUserId textureId : Nat)
      (reviewNote : Option String)
  | unpublish (policy : TexturePolicy) (reviewerUserId textureId : Nat)
      (reviewNote : Option String)
  | createReport (policy : TexturePolicy) (reporterUserId textureId : Nat)
      (reason : ReportReason) (message : Option String)
  | acceptReport (policy : TexturePolicy) (handlerUserId reportId : Nat)
      (adminNote : Option String)
  | rejectReport (policy : TexturePolicy) (handlerUserId reportId : Nat)
      (adminNote : Option String)
  | replaceTags (userId textureId : Nat) (tagIds : List Nat)
  | replaceTagsForAdmin (textureId : Nat) (tagIds : List Nat)
  | wait (ms : Nat)
  deriving DecidableEq, Repr

inductive ModerationResponse
  | done
  | texture (texture : MinecraftTexture) (tags : List Nat)
  | library (metadata : TextureLibraryMetadata)
  | report (report : TextureReport)
  deriving DecidableEq, Repr

/-- The program of a call. -/
def ModerationCall.body : ModerationCall → TextureProg ModerationResponse
  | .submit policy userId textureId => do
      let texture ← submitTextureLibraryReview policy userId textureId
      let tags ← query (.tagListForTexture texture.id)
      pure (.texture texture tags)
  | .approve policy reviewerUserId textureId reviewNote tagIds => do
      let texture ← approveTextureLibraryTexture policy reviewerUserId textureId
        reviewNote tagIds
      let metadata ← adminTextureLibraryMetadata texture
      pure (.library metadata)
  | .reject policy reviewerUserId textureId reviewNote => do
      let texture ← rejectTextureLibraryTexture policy reviewerUserId textureId reviewNote
      let metadata ← adminTextureLibraryMetadata texture
      pure (.library metadata)
  | .unpublish policy reviewerUserId textureId reviewNote => do
      let texture ← unpublishTextureLibraryTexture policy reviewerUserId textureId
        reviewNote
      let metadata ← adminTextureLibraryMetadata texture
      pure (.library metadata)
  | .createReport policy reporterUserId textureId reason message => do
      let report ← createTextureLibraryReport policy reporterUserId textureId reason
        message
      pure (.report report)
  | .acceptReport policy handlerUserId reportId adminNote => do
      let report ← acceptTextureLibraryReport policy handlerUserId reportId adminNote
      pure (.report report)
  | .rejectReport policy handlerUserId reportId adminNote => do
      let report ← rejectTextureLibraryReport policy handlerUserId reportId adminNote
      pure (.report report)
  | .replaceTags userId textureId tagIds => do
      let (texture, tags) ← replaceWardrobeTextureTags userId textureId tagIds
      pure (.texture texture tags)
  | .replaceTagsForAdmin textureId tagIds => do
      replaceLibraryTextureTagsForAdmin textureId tagIds
      pure .done
  | .wait ms => do
      query (.service (.db (.advanceClock ms)))
      pure .done

/-! ## The requests -/

/-- `ReviewTextureLibraryTextureReq`. -/
structure ReviewTextureLibraryTextureReq where
  reviewNote : Option String
  tagIds : Option (List Nat)
  deriving DecidableEq, Repr

/-- `CreateTextureReportReq`. -/
structure CreateTextureReportReq where
  reason : ReportReason
  message : Option String
  deriving DecidableEq, Repr

/-- `HandleTextureReportReq`. -/
structure HandleTextureReportReq where
  adminNote : Option String
  deriving DecidableEq, Repr

/-- `ReplaceWardrobeTextureTagsReq`. -/
structure ReplaceWardrobeTextureTagsReq where
  tagIds : List Nat
  deriving DecidableEq, Repr

/-- `#[validate(length(max = max, message = message))]` on a field of this length. -/
def lengthErrors (max : Nat) (message : String) (length : Nat) : List String :=
  if length ≤ max then [] else [message]

/-- The same on a field that may be missing, which is then valid. -/
def optionalLengthErrors (max : Nat) (message : String) (length : Option Nat) :
    List String :=
  length.elim [] (lengthErrors max message)

/-- The bounds of `ReviewTextureLibraryTextureReq`; a text has its characters counted. -/
def ReviewTextureLibraryTextureReq.errors (body : ReviewTextureLibraryTextureReq) :
    List String :=
  optionalLengthErrors 512 "review note must not exceed 512 characters"
      (body.reviewNote.map String.length) ++
    optionalLengthErrors 16 "tag_ids must not contain more than 16 items"
      (body.tagIds.map List.length)

/-- The bound of `CreateTextureReportReq`. -/
def CreateTextureReportReq.errors (body : CreateTextureReportReq) : List String :=
  optionalLengthErrors 1000 "report message must not exceed 1000 characters"
    (body.message.map String.length)

/-- The bound of `HandleTextureReportReq`. -/
def HandleTextureReportReq.errors (body : HandleTextureReportReq) : List String :=
  optionalLengthErrors 512 "admin note must not exceed 512 characters"
    (body.adminNote.map String.length)

/-- The bound of `ReplaceWardrobeTextureTagsReq`. -/
def ReplaceWardrobeTextureTagsReq.errors (body : ReplaceWardrobeTextureTagsReq) :
    List String :=
  lengthErrors 16 "tag_ids must not contain more than 16 items" body.tagIds.length

/-- `validate_request`: the messages are sorted and joined. -/
def validateRequest (errors : List String) : Except AsterError Unit :=
  if errors.isEmpty then .ok ()
  else .error (.validation none
    (", ".intercalate (errors.mergeSort fun a b => decide (a ≤ b))))

theorem validateRequest_ok {errors : List String} (h : validateRequest errors = .ok ()) :
    errors = [] := by
  unfold validateRequest at h
  by_cases hempty : errors.isEmpty = true
  · exact List.isEmpty_iff.mp hempty
  · rw [if_neg hempty] at h
    cases h

/-- The routes of the moderators, and those that give them work, with the bodies of
their requests.  The last one has no route: it is what an approval with tags runs. -/
inductive ModerationRequest
  | submitTextureLibraryReview (policy : TexturePolicy) (userId textureId : Nat)
  | approveTextureLibraryTexture (policy : TexturePolicy) (reviewerUserId textureId : Nat)
      (body : ReviewTextureLibraryTextureReq)
  | rejectTextureLibraryTexture (policy : TexturePolicy) (reviewerUserId textureId : Nat)
      (body : ReviewTextureLibraryTextureReq)
  | unpublishTextureLibraryTexture (policy : TexturePolicy)
      (reviewerUserId textureId : Nat) (body : ReviewTextureLibraryTextureReq)
  | createTextureReport (policy : TexturePolicy) (userId textureId : Nat)
      (body : CreateTextureReportReq)
  | acceptTextureLibraryReport (policy : TexturePolicy) (handlerUserId reportId : Nat)
      (body : HandleTextureReportReq)
  | rejectTextureLibraryReport (policy : TexturePolicy) (handlerUserId reportId : Nat)
      (body : HandleTextureReportReq)
  | replaceWardrobeTextureTags (userId textureId : Nat)
      (body : ReplaceWardrobeTextureTagsReq)
  | replaceLibraryTextureTagsForAdmin (textureId : Nat) (tagIds : List Nat)
  deriving DecidableEq, Repr

/-- What `validate_request` finds in the body; the review routes share one type. -/
def ModerationRequest.errors : ModerationRequest → List String
  | .approveTextureLibraryTexture _ _ _ body | .rejectTextureLibraryTexture _ _ _ body
  | .unpublishTextureLibraryTexture _ _ _ body => body.errors
  | .createTextureReport _ _ _ body => body.errors
  | .acceptTextureLibraryReport _ _ _ body | .rejectTextureLibraryReport _ _ _ body =>
      body.errors
  | .replaceWardrobeTextureTags _ _ body => body.errors
  | .submitTextureLibraryReview _ _ _ | .replaceLibraryTextureTagsForAdmin _ _ => []

/-- The call behind the validation.  A rejection and an unpublication leave the tags
of their body unread. -/
def ModerationRequest.call : ModerationRequest → ModerationCall
  | .submitTextureLibraryReview policy userId textureId => .submit policy userId textureId
  | .approveTextureLibraryTexture policy reviewerUserId textureId body =>
      .approve policy reviewerUserId textureId body.reviewNote body.tagIds
  | .rejectTextureLibraryTexture policy reviewerUserId textureId body =>
      .reject policy reviewerUserId textureId body.reviewNote
  | .unpublishTextureLibraryTexture policy reviewerUserId textureId body =>
      .unpublish policy reviewerUserId textureId body.reviewNote
  | .createTextureReport policy userId textureId body =>
      .createReport policy userId textureId body.reason body.message
  | .acceptTextureLibraryReport policy handlerUserId reportId body =>
      .acceptReport policy handlerUserId reportId body.adminNote
  | .rejectTextureLibraryReport policy handlerUserId reportId body =>
      .rejectReport policy handlerUserId reportId body.adminNote
  | .replaceWardrobeTextureTags userId textureId body =>
      .replaceTags userId textureId body.tagIds
  | .replaceLibraryTextureTagsForAdmin textureId tagIds =>
      .replaceTagsForAdmin textureId tagIds

/-- The program of a request. -/
def ModerationRequest.body (request : ModerationRequest) :
    TextureProg ModerationResponse := do
  checked (validateRequest request.errors)
  request.call.body

/-! ## The uploaders -/

/-- The foreign key of `minecraft_textures.user_id`. -/
def UploadersExist (s : TextureState) : Prop :=
  ∀ t ∈ s.textures.rows, s.hasUser t.userId = true

theorem hasUser_iff {s : TextureState} {id : Nat} :
    s.hasUser id = true ↔ ∃ u ∈ s.service.db.users.rows, u.id = id := by
  simp [TextureState.hasUser, Table.find?, List.find?_isSome]

/-- A statement that does not delete accounts keeps the ids of the users. -/
theorem exec_userIds {i : ServiceStmt} (hi : i.keepsProfiles = true) (s : ServiceState)
    {u : User} (hu : u ∈ s.db.users.rows) :
    ∃ u' ∈ (i.exec s).2.db.users.rows, u'.id = u.id := by
  cases i with
  | db i =>
      cases i with
      | profileInsert | profileUpdateName | profileDelete | userDelete => cases hi
      | userInsert input =>
          simp only [ServiceStmt.exec, DbStmt.exec]
          split
          · next users hinsert =>
              have hrows := (Table.insert?_eq_some hinsert).1
              exact ⟨u, hrows ▸ List.mem_append_left _ hu, rfl⟩
          · exact ⟨u, hu, rfl⟩
      | userUpdate id patch =>
          simp only [ServiceStmt.exec, DbStmt.exec]
          split
          · exact ⟨u, hu, rfl⟩
          · split
            · next users hupdate =>
                have hrows := (Table.update?_eq_some hupdate).1
                refine ⟨_, hrows ▸ List.mem_map_of_mem hu, ?_⟩
                split <;> rfl
            · exact ⟨u, hu, rfl⟩
      | tokenInsert | banInsert =>
          refine ⟨u, ?_, rfl⟩
          simp only [ServiceStmt.exec, DbStmt.exec]
          repeat' split
          all_goals exact hu
      | _ => exact ⟨u, hu, rfl⟩
  | txn t => cases hi
  | _ => exact ⟨u, hu, rfl⟩

theorem exec_hasUser {i : TextureStmt} (hi : i.kind ≠ .account) {s : TextureState}
    {id : Nat} (h : s.hasUser id = true) : (i.exec s).2.hasUser id = true := by
  obtain ⟨u, hu, rfl⟩ := hasUser_iff.mp h
  rw [hasUser_iff]
  cases i with
  | service i =>
      by_cases hkeeps : i.keepsProfiles = true
      · simp only [TextureStmt.exec, cascade_of_keeps hkeeps]
        exact exec_userIds hkeeps s.service hu
      · cases i with
        | db i =>
            cases i with
            | profileDelete id => exact ⟨u, hu, rfl⟩
            | profileInsert | profileUpdateName | userDelete => exact absurd rfl hi
            | _ => exact absurd rfl hkeeps
        | txn t => exact absurd rfl hi
        | _ => exact absurd rfl hkeeps
  | textureInsert | bindingInsert | bindingSetTexture | preferenceInsert
  | preferenceSetTexture | reportInsert | tagInsert =>
      refine ⟨u, ?_, rfl⟩
      simp only [TextureStmt.exec, TextureState.insertTexture, TextureState.insertBinding,
        TextureState.setBindingTexture, TextureState.insertPreference,
        TextureState.setPreferenceTexture, TextureState.insertReport,
        TextureState.insertTagBinding]
      repeat' split
      all_goals exact hu
  | _ => exact ⟨u, hu, rfl⟩

/-- **Every uploader exists**, before a statement and after it. -/
theorem exec_uploadersExist {i : TextureStmt} (hi : i.kind ≠ .account) {s : TextureState}
    (hs : UploadersExist s) : UploadersExist (i.exec s).2 := by
  intro t' ht'
  cases exec_textures i s ht' with
  | kept h => exact exec_hasUser hi (hs t' h)
  | inserted input hinsert h =>
      subst hinsert
      by_cases huser : s.hasUser input.userId = true
      · rw [h]
        exact exec_hasUser hi huser
      · -- the key refuses the row, so `t'` stood there before
        have hold : t' ∈ s.textures.rows := by
          simp only [TextureStmt.exec, TextureState.insertTexture, if_neg huser] at ht'
          exact ht'
        exact exec_hasUser hi (hs t' hold)
  | written t ht h =>
      have huser : t'.userId = t.userId := by
        cases i with
        | textureMarkAsWardrobeItem | textureUpdateReview | textureReplaceContent =>
            exact h.2 ▸ rfl
        | textureUpdateMetadata id input =>
            rw [h.2]
            unfold patchMetadata
            split <;> rfl
        | _ => exact h.elim
      rw [huser]
      exact exec_hasUser hi (hs t ht)

end AsterYggdrasil.Textures
