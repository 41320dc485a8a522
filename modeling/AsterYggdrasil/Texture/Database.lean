import AsterYggdrasil.Texture.Entities
import AsterYggdrasil.Yggdrasil.Profile

/-!
# Textures: the statements

`TextureState` holds the texture tables beside those of the service, and the
objects of the object store.  A `TextureStmt` is one SQL statement or one
access to the object store; `TextureStmt.exec` is what it does.  Updates by id
set only the columns their input names, the content replacement is conditional
on `updated_at`, and a deleted row takes with it what refers to it.
-/

namespace AsterYggdrasil.Textures

open Interleave Relational

/-- The texture tables, the tags by id, which texture has which tag, and the
object store: each key with its bytes.  The ids of the tags are a primary key. -/
structure TextureState where
  service : ServiceState
  textures : Table textureSchema
  bindings : Table bindingSchema
  preferences : Table preferenceSchema
  reports : Table reportSchema
  tags : List Nat
  tags_nodup : tags.Nodup
  textureTags : Table tagBindingSchema
  objects : List (String × List UInt8)

namespace TextureState

/-- `Utc::now()`. -/
def now (s : TextureState) : Nat := s.service.db.now

/-- The keys in the object store. -/
def keys (s : TextureState) : List String := s.objects.map Prod.fst

/-- The user row a foreign key points to. -/
def hasUser (s : TextureState) (id : Nat) : Bool :=
  (s.service.db.users.find? fun u => u.id = id).isSome

/-- The profile row a foreign key points to. -/
def hasProfile (s : TextureState) (id : Nat) : Bool :=
  (s.service.db.profiles.find? fun p => p.id = id).isSome

def textureById (s : TextureState) (id : Nat) : Option MinecraftTexture :=
  s.textures.find? fun t => t.id = id

/-- The texture row a foreign key points to. -/
def hasTexture (s : TextureState) (id : Nat) : Bool := (s.textureById id).isSome

/-- `ON DELETE CASCADE` of what refers to a texture. -/
def dropTextures (s : TextureState) (p : MinecraftTexture → Bool) : TextureState :=
  let textures := s.textures.delete p
  let gone := fun id : Nat => (textures.find? fun t => t.id = id).isNone
  { s with
    textures := textures
    bindings := s.bindings.delete fun b => gone b.textureId
    preferences := s.preferences.delete fun f => gone f.textureId
    reports := s.reports.delete fun r => gone r.textureId
    textureTags := s.textureTags.delete fun x => gone x.textureId }

/-- `ON DELETE CASCADE` of what refers to a profile. -/
def dropProfile (s : TextureState) (id : Nat) : TextureState :=
  { s with
    bindings := s.bindings.delete fun b => b.profileId = id
    preferences := s.preferences.delete fun f => f.profileId = id }

/-- What a service statement deletes besides its own tables. -/
def cascade (i : ServiceStmt) (s : TextureState) : TextureState :=
  match i with
  | .db (.profileDelete id) => s.dropProfile id
  | .db (.userDelete id) =>
      let s := s.dropTextures fun t => t.userId = id
      { s with
        bindings := s.bindings.delete fun b => !s.hasProfile b.profileId
        preferences := s.preferences.delete fun f => !s.hasProfile f.profileId
        reports := s.reports.delete fun r => r.reporterUserId = id }
  | _ => s

/-- A binding with its texture; the join drops a binding without one. -/
def joined (s : TextureState) (bs : List Binding) : List ProfileTexture :=
  bs.filterMap fun b => (s.textureById b.textureId).map fun t => ⟨b, t⟩

/-- Update the textures that satisfy `p`. -/
def modifyTextures (s : TextureState) (p : MinecraftTexture → Bool)
    (f : MinecraftTexture → MinecraftTexture) (hid : ∀ t, (f t).id = t.id) :
    TextureState :=
  let hclash := fun a b : MinecraftTexture =>
    show textureSchema.clash (f a) b = textureSchema.clash a b by
      simp [textureSchema, hid]
  { s with textures := s.textures.modify p f hid hclash }

def modifyReports (s : TextureState) (p : TextureReport → Bool)
    (f : TextureReport → TextureReport) (hid : ∀ r, (f r).id = r.id) : TextureState :=
  let hclash := fun a b : TextureReport =>
    show reportSchema.clash (f a) b = reportSchema.clash a b by
      simp [reportSchema, hid]
  { s with reports := s.reports.modify p f hid hclash }

end TextureState

/-! ## What the statements write -/

/-- `CreateMinecraftTexture`, and what `create_wardrobe_copy` sets. -/
structure CreateTexture where
  userId : Nat
  textureType : TextureType
  source : TextureSource
  hash : String
  storageKey : String
  mimeType : String
  fileSize : Nat
  width : Nat
  height : Nat
  textureModel : MinecraftTextureModel
  visibility : Visibility
  isWardrobeItem : Bool
  displayName : Option String
  deriving DecidableEq, Repr

/-- The row a texture insert writes. -/
def newTexture (now id : Nat) (input : CreateTexture) : MinecraftTexture where
  id := id
  userId := input.userId
  textureType := input.textureType
  source := input.source
  hash := input.hash
  storageKey := input.storageKey
  mimeType := input.mimeType
  fileSize := input.fileSize
  width := input.width
  height := input.height
  textureModel := input.textureModel
  visibility := input.visibility
  isWardrobeItem := input.isWardrobeItem
  displayName := input.displayName
  libraryStatus := .privateItem
  librarySubmittedAt := none
  libraryReviewedAt := none
  libraryReviewerUserId := none
  libraryReviewNote := none
  createdAt := now
  updatedAt := now

/-- `UpdateWardrobeTextureMetadata`; `none` leaves a column alone. -/
structure UpdateMetadata where
  displayName : Option (Option String)
  textureModel : Option MinecraftTextureModel
  visibility : Option Visibility
  deriving DecidableEq, Repr

/-- A texture that is made private leaves the library. -/
def withdrawn (t : MinecraftTexture) : MinecraftTexture :=
  { t with
    libraryStatus := .privateItem
    librarySubmittedAt := none
    libraryReviewedAt := none
    libraryReviewerUserId := none
    libraryReviewNote := none }

/-- The row `update_wardrobe_metadata_for_user` writes over `t`. -/
def patchMetadata (now : Nat) (input : UpdateMetadata) (t : MinecraftTexture) :
    MinecraftTexture :=
  let t := { t with
    displayName := input.displayName.getD t.displayName
    textureModel := input.textureModel.getD t.textureModel
    visibility := input.visibility.getD t.visibility
    updatedAt := now }
  if input.visibility = some .privateItem then withdrawn t else t

/-- `ReplaceWardrobeTextureContent`. -/
structure ReplaceContent where
  hash : String
  storageKey : String
  mimeType : String
  fileSize : Nat
  width : Nat
  height : Nat
  textureModel : MinecraftTextureModel
  deriving DecidableEq, Repr

/-- The row `replace_wardrobe_content_for_user` writes over `t`. -/
def replaceContent (now : Nat) (input : ReplaceContent) (t : MinecraftTexture) :
    MinecraftTexture :=
  withdrawn { t with
    source := .localTexture
    hash := input.hash
    storageKey := input.storageKey
    mimeType := input.mimeType
    fileSize := input.fileSize
    width := input.width
    height := input.height
    textureModel := input.textureModel
    updatedAt := now }

/-- `UpdateTextureLibraryReview`; the outer `none` leaves a column alone. -/
structure UpdateReview where
  libraryStatus : LibraryStatus
  librarySubmittedAt : Option (Option Nat)
  libraryReviewedAt : Option (Option Nat)
  libraryReviewerUserId : Option (Option Nat)
  libraryReviewNote : Option (Option String)
  deriving DecidableEq, Repr

/-- The row `update_library_review` writes over `t`. -/
def patchReview (now : Nat) (input : UpdateReview) (t : MinecraftTexture) :
    MinecraftTexture :=
  { t with
    libraryStatus := input.libraryStatus
    librarySubmittedAt := input.librarySubmittedAt.getD t.librarySubmittedAt
    libraryReviewedAt := input.libraryReviewedAt.getD t.libraryReviewedAt
    libraryReviewerUserId := input.libraryReviewerUserId.getD t.libraryReviewerUserId
    libraryReviewNote := input.libraryReviewNote.getD t.libraryReviewNote
    updatedAt := now }

/-- The row `mark_as_wardrobe_item` writes over `t`. -/
def markedAsWardrobeItem (now : Nat) (t : MinecraftTexture) : MinecraftTexture :=
  { t with isWardrobeItem := true, updatedAt := now }

/-- `CreateTextureReport`. -/
structure CreateReport where
  textureId : Nat
  reporterUserId : Nat
  reason : ReportReason
  message : Option String
  deriving DecidableEq, Repr

/-- The row a report insert writes. -/
def newReport (now id : Nat) (input : CreateReport) : TextureReport where
  id := id
  textureId := input.textureId
  reporterUserId := input.reporterUserId
  reason := input.reason
  message := input.message
  status := .pending
  adminNote := none
  handledByUserId := none
  handledAt := none
  createdAt := now
  updatedAt := now

/-- `HandleTextureReport`. -/
structure HandleReport where
  status : ReportStatus
  adminNote : Option String
  handledByUserId : Nat
  handledAt : Nat
  deriving DecidableEq, Repr

/-- The row `handle` writes over `r`. -/
def handledReport (now : Nat) (input : HandleReport) (r : TextureReport) :
    TextureReport :=
  { r with
    status := input.status
    adminNote := input.adminNote
    handledByUserId := some input.handledByUserId
    handledAt := some input.handledAt
    updatedAt := now }

/-! ## Statements -/

/-- One statement, or one access to the object store. -/
inductive TextureStmt
  | service (i : ServiceStmt)
  | textureFindById (id : Nat)
  | textureFindByIdForUser (id userId : Nat)
  | textureFindPublicWardrobeById (id : Nat)
  | textureFindWardrobeByFingerprint (userId : Nat) (fingerprint : Fingerprint)
  | textureFindWardrobeByDisplayName (userId : Nat) (displayName : String)
  | textureListByHash (hash : String)
  | textureCountByStorageKey (storageKey : String)
  | textureInsert (input : CreateTexture)
  | textureMarkAsWardrobeItem (id : Nat)
  | textureUpdateMetadata (id : Nat) (input : UpdateMetadata)
  | textureReplaceContent (id userId expectedUpdatedAt : Nat) (input : ReplaceContent)
  | textureUpdateReview (id : Nat) (input : UpdateReview)
  | textureDelete (id : Nat)
  | bindingFindByProfileAndType (profileId : Nat) (textureType : TextureType)
  | bindingListAll
  | bindingListByProfile (profileId : Nat)
  | bindingListByTexture (textureId : Nat)
  | bindingListByHash (hash : String)
  | bindingCountByTexture (textureId : Nat)
  | bindingInsert (profileId textureId : Nat) (textureType : TextureType)
  | bindingSetTexture (id textureId : Nat)
  | bindingDelete (id : Nat)
  | preferenceFindByProfileAndType (profileId : Nat) (textureType : TextureType)
  | preferenceInsert (profileId textureId : Nat) (textureType : TextureType)
  | preferenceSetTexture (id textureId : Nat)
  | reportFindById (id : Nat)
  | reportFindPending (reporterUserId textureId : Nat)
  | reportInsert (input : CreateReport)
  | reportHandle (id : Nat) (input : HandleReport)
  | reportListPendingForTexture (textureId : Nat)
  | tagFindByIds (ids : List Nat)
  | tagListForTexture (textureId : Nat)
  | tagDeleteForTexture (textureId : Nat)
  | tagInsert (textureId tagId createdAt : Nat)
  | objectPut (storageKey : String) (bytes : List UInt8)
  | objectDelete (storageKey : String)
  | objectListKeys

/-- What each statement answers.  A write that a constraint refuses or that
finds no row answers `none` or `false`. -/
@[reducible] def TextureStmt.Reply : TextureStmt → Type
  | .service i => i.Reply
  | .textureFindById _ | .textureFindByIdForUser _ _ | .textureFindPublicWardrobeById _
  | .textureFindWardrobeByFingerprint _ _ | .textureFindWardrobeByDisplayName _ _
  | .textureInsert _ | .textureMarkAsWardrobeItem _ | .textureUpdateMetadata _ _
  | .textureUpdateReview _ _ => Option MinecraftTexture
  | .textureListByHash _ => List MinecraftTexture
  | .textureCountByStorageKey _ | .bindingCountByTexture _ => Nat
  | .textureReplaceContent _ _ _ _ => Bool
  | .textureDelete _ | .bindingDelete _ | .tagDeleteForTexture _ | .objectPut _ _
  | .objectDelete _ => Unit
  | .bindingFindByProfileAndType _ _ | .bindingInsert _ _ _ | .bindingSetTexture _ _ =>
      Option Binding
  | .bindingListAll | .bindingListByProfile _ | .bindingListByTexture _
  | .bindingListByHash _ => List ProfileTexture
  | .preferenceFindByProfileAndType _ _ | .preferenceInsert _ _ _
  | .preferenceSetTexture _ _ => Option Preference
  | .reportFindById _ | .reportFindPending _ _ | .reportInsert _ | .reportHandle _ _ =>
      Option TextureReport
  | .reportListPendingForTexture _ => List TextureReport
  | .tagFindByIds _ | .tagListForTexture _ => List Nat
  | .objectListKeys => List String
  | .tagInsert _ _ _ => Bool

@[reducible] def textureSignature : Signature := ⟨TextureStmt, TextureStmt.Reply⟩

namespace TextureState

/-- `INSERT INTO minecraft_textures`. -/
def insertTexture (s : TextureState) (input : CreateTexture) :
    Option MinecraftTexture × TextureState :=
  let (id, textures) := s.textures.nextId
  let row := newTexture s.now id input
  if s.hasUser input.userId then
    match textures.insert? row with
    | some textures => (some row, { s with textures := textures })
    | none => (none, { s with textures := textures })
  else (none, { s with textures := textures })

/-- `UPDATE minecraft_textures SET .. WHERE id = ?`, and the row it leaves. -/
def updateTexture (s : TextureState) (id : Nat)
    (f : MinecraftTexture → MinecraftTexture) (hid : ∀ t, (f t).id = t.id) :
    Option MinecraftTexture × TextureState :=
  ((s.textureById id).map f, s.modifyTextures (fun t => t.id = id) f hid)

/-- `UPDATE minecraft_textures SET .. WHERE id = ? AND user_id = ? AND
is_wardrobe_item AND updated_at = ?`. -/
def replaceTexture (s : TextureState) (id userId expectedUpdatedAt : Nat)
    (input : ReplaceContent) : Bool × TextureState :=
  let p := fun t : MinecraftTexture =>
    t.id = id && t.userId = userId && t.isWardrobeItem &&
      decide (t.updatedAt = expectedUpdatedAt)
  ((s.textures.select p).length == 1,
    s.modifyTextures p (replaceContent s.now input) fun _ => rfl)

/-- `INSERT INTO minecraft_profile_textures`. -/
def insertBinding (s : TextureState) (profileId textureId : Nat)
    (textureType : TextureType) : Option Binding × TextureState :=
  let (id, bindings) := s.bindings.nextId
  let row : Binding := ⟨id, profileId, textureId, textureType, s.now, s.now⟩
  if s.hasProfile profileId && s.hasTexture textureId then
    match bindings.insert? row with
    | some bindings => (some row, { s with bindings := bindings })
    | none => (none, { s with bindings := bindings })
  else (none, { s with bindings := bindings })

/-- `UPDATE minecraft_profile_textures SET texture_id = ? WHERE id = ?`. -/
def setBindingTexture (s : TextureState) (id textureId : Nat) :
    Option Binding × TextureState :=
  let f := fun b : Binding => { b with textureId := textureId, updatedAt := s.now }
  if s.hasTexture textureId then
    ((s.bindings.find? fun b => b.id = id).map f,
      { s with
        bindings := s.bindings.modify (fun b => b.id = id) f (fun _ => rfl)
          (fun _ _ => rfl) })
  else (none, s)

/-- `INSERT INTO minecraft_profile_texture_preferences`. -/
def insertPreference (s : TextureState) (profileId textureId : Nat)
    (textureType : TextureType) : Option Preference × TextureState :=
  let (id, preferences) := s.preferences.nextId
  let row : Preference := ⟨id, profileId, textureType, textureId, s.now, s.now⟩
  if s.hasProfile profileId && s.hasTexture textureId then
    match preferences.insert? row with
    | some preferences => (some row, { s with preferences := preferences })
    | none => (none, { s with preferences := preferences })
  else (none, { s with preferences := preferences })

/-- `UPDATE minecraft_profile_texture_preferences SET texture_id = ? WHERE
id = ?`. -/
def setPreferenceTexture (s : TextureState) (id textureId : Nat) :
    Option Preference × TextureState :=
  let f := fun x : Preference => { x with textureId := textureId, updatedAt := s.now }
  if s.hasTexture textureId then
    ((s.preferences.find? fun x => x.id = id).map f,
      { s with
        preferences := s.preferences.modify (fun x => x.id = id) f (fun _ => rfl)
          (fun _ _ => rfl) })
  else (none, s)

/-- `INSERT INTO minecraft_texture_reports`. -/
def insertReport (s : TextureState) (input : CreateReport) :
    Option TextureReport × TextureState :=
  let (id, reports) := s.reports.nextId
  let row := newReport s.now id input
  if s.hasTexture input.textureId && s.hasUser input.reporterUserId then
    match reports.insert? row with
    | some reports => (some row, { s with reports := reports })
    | none => (none, { s with reports := reports })
  else (none, { s with reports := reports })

/-- `INSERT INTO minecraft_texture_tag_bindings`. -/
def insertTagBinding (s : TextureState) (textureId tagId createdAt : Nat) :
    Bool × TextureState :=
  let (id, textureTags) := s.textureTags.nextId
  if s.hasTexture textureId && s.tags.contains tagId then
    match textureTags.insert? ⟨id, textureId, tagId, createdAt⟩ with
    | some textureTags => (true, { s with textureTags := textureTags })
    | none => (false, { s with textureTags := textureTags })
  else (false, { s with textureTags := textureTags })

/-- `put_file`: the object is there afterwards, whatever was there before. -/
def putObject (s : TextureState) (storageKey : String) (bytes : List UInt8) :
    TextureState :=
  { s with
    objects := (storageKey, bytes) :: s.objects.filter fun o => o.1 ≠ storageKey }

def deleteObject (s : TextureState) (storageKey : String) : TextureState :=
  { s with objects := s.objects.filter fun o => o.1 ≠ storageKey }

end TextureState

/-- What one statement does.  Rows stand in the order of their ids, so the
first row that matches is the one a query by ascending id answers. -/
def TextureStmt.exec : (i : TextureStmt) → TextureState → i.Reply × TextureState
  | .service i, s =>
      ((i.exec s.service).1,
        TextureState.cascade i { s with service := (i.exec s.service).2 })
  | .textureFindById id, s => (s.textureById id, s)
  | .textureFindByIdForUser id userId, s =>
      (s.textures.find? fun t => t.id = id && t.userId = userId, s)
  | .textureFindPublicWardrobeById id, s =>
      (s.textures.find? fun t => t.id = id && t.isWardrobeItem &&
        t.visibility = .publicItem && t.libraryStatus = .published, s)
  | .textureFindWardrobeByFingerprint userId fingerprint, s =>
      (s.textures.find? fun t => t.userId = userId && t.fingerprint = fingerprint &&
        t.isWardrobeItem, s)
  | .textureFindWardrobeByDisplayName userId displayName, s =>
      (s.textures.find? fun t => t.userId = userId && t.displayName = some displayName &&
        t.isWardrobeItem, s)
  | .textureListByHash hash, s => (s.textures.select fun t => t.hash = hash, s)
  | .textureCountByStorageKey storageKey, s =>
      ((s.textures.select fun t => t.storageKey = storageKey).length, s)
  | .textureInsert input, s => s.insertTexture input
  | .textureMarkAsWardrobeItem id, s =>
      s.updateTexture id (markedAsWardrobeItem s.now) fun _ => rfl
  | .textureUpdateMetadata id input, s =>
      s.updateTexture id (patchMetadata s.now input) fun t => by
        unfold patchMetadata
        split <;> rfl
  | .textureReplaceContent id userId expectedUpdatedAt input, s =>
      s.replaceTexture id userId expectedUpdatedAt input
  | .textureUpdateReview id input, s =>
      s.updateTexture id (patchReview s.now input) fun _ => rfl
  | .textureDelete id, s => ((), s.dropTextures fun t => t.id = id)
  | .bindingFindByProfileAndType profileId textureType, s =>
      (s.bindings.find? fun b => b.profileId = profileId && b.textureType = textureType, s)
  | .bindingListAll, s => (s.joined s.bindings.rows, s)
  | .bindingListByProfile profileId, s =>
      -- ordered by the name of the type
      ([TextureType.cape, .skin].flatMap fun textureType => s.joined (s.bindings.select
        fun b => b.profileId = profileId && b.textureType = textureType), s)
  | .bindingListByTexture textureId, s =>
      (s.joined (s.bindings.select fun b => b.textureId = textureId), s)
  | .bindingListByHash hash, s =>
      ((s.joined s.bindings.rows).filter fun b => b.texture.hash = hash, s)
  | .bindingCountByTexture textureId, s =>
      ((s.bindings.select fun b => b.textureId = textureId).length, s)
  | .bindingInsert profileId textureId textureType, s =>
      s.insertBinding profileId textureId textureType
  | .bindingSetTexture id textureId, s => s.setBindingTexture id textureId
  | .bindingDelete id, s =>
      ((), { s with bindings := s.bindings.delete fun b => b.id = id })
  | .preferenceFindByProfileAndType profileId textureType, s =>
      (s.preferences.find? fun x => x.profileId = profileId && x.textureType = textureType,
        s)
  | .preferenceInsert profileId textureId textureType, s =>
      s.insertPreference profileId textureId textureType
  | .preferenceSetTexture id textureId, s => s.setPreferenceTexture id textureId
  | .reportFindById id, s => (s.reports.find? fun r => r.id = id, s)
  | .reportFindPending reporterUserId textureId, s =>
      (s.reports.find? fun r => r.reporterUserId = reporterUserId &&
        r.textureId = textureId && r.status = .pending, s)
  | .reportInsert input, s => s.insertReport input
  | .reportHandle id input, s =>
      ((s.reports.find? fun r => r.id = id).map (handledReport s.now input),
        s.modifyReports (fun r => r.id = id) (handledReport s.now input) fun _ => rfl)
  | .reportListPendingForTexture textureId, s =>
      (s.reports.select fun r => r.textureId = textureId && r.status = .pending, s)
  | .tagFindByIds ids, s => (s.tags.filter fun id => ids.contains id, s)
  | .tagListForTexture textureId, s =>
      ((s.textureTags.select fun x => x.textureId = textureId).map TagBinding.tagId, s)
  | .tagDeleteForTexture textureId, s =>
      ((), { s with
        textureTags := s.textureTags.delete fun x => x.textureId = textureId })
  | .tagInsert textureId tagId createdAt, s => s.insertTagBinding textureId tagId createdAt
  | .objectPut storageKey bytes, s => ((), s.putObject storageKey bytes)
  | .objectDelete storageKey, s => ((), s.deleteObject storageKey)
  | .objectListKeys, s => (s.keys, s)

/-- The statements on textures as a machine. -/
@[reducible] def textureMachine : Machine textureSignature where
  State := TextureState
  exec := TextureStmt.exec

/-- Programs of the texture service. -/
abbrev TextureProg := Prog textureSignature TextureFailure

/-- One statement on the pool, or one access to the object store. -/
def query (i : TextureStmt) : TextureProg i.Reply := Prog.stmt (S := textureSignature) i

/-- The steps of the service. -/
def serviceHom : Signature.Hom serviceSignature textureSignature :=
  ⟨.service, fun _ r => r⟩

/-- A call of the service. -/
def ofService {α : Type} (g : ServiceError → TextureFailure) (p : Service α) :
    TextureProg α := p.hoist serviceHom g

/-- `Utc::now()`. -/
def utcNow : TextureProg Nat := query (.service (.db .now))

/-- A query that has to find a row, or a write that has to be accepted. -/
def required {α : Type} (e : TextureFailure) : Option α → TextureProg α
  | some a => .ok a
  | none => .err e

/-- A check of the service's own code. -/
def checked {α : Type} (r : Except AsterError α) : TextureProg α :=
  Prog.ofExcept (r.mapError .aster)

/-- Fail with a panel error if the condition holds. -/
def rejectIf (c : Bool) (e : AsterError) : TextureProg Unit := Prog.rejectIf c (.aster e)

end AsterYggdrasil.Textures
