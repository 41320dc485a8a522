import AsterYggdrasil.Texture.Footprint
import AsterYggdrasil.Interleave.Sequence

/-!
# The states of the public library

Six columns of a texture say how far it has come in the library, and about ten
operations write some of them.  `LibraryConsistent` says which combinations
occur.  An update of the metadata, a replacement and an insert lead to one of
them from any row; so do three of the five review updates.  A submission
relies on the visibility the call has read, and an approval on the submission
it has read.
-/

namespace AsterYggdrasil.Textures

open Interleave Relational
open Interleave.Prog

/-- The library columns of a row fit together. -/
structure LibraryConsistent (t : MinecraftTexture) : Prop where
  listed : t.libraryStatus = .pendingReview ∨ t.libraryStatus = .published →
    t.visibility = .publicItem ∧ t.isWardrobeItem = true ∧ t.librarySubmittedAt.isSome
  decided : t.libraryStatus = .published ∨ t.libraryStatus = .rejected →
    t.libraryReviewedAt.isSome
  undecided : t.libraryStatus = .pendingReview →
    t.libraryReviewedAt = none ∧ t.libraryReviewerUserId = none ∧
      t.libraryReviewNote = none
  unlisted : t.libraryStatus = .privateItem → t.librarySubmittedAt = none

def Consistent (s : TextureState) : Prop := ∀ t ∈ s.textures.rows, LibraryConsistent t

/-! ## Rows -/

/-- A row that is not in the library. -/
theorem consistent_of_private {t : MinecraftTexture} (hstatus : t.libraryStatus = .privateItem)
    (hsubmitted : t.librarySubmittedAt = none) : LibraryConsistent t := by
  constructor <;> simp [hstatus, hsubmitted]

theorem consistent_newTexture (now id : Nat) (input : CreateTexture) :
    LibraryConsistent (newTexture now id input) := consistent_of_private rfl rfl

theorem consistent_withdrawn (t : MinecraftTexture) : LibraryConsistent (withdrawn t) :=
  consistent_of_private rfl rfl

theorem consistent_replaceContent (now : Nat) (input : ReplaceContent)
    (t : MinecraftTexture) : LibraryConsistent (replaceContent now input t) :=
  consistent_withdrawn _

theorem consistent_markedAsWardrobeItem (now : Nat) {t : MinecraftTexture}
    (h : LibraryConsistent t) : LibraryConsistent (markedAsWardrobeItem now t) :=
  ⟨fun hlisted => ⟨(h.listed hlisted).1, rfl, (h.listed hlisted).2.2⟩, h.decided,
    h.undecided, h.unlisted⟩

/-- An update that makes a row private withdraws it, any other one leaves a
public row public. -/
theorem consistent_patchMetadata (now : Nat) (input : UpdateMetadata)
    {t : MinecraftTexture} (h : LibraryConsistent t) :
    LibraryConsistent (patchMetadata now input t) := by
  unfold patchMetadata
  split
  · exact consistent_withdrawn _
  · next hvisibility =>
      refine ⟨fun hlisted => ?_, h.decided, h.undecided, h.unlisted⟩
      obtain ⟨hpublic, hwardrobe, hsubmitted⟩ := h.listed hlisted
      refine ⟨?_, hwardrobe, hsubmitted⟩
      cases hinput : input.visibility with
      | none => exact hpublic
      | some visibility =>
          cases visibility with
          | privateItem => exact absurd hinput hvisibility
          | publicItem => rfl

/-- A review that takes the row out of the library. -/
theorem consistent_unlisting (now : Nat) {input : UpdateReview} (t : MinecraftTexture)
    (hstatus : input.libraryStatus = .privateItem)
    (hsubmitted : input.librarySubmittedAt = some none) :
    LibraryConsistent (patchReview now input t) := by
  apply consistent_of_private
  · exact hstatus
  · simp [patchReview, hsubmitted]

theorem consistent_rejection (now : Nat) (reviewerUserId time : Nat) (note : Option String)
    (t : MinecraftTexture) :
    LibraryConsistent (patchReview now (reviewed .rejected none reviewerUserId time note) t) := by
  constructor <;> simp [patchReview, reviewed]

/-- A public texture of a wardrobe can be submitted. -/
theorem consistent_submission (policy : TexturePolicy) (now time : Nat) {t : MinecraftTexture}
    (hpublic : t.visibility = .publicItem) (hwardrobe : t.isWardrobeItem = true) :
    LibraryConsistent (patchReview now (submission policy time) t) := by
  by_cases hreview : policy.reviewRequired = true
  · constructor <;> simp [patchReview, submission, hreview, hpublic, hwardrobe]
  · constructor <;> simp [patchReview, submission, hreview, hpublic, hwardrobe]

/-- A submission that is pending can be approved: it is public and says when it
was submitted. -/
theorem consistent_approval (now : Nat) (reviewerUserId time : Nat) (note : Option String)
    {t : MinecraftTexture} (h : LibraryConsistent t)
    (hpending : t.libraryStatus = .pendingReview) :
    LibraryConsistent (patchReview now (reviewed .published none reviewerUserId time note) t) := by
  have hlisted := h.listed (Or.inl hpending)
  exact ⟨fun _ => hlisted, fun _ => rfl, by simp [patchReview, reviewed],
    by simp [patchReview, reviewed]⟩

/-! ## Statements -/

/-- Every statement but the review update keeps the columns consistent. -/
theorem consistent_exec {i : TextureStmt} (hi : i.kind ≠ .review) {s : TextureState}
    (hs : Consistent s) : Consistent (i.exec s).2 := by
  intro t' ht'
  cases exec_textures i s ht' with
  | kept h => exact hs t' h
  | inserted input _ h => exact h ▸ consistent_newTexture _ _ input
  | written t ht h =>
      cases i with
      | textureMarkAsWardrobeItem id => exact h.2 ▸ consistent_markedAsWardrobeItem _ (hs t ht)
      | textureUpdateMetadata id input => exact h.2 ▸ consistent_patchMetadata _ input (hs t ht)
      | textureReplaceContent id userId updatedAt input =>
          exact h.2 ▸ consistent_replaceContent _ input t
      | textureUpdateReview id input => exact absurd rfl hi
      | _ => exact h.elim

/-- A review update keeps them when it fits the row it writes over. -/
theorem consistent_review {id : Nat} {input : UpdateReview} {s : TextureState}
    (hs : Consistent s)
    (hfits : ∀ t ∈ s.textures.rows, t.id = id →
      LibraryConsistent (patchReview s.now input t)) :
    Consistent ((TextureStmt.textureUpdateReview id input).exec s).2 := by
  intro t' ht'
  cases exec_textures _ s ht' with
  | kept h => exact hs t' h
  | inserted input hi h => cases hi
  | written t ht h => exact h.2 ▸ hfits t ht h.1

/-! ## Programs -/

theorem keeps_consistent {α : Type} {kinds : List StmtKind} {p : TextureProg α}
    (hp : Touches kinds p) (hreview : .review ∉ kinds) :
    p.Keeps textureMachine Consistent fun _ => True := by
  refine Within.keeps (Within.mono hp fun i hi s hs => consistent_exec ?_ hs)
  intro hkind
  rw [hkind] at hi
  rcases hi with hplain | hmem
  · cases hplain
  · exact hreview hmem

/-- A plain program keeps them. -/
theorem keeps_plain {α : Type} {p : TextureProg α} (hp : Touches [] p) :
    p.Keeps textureMachine Consistent fun _ => True := keeps_consistent hp (by simp)

theorem wp_updateLibraryReview {texture : MinecraftTexture} {input : UpdateReview}
    {s : TextureState} (hs : Consistent s)
    (hfits : ∀ t ∈ s.textures.rows, t.id = texture.id →
      LibraryConsistent (patchReview s.now input t)) :
    (updateLibraryReview texture input).Wp textureMachine
      (fun r s' => Consistent s' ∧ ∀ a, r = .ok a → True) s := by
  refine wp_stmt_bind.mpr ?_
  exact keeps_plain touches_required _ (consistent_review hs hfits)

/-- A review that fits every row. -/
theorem keeps_updateLibraryReview {texture : MinecraftTexture} {input : UpdateReview}
    (hfits : ∀ now t, LibraryConsistent (patchReview now input t)) :
    (updateLibraryReview texture input).Keeps textureMachine Consistent fun _ => True :=
  fun _ hs => wp_updateLibraryReview hs fun _ _ _ => hfits _ _

theorem keeps_withdraw (policy : TexturePolicy) (userId textureId : Nat) :
    (withdrawTextureLibrarySubmission policy userId textureId).Keeps textureMachine
      Consistent fun _ => True := by
  refine (keeps_consistent (touches_ensureTextureLibraryEnabled policy) (by simp)).bind
    fun _ _ => ?_
  refine (keeps_consistent (touches_ensureUserNotBanned _ _ _) (by simp)).bind fun _ _ => ?_
  refine (keeps_consistent (touches_userWardrobeTexture _ _) (by simp)).bind
    fun texture _ => ?_
  exact keeps_updateLibraryReview fun now t => consistent_unlisting now t rfl rfl

theorem keeps_reject (policy : TexturePolicy) (reviewerUserId textureId : Nat)
    (reviewNote : Option String) :
    (rejectTextureLibraryTexture policy reviewerUserId textureId reviewNote).Keeps
      textureMachine Consistent fun _ => True := by
  refine (keeps_consistent (touches_ensureTextureLibraryEnabled policy) (by simp)).bind
    fun _ _ => ?_
  refine (keeps_consistent (touches_adminWardrobeTexture _) (by simp)).bind
    fun texture _ => ?_
  refine keeps_rejectIf.bind fun _ _ => ?_
  refine (keeps_plain touches_checked).bind fun note _ => ?_
  refine (keeps_plain (touches_look rfl)).bind fun now _ => ?_
  exact keeps_updateLibraryReview fun _ t => consistent_rejection _ _ _ _ t

theorem keeps_unpublish (policy : TexturePolicy) (reviewerUserId textureId : Nat)
    (reviewNote : Option String) :
    (unpublishTextureLibraryTexture policy reviewerUserId textureId reviewNote).Keeps
      textureMachine Consistent fun _ => True := by
  refine (keeps_consistent (touches_ensureTextureLibraryEnabled policy) (by simp)).bind
    fun _ _ => ?_
  refine (keeps_consistent (touches_adminWardrobeTexture _) (by simp)).bind
    fun texture _ => ?_
  refine keeps_rejectIf.bind fun _ _ => ?_
  refine (keeps_plain touches_checked).bind fun note _ => ?_
  refine (keeps_plain (touches_look rfl)).bind fun now _ => ?_
  refine (keeps_updateLibraryReview fun _ t => consistent_unlisting _ t rfl rfl).bind
    fun updated _ => ?_
  exact (keeps_consistent (touches_handlePendingForTexture _ _) (by simp)).bind
    fun _ _ => keeps_ok trivial

theorem keeps_acceptReport (policy : TexturePolicy) (handlerUserId reportId : Nat)
    (adminNote : Option String) :
    (acceptTextureLibraryReport policy handlerUserId reportId adminNote).Keeps
      textureMachine Consistent fun _ => True := by
  refine (keeps_consistent (touches_ensureTextureLibraryEnabled policy) (by simp)).bind
    fun _ _ => ?_
  refine (keeps_consistent (touches_pendingAdminTextureReport _) (by simp)).bind
    fun report _ => ?_
  refine (keeps_consistent (touches_adminWardrobeTexture _) (by simp)).bind
    fun texture _ => ?_
  refine (keeps_plain touches_checked).bind fun note _ => ?_
  refine (keeps_plain (touches_look rfl)).bind fun now _ => ?_
  refine (keeps_updateLibraryReview fun _ t => consistent_unlisting _ t rfl rfl).bind
    fun updated _ => ?_
  refine (keeps_plain (touches_look rfl)).bind fun handled _ => ?_
  exact keeps_plain touches_required

/-- A submission writes over the row it has read, which is public. -/
theorem keeps_submit (policy : TexturePolicy) (userId textureId : Nat) :
    (submitTextureLibraryReview policy userId textureId).Keeps textureMachine Consistent
      fun _ => True := by
  intro s hs
  have herr : ∀ e : TextureFailure, Consistent s ∧
      ∀ a : MinecraftTexture, Except.error e = Except.ok a → True := fun _ => ⟨hs, fun _ _ => trivial⟩
  refine (looks_ensureTextureLibraryEnabled policy).wp_bind herr fun _ _ => ?_
  refine (looks_ensureUserNotBanned _ _ _).wp_bind herr fun _ _ => ?_
  refine (looks_userWardrobeTexture _ _).wp_bind herr fun texture hown => ?_
  refine looks_rejectIf.wp_bind herr fun _ hpublic => ?_
  refine looks_utcNow.wp_bind herr fun now _ => wp_updateLibraryReview hs ?_
  intro t ht hid
  have hsame : t = texture := s.textures.eq_of_ident ht hown.mem hid
  subst hsame
  exact consistent_submission policy _ now (by simpa using hpublic) hown.wardrobe

/-- The tags of an approval are written between the read of the row and the
update; they leave the row alone. -/
theorem keeps_approve (policy : TexturePolicy) (reviewerUserId textureId : Nat)
    (reviewNote : Option String) (tagIds : Option (List Nat)) :
    (approveTextureLibraryTexture policy reviewerUserId textureId reviewNote tagIds).Keeps
      textureMachine Consistent fun _ => True := by
  intro s hs
  have herr : ∀ e : TextureFailure, Consistent s ∧
      ∀ a : MinecraftTexture, Except.error e = Except.ok a → True := fun _ => ⟨hs, fun _ _ => trivial⟩
  refine (looks_ensureTextureLibraryEnabled policy).wp_bind herr fun _ _ => ?_
  refine (looks_adminWardrobeTexture _).wp_bind herr fun texture htexture => ?_
  obtain ⟨hmem, -, hwardrobe⟩ := htexture
  refine looks_rejectIf.wp_bind herr fun _ hpending => ?_
  refine looks_rejectIf.wp_bind herr fun _ hpublic => ?_
  have htagged : (replaceGivenTags texture.id tagIds).Keeps textureMachine
      (fun s' => s'.textures = s.textures) fun _ => True :=
    (touches_replaceGivenTags _ _).keeps_textures (by simp) _
  refine htagged.wp_bind rfl (fun e s' hsame => ⟨?_, fun _ _ => trivial⟩)
    fun _ s' hsame _ => ?_
  · unfold Consistent
    rwa [hsame]
  · have hs' : Consistent s' := by
      unfold Consistent
      rwa [hsame]
    refine looks_utcNow.wp_bind (fun _ => ⟨hs', fun _ _ => trivial⟩) fun now _ => ?_
    refine looks_checked.wp_bind (fun _ => ⟨hs', fun _ _ => trivial⟩) fun note _ => ?_
    refine wp_updateLibraryReview hs' fun t ht hid => ?_
    rw [hsame] at ht
    have hrow : t = texture := s.textures.eq_of_ident ht hmem hid
    subst hrow
    exact consistent_approval _ _ _ _ (hs t ht) (by simpa using hpending)

/-- **Every call keeps the library columns consistent.** -/
theorem keeps_call (codecs : TextureCodecs) (call : TextureCall) :
    (call.body codecs).Keeps textureMachine Consistent fun _ => True := by
  have hlast : ∀ {α : Type} {p : TextureProg α} (f : α → TextureResponse),
      (p.Keeps textureMachine Consistent fun _ => True) →
      (p.bind fun a => .ok (f a)).Keeps textureMachine Consistent fun _ => True :=
    fun f hp => hp.bind fun _ _ => keeps_ok trivial
  cases call with
  | submit policy userId textureId => exact hlast _ (keeps_submit policy userId textureId)
  | withdraw policy userId textureId =>
      exact hlast _ (keeps_withdraw policy userId textureId)
  | approve policy reviewerUserId textureId reviewNote tagIds =>
      exact hlast _ (keeps_approve policy reviewerUserId textureId reviewNote tagIds)
  | reject policy reviewerUserId textureId reviewNote =>
      exact hlast _ (keeps_reject policy reviewerUserId textureId reviewNote)
  | unpublish policy reviewerUserId textureId reviewNote =>
      exact hlast _ (keeps_unpublish policy reviewerUserId textureId reviewNote)
  | acceptReport policy handlerUserId reportId adminNote =>
      exact hlast _ (keeps_acceptReport policy handlerUserId reportId adminNote)
  | _ =>
      exact keeps_consistent (TextureCall.touches_body codecs _)
        (by simp [TextureCall.kinds])

/-! ## Runs -/

/-- **The library columns of every texture fit together**, after any sequence of
calls, whatever the policies of the calls, when the textures at the beginning
come from uploads. -/
theorem library_consistent (codecs : TextureCodecs) (s₀ : TextureState)
    (huploaded : ∀ t ∈ s₀.textures.rows, ∃ now id input, t = newTexture now id input)
    (calls : List TextureCall) :
    ∀ t ∈ (serve textureMachine (TextureCall.body codecs) s₀ calls).textures.rows,
      LibraryConsistent t := by
  refine serve_induct (M := textureMachine) (G := fun _ _ => True)
    (P := fun _ s => Consistent s) ?_ ?_ (guarded_of_forall (fun _ _ => trivial) _ calls)
  · intro t ht
    obtain ⟨now, id, input, rfl⟩ := huploaded t ht
    exact consistent_newTexture now id input
  · intro done call hs _
    exact (keeps_call codecs call _ hs).1

/-- Bob has uploaded a skin that everybody may see. -/
def bobsSkin : CreateTexture where
  userId := 2
  textureType := .skin
  source := .localTexture
  hash := String.ofList (List.replicate 64 'a')
  storageKey := objectStorageKey (String.ofList (List.replicate 64 'a'))
  mimeType := pngContentType
  fileSize := 2
  width := 64
  height := 64
  textureModel := .default
  visibility := .publicItem
  isWardrobeItem := true
  displayName := none

def bobUploaded : TextureState :=
  { twoPlayers with textures := ⟨[newTexture 5 1 bobsSkin], 2, by decide, by decide⟩ }

/-- Bob submits his skin and the administrator approves it. -/
def bobPublishes : List TextureCall :=
  [.submit openPolicy 2 1, .wait 5, .approve openPolicy 1 1 (some "nice") none]

/-- What the administrator publishes is consistent. -/
theorem published_consistent :
    let s := serve textureMachine (TextureCall.body twoImages) bobUploaded bobPublishes
    (s.textures.rows.map MinecraftTexture.libraryStatus = [.published]) ∧
      ∀ t ∈ s.textures.rows, LibraryConsistent t := by
  refine ⟨by decide +kernel, library_consistent twoImages bobUploaded ?_ bobPublishes⟩
  intro t ht
  exact ⟨5, 1, bobsSkin, List.mem_singleton.mp ht⟩

end AsterYggdrasil.Textures
