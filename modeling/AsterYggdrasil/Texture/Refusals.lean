import AsterYggdrasil.Interleave.Outcomes
import AsterYggdrasil.Texture.LibraryStates
import AsterYggdrasil.Texture.Moderation

/-!
# Refused calls of the moderators

The calls of the moderators write tags, a texture and reports in statements of their
own, without a transaction.  A call that is refused should leave all of them as they
are.  Behind the first write every error is one of the database, so every refusal
comes from a check in front of it; `Outcomes` says both with one postcondition for the
errors.

There is one exception.  An approval replaces the tags of the texture first and looks
at the length of its note afterwards (`refused_keeps_iff`).  No request reaches it: the
route has validated the length before (`refused_requests_keep`).
-/

namespace AsterYggdrasil.Textures

open Interleave Relational
open Interleave.Prog
open External (trim)

/-- A validation error, or one that something was not found. -/
def TextureFailure.isRefusal : TextureFailure → Bool
  | .aster (.validation _ _) | .aster (.recordNotFound _)
  | .aster (.recordNotFoundCode _ _) => true
  | _ => false

/-- The same texture rows, tag bindings and reports. -/
structure SameLibrary (s s' : TextureState) : Prop where
  textures : s'.textures.rows = s.textures.rows
  textureTags : s'.textureTags.rows = s.textureTags.rows
  reports : s'.reports.rows = s.reports.rows

theorem SameLibrary.refl (s : TextureState) : SameLibrary s s := ⟨rfl, rfl, rfl⟩

/-- An error that is a refusal comes with the library as it was in `s`. -/
def KeptOnRefusal (s : TextureState) (e : TextureFailure) (s' : TextureState) : Prop :=
  e.isRefusal = true → SameLibrary s s'

/-- Errors behind a write. -/
def NoRefusal (e : TextureFailure) (_ : TextureState) : Prop := e.isRefusal = false

section Refusals

variable {s s₀ : TextureState} {α : Type} {K : α → TextureState → Prop}

/-- A part that refuses nothing may stand anywhere. -/
theorem kept_of_noRefusal {p : TextureProg α} (h : p.Outcomes textureMachine NoRefusal K s) :
    p.Outcomes textureMachine (KeptOnRefusal s₀) K s := by
  refine h.mono (fun e _ he hrefusal => ?_) fun _ _ hK => hK
  have hno : e.isRefusal = false := he
  rw [hno] at hrefusal
  cases hrefusal

/-- A failing check in front of every write. -/
theorem kept_here (e : TextureFailure) : KeptOnRefusal s e s := fun _ => SameLibrary.refl s

/-! ## The writes -/

theorem outcomes_written (found : Option α) (h : ∀ a, found = some a → K a s) :
    (required (.aster .databaseOperation) found).Outcomes textureMachine NoRefusal K s := by
  cases found with
  | none => exact outcomes_err rfl
  | some a => exact outcomes_ok (h a rfl)

/-- One statement in front; what follows sees its reply and the state it leaves. -/
theorem outcomes_query {β : Type} {E : TextureFailure → TextureState → Prop}
    {K : β → TextureState → Prop} {i : TextureStmt} {f : i.Reply → TextureProg β}
    (h : (f (i.exec s).1).Outcomes textureMachine E K (i.exec s).2) :
    ((query i).bind f).Outcomes textureMachine E K s := h

/-- A lookup that finds its row. -/
theorem outcomes_required {E : TextureFailure → TextureState → Prop} {e : TextureFailure}
    {found : Option α} {a : α} (hfound : found = some a) (h : K a s) :
    (required e found).Outcomes textureMachine E K s := by
  rw [hfound]
  exact outcomes_ok h

/-- A write that is accepted. -/
theorem outcomes_accepted {E : TextureFailure → TextureState → Prop}
    {K : Unit → TextureState → Prop} {c : Bool} {e : AsterError} (hc : c = true)
    (h : K () s) : (rejectIf (!c) e).Outcomes textureMachine E K s := by
  rw [hc]
  exact outcomes_ok h

/-- A write that says whether it was accepted. -/
theorem outcomes_flag {K : Unit → TextureState → Prop} {c : Bool} (h : K () s) :
    (rejectIf (!c) .databaseOperation).Outcomes textureMachine NoRefusal K s := by
  cases c with
  | true => exact outcomes_ok h
  | false => exact outcomes_err rfl

/-- A review leaves the row with the uploader it had. -/
theorem outcomes_updateLibraryReview (hs : UploadersExist s) (texture : MinecraftTexture)
    (input : UpdateReview) :
    (updateLibraryReview texture input).Outcomes textureMachine NoRefusal
      (fun t s' => s'.hasUser t.userId = true) s := by
  have hkind : (TextureStmt.textureUpdateReview texture.id input).kind ≠ .account := by
    intro h
    cases h
  refine outcomes_query (outcomes_written _ fun t ht => ?_)
  obtain ⟨row, hrow, rfl⟩ := Option.map_eq_some_iff.mp ht
  exact exec_hasUser hkind (hs row (textureById_eq_some hrow).1)

theorem outcomes_handlePendingForTexture (textureId : Nat) (input : HandleReport)
    {userId : Nat} (huser : s.hasUser userId = true) :
    (handlePendingForTexture textureId input).Outcomes textureMachine NoRefusal
      (fun _ s' => s'.hasUser userId = true) s := by
  refine outcomes_query ?_
  refine outcomes_forEach (M := textureMachine)
    (fun _ (s' : TextureState) => s'.hasUser userId = true) (fun report rest s' hs' => ?_) huser
  have hkind : (TextureStmt.reportHandle report.id input).kind ≠ .account := by
    intro h
    cases h
  refine outcomes_query ?_
  have hwritten := outcomes_written (K := fun _ s'' => s''.hasUser userId = true)
    ((TextureStmt.reportHandle report.id input).exec s').1
    fun _ _ => exec_hasUser hkind hs'
  exact hwritten.bind fun _ s'' h => outcomes_ok h

/-- The answer to a review; the uploader is there. -/
theorem outcomes_adminTextureLibraryMetadata {texture : MinecraftTexture}
    (huser : s.hasUser texture.userId = true) :
    (adminTextureLibraryMetadata texture).Outcomes textureMachine NoRefusal
      (fun _ _ => True) s := by
  obtain ⟨u, hu⟩ := Option.isSome_iff_exists.mp huser
  have hfound := outcomes_required (s := s) (E := NoRefusal) (K := fun _ _ => True)
    (e := .aster (.recordNotFound s!"user #{texture.userId}")) hu trivial
  exact outcomes_query (outcomes_query (hfound.bind fun _ _ _ => outcomes_ok trivial))

end Refusals

/-! ## Tags -/

theorem normalizeTextureTagIds_ok {tagIds ids : List Nat}
    (h : normalizeTextureTagIds tagIds = .ok ids) :
    (∀ id ∈ tagIds, id ≠ 0) ∧ ids.Nodup ∧ ∀ id, id ∈ ids ↔ id ∈ tagIds := by
  unfold normalizeTextureTagIds at h
  split at h
  · cases h
  · next hany =>
      cases h
      have hsorted := List.perm_insertionSort (fun a b : Nat => a ≤ b) tagIds.dedup
      refine ⟨fun id hid hzero => hany ?_, ?_, fun id => ?_⟩
      · exact List.any_eq_true.mpr ⟨id, hid, by simpa using hzero⟩
      · exact hsorted.nodup_iff.mpr (List.nodup_dedup tagIds)
      · rw [hsorted.mem_iff, List.mem_dedup]

theorem exists_normalizeTextureTagIds {tagIds : List Nat} (h : ∀ id ∈ tagIds, id ≠ 0) :
    ∃ ids, normalizeTextureTagIds tagIds = .ok ids := by
  unfold normalizeTextureTagIds
  rw [if_neg]
  · exact ⟨_, rfl⟩
  · simpa using fun hzero => h 0 hzero rfl

/-- As many tags are found as are asked for: all of them. -/
theorem length_foundTags_iff (s : TextureState) {ids : List Nat} (hids : ids.Nodup) :
    (s.tags.filter fun id => ids.contains id).length = ids.length ↔
      ∀ id ∈ ids, id ∈ s.tags := by
  have hfound : (s.tags.filter fun id => ids.contains id).Nodup := s.tags_nodup.filter _
  have hsub : (s.tags.filter fun id => ids.contains id).Subperm ids := by
    refine hfound.subperm fun id hid => ?_
    simpa using (List.mem_filter.mp hid).2
  constructor
  · intro hlength id hid
    have hperm := hsub.perm_of_length_le (Nat.le_of_eq hlength.symm)
    exact (List.mem_filter.mp (hperm.mem_iff.mpr hid)).1
  · intro hall
    refine Nat.le_antisymm hsub.length_le (List.Subperm.length_le (hids.subperm ?_))
    intro id hid
    exact List.mem_filter.mpr ⟨hall id hid, by simpa using hid⟩

section Tags

variable {s : TextureState} {textureId : Nat} {ids : List Nat}

/-- A tag that the texture does not have goes in. -/
theorem insertTagBinding_of_free {tagId : Nat} (createdAt : Nat)
    (htexture : s.hasTexture textureId = true) (htag : tagId ∈ s.tags)
    (hfree : ∀ b ∈ s.textureTags.rows, b.textureId = textureId → b.tagId ≠ tagId) :
    ∃ textureTags, s.insertTagBinding textureId tagId createdAt =
        (true, { s with textureTags := textureTags }) ∧
      textureTags.rows = s.textureTags.rows ++
        [⟨s.textureTags.seq, textureId, tagId, createdAt⟩] ∧
      textureTags.seq = s.textureTags.seq + 1 := by
  have hclash : ∀ b ∈ s.textureTags.nextId.2.rows,
      tagBindingSchema.clash b ⟨s.textureTags.seq, textureId, tagId, createdAt⟩ = false := by
    intro b hb
    have hid : b.id < s.textureTags.seq := s.textureTags.fresh b hb
    have htags := hfree b hb
    simp only [tagBindingSchema, Bool.or_eq_false_iff, Bool.and_eq_false_iff,
      decide_eq_false_iff_not]
    refine ⟨by omega, ?_⟩
    by_cases h : b.textureId = textureId
    · exact Or.inr (htags h)
    · exact Or.inl h
  obtain ⟨textureTags, hinsert⟩ := Table.exists_insert? hclash (Nat.lt_succ_self _)
  obtain ⟨hrows, hseq, -⟩ := Table.insert?_eq_some hinsert
  refine ⟨textureTags, ?_, hrows, hseq⟩
  have hguard : (s.hasTexture textureId && s.tags.contains tagId) = true := by
    rw [htexture, List.contains_iff_mem.mpr htag]
    rfl
  simp only [TextureState.insertTagBinding, hguard, if_true, Table.nextId_fst, hinsert]

/-- What a replacement of the tags leaves, `xs` still to be written. -/
structure Retagging (s : TextureState) (textureId : Nat) (ids xs : List Nat)
    (s' : TextureState) : Prop where
  textures : s'.textures = s.textures
  tags : s'.tags = s.tags
  seq : s.textureTags.seq ≤ s'.textureTags.seq
  new : ∀ b ∈ s'.textureTags.rows, b.textureId = textureId →
    s.textureTags.seq ≤ b.id ∧ b.tagId ∉ xs
  left : ∀ x ∈ xs, x ∈ s.tags
  nodup : xs.Nodup
  written : xs = ids ∨ ∃ b ∈ s'.textureTags.rows, b.textureId = textureId

theorem Retagging.step {x createdAt : Nat} {xs : List Nat} {s' : TextureState}
    (htexture : s.hasTexture textureId = true) (h : Retagging s textureId ids (x :: xs) s') :
    (s'.insertTagBinding textureId x createdAt).1 = true ∧
      Retagging s textureId ids xs (s'.insertTagBinding textureId x createdAt).2 := by
  have htexture' : s'.hasTexture textureId = true := by
    unfold TextureState.hasTexture TextureState.textureById
    rw [h.textures]
    exact htexture
  have htag : x ∈ s'.tags := h.tags ▸ h.left x (List.mem_cons_self ..)
  have hfree : ∀ b ∈ s'.textureTags.rows, b.textureId = textureId → b.tagId ≠ x := by
    intro b hb hid heq
    exact (h.new b hb hid).2 (heq ▸ List.mem_cons_self ..)
  obtain ⟨textureTags, hinsert, hrows, hseq⟩ :=
    insertTagBinding_of_free createdAt htexture' htag hfree
  rw [hinsert]
  have hlast : ⟨s'.textureTags.seq, textureId, x, createdAt⟩ ∈ textureTags.rows := by
    simp [hrows]
  obtain ⟨hx, hxs⟩ := List.nodup_cons.mp h.nodup
  refine ⟨rfl, h.textures, h.tags, ?_, fun b hb hid => ?_, fun y hy =>
    h.left y (List.mem_cons_of_mem _ hy), hxs, Or.inr ⟨_, hlast, rfl⟩⟩
  · have hle := h.seq
    show s.textureTags.seq ≤ textureTags.seq
    omega
  · have hb' : b ∈ s'.textureTags.rows ++
        [⟨s'.textureTags.seq, textureId, x, createdAt⟩] := hrows ▸ hb
    rcases List.mem_append.mp hb' with hold | hnew
    · obtain ⟨hnewer, htags⟩ := h.new b hold hid
      exact ⟨hnewer, fun hmem => htags (List.mem_cons_of_mem _ hmem)⟩
    · rw [List.mem_singleton.mp hnew]
      exact ⟨h.seq, hx⟩

/-- **A replacement of the tags succeeds** when the texture and the tags exist. -/
theorem outcomes_retagging (htexture : s.hasTexture textureId = true) (hids : ids.Nodup)
    (htags : ∀ id ∈ ids, id ∈ s.tags) :
    (replaceTextureTags textureId ids).Outcomes textureMachine (fun _ _ => False)
      (fun _ s' => Retagging s textureId ids [] s') s := by
  refine outcomes_query (outcomes_query ?_)
  refine outcomes_forEach (M := textureMachine) (Retagging s textureId ids)
    (fun x xs s' h => ?_) ?_
  · obtain ⟨hinsert, hnext⟩ := h.step htexture
    exact outcomes_query (outcomes_accepted hinsert hnext)
  · refine ⟨rfl, rfl, Nat.le_refl _, fun b hb hid => ?_, htags, hids, Or.inl rfl⟩
    obtain ⟨-, hgone⟩ := List.mem_filter.mp hb
    simp [hid] at hgone

/-- The texture has tags that are new. -/
theorem Retagging.rows_ne {s' : TextureState} (h : Retagging s textureId ids [] s')
    (hany : ids ≠ [] ∨ ∃ b ∈ s.textureTags.rows, b.textureId = textureId) :
    s'.textureTags.rows ≠ s.textureTags.rows := by
  intro hsame
  have hbound : ∃ b ∈ s.textureTags.rows, b.textureId = textureId := by
    rcases hany with hids | hbound
    · rcases h.written with hnil | hwritten
      · exact absurd hnil.symm hids
      · exact hsame ▸ hwritten
    · exact hbound
  obtain ⟨b, hb, hid⟩ := hbound
  have hold : b.id < s.textureTags.seq := s.textureTags.fresh b hb
  have hnew := (h.new b (hsame ▸ hb) hid).1
  omega

/-- In any case a replacement refuses nothing, and one of nothing by nothing changes
nothing. -/
theorem outcomes_replaceTextureTags (hs : UploadersExist s) :
    (replaceTextureTags textureId ids).Outcomes textureMachine NoRefusal
      (fun _ s' => UploadersExist s' ∧ (ids = [] →
        (∀ b ∈ s.textureTags.rows, b.textureId ≠ textureId) → SameLibrary s s')) s := by
  refine outcomes_query (outcomes_query ?_)
  cases ids with
  | nil =>
      refine outcomes_ok ⟨hs, fun _ hfree => ⟨rfl, ?_, rfl⟩⟩
      refine List.filter_eq_self.mpr fun b hb => ?_
      simpa using hfree b hb
  | cons tagId rest =>
      have hloop : ∀ createdAt, ∀ s', UploadersExist s' →
          (forEach (tagId :: rest) fun tagId =>
            (query (.tagInsert textureId tagId createdAt)).bind fun inserted =>
              rejectIf (!inserted) .databaseOperation).Outcomes textureMachine NoRefusal
            (fun _ s' => UploadersExist s') s' := by
        intro createdAt s' hs'
        refine outcomes_forEach (M := textureMachine) (fun _ s' => UploadersExist s')
          (fun x xs s' hs' => ?_) hs'
        refine outcomes_query (outcomes_flag ?_)
        exact exec_uploadersExist (i := .tagInsert textureId x createdAt) (by simp [TextureStmt.kind]) hs'
      have hcleared : UploadersExist ((TextureStmt.tagDeleteForTexture textureId).exec s).2 := hs
      refine Outcomes.mono (hloop s.now _ hcleared) (fun _ _ h => h) fun _ s' hs' =>
        ⟨hs', fun hnil => ?_⟩
      cases hnil

/-- What a replacement by a moderator has found and leaves. -/
structure Replaced (s : TextureState) (textureId : Nat) (tagIds : List Nat)
    (s' : TextureState) : Prop where
  uploaders : UploadersExist s'
  exist : ∀ id ∈ tagIds, id ≠ 0 ∧ id ∈ s.tags
  same : tagIds = [] → (∀ b ∈ s.textureTags.rows, b.textureId ≠ textureId) →
    SameLibrary s s'

theorem outcomes_replaceForAdmin (hs : UploadersExist s) (tagIds : List Nat) :
    (replaceLibraryTextureTagsForAdmin textureId tagIds).Outcomes textureMachine
      (KeptOnRefusal s) (fun _ s' => Replaced s textureId tagIds s') s := by
  refine looks_checked.bind_outcomes kept_here fun ids hids => ?_
  obtain ⟨hpositive, hnodup, hmem⟩ := normalizeTextureTagIds_ok hids
  refine (looks_query rfl).bind_outcomes kept_here fun tags htags => ?_
  refine looks_rejectIf.bind_outcomes kept_here fun _ hlength => ?_
  have hall : ∀ id ∈ ids, id ∈ s.tags := by
    refine (length_foundTags_iff s hnodup).mp ?_
    rw [htags] at hlength
    simpa [TextureStmt.exec] using hlength
  refine (kept_of_noRefusal (outcomes_replaceTextureTags hs)).mono (fun _ _ h => h)
    fun _ s' h => ⟨h.1, fun id hid => ?_, fun hnil hfree => ?_⟩
  · exact ⟨hpositive id hid, hall id ((hmem id).mpr hid)⟩
  · refine h.2 (List.eq_nil_iff_forall_not_mem.mpr fun id hid => ?_) hfree
    have hid' := (hmem id).mp hid
    rw [hnil] at hid'
    cases hid'

/-- When everything exists a moderator's replacement goes through. -/
theorem outcomes_replaced (htexture : s.hasTexture textureId = true) {tagIds : List Nat}
    (htags : ∀ id ∈ tagIds, id ≠ 0 ∧ id ∈ s.tags)
    (hany : tagIds ≠ [] ∨ ∃ b ∈ s.textureTags.rows, b.textureId = textureId) :
    (replaceLibraryTextureTagsForAdmin textureId tagIds).Outcomes textureMachine
      (fun _ _ => False) (fun _ s' => s'.textureTags.rows ≠ s.textureTags.rows) s := by
  obtain ⟨ids, hids⟩ := exists_normalizeTextureTagIds fun id hid => (htags id hid).1
  obtain ⟨-, hnodup, hmem⟩ := normalizeTextureTagIds_ok hids
  have hall : ∀ id ∈ ids, id ∈ s.tags := fun id hid => (htags id ((hmem id).mp hid)).2
  have hlength := (length_foundTags_iff s hnodup).mpr hall
  have hany' : ids ≠ [] ∨ ∃ b ∈ s.textureTags.rows, b.textureId = textureId := by
    refine hany.imp_left fun hne hnil => hne ?_
    refine List.eq_nil_iff_forall_not_mem.mpr fun id hid => ?_
    have hid' := (hmem id).mpr hid
    rw [hnil] at hid'
    cases hid'
  refine outcomes_of_run (run_checked hids) (outcomes_query ?_)
  refine outcomes_rejectIf (fun hne => ?_) fun _ => ?_
  · exact absurd hlength (by simpa [TextureStmt.exec] using hne)
  · exact (outcomes_retagging htexture hnodup hall).mono (fun _ _ h => h)
      fun _ s' h => h.rows_ne hany'

end Tags

/-! ## Approvals -/

/-- The texture of an approval, when it passes the checks. -/
structure Approvable (policy : TexturePolicy) (s : TextureState) (textureId : Nat)
    (t : MinecraftTexture) : Prop where
  enabled : policy.libraryEnabled = true
  given : textureId ≠ 0
  mem : t ∈ s.textures.rows
  id : t.id = textureId
  wardrobe : t.isWardrobeItem = true
  pending : t.libraryStatus = .pendingReview
  publicItem : t.visibility = .publicItem

/-- **An approval that loses tags**: the texture and the tags pass every check, the tags
of the texture are replaced by others, and the note is too long. -/
structure LosesTags (policy : TexturePolicy) (s : TextureState) (textureId : Nat)
    (reviewNote : Option String) (tagIds : List Nat) : Prop where
  texture : ∃ t, Approvable policy s textureId t
  exist : ∀ id ∈ tagIds, id ≠ 0 ∧ id ∈ s.tags
  any : tagIds ≠ [] ∨ ∃ b ∈ s.textureTags.rows, b.textureId = textureId
  note : ∃ note, reviewNote = some note ∧ 512 < (trim note).length

theorem normalizeReviewNoteOptional_error {reviewNote : Option String} {e : AsterError}
    (h : normalizeReviewNoteOptional reviewNote = .error e) :
    ∃ note, reviewNote = some note ∧ 512 < (trim note).length := by
  cases reviewNote with
  | none => cases h
  | some note =>
      refine ⟨note, rfl, ?_⟩
      simp only [normalizeReviewNoteOptional, normalizeReviewNote, normalizeText] at h
      split at h
      · cases h
      · split at h
        · assumption
        · cases h

theorem normalizeReviewNoteOptional_long {note : String} (h : 512 < (trim note).length) :
    normalizeReviewNoteOptional (some note) =
      .error (.validation (some .textureLibraryReviewNoteInvalid)
        "review note must not exceed 512 characters") := by
  have hnonempty : (trim note).isEmpty = false := by
    rw [Bool.eq_false_iff]
    intro hempty
    rw [String.isEmpty_iff.mp hempty] at h
    simp at h
  simp [normalizeReviewNoteOptional, normalizeReviewNote, normalizeText, hnonempty, h]

section Approvals

variable {s : TextureState} {policy : TexturePolicy} {reviewerUserId textureId : Nat}
  {reviewNote : Option String}

theorem looks_enabled :
    (ensureTextureLibraryEnabled policy).Looks textureMachine s
      fun _ => policy.libraryEnabled = true :=
  looks_rejectIf.mono fun _ h => by simpa using h

theorem looks_adminTexture :
    (adminWardrobeTexture textureId).Looks textureMachine s fun t =>
      textureId ≠ 0 ∧ t ∈ s.textures.rows ∧ t.id = textureId ∧ t.isWardrobeItem = true := by
  refine ⟨(looks_adminWardrobeTexture textureId).1, fun t ht => ⟨fun hzero => ?_,
    (looks_adminWardrobeTexture textureId).2 t ht⟩⟩
  subst hzero
  cases ht

theorem run_adminWardrobeTexture {t : MinecraftTexture} (hgiven : textureId ≠ 0)
    (ht : t ∈ s.textures.rows) (hid : t.id = textureId) (hwardrobe : t.isWardrobeItem = true) :
    (adminWardrobeTexture textureId).run textureMachine s = (.ok t, s) := by
  have hfound : s.textureById textureId = some t := hid ▸ textureById_of_mem ht
  have hpositive : decide (textureId = 0) = false := by simpa using hgiven
  simp only [adminWardrobeTexture, rejectIf, hpositive, bind_eq, rejectIf_false, ok_bind]
  show (required _ ((s.textureById textureId).filter MinecraftTexture.isWardrobeItem)).run
    textureMachine s = _
  rw [hfound, Option.filter_some, if_pos hwardrobe]
  rfl

/-- Behind the tags: the note, and the review. -/
theorem outcomes_publish {s' : TextureState} (hs' : UploadersExist s') (t : MinecraftTexture)
    (hnote : ∀ e, normalizeReviewNoteOptional reviewNote = .error e → SameLibrary s s') :
    (utcNow.bind fun now => (checked (normalizeReviewNoteOptional reviewNote)).bind fun note =>
      updateLibraryReview t (reviewed .published none reviewerUserId now note)).Outcomes
      textureMachine (KeptOnRefusal s) (fun t s' => s'.hasUser t.userId = true) s' := by
  refine outcomes_query ?_
  cases hresult : normalizeReviewNoteOptional reviewNote with
  | error e => exact outcomes_err fun _ => hnote e hresult
  | ok note => exact kept_of_noRefusal (outcomes_updateLibraryReview hs' t _)

/-- An approval that loses no tags. -/
theorem outcomes_approve (hs : UploadersExist s) {tagIds : Option (List Nat)}
    (hkeep : ∀ ids, tagIds = some ids → ¬ LosesTags policy s textureId reviewNote ids) :
    (approveTextureLibraryTexture policy reviewerUserId textureId reviewNote
      tagIds).Outcomes textureMachine (KeptOnRefusal s)
      (fun t s' => s'.hasUser t.userId = true) s := by
  refine looks_enabled.bind_outcomes kept_here fun _ henabled => ?_
  refine looks_adminTexture.bind_outcomes kept_here fun t ⟨hgiven, hmem, hid, hwardrobe⟩ => ?_
  refine looks_rejectIf.bind_outcomes kept_here fun _ hpending => ?_
  refine looks_rejectIf.bind_outcomes kept_here fun _ hpublic => ?_
  have hpasses : Approvable policy s textureId t :=
    ⟨henabled, hgiven, hmem, hid, hwardrobe, by simpa using hpending, by simpa using hpublic⟩
  cases tagIds with
  | none => exact outcomes_publish hs t fun _ _ => SameLibrary.refl s
  | some ids =>
      refine Outcomes.bind (outcomes_replaceForAdmin hs ids) fun _ s' hreplaced => ?_
      refine outcomes_publish hreplaced.uploaders t fun e he => ?_
      have hnot := hkeep ids rfl
      by_cases hany : ids ≠ [] ∨ ∃ b ∈ s.textureTags.rows, b.textureId = textureId
      · exact absurd ⟨⟨t, hpasses⟩, hreplaced.exist, hany,
          normalizeReviewNoteOptional_error he⟩ hnot
      · obtain ⟨hnil, hfree⟩ := not_or.mp hany
        exact hreplaced.same (not_not.mp hnil) fun b hb hbound => hfree ⟨b, hb, hid ▸ hbound⟩

/-- An approval that does is refused, its texture tagged anew. -/
theorem outcomes_lost {ids : List Nat} (h : LosesTags policy s textureId reviewNote ids) :
    (approveTextureLibraryTexture policy reviewerUserId textureId reviewNote
      (some ids)).Outcomes textureMachine
      (fun e s' => e.isRefusal = true ∧ s'.textureTags.rows ≠ s.textureTags.rows)
      (fun _ _ => False) s := by
  obtain ⟨t, hpasses⟩ := h.texture
  obtain ⟨note, rfl, hlong⟩ := h.note
  have hid := hpasses.id
  subst hid
  refine outcomes_rejectIf (fun hoff => ?_) fun _ => ?_
  · simp [hpasses.enabled] at hoff
  refine outcomes_of_run (run_adminWardrobeTexture hpasses.given hpasses.mem rfl
    hpasses.wardrobe) ?_
  refine outcomes_rejectIf (fun hne => ?_) fun _ => outcomes_rejectIf (fun hne => ?_) fun _ => ?_
  · simp [hpasses.pending] at hne
  · simp [hpasses.publicItem] at hne
  have htexture : s.hasTexture t.id = true := by
    rw [TextureState.hasTexture, textureById_of_mem hpasses.mem]
    rfl
  refine Outcomes.bind ((outcomes_replaced htexture h.exist h.any).mono
    (fun _ _ hfalse => hfalse.elim) fun _ _ hne => hne) fun _ s' hne => ?_
  refine outcomes_query ?_
  rw [normalizeReviewNoteOptional_long hlong]
  exact outcomes_err ⟨rfl, hne⟩

end Approvals

/-! ## The other calls -/

section Calls

variable {s : TextureState} {policy : TexturePolicy}

theorem looks_pendingAdminTextureReport (reportId : Nat) :
    (pendingAdminTextureReport reportId).Looks textureMachine s fun r =>
      r ∈ s.reports.rows ∧ r.id = reportId ∧ r.status = .pending := by
  refine Looks.bind (K := fun r => r ∈ s.reports.rows ∧ r.id = reportId) ?_
    fun r hr => looks_rejectIf.bind fun _ hpending => looks_ok ?_
  · refine looks_rejectIf.bind fun _ _ => (looks_query rfl).bind fun found hfound => ?_
    refine looks_required.mono fun r hr => ?_
    rw [hfound] at hr
    obtain ⟨hmem, hid⟩ := Table.of_find? hr
    exact ⟨hmem, of_decide_eq_true hid⟩
  · exact ⟨hr.1, hr.2, by simpa using hpending⟩

theorem outcomes_submit (policy : TexturePolicy) (hs : UploadersExist s)
    (userId textureId : Nat) :
    (submitTextureLibraryReview policy userId textureId).Outcomes textureMachine
      (KeptOnRefusal s) (fun _ _ => True) s := by
  refine looks_enabled.bind_outcomes kept_here fun _ _ => ?_
  refine (looks_ensureUserNotBanned _ _ _).bind_outcomes kept_here fun _ _ => ?_
  refine (looks_userWardrobeTexture _ _).bind_outcomes kept_here fun t _ => ?_
  refine looks_rejectIf.bind_outcomes kept_here fun _ _ => ?_
  refine looks_utcNow.bind_outcomes kept_here fun now _ => ?_
  exact (kept_of_noRefusal (outcomes_updateLibraryReview hs t _)).mono (fun _ _ h => h)
    fun _ _ _ => trivial

theorem outcomes_reject (policy : TexturePolicy) (hs : UploadersExist s)
    (reviewerUserId textureId : Nat) (reviewNote : Option String) :
    (rejectTextureLibraryTexture policy reviewerUserId textureId reviewNote).Outcomes
      textureMachine (KeptOnRefusal s) (fun t s' => s'.hasUser t.userId = true) s := by
  refine looks_enabled.bind_outcomes kept_here fun _ _ => ?_
  refine looks_adminTexture.bind_outcomes kept_here fun t _ => ?_
  refine looks_rejectIf.bind_outcomes kept_here fun _ _ => ?_
  refine looks_checked.bind_outcomes kept_here fun note _ => ?_
  refine looks_utcNow.bind_outcomes kept_here fun now _ => ?_
  exact kept_of_noRefusal (outcomes_updateLibraryReview hs t _)

theorem outcomes_unpublish (policy : TexturePolicy) (hs : UploadersExist s)
    (reviewerUserId textureId : Nat) (reviewNote : Option String) :
    (unpublishTextureLibraryTexture policy reviewerUserId textureId reviewNote).Outcomes
      textureMachine (KeptOnRefusal s) (fun t s' => s'.hasUser t.userId = true) s := by
  refine looks_enabled.bind_outcomes kept_here fun _ _ => ?_
  refine looks_adminTexture.bind_outcomes kept_here fun t _ => ?_
  refine looks_rejectIf.bind_outcomes kept_here fun _ _ => ?_
  refine looks_checked.bind_outcomes kept_here fun note _ => ?_
  refine looks_utcNow.bind_outcomes kept_here fun now _ => kept_of_noRefusal ?_
  refine Outcomes.bind (outcomes_updateLibraryReview hs t _) fun updated s' huser => ?_
  refine Outcomes.bind (outcomes_handlePendingForTexture textureId _ huser) fun _ s'' h => ?_
  exact outcomes_ok h

theorem outcomes_createReport (policy : TexturePolicy) (reporterUserId textureId : Nat)
    (reason : ReportReason) (message : Option String) :
    (createTextureLibraryReport policy reporterUserId textureId reason message).Outcomes
      textureMachine (KeptOnRefusal s) (fun _ _ => True) s := by
  have hlooks : (publicReportableTexture textureId).Looks textureMachine s fun _ => True :=
    looks_rejectIf.bind fun _ _ => (looks_query rfl).bind fun _ _ =>
      looks_required.mono fun _ _ => trivial
  refine looks_enabled.bind_outcomes kept_here fun _ _ => ?_
  refine (looks_ensureUserNotBanned _ _ _).bind_outcomes kept_here fun _ _ => ?_
  refine hlooks.bind_outcomes kept_here fun t _ => ?_
  refine looks_rejectIf.bind_outcomes kept_here fun _ _ => ?_
  refine (looks_query rfl).bind_outcomes kept_here fun pending _ => ?_
  refine looks_rejectIf.bind_outcomes kept_here fun _ _ => ?_
  refine looks_checked.bind_outcomes kept_here fun message _ => ?_
  exact kept_of_noRefusal (outcomes_query (outcomes_written _ fun _ _ => trivial))

theorem outcomes_acceptReport (policy : TexturePolicy) (hs : UploadersExist s)
    (handlerUserId reportId : Nat) (adminNote : Option String) :
    (acceptTextureLibraryReport policy handlerUserId reportId adminNote).Outcomes
      textureMachine (KeptOnRefusal s) (fun _ _ => True) s := by
  refine looks_enabled.bind_outcomes kept_here fun _ _ => ?_
  refine (looks_pendingAdminTextureReport _).bind_outcomes kept_here fun report _ => ?_
  refine looks_adminTexture.bind_outcomes kept_here fun t _ => ?_
  refine looks_checked.bind_outcomes kept_here fun note _ => ?_
  refine looks_utcNow.bind_outcomes kept_here fun now _ => kept_of_noRefusal ?_
  refine Outcomes.bind (outcomes_updateLibraryReview hs t _) fun updated s' _ => ?_
  exact outcomes_query (outcomes_written _ fun _ _ => trivial)

theorem outcomes_rejectReport (policy : TexturePolicy) (handlerUserId reportId : Nat)
    (adminNote : Option String) :
    (rejectTextureLibraryReport policy handlerUserId reportId adminNote).Outcomes
      textureMachine (KeptOnRefusal s) (fun _ _ => True) s := by
  refine looks_enabled.bind_outcomes kept_here fun _ _ => ?_
  refine (looks_pendingAdminTextureReport _).bind_outcomes kept_here fun report _ => ?_
  refine looks_checked.bind_outcomes kept_here fun note _ => ?_
  refine looks_utcNow.bind_outcomes kept_here fun now _ => kept_of_noRefusal ?_
  exact outcomes_query (outcomes_written _ fun _ _ => trivial)

theorem outcomes_replaceTags (hs : UploadersExist s) (userId textureId : Nat)
    (tagIds : List Nat) :
    (replaceWardrobeTextureTags userId textureId tagIds).Outcomes textureMachine
      (KeptOnRefusal s) (fun _ _ => True) s := by
  refine (looks_ensureUserNotBanned _ _ _).bind_outcomes kept_here fun _ _ => ?_
  refine (looks_userWardrobeTexture _ _).bind_outcomes kept_here fun t _ => ?_
  refine looks_checked.bind_outcomes kept_here fun ids _ => ?_
  refine (looks_query rfl).bind_outcomes kept_here fun tags _ => ?_
  refine looks_rejectIf.bind_outcomes kept_here fun _ _ => kept_of_noRefusal ?_
  exact (outcomes_replaceTextureTags hs).bind fun _ _ _ => outcomes_ok trivial

/-- What a review answers. -/
theorem outcomes_reviewed {p : TextureProg MinecraftTexture}
    (hp : p.Outcomes textureMachine (KeptOnRefusal s)
      (fun t s' => s'.hasUser t.userId = true) s) :
    (p.bind fun texture => (adminTextureLibraryMetadata texture).bind fun metadata =>
      Prog.ok (ModerationResponse.library metadata)).Outcomes textureMachine
      (KeptOnRefusal s) (fun _ _ => True) s := by
  refine hp.bind fun texture s' huser => kept_of_noRefusal ?_
  exact (outcomes_adminTextureLibraryMetadata huser).bind fun _ _ _ => outcomes_ok trivial

/-- The calls that lose tags. -/
def ModerationCall.losesTags (s : TextureState) : ModerationCall → Prop
  | .approve policy _ textureId reviewNote (some tagIds) =>
      LosesTags policy s textureId reviewNote tagIds
  | _ => False

/-- **Every other call that is refused keeps the library as it is.** -/
theorem outcomes_call (hs : UploadersExist s) {call : ModerationCall}
    (hkeep : ¬ call.losesTags s) :
    call.body.Outcomes textureMachine (KeptOnRefusal s) (fun _ _ => True) s := by
  have hlast : ∀ {α : Type} {K : α → TextureState → Prop} {p : TextureProg α}
      (f : α → ModerationResponse), p.Outcomes textureMachine (KeptOnRefusal s) K s →
      (p.bind fun a => Prog.ok (f a)).Outcomes textureMachine (KeptOnRefusal s)
        (fun _ _ => True) s :=
    fun f hp => hp.bind fun _ _ _ => outcomes_ok trivial
  cases call with
  | submit policy userId textureId =>
      refine Outcomes.bind (outcomes_submit policy hs userId textureId) fun t s' _ => ?_
      exact outcomes_query (outcomes_ok trivial)
  | approve policy reviewerUserId textureId reviewNote tagIds =>
      refine outcomes_reviewed (outcomes_approve hs fun ids hids => ?_)
      subst hids
      exact hkeep
  | reject policy reviewerUserId textureId reviewNote =>
      exact outcomes_reviewed (outcomes_reject policy hs _ _ _)
  | unpublish policy reviewerUserId textureId reviewNote =>
      exact outcomes_reviewed (outcomes_unpublish policy hs _ _ _)
  | createReport policy reporterUserId textureId reason message =>
      exact hlast _ (outcomes_createReport policy _ _ _ _)
  | acceptReport policy handlerUserId reportId adminNote =>
      exact hlast _ (outcomes_acceptReport policy hs _ _ _)
  | rejectReport policy handlerUserId reportId adminNote =>
      exact hlast _ (outcomes_rejectReport policy _ _ _)
  | replaceTags userId textureId tagIds =>
      exact Outcomes.bind (outcomes_replaceTags hs userId textureId tagIds)
        fun _ _ _ => outcomes_ok trivial
  | replaceTagsForAdmin textureId tagIds =>
      exact (outcomes_replaceForAdmin hs tagIds).bind fun _ _ _ => outcomes_ok trivial
  | wait ms => exact outcomes_query (outcomes_ok trivial)

theorem outcomes_losesTags {call : ModerationCall} (h : call.losesTags s) :
    call.body.Outcomes textureMachine
      (fun e s' => e.isRefusal = true ∧ s'.textureTags.rows ≠ s.textureTags.rows)
      (fun _ _ => False) s := by
  cases call with
  | approve policy reviewerUserId textureId reviewNote tagIds =>
      cases tagIds with
      | none => exact h.elim
      | some tagIds => exact (outcomes_lost h).bind fun _ _ hfalse => hfalse.elim
  | _ => exact h.elim

/-- **Refused calls change nothing**: a call of a moderator, a report or a replacement
of tags that ends in a validation or a not-found error leaves the textures, the tag
bindings and the reports as they were, except for an approval that loses tags. -/
theorem refused_keeps_iff (hs : UploadersExist s) (call : ModerationCall) :
    (∀ e, (call.body.run textureMachine s).1 = .error e → e.isRefusal = true →
      SameLibrary s (call.body.run textureMachine s).2) ↔ ¬ call.losesTags s := by
  constructor
  · intro hkeeps hloses
    have hlost := outcomes_losesTags hloses
    cases hrun : (call.body.run textureMachine s).1 with
    | ok answer => exact hlost.of_ok hrun
    | error e =>
        obtain ⟨hrefusal, hne⟩ := hlost.of_error hrun
        exact hne (hkeeps e hrun hrefusal).textureTags
  · exact fun hkeep e he => (outcomes_call hs hkeep).of_error he

theorem length_trim_le (value : String) : (trim value).length ≤ value.length := by
  have hsublist : (External.trimChars value.toList).length ≤ value.toList.length := by
    unfold External.trimChars
    rw [List.length_reverse]
    refine Nat.le_trans (List.dropWhile_sublist _).length_le ?_
    rw [List.length_reverse]
    exact (List.dropWhile_sublist _).length_le
  rw [trim, String.length_ofList, ← String.length_toList]
  exact hsublist

/-- A note within the bound of the route is not too long for the service. -/
theorem validNote_keepsTags {body : ReviewTextureLibraryTextureReq} {textureId : Nat}
    {tagIds : List Nat} (h : body.errors = []) :
    ¬ LosesTags policy s textureId body.reviewNote tagIds := by
  intro hloses
  obtain ⟨note, hnote, hlong⟩ := hloses.note
  have hvalid := (List.append_eq_nil_iff.mp h).1
  rw [hnote] at hvalid
  have hbound : note.length ≤ 512 := by
    by_contra hover
    simp [optionalLengthErrors, lengthErrors, hover] at hvalid
  have hshorter := length_trim_le note
  omega

/-- A request that passes its validation loses no tags. -/
theorem validRequest_keepsTags {request : ModerationRequest} (h : request.errors = []) :
    ¬ request.call.losesTags s := by
  cases request with
  | approveTextureLibraryTexture policy reviewerUserId textureId body =>
      cases htags : body.tagIds with
      | none => simp [ModerationRequest.call, ModerationCall.losesTags, htags]
      | some tagIds =>
          simp only [ModerationRequest.call, ModerationCall.losesTags, htags]
          exact validNote_keepsTags h
  | _ => exact fun hloses => hloses

/-- **Refused requests change nothing**: a request of a moderator, a report or a
replacement of tags that ends in a validation or a not-found error leaves the textures,
the tag bindings and the reports as they were. -/
theorem refused_requests_keep (hs : UploadersExist s) (request : ModerationRequest)
    {e : TextureFailure} (he : (request.body.run textureMachine s).1 = .error e)
    (hrefusal : e.isRefusal = true) :
    SameLibrary s (request.body.run textureMachine s).2 := by
  have houtcomes : request.body.Outcomes textureMachine (KeptOnRefusal s)
      (fun _ _ => True) s :=
    looks_checked.bind_outcomes kept_here fun _ hvalid =>
      outcomes_call hs (validRequest_keepsTags (validateRequest_ok hvalid))
  exact houtcomes.of_error he hrefusal

end Calls

/-! ## Bob's skin -/

/-- Bob has submitted his skin, which has the first of two tags. -/
def bobSubmitted : TextureState :=
  { twoPlayers with
    textures := ⟨[patchReview 5 (submission openPolicy 5) (newTexture 5 1 bobsSkin)], 2,
      by decide, by decide⟩
    tags := [1, 2]
    tags_nodup := by decide
    textureTags := ⟨[⟨1, 1, 1, 5⟩], 2, by decide, by decide⟩ }

theorem bobSubmitted_uploaders : UploadersExist bobSubmitted := by
  intro t ht
  rw [List.mem_singleton.mp ht]
  rfl

/-- A rejection needs a note that is not blank. -/
def blankRejection : ModerationRequest :=
  .rejectTextureLibraryTexture openPolicy 1 1 ⟨some " ", none⟩

/-- The rejection without a note is refused and changes nothing. -/
theorem blank_rejection_kept :
    ∃ e, (blankRejection.body.run textureMachine bobSubmitted).1 = .error e ∧
      e.isRefusal = true ∧
      SameLibrary bobSubmitted (blankRejection.body.run textureMachine bobSubmitted).2 := by
  have hrun : (blankRejection.body.run textureMachine bobSubmitted).1 =
      .error (.aster (.validation (some .textureLibraryReviewNoteInvalid)
        "review note is required when rejecting a texture library submission")) := by
    decide +kernel
  exact ⟨_, hrun, rfl, refused_requests_keep bobSubmitted_uploaders blankRejection hrun rfl⟩

/-- The administrator approves the skin with the second tag and a note of 513
characters. -/
def wordyApproval : ModerationCall :=
  .approve openPolicy 1 1 (some (String.ofList (List.replicate 513 'x'))) (some [2])

theorem wordyApproval_losesTags : wordyApproval.losesTags bobSubmitted := by
  have hlong : (External.trimChars (List.replicate 513 'x')).length = 513 := by
    decide +kernel
  refine ⟨⟨_, rfl, by decide, List.mem_singleton.mpr rfl, rfl, rfl, rfl, rfl⟩, ?_,
    Or.inl (by decide), _, rfl, ?_⟩
  · decide
  · rw [trim, String.length_ofList, String.toList_ofList, hlong]
    decide

/-- The approval is refused, and the tag that Bob had chosen is gone. -/
theorem wordy_approval_not_kept :
    ¬ ∀ e, (wordyApproval.body.run textureMachine bobSubmitted).1 = .error e →
      e.isRefusal = true →
      SameLibrary bobSubmitted (wordyApproval.body.run textureMachine bobSubmitted).2 := by
  intro hkeeps
  have hlost := outcomes_losesTags wordyApproval_losesTags
  cases hrun : (wordyApproval.body.run textureMachine bobSubmitted).1 with
  | ok answer => exact hlost.of_ok hrun
  | error e =>
      obtain ⟨hrefusal, hne⟩ := hlost.of_error hrun
      exact hne (hkeeps e hrun hrefusal).textureTags

end AsterYggdrasil.Textures
