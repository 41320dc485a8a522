import AsterYggdrasil.Texture.LibraryStates

/-!
# Equal textures in one wardrobe

An upload, an import, a copy and the registration of bound textures look for a
wardrobe texture with the same fingerprint before they add one.  An update of
the metadata can change the model, and a replacement the whole content, without
such a lookup.  `distinct_after_iff` says which calls lead from a wardrobe
without duplicates to one with a duplicate: exactly those of these two kinds
whose result the user already has in another row.
-/

namespace AsterYggdrasil.Textures

open Interleave Relational
open Interleave.Prog

/-- No user has two wardrobe textures with one fingerprint. -/
def Distinct (s : TextureState) : Prop :=
  ∀ t ∈ s.textures.rows, ∀ t' ∈ s.textures.rows,
    t.isWardrobeItem = true → t'.isWardrobeItem = true → t.userId = t'.userId →
      t.fingerprint = t'.fingerprint → t.id = t'.id

instance (s : TextureState) : Decidable (Distinct s) :=
  inferInstanceAs (Decidable (∀ t ∈ s.textures.rows, ∀ t' ∈ s.textures.rows,
    t.isWardrobeItem = true → t'.isWardrobeItem = true → t.userId = t'.userId →
      t.fingerprint = t'.fingerprint → t.id = t'.id))

/-- The user has the fingerprint in a wardrobe row other than `id`. -/
def Taken (s : TextureState) (userId : Nat) (fingerprint : Fingerprint) (id : Nat) : Prop :=
  ∃ t ∈ s.textures.rows, t.isWardrobeItem = true ∧ t.userId = userId ∧
    t.fingerprint = fingerprint ∧ t.id ≠ id

/-! ## Statements -/

/-- `t'` is `t` as far as duplicates are concerned; it may have left the
wardrobe. -/
structure SameItem (t t' : MinecraftTexture) : Prop where
  id : t'.id = t.id
  user : t'.userId = t.userId
  fingerprint : t'.fingerprint = t.fingerprint
  wardrobe : t'.isWardrobeItem = true → t.isWardrobeItem = true

theorem SameItem.refl (t : MinecraftTexture) : SameItem t t := ⟨rfl, rfl, rfl, fun h => h⟩

/-- Duplicates now were duplicates before. -/
theorem SameItem.id_eq {s : TextureState} (hs : Distinct s) {a₀ a b₀ b : MinecraftTexture}
    (ha₀ : a₀ ∈ s.textures.rows) (hb₀ : b₀ ∈ s.textures.rows) (hsa : SameItem a₀ a)
    (hsb : SameItem b₀ b) (hwa : a.isWardrobeItem = true) (hwb : b.isWardrobeItem = true)
    (huser : a.userId = b.userId) (hfp : a.fingerprint = b.fingerprint) : a.id = b.id := by
  have hid := hs a₀ ha₀ b₀ hb₀ (hsa.wardrobe hwa) (hsb.wardrobe hwb)
    (by rw [← hsa.user, ← hsb.user, huser])
    (by rw [← hsa.fingerprint, ← hsb.fingerprint, hfp])
  rw [hsa.id, hsb.id, hid]

/-- Every row is a row of before. -/
theorem distinct_of_same {s s' : TextureState} (hs : Distinct s)
    (hrows : ∀ t' ∈ s'.textures.rows, ∃ t ∈ s.textures.rows, SameItem t t') :
    Distinct s' := by
  intro a ha b hb hwa hwb huser hfp
  obtain ⟨a₀, ha₀, hsa⟩ := hrows a ha
  obtain ⟨b₀, hb₀, hsb⟩ := hrows b hb
  exact hsa.id_eq hs ha₀ hb₀ hsb hwa hwb huser hfp

/-- Every row is a row of before, or the one row that got a fingerprint no other
wardrobe row of its user has. -/
theorem distinct_of_write {s s' : TextureState} {userId id : Nat} {fingerprint : Fingerprint}
    (hs : Distinct s) (hfree : ¬ Taken s userId fingerprint id)
    (hrows : ∀ t' ∈ s'.textures.rows, (∃ t ∈ s.textures.rows, SameItem t t') ∨
      t'.id = id ∧ t'.userId = userId ∧ t'.fingerprint = fingerprint) : Distinct s' := by
  have hother : ∀ t ∈ s.textures.rows, ∀ t', SameItem t t' → t'.isWardrobeItem = true →
      t'.userId = userId → t'.fingerprint = fingerprint → t'.id = id := by
    intro t ht t' hsame hwardrobe huser hfp
    by_contra hne
    exact hfree ⟨t, ht, hsame.wardrobe hwardrobe, hsame.user ▸ huser,
      hsame.fingerprint ▸ hfp, hsame.id ▸ hne⟩
  intro a ha b hb hwa hwb huser hfp
  rcases hrows a ha with ⟨a₀, ha₀, hsa⟩ | ⟨hida, hua, hfa⟩
  · rcases hrows b hb with ⟨b₀, hb₀, hsb⟩ | ⟨hidb, hub, hfb⟩
    · exact hsa.id_eq hs ha₀ hb₀ hsb hwa hwb huser hfp
    · rw [hidb]
      exact hother a₀ ha₀ a hsa hwa (huser.trans hub) (hfp.trans hfb)
  · rcases hrows b hb with ⟨b₀, hb₀, hsb⟩ | ⟨hidb, hub, hfb⟩
    · rw [hida]
      exact (hother b₀ hb₀ b hsb hwb (huser.symm.trans hua) (hfp.symm.trans hfa)).symm
    · rw [hida, hidb]

/-- The statements that change fingerprints or bring new rows. -/
def StmtKind.writesFingerprint : StmtKind → Bool
  | .insert | .mark | .metadata | .content => true
  | _ => false

theorem sameItem_exec {i : TextureStmt} (hi : i.kind.writesFingerprint = false)
    {s : TextureState} {t' : MinecraftTexture} (ht' : t' ∈ (i.exec s).2.textures.rows) :
    ∃ t ∈ s.textures.rows, SameItem t t' := by
  cases exec_textures i s ht' with
  | kept h => exact ⟨t', h, .refl t'⟩
  | inserted input hinsert h =>
      rw [hinsert] at hi
      cases hi
  | written t ht h =>
      cases i with
      | textureUpdateReview id input =>
          obtain ⟨-, rfl⟩ := h
          exact ⟨t, ht, rfl, rfl, rfl, fun h => h⟩
      | textureMarkAsWardrobeItem | textureUpdateMetadata | textureReplaceContent => cases hi
      | _ => exact h.elim

theorem distinct_insert {input : CreateTexture} {s : TextureState} (hs : Distinct s)
    (hfree : ∀ t ∈ s.textures.rows, t.isWardrobeItem = true → t.userId = input.userId →
      t.fingerprint ≠ ⟨input.textureType, input.source, input.hash, input.textureModel⟩) :
    Distinct ((TextureStmt.textureInsert input).exec s).2 := by
  have hnone : ¬ Taken s input.userId
      ⟨input.textureType, input.source, input.hash, input.textureModel⟩ s.textures.seq := by
    rintro ⟨t, ht, hwardrobe, huser, hfp, -⟩
    exact hfree t ht hwardrobe huser hfp
  refine distinct_of_write hs hnone fun t' ht' => ?_
  cases exec_textures _ s ht' with
  | kept h => exact Or.inl ⟨t', h, .refl t'⟩
  | inserted input' hinsert h =>
      cases hinsert
      rw [h]
      exact Or.inr ⟨rfl, rfl, rfl⟩
  | written t ht h => exact h.elim

/-- The row with the id of a write is the one that is written over. -/
theorem distinct_written {i : TextureStmt} {s : TextureState} {t : MinecraftTexture}
    {f : MinecraftTexture → MinecraftTexture} (hs : Distinct s) (ht : t ∈ s.textures.rows)
    (hinsert : ∀ input, i ≠ .textureInsert input)
    (hwrites : ∀ a ∈ s.textures.rows, ∀ a', Overwrites i s a a' → a.id = t.id ∧ a' = f a)
    (hkeeps : (f t).id = t.id ∧ (f t).userId = t.userId)
    (hfree : ¬ Taken s t.userId (f t).fingerprint t.id) : Distinct (i.exec s).2 := by
  refine distinct_of_write hs hfree fun t' ht' => ?_
  cases exec_textures _ s ht' with
  | kept h => exact Or.inl ⟨t', h, .refl t'⟩
  | inserted input hi h => exact absurd hi (hinsert input)
  | written a ha h =>
      obtain ⟨hid, rfl⟩ := hwrites a ha t' h
      have hsame : a = t := s.textures.eq_of_ident ha ht hid
      subst hsame
      exact Or.inr ⟨hkeeps.1, hkeeps.2, rfl⟩

/-! ## Programs that look before they add -/

theorem keeps_distinct {α : Type} {kinds : List StmtKind} {p : TextureProg α}
    (hp : Touches kinds p) (h : ∀ k ∈ kinds, k.writesFingerprint = false) :
    p.Keeps textureMachine Distinct fun _ => True := by
  refine Within.keeps (Within.mono hp fun i hi s hs => ?_)
  have hkind : i.kind.writesFingerprint = false := by
    rcases hi with hplain | hmem
    · rw [hplain]
      rfl
    · exact h _ hmem
  exact distinct_of_same hs fun t' => sameItem_exec hkind

theorem looks_fitColumns {s : TextureState} (processing : TextureProcessingResult) :
    (fitColumns processing).Looks textureMachine s fun _ => True :=
  looks_rejectIf.bind fun _ _ => looks_rejectIf.bind fun _ _ =>
    looks_rejectIf.mono fun _ _ => trivial

/-- Nothing is found under a fingerprint nobody wears. -/
theorem free_of_not_found {s : TextureState} {userId : Nat} {fingerprint : Fingerprint}
    (h : none = ((TextureStmt.textureFindWardrobeByFingerprint userId fingerprint).exec s).1) :
    ∀ t ∈ s.textures.rows, t.isWardrobeItem = true → t.userId = userId →
      t.fingerprint ≠ fingerprint := by
  intro t ht hwardrobe huser hfp
  have hnone := Table.find?_eq_none.mp h.symm t ht
  simp [huser, hfp, hwardrobe] at hnone

theorem keeps_storeOrReuseWardrobeTexture (codecs : TextureCodecs) (policy : TexturePolicy)
    (input : StoreTextureAsset) :
    (storeOrReuseWardrobeTexture codecs policy input).Keeps textureMachine Distinct
      fun _ => True := by
  intro s hs
  refine (looks_processUpload codecs policy _ _).wp_bind (fun _ => ⟨hs, fun _ _ => trivial⟩)
    fun processing _ => ?_
  refine (looks_query rfl).wp_bind (fun _ => ⟨hs, fun _ _ => trivial⟩) fun found hfound => ?_
  cases found with
  | some existing => exact ⟨hs, fun _ _ => trivial⟩
  | none =>
      -- the object is put first; the rows are still those of the lookup
      have hfree := free_of_not_found hfound
      refine wp_stmt_bind.mpr ?_
      refine (looks_fitColumns processing).wp_bind (fun _ => ⟨hs, fun _ _ => trivial⟩)
        fun _ _ => wp_reply_bind fun reply _ => ?_
      have hinserted : Distinct ((TextureStmt.textureInsert (input.row processing)).exec
          (s.putObject (objectStorageKey processing.hash) processing.bytes)).2 :=
        distinct_insert hs hfree
      cases reply with
      | some texture => exact ⟨hinserted, fun _ _ => trivial⟩
      | none =>
          refine Keeps.bind (keeps_distinct (touches_cleanupTextureBlobIfUnreferenced _)
            (by simp [StmtKind.writesFingerprint])) (fun _ _ => keeps_err _) _ hinserted

theorem keeps_copyPublicTextureToWardrobe (policy : TexturePolicy) (userId textureId : Nat)
    (displayName : Option (Bans.NullablePatch String)) :
    (copyPublicTextureToWardrobe policy userId textureId displayName).Keeps textureMachine
      Distinct fun _ => True := by
  intro s hs
  have herr : ∀ e : TextureFailure, Distinct s ∧
      ∀ a : MinecraftTexture, Except.error e = Except.ok a → True :=
    fun _ => ⟨hs, fun _ _ => trivial⟩
  refine (looks_ensureTextureLibraryEnabled policy).wp_bind herr fun _ _ => ?_
  refine (looks_ensureUserNotBanned _ _ _).wp_bind herr fun _ _ => ?_
  refine looks_rejectIf.wp_bind herr fun _ _ => ?_
  refine (looks_query rfl).wp_bind herr fun found _ => ?_
  refine looks_required.wp_bind herr fun source _ => ?_
  refine (looks_query rfl).wp_bind herr fun own hown => ?_
  cases own with
  | some existing => exact ⟨hs, fun _ _ => trivial⟩
  | none =>
      have hfree := free_of_not_found hown
      refine looks_checked.wp_bind herr fun displayName _ => ?_
      have hname : (ensureDisplayNameFree userId displayName).Looks textureMachine s
          fun _ => True := by
        cases displayName with
        | none => exact looks_ok trivial
        | some displayName =>
            exact (looks_query rfl).bind fun _ _ => looks_rejectIf.mono fun _ _ => trivial
      refine hname.wp_bind herr fun _ _ => wp_stmt_bind.mpr ?_
      have hrest : ∀ inserted : Option MinecraftTexture, Touches []
          ((required (.aster .databaseOperation) inserted).bind fun copied =>
            (query (.tagListForTexture source.id)).bind fun tagIds =>
              if tagIds.isEmpty then pure copied
              else (replaceTextureTags copied.id tagIds).bind fun _ => pure copied) := by
        intro inserted
        refine touches_required.bind fun copied => Touches.query rfl fun tagIds => ?_
        split
        · trivial
        · exact (touches_replaceTextureTags _ _).bind fun _ => trivial
      exact keeps_distinct (hrest _) (by simp) _ (distinct_insert hs hfree)

theorem keeps_storeTexture (codecs : TextureCodecs) (policy : TexturePolicy)
    (profile : MinecraftProfile) (textureType : TextureType)
    (textureModel : MinecraftTextureModel) (upload : List UInt8) :
    (storeTexture codecs policy profile textureType textureModel upload).Keeps
      textureMachine Distinct fun _ => True := by
  refine (keeps_distinct (touches_ensureTextureChangeAllowed _ _ _ _) (by simp)).bind
    fun _ _ => ?_
  refine (keeps_storeOrReuseWardrobeTexture codecs policy _).bind fun _ _ => ?_
  exact keeps_distinct (touches_bindTexture _ _ _) (by simp [StmtKind.writesFingerprint])

theorem keeps_importOfficialTexture (codecs : TextureCodecs) (policy : TexturePolicy)
    (profile : MinecraftProfile) (textureType : TextureType)
    (textureModel : MinecraftTextureModel) (sourceUrl : String)
    (bindingMode : OfficialTextureBindingMode) :
    (importOfficialTextureToProfileWithMode codecs policy profile textureType textureModel
      sourceUrl bindingMode).Keeps textureMachine Distinct fun _ => True := by
  refine keeps_ofExcept.bind fun upload _ => ?_
  refine (keeps_storeOrReuseWardrobeTexture codecs policy _).bind fun texture _ => ?_
  refine (keeps_distinct (touches_findByProfileAndType _ _) (by simp)).bind fun previous _ => ?_
  split
  · exact keeps_ok trivial
  · refine (keeps_distinct (touches_upsertForProfile _ _ _)
      (by simp [StmtKind.writesFingerprint])).bind fun bound _ => ?_
    exact keeps_distinct (touches_cleanupPrevious _ _) (by simp [StmtKind.writesFingerprint])

/-! ## Registration -/

/-- The rows with the ids of the listed textures are still the listed ones. -/
def Listed (bindings : List ProfileTexture) (s : TextureState) : Prop :=
  ∀ b ∈ bindings, ∀ t ∈ s.textures.rows, t.id = b.texture.id →
    t.userId = b.texture.userId ∧ t.fingerprint = b.texture.fingerprint

theorem listed_joined {s : TextureState} (bindings : List Binding) :
    Listed (s.joined bindings) s := by
  intro b hb t ht hid
  obtain ⟨binding, -, hmap⟩ := List.mem_filterMap.mp hb
  obtain ⟨texture, hfind, rfl⟩ := Option.map_eq_some_iff.mp hmap
  have hsame : t = texture :=
    s.textures.eq_of_ident ht (textureById_eq_some hfind).1 hid
  rw [hsame]
  exact ⟨rfl, rfl⟩

theorem keeps_listed {bindings : List ProfileTexture} {α : Type} {p : TextureProg α}
    (hp : Touches [.mark, .bind, .remove, .erase] p) :
    p.Keeps textureMachine (Listed bindings) fun _ => True := by
  refine Within.keeps (Within.mono hp fun i hi s hs => ?_)
  intro b hb t' ht' hid
  have hrow : ∃ t ∈ s.textures.rows, t.id = t'.id ∧ t.userId = t'.userId ∧
      t.fingerprint = t'.fingerprint := by
    cases exec_textures i s ht' with
    | kept h => exact ⟨t', h, rfl, rfl, rfl⟩
    | inserted input hinsert h =>
        rw [hinsert] at hi
        simp [TextureStmt.kind] at hi
    | written t ht h =>
        cases i with
        | textureMarkAsWardrobeItem id =>
            obtain ⟨-, rfl⟩ := h
            exact ⟨t, ht, rfl, rfl, rfl⟩
        | textureUpdateMetadata | textureReplaceContent | textureUpdateReview =>
            simp [TextureStmt.kind] at hi
        | _ => exact h.elim
  obtain ⟨t, ht, htid, htuser, htfp⟩ := hrow
  obtain ⟨huser, hfp⟩ := hs b hb t ht (htid.trans hid)
  exact ⟨htuser ▸ huser, htfp ▸ hfp⟩

/-- A texture is marked only when no wardrobe texture of its user equals it. -/
theorem wp_registerBinding {b : ProfileTexture} {result : WardrobeRegistrationResult}
    {s : TextureState} (hs : Distinct s) (hb : Listed [b] s) :
    (registerBinding b result).Wp textureMachine (fun _ s' => Distinct s') s := by
  have hforget : ∀ {p : TextureProg WardrobeRegistrationResult} {s : TextureState},
      p.Wp textureMachine (fun r s' => Distinct s' ∧ ∀ a, r = .ok a → True) s →
        p.Wp textureMachine (fun _ s' => Distinct s') s := fun h => h.1
  unfold registerBinding
  split
  · exact hs
  · refine (looks_query rfl).wp_bind (fun _ => hs) fun found hfound => ?_
    cases found with
    | some existing =>
        exact hforget (keeps_distinct (touches_rebindToWardrobe _ _ _)
          (by simp [StmtKind.writesFingerprint]) _ hs)
    | none =>
        have hfree := free_of_not_found hfound
        have hrest : ∀ marked : Option MinecraftTexture, Touches []
            ((required (.ofAster .databaseOperation) marked).bind fun _ => .ok
              { result with convertedTextures := result.convertedTextures + 1 }) :=
          fun _ => touches_required.bind fun _ => trivial
        refine wp_stmt_bind.mpr (hforget (keeps_distinct (hrest _) (by simp) _ ?_))
        have hnone : ¬ Taken s b.texture.userId b.texture.fingerprint b.texture.id := by
          rintro ⟨t, ht, hwardrobe, huser, hfp, -⟩
          exact hfree t ht hwardrobe huser hfp
        refine distinct_of_write hs hnone fun t' ht' => ?_
        cases exec_textures _ s ht' with
        | kept h => exact Or.inl ⟨t', h, .refl t'⟩
        | inserted input hi h => cases hi
        | written t ht h =>
            obtain ⟨hid, rfl⟩ := h
            obtain ⟨huser, hfp⟩ := hb b (List.mem_singleton.mpr rfl) t ht hid
            exact Or.inr ⟨hid, huser, hfp⟩

theorem wp_registerBindings {bindings : List ProfileTexture}
    {result : WardrobeRegistrationResult} {s : TextureState} (hs : Distinct s)
    (hlisted : Listed bindings s) :
    (registerBindings bindings result).Wp textureMachine (fun _ s' => Distinct s') s := by
  induction bindings generalizing result s with
  | nil => exact hs
  | cons b bindings ih =>
      have hb : Listed [b] s := fun b' hb' => by
        rw [List.mem_singleton.mp hb']
        exact hlisted b (List.mem_cons_self ..)
      have hrest : Listed bindings s := fun b' hb' => hlisted b' (List.mem_cons_of_mem _ hb')
      have hlater := keeps_listed (touches_registerBinding b result) s hrest
      have hstep : (registerBinding b result).Wp textureMachine
          (fun _ s' => Distinct s' ∧ Listed bindings s') s :=
        ⟨wp_registerBinding hs hb, hlater.1⟩
      refine wp_bind.mpr (hstep.mono ?_)
      rintro r s' ⟨hs', hlisted'⟩
      cases r with
      | ok result' => exact ih hs' hlisted'
      | error e => exact hs'

/-! ## Calls that write without looking -/

/-- The measures of an image fit their columns. -/
def TextureProcessingResult.fits (processing : TextureProcessingResult) : Bool :=
  processing.fileSize ≤ i64Max && processing.width ≤ i32Max && processing.height ≤ i32Max

theorem looks_fitColumns_fits {s : TextureState} (processing : TextureProcessingResult) :
    (fitColumns processing).Looks textureMachine s fun _ => processing.fits = true := by
  refine looks_rejectIf.bind fun _ hsize => looks_rejectIf.bind fun _ hwidth => ?_
  refine looks_rejectIf.mono fun _ hheight => ?_
  simp only [decide_eq_false_iff_not, Nat.not_lt] at hsize hwidth hheight
  simp [TextureProcessingResult.fits, hsize, hwidth, hheight]

theorem run_fitColumns {s : TextureState} {processing : TextureProcessingResult}
    (h : processing.fits = true) :
    (fitColumns processing).run textureMachine s = (.ok (), s) := by
  simp only [TextureProcessingResult.fits, Bool.and_eq_true, decide_eq_true_eq] at h
  obtain ⟨⟨hsize, hwidth⟩, hheight⟩ := h
  simp [fitColumns, Prog.rejectIf, Nat.not_lt.mpr hsize, Nat.not_lt.mpr hwidth,
    Nat.not_lt.mpr hheight]

/-- The call gives a wardrobe row of its user the fingerprint, without having
looked for it. -/
inductive Gives (codecs : TextureCodecs) (s : TextureState) :
    TextureCall → MinecraftTexture → Fingerprint → Prop
  | metadata {userId textureId : Nat} {displayName : Option (Bans.NullablePatch String)}
      {textureModel : MinecraftTextureModel} {visibility : Option Visibility}
      {t : MinecraftTexture} {name : Option (Option String)}
      (hban : s.notBanned userId .textureUpload = true)
      (hown : OwnWardrobe s userId textureId t)
      (hname : normalizeDisplayNameChange displayName = .ok name) :
      Gives codecs s
        (.updateMetadata userId textureId displayName (some textureModel) visibility) t
        { t.fingerprint with textureModel := effectiveModel t textureModel }
  | replace {policy : TexturePolicy} {userId textureId : Nat}
      {textureModel : MinecraftTextureModel} {upload : List UInt8} {t : MinecraftTexture}
      {processing : TextureProcessingResult}
      (hban : s.notBanned userId .textureUpload = true)
      (hown : OwnWardrobe s userId textureId t)
      (hprocess :
        codecs.process upload t.textureType policy.maxTexturePixels = .ok processing)
      (hchanged : (processing.hash = t.hash && effectiveModel t textureModel =
        t.textureModel) = false)
      (hfits : processing.fits = true) :
      Gives codecs s (.replace policy userId textureId textureModel upload) t
        ⟨t.textureType, .localTexture, processing.hash, effectiveModel t textureModel⟩

/-- The call gives a row a fingerprint that its user has in another row. -/
def Duplicates (codecs : TextureCodecs) (s : TextureState) (call : TextureCall) : Prop :=
  ∃ t fingerprint, Gives codecs s call t fingerprint ∧
    Taken s t.userId fingerprint t.id

theorem not_taken {s : TextureState} {t : MinecraftTexture} (hs : Distinct s)
    (ht : t ∈ s.textures.rows) (hwardrobe : t.isWardrobeItem = true) :
    ¬ Taken s t.userId t.fingerprint t.id := by
  rintro ⟨t', ht', hwardrobe', huser, hfp, hne⟩
  exact hne (hs t' ht' t ht hwardrobe' hwardrobe huser hfp)

theorem patchMetadata_user (now : Nat) (input : UpdateMetadata) (t : MinecraftTexture) :
    (patchMetadata now input t).userId = t.userId := by
  unfold patchMetadata
  split <;> rfl

theorem patchMetadata_wardrobe (now : Nat) (input : UpdateMetadata) (t : MinecraftTexture) :
    (patchMetadata now input t).isWardrobeItem = t.isWardrobeItem := by
  unfold patchMetadata
  split <;> rfl

theorem patchMetadata_fingerprint (now : Nat) (input : UpdateMetadata)
    (t : MinecraftTexture) :
    (patchMetadata now input t).fingerprint =
      { t.fingerprint with textureModel := input.textureModel.getD t.textureModel } := by
  unfold patchMetadata
  split <;> rfl

theorem distinct_updateMetadata {codecs : TextureCodecs} {s : TextureState}
    {userId textureId : Nat} {displayName : Option (Bans.NullablePatch String)}
    {textureModel : Option MinecraftTextureModel} {visibility : Option Visibility}
    (hs : Distinct s)
    (hfree : ¬ Duplicates codecs s
      (.updateMetadata userId textureId displayName textureModel visibility)) :
    (updateWardrobeTextureMetadata userId textureId displayName textureModel visibility).Wp
      textureMachine (fun _ s' => Distinct s') s := by
  refine (looks_ensureUserNotBanned _ _ _).wp_bind (fun _ => hs) fun _ hban => ?_
  refine (looks_userWardrobeTexture _ _).wp_bind (fun _ => hs) fun t hown => ?_
  refine looks_checked.wp_bind (fun _ => hs) fun name hname => wp_stmt_bind.mpr ?_
  refine Wp.mono looks_required fun r s' hr => hr.1 ▸ ?_
  refine distinct_written hs hown.mem (fun _ h => by cases h) (fun _ _ _ h => h)
    ⟨patchMetadata_id _ _ t, patchMetadata_user _ _ t⟩ ?_
  rw [patchMetadata_fingerprint]
  cases textureModel with
  | none => exact not_taken hs hown.mem hown.wardrobe
  | some textureModel => exact fun htaken => hfree ⟨t, _, .metadata hban hown hname, htaken⟩

/-- The rows after a replacement whose measures fit. -/
theorem wp_replaceWith {s : TextureState} {userId textureId : Nat} {t : MinecraftTexture}
    {processing : TextureProcessingResult} (hown : OwnWardrobe s userId textureId t)
    (hfits : processing.fits = true) (textureModel : MinecraftTextureModel) :
    (replaceWith userId textureId t processing textureModel).Wp textureMachine
      (fun _ s' => s'.textures = (s.replaceTexture t.id userId t.updatedAt
        (replacement processing textureModel)).2.textures) s := by
  -- from the put of the object on, in a state with the same rows
  have hrest : ∀ s₁ : TextureState, OwnWardrobe s₁ userId textureId t →
      (Prog.bind (query (.bindingListByTexture t.id)) fun _ =>
        Prog.bind (replaceAttempts userId textureId (replacement processing textureModel)
          (wardrobeReplaceMaxAttempts - 1) t) fun x =>
        Prog.bind (cleanupReplaced x.1 x.2) fun _ => .ok x.2).Wp textureMachine
          (fun _ s' => s'.textures = (s₁.replaceTexture t.id userId t.updatedAt
            (replacement processing textureModel)).2.textures) s₁ := by
    intro s₁ hown₁
    refine wp_stmt_bind.mpr (wp_bind.mpr (wp_replaceAttempts hown₁ _ ?_))
    have hcleanup := (touches_cleanupReplaced t (replaceContent s₁.now
      (replacement processing textureModel) t)).keeps_textures (by
        simp [StmtKind.writesTextures]) (s₁.replaceTexture t.id userId t.updatedAt
          (replacement processing textureModel)).2.textures
    exact wp_bind_ok (hcleanup _ rfl).1
  refine wp_bind_of_run (run_fitColumns hfits) ?_
  unfold putNewContent
  split
  · exact hrest (s.putObject _ _) ⟨hown.given, hown.mem, hown.id, hown.user, hown.wardrobe⟩
  · exact hrest s hown

theorem distinct_replace {codecs : TextureCodecs} {policy : TexturePolicy}
    {s : TextureState} {userId textureId : Nat} {textureModel : MinecraftTextureModel}
    {upload : List UInt8} (hs : Distinct s)
    (hfree : ¬ Duplicates codecs s (.replace policy userId textureId textureModel upload)) :
    (replaceWardrobeTextureContent codecs policy userId textureId textureModel upload).Wp
      textureMachine (fun _ s' => Distinct s') s := by
  refine (looks_ensureUserNotBanned _ _ _).wp_bind (fun _ => hs) fun _ hban => ?_
  refine looks_rejectIf.wp_bind (fun _ => hs) fun _ hgiven => ?_
  refine (looks_query rfl).wp_bind (fun _ => hs) fun found hfound => ?_
  refine looks_required.wp_bind (fun _ => hs) fun t ht => ?_
  rw [hfound] at ht
  have hown := (ownWardrobe_iff (by simpa using hgiven)).mp ht
  refine (looks_processUpload _ _ _ _).wp_bind (fun _ => hs) fun processing hprocess => ?_
  dsimp only
  split
  · exact hs
  · next hchanged =>
      rw [Bool.not_eq_true] at hchanged
      by_cases hfits : processing.fits = true
      · refine (wp_replaceWith hown hfits _).mono fun r s' hrows => ?_
        have hgives : Gives codecs s (.replace policy userId textureId textureModel upload)
            t _ := .replace hban hown hprocess hchanged hfits
        have hwritten : Distinct ((TextureStmt.textureReplaceContent t.id userId t.updatedAt
            (replacement processing (effectiveModel t textureModel))).exec s).2 :=
          distinct_written hs hown.mem (fun _ h => by cases h) (fun _ _ _ h => ⟨h.1.1, h.2⟩)
            ⟨rfl, rfl⟩ fun htaken => hfree ⟨t, _, hgives, htaken⟩
        unfold Distinct
        rw [hrows]
        exact hwritten
      · exact (looks_fitColumns_fits processing).wp_bind (fun _ => hs)
          fun _ h => absurd h hfits

/-! ## Every call -/

/-- An update by id writes over one row and leaves the others. -/
theorem mem_of_written {s s' : TextureState} {p : MinecraftTexture → Bool}
    {f : MinecraftTexture → MinecraftTexture} {hid : ∀ t, (f t).id = t.id}
    {t : MinecraftTexture} (ht : t ∈ s.textures.rows) (hp : p t = true)
    (honly : ∀ a, p a = true → a.id = t.id)
    (hrows : s'.textures = (s.modifyTextures p f hid).textures) :
    f t ∈ s'.textures.rows ∧
      ∀ other ∈ s.textures.rows, other.id ≠ t.id → other ∈ s'.textures.rows := by
  rw [hrows]
  constructor
  · exact List.mem_map.mpr ⟨t, ht, if_pos hp⟩
  · intro other hother hne
    exact List.mem_map.mpr ⟨other, hother, if_neg fun h => hne (honly other h)⟩

/-- A call that gives a row a fingerprint leaves that row, and the others as they
were. -/
theorem after_gives {codecs : TextureCodecs} {s : TextureState} {call : TextureCall}
    {t : MinecraftTexture} {fingerprint : Fingerprint}
    (h : Gives codecs s call t fingerprint) :
    (call.body codecs).Wp textureMachine (fun _ s' =>
      (∃ t' ∈ s'.textures.rows, t'.id = t.id ∧ t'.userId = t.userId ∧
        t'.isWardrobeItem = true ∧ t'.fingerprint = fingerprint) ∧
      ∀ other ∈ s.textures.rows, other.id ≠ t.id → other ∈ s'.textures.rows) s := by
  cases h with
  | @metadata _ textureId _ textureModel visibility _ name hban hown hname =>
      refine wp_bind_ok ?_
      refine wp_bind_of_run (run_ensureUserNotBanned hban) ?_
      refine wp_bind_of_run (run_userWardrobeTexture hown) ?_
      refine wp_bind_of_run (run_checked hname) (wp_stmt_bind.mpr ?_)
      refine Wp.mono looks_required fun r s' hend => ?_
      obtain ⟨hnew, hothers⟩ := mem_of_written hown.mem (decide_eq_true rfl)
        (fun _ ha => of_decide_eq_true ha) (congrArg TextureState.textures hend.1)
      refine ⟨⟨_, hnew, patchMetadata_id _ _ t, patchMetadata_user _ _ t, ?_, ?_⟩, hothers⟩
      · rw [patchMetadata_wardrobe, hown.wardrobe]
      · exact patchMetadata_fingerprint _ _ t
  | @replace policy userId textureId textureModel upload _ processing hban hown hprocess
      hchanged hfits =>
      refine wp_bind_ok ?_
      refine wp_bind_of_run (run_ensureUserNotBanned hban) ?_
      have hgiven : decide (textureId = 0) = false := by simpa using hown.given
      have hupload : (processUpload codecs policy t.textureType upload).run textureMachine s =
          (.ok processing, s) := by
        rw [processUpload, hprocess]
        rfl
      rw [hgiven]
      refine wp_stmt_bind.mpr ?_
      refine wp_bind_of_run (run_required ((ownWardrobe_iff hown.given).mpr hown)) ?_
      refine wp_bind_of_run hupload ?_
      dsimp only
      rw [hchanged]
      refine (wp_replaceWith hown hfits _).mono fun r s' hrows => ?_
      have honly : ∀ a : MinecraftTexture, (decide (a.id = t.id) && decide (a.userId = userId) &&
          a.isWardrobeItem && decide (a.updatedAt = t.updatedAt)) = true → a.id = t.id := by
        intro a ha
        simp only [Bool.and_eq_true, decide_eq_true_eq] at ha
        exact ha.1.1.1
      obtain ⟨hnew, hothers⟩ := mem_of_written hown.mem
        (by simp [hown.user, hown.wardrobe]) honly hrows
      exact ⟨⟨_, hnew, rfl, rfl, hown.wardrobe, rfl⟩, hothers⟩

/-- **Which calls lead to a duplicate.** -/
theorem distinct_after_iff (codecs : TextureCodecs) {s : TextureState} (hs : Distinct s)
    (call : TextureCall) :
    Distinct (after textureMachine (TextureCall.body codecs) s call) ↔
      ¬ Duplicates codecs s call := by
  constructor
  · rintro hafter ⟨t, fingerprint, hgives, other, hother, hwardrobe, huser, hfp, hne⟩
    obtain ⟨⟨t', ht', hid, huser', hwardrobe', hfp'⟩, hothers⟩ := after_gives hgives
    have heq := hafter other (hothers other hother hne) t' ht' hwardrobe hwardrobe'
      (huser.trans huser'.symm) (hfp.trans hfp'.symm)
    exact hne (heq.trans hid)
  · intro hfree
    have hkeeps : ((call.body codecs).Keeps textureMachine Distinct fun _ => True) →
        Distinct (after textureMachine (TextureCall.body codecs) s call) :=
      fun h => (h s hs).1
    cases call with
    | storeWardrobe policy userId textureType textureModel visibility upload =>
        have hstored : (storeWardrobeTexture codecs policy userId textureType textureModel
            visibility upload).Keeps textureMachine Distinct fun _ => True :=
          (keeps_distinct (touches_ensureUserNotBanned _ _ _) (by simp)).bind
            fun _ _ => keeps_storeOrReuseWardrobeTexture codecs policy _
        exact hkeeps (hstored.bind fun _ _ => keeps_ok trivial)
    | storeTexture policy accessToken profileUuid textureType textureModel upload =>
        refine hkeeps ((keeps_distinct (touches_authenticateTextureAccess _ _)
          (by simp)).bind fun profile _ => ?_)
        exact (keeps_storeTexture codecs policy profile _ _ _).bind fun _ _ => keeps_ok trivial
    | importOfficial policy profileUuid textureType textureModel sourceUrl bindingMode =>
        refine hkeeps ((keeps_distinct (touches_profileByUuid _) (by simp)).bind
          fun profile _ => ?_)
        exact (keeps_importOfficialTexture codecs policy profile _ _ _ _).bind
          fun _ _ => keeps_ok trivial
    | copy policy userId textureId displayName =>
        exact hkeeps ((keeps_copyPublicTextureToWardrobe _ _ _ _).bind
          fun _ _ => keeps_ok trivial)
    | registerBound =>
        have hregistered : registerBoundTexturesInWardrobe.Wp textureMachine
            (fun _ s' => Distinct s') s :=
          wp_stmt_bind.mpr (wp_registerBindings hs (listed_joined s.bindings.rows))
        exact wp_bind_ok hregistered
    | updateMetadata userId textureId displayName textureModel visibility =>
        exact wp_bind_ok (distinct_updateMetadata hs hfree)
    | replace policy userId textureId textureModel upload =>
        exact wp_bind_ok (distinct_replace hs hfree)
    | _ =>
        exact hkeeps (keeps_distinct (TextureCall.touches_body codecs _)
          (by simp [TextureCall.kinds, StmtKind.writesFingerprint]))

/-! ## Runs -/

/-- **A wardrobe stays free of duplicates exactly as long as no call gives a row a
fingerprint that its user has in another row.** -/
theorem fingerprints_distinct_iff (codecs : TextureCodecs) {s₀ : TextureState}
    (hs : Distinct s₀) (calls : List TextureCall) :
    (∀ done, done <+: calls →
      Distinct (serve textureMachine (TextureCall.body codecs) s₀ done)) ↔
    Guarded textureMachine (TextureCall.body codecs)
      (fun s call => ¬ Duplicates codecs s call) s₀ calls := by
  induction calls generalizing s₀ with
  | nil =>
      refine ⟨fun _ => trivial, fun _ done hdone => ?_⟩
      rw [List.prefix_nil.mp hdone]
      exact hs
  | cons call calls ih =>
      constructor
      · intro h
        have hafter := h [call] (by simp)
        refine ⟨(distinct_after_iff codecs hs call).mp hafter, (ih hafter).mp ?_⟩
        intro done hdone
        exact h (call :: done) (List.cons_prefix_cons.mpr ⟨rfl, hdone⟩)
      · rintro ⟨hcall, hcalls⟩ done hdone
        cases done with
        | nil => exact hs
        | cons first done =>
            obtain ⟨rfl, hrest⟩ := List.cons_prefix_cons.mp hdone
            have hafter := (distinct_after_iff codecs hs first).mpr hcall
            exact (ih hafter).mpr hcalls done hrest

/-- Bob uploads a skin for each of the two models. -/
def bobUploadsTwice : List TextureCall :=
  [.storeWardrobe openPolicy 2 .skin .default .privateItem [1, 2],
    .storeWardrobe openPolicy 2 .skin .slim .privateItem [1, 2]]

/-- Bob uploads two skins. -/
def bobUploadsTwo : List TextureCall :=
  [.storeWardrobe openPolicy 2 .skin .default .privateItem [1, 2],
    .storeWardrobe openPolicy 2 .skin .default .privateItem [1, 2, 3]]

/-- **An update of the model makes two textures equal, and so does a replacement
by the content of another texture.** -/
theorem fingerprints_collide :
    ¬ Distinct (serve textureMachine (TextureCall.body twoImages) twoPlayers
      (bobUploadsTwice ++ [.updateMetadata 2 2 none (some .default) none])) ∧
    ¬ Distinct (serve textureMachine (TextureCall.body twoImages) twoPlayers
      (bobUploadsTwo ++ [.replace openPolicy 2 2 .default [1, 2]])) := by
  decide +kernel

/-- Before the update the two skins differ. -/
theorem uploads_distinct :
    (∀ done, done <+: bobUploadsTwice → Distinct (serve textureMachine
      (TextureCall.body twoImages) twoPlayers done)) ↔
    Guarded textureMachine (TextureCall.body twoImages)
      (fun s call => ¬ Duplicates twoImages s call) twoPlayers bobUploadsTwice :=
  fingerprints_distinct_iff twoImages (by decide) bobUploadsTwice

end AsterYggdrasil.Textures
