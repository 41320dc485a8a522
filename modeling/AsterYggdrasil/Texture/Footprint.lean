import AsterYggdrasil.Texture.Service
import AsterYggdrasil.Yggdrasil.Quota

/-!
# Textures: what a statement can do to the rows

`exec_textures` says where a texture row comes from: it was there before, it has
just been inserted, or it was written over a row with the same id.  The facts
about library states, fingerprints and owners are all derived from it.  The
lookups of the service leave the state as it is; each has a lemma that says what
its answer tells about that state.
-/

namespace AsterYggdrasil.Textures

open Interleave Relational
open Interleave.Prog

variable {s : TextureState}

/-! ## Texture rows -/

/-- Statement `i` writes `t'` over `t`. -/
def Overwrites (i : TextureStmt) (s : TextureState) (t t' : MinecraftTexture) : Prop :=
  match i with
  | .textureMarkAsWardrobeItem id => t.id = id ∧ t' = markedAsWardrobeItem s.now t
  | .textureUpdateMetadata id input => t.id = id ∧ t' = patchMetadata s.now input t
  | .textureReplaceContent id userId expectedUpdatedAt input =>
      (t.id = id ∧ t.userId = userId ∧ t.isWardrobeItem = true ∧
        t.updatedAt = expectedUpdatedAt) ∧ t' = replaceContent s.now input t
  | .textureUpdateReview id input => t.id = id ∧ t' = patchReview s.now input t
  | _ => False

/-- Where the row `t'` comes from. -/
inductive RowOrigin (i : TextureStmt) (s : TextureState) (t' : MinecraftTexture) : Prop
  | kept (h : t' ∈ s.textures.rows)
  | inserted (input : CreateTexture) (hi : i = .textureInsert input)
      (h : t' = newTexture s.now s.textures.seq input)
  | written (t : MinecraftTexture) (ht : t ∈ s.textures.rows) (h : Overwrites i s t t')

/-- A patch leaves the texture's id. -/
theorem patchMetadata_id (now : Nat) (input : UpdateMetadata) (t : MinecraftTexture) :
    (patchMetadata now input t).id = t.id := by
  unfold patchMetadata
  split <;> rfl

/-- The rows of an update. -/
theorem mem_modifyTextures {p : MinecraftTexture → Bool}
    {f : MinecraftTexture → MinecraftTexture} {hid : ∀ t, (f t).id = t.id}
    {t' : MinecraftTexture} (h : t' ∈ (s.modifyTextures p f hid).textures.rows) :
    t' ∈ s.textures.rows ∨ ∃ t ∈ s.textures.rows, p t = true ∧ t' = f t := by
  obtain ⟨t, ht, rfl⟩ := List.mem_map.mp h
  by_cases hp : p t = true
  · rw [if_pos hp]
    exact Or.inr ⟨t, ht, hp, rfl⟩
  · rw [if_neg hp]
    exact Or.inl ht

/-- After an update a texture is one that was there, or the update of one. -/
theorem mem_updateTexture {id : Nat} {f : MinecraftTexture → MinecraftTexture}
    {hid : ∀ t, (f t).id = t.id} {t' : MinecraftTexture}
    (h : t' ∈ (s.updateTexture id f hid).2.textures.rows) :
    t' ∈ s.textures.rows ∨ ∃ t ∈ s.textures.rows, t.id = id ∧ t' = f t := by
  rcases mem_modifyTextures h with hkept | ⟨t, ht, hp, rfl⟩
  · exact Or.inl hkept
  · exact Or.inr ⟨t, ht, of_decide_eq_true hp, rfl⟩

/-- What is left after a deletion. -/
theorem mem_dropTextures {p : MinecraftTexture → Bool} {t : MinecraftTexture} :
    t ∈ (s.dropTextures p).textures.rows ↔ t ∈ s.textures.rows ∧ p t = false := by
  simp [TextureState.dropTextures]

/-- What a service statement takes along it only takes away. -/
theorem mem_cascade {i : ServiceStmt} {t : MinecraftTexture}
    (h : t ∈ (TextureState.cascade i s).textures.rows) : t ∈ s.textures.rows := by
  unfold TextureState.cascade at h
  split at h
  · exact h
  · exact (mem_dropTextures.mp h).1
  · exact h

/-- **Where a row comes from.** -/
theorem exec_textures (i : TextureStmt) (s : TextureState) {t' : MinecraftTexture}
    (h : t' ∈ (i.exec s).2.textures.rows) : RowOrigin i s t' := by
  cases i with
  | service i =>
      exact .kept (mem_cascade (s := { s with service := (i.exec s.service).2 }) h)
  | textureInsert input =>
      simp only [TextureStmt.exec, TextureState.insertTexture] at h
      split at h
      · cases hins : s.textures.nextId.2.insert?
            (newTexture s.now s.textures.nextId.1 input) with
        | none =>
            rw [hins] at h
            exact .kept h
        | some textures =>
            rw [hins] at h
            rw [(Table.insert?_eq_some hins).1] at h
            rcases List.mem_append.mp h with hold | hnew
            · exact .kept hold
            · exact .inserted input rfl (List.mem_singleton.mp hnew)
      · exact .kept h
  | textureMarkAsWardrobeItem id =>
      rcases mem_updateTexture h with hkept | ⟨t, ht, hid, rfl⟩
      · exact .kept hkept
      · exact .written t ht ⟨hid, rfl⟩
  | textureUpdateMetadata id input =>
      rcases mem_updateTexture h with hkept | ⟨t, ht, hid, rfl⟩
      · exact .kept hkept
      · exact .written t ht ⟨hid, rfl⟩
  | textureUpdateReview id input =>
      rcases mem_updateTexture h with hkept | ⟨t, ht, hid, rfl⟩
      · exact .kept hkept
      · exact .written t ht ⟨hid, rfl⟩
  | textureReplaceContent id userId expectedUpdatedAt input =>
      rcases mem_modifyTextures h with hkept | ⟨t, ht, hp, rfl⟩
      · exact .kept hkept
      · simp only [Bool.and_eq_true, decide_eq_true_eq] at hp
        obtain ⟨⟨⟨hid, huser⟩, hwardrobe⟩, hupdated⟩ := hp
        exact .written t ht ⟨⟨hid, huser, hwardrobe, hupdated⟩, rfl⟩
  | textureDelete id => exact .kept (mem_dropTextures.mp h).1
  | bindingInsert profileId textureId textureType =>
      simp only [TextureStmt.exec, TextureState.insertBinding] at h
      split at h
      · split at h <;> exact .kept h
      · exact .kept h
  | bindingSetTexture id textureId =>
      simp only [TextureStmt.exec, TextureState.setBindingTexture] at h
      split at h <;> exact .kept h
  | preferenceInsert profileId textureId textureType =>
      simp only [TextureStmt.exec, TextureState.insertPreference] at h
      split at h
      · split at h <;> exact .kept h
      · exact .kept h
  | preferenceSetTexture id textureId =>
      simp only [TextureStmt.exec, TextureState.setPreferenceTexture] at h
      split at h <;> exact .kept h
  | reportInsert input =>
      simp only [TextureStmt.exec, TextureState.insertReport] at h
      split at h
      · split at h <;> exact .kept h
      · exact .kept h
  | tagInsert textureId tagId createdAt =>
      simp only [TextureStmt.exec, TextureState.insertTagBinding] at h
      split at h
      · split at h <;> exact .kept h
      · exact .kept h
  | _ => exact .kept h

/-- An insert that is accepted answers the row it adds. -/
theorem insertTexture_some {input : CreateTexture} {t : MinecraftTexture}
    (h : (s.insertTexture input).1 = some t) :
    t = newTexture s.now s.textures.seq input ∧
      (s.insertTexture input).2.textures.rows = s.textures.rows ++ [t] ∧
      (s.insertTexture input).2.objects = s.objects := by
  unfold TextureState.insertTexture at h ⊢
  simp only at h ⊢
  split at h
  · next huser =>
      rw [if_pos huser]
      cases hins : s.textures.nextId.2.insert?
          (newTexture s.now s.textures.nextId.1 input) with
      | none =>
          rw [hins] at h
          cases h
      | some textures =>
          rw [hins] at h
          cases h
          exact ⟨rfl, (Table.insert?_eq_some hins).1, rfl⟩
  · cases h

/-! ## Lookups -/

/-- An expected row was found, and nothing has changed. -/
theorem looks_required {α : Type} {e : TextureFailure} {found : Option α} :
    (required e found).Looks textureMachine s fun a => found = some a := by
  cases found with
  | none => exact looks_err e
  | some a => exact looks_ok rfl

/-- A check was passed, and nothing has changed. -/
theorem looks_checked {α : Type} {r : Except AsterError α} :
    (checked r).Looks textureMachine s fun a => r = .ok a := by
  cases r with
  | error e => exact looks_err _
  | ok a => exact looks_ok rfl

/-- A row that is there is returned. -/
theorem run_required {α : Type} {e : TextureFailure} {found : Option α} {a : α}
    (h : found = some a) : (required e found).run textureMachine s = (.ok a, s) := by
  rw [h]
  rfl

/-- A check that holds is passed. -/
theorem run_checked {α : Type} {r : Except AsterError α} {a : α} (h : r = .ok a) :
    (checked r).run textureMachine s = (.ok a, s) := by
  rw [h]
  rfl

/-- A statement that leaves the state as it is. -/
theorem looks_query {i : TextureStmt} (hs : (i.exec s).2 = s) :
    (query i).Looks textureMachine s fun r => r = (i.exec s).1 := looks_stmt hs

/-- The clock is read. -/
theorem looks_utcNow : utcNow.Looks textureMachine s fun now => now = s.now :=
  looks_query rfl

/-- The check that the library is enabled only looks. -/
theorem looks_ensureTextureLibraryEnabled (policy : TexturePolicy) :
    (ensureTextureLibraryEnabled policy).Looks textureMachine s fun _ => True :=
  looks_rejectIf.mono fun _ _ => trivial

/-- No ban of the user is in force for the scope. -/
def TextureState.notBanned (s : TextureState) (userId : Nat) (scope : UserBanScope) : Bool :=
  !((DbStmt.banFindEffectiveForScope userId scope).exec s.service.db).1.isSome

/-- Whoever passes the ban check has no effective ban of the scope. -/
theorem looks_ensureUserNotBanned (g : AsterError → TextureFailure) (userId : Nat)
    (scope : UserBanScope) :
    (ensureUserNotBanned g userId scope).Looks textureMachine s
      fun _ => s.notBanned userId scope = true := by
  refine (looks_query rfl).bind fun ban hban => looks_rejectIf.mono fun _ hnone => ?_
  rw [hban] at hnone
  exact congrArg (!·) hnone

/-- Without a ban the check passes. -/
theorem run_ensureUserNotBanned {g : AsterError → TextureFailure} {userId : Nat}
    {scope : UserBanScope} (h : s.notBanned userId scope = true) :
    (ensureUserNotBanned g userId scope).run textureMachine s = (.ok (), s) := by
  have hnone : ((DbStmt.banFindEffectiveForScope userId scope).exec
      s.service.db).1.isSome = false := by simpa [TextureState.notBanned] using h
  show (Prog.rejectIf ((DbStmt.banFindEffectiveForScope userId scope).exec
    s.service.db).1.isSome _).run textureMachine s = _
  rw [hnone]
  rfl

/-- A row that has been found stands in the table. -/
theorem textureById_eq_some {id : Nat} {t : MinecraftTexture}
    (h : s.textureById id = some t) : t ∈ s.textures.rows ∧ t.id = id := by
  obtain ⟨ht, hid⟩ := Table.of_find? h
  exact ⟨ht, of_decide_eq_true hid⟩

/-- The row with a given id is the one that is found. -/
theorem textureById_of_mem {t : MinecraftTexture} (ht : t ∈ s.textures.rows) :
    s.textureById t.id = some t := by
  cases hfind : s.textureById t.id with
  | none =>
      have hnone := Table.find?_eq_none.mp hfind t ht
      simp at hnone
  | some t' =>
      obtain ⟨ht', hid⟩ := textureById_eq_some hfind
      rw [s.textures.eq_of_ident ht ht' hid.symm]

/-- What `userWardrobeTexture` has found. -/
structure OwnWardrobe (s : TextureState) (userId textureId : Nat) (t : MinecraftTexture) :
    Prop where
  given : textureId ≠ 0
  mem : t ∈ s.textures.rows
  id : t.id = textureId
  user : t.userId = userId
  wardrobe : t.isWardrobeItem = true

/-- A wardrobe item stays one while the textures do. -/
theorem OwnWardrobe.of_same {s' : TextureState} {userId textureId : Nat}
    {t : MinecraftTexture} (h : OwnWardrobe s userId textureId t)
    (htextures : s'.textures = s.textures) : OwnWardrobe s' userId textureId t :=
  ⟨h.given, htextures ▸ h.mem, h.id, h.user, h.wardrobe⟩

/-- The query and its filter find exactly the wardrobe items of the user. -/
theorem ownWardrobe_iff {userId textureId : Nat} {t : MinecraftTexture}
    (hgiven : textureId ≠ 0) :
    (s.textures.find? fun t => t.id = textureId && t.userId = userId).filter
      MinecraftTexture.isWardrobeItem = some t ↔ OwnWardrobe s userId textureId t := by
  rw [Option.filter_eq_some_iff]
  constructor
  · rintro ⟨hfind, hwardrobe⟩
    obtain ⟨hmem, hp⟩ := Table.of_find? hfind
    simp only [Bool.and_eq_true, decide_eq_true_eq] at hp
    exact ⟨hgiven, hmem, hp.1, hp.2, hwardrobe⟩
  · rintro ⟨-, hmem, hid, huser, hwardrobe⟩
    refine ⟨?_, hwardrobe⟩
    cases hfind : s.textures.find? fun t => t.id = textureId && t.userId = userId with
    | none =>
        have hnone := Table.find?_eq_none.mp hfind t hmem
        simp [hid, huser] at hnone
    | some t' =>
        obtain ⟨hmem', hp⟩ := Table.of_find? hfind
        simp only [Bool.and_eq_true, decide_eq_true_eq] at hp
        rw [s.textures.eq_of_ident hmem hmem' (hid.trans hp.1.symm)]

/-- `user_wardrobe_texture` returns an item of the user's own wardrobe. -/
theorem looks_userWardrobeTexture (userId textureId : Nat) :
    (userWardrobeTexture userId textureId).Looks textureMachine s
      (OwnWardrobe s userId textureId) := by
  refine looks_rejectIf.bind fun _ hgiven => (looks_query rfl).bind fun found hfound => ?_
  refine looks_required.mono fun t ht => ?_
  rw [hfound] at ht
  exact (ownWardrobe_iff (by simpa using hgiven)).mp ht

/-- And it finds such an item. -/
theorem run_userWardrobeTexture {userId textureId : Nat} {t : MinecraftTexture}
    (h : OwnWardrobe s userId textureId t) :
    (userWardrobeTexture userId textureId).run textureMachine s = (.ok t, s) := by
  have hfound := (ownWardrobe_iff h.given).mpr h
  have hgiven : decide (textureId = 0) = false := by simpa using h.given
  simp only [userWardrobeTexture, rejectIf, hgiven, bind_eq, rejectIf_false, ok_bind]
  show (required _ ((s.textures.find? fun t => t.id = textureId && t.userId = userId).filter
    MinecraftTexture.isWardrobeItem)).run textureMachine s = _
  rw [hfound]
  rfl

/-- Processing an upload touches no row. -/
theorem looks_processUpload {s : TextureState} (codecs : TextureCodecs)
    (policy : TexturePolicy) (textureType : TextureType) (upload : List UInt8) :
    (processUpload codecs policy textureType upload).Looks textureMachine s
      fun processing =>
        codecs.process upload textureType policy.maxTexturePixels = .ok processing := by
  refine looks_ofExcept.mono fun processing h => ?_
  cases hprocess : codecs.process upload textureType policy.maxTexturePixels with
  | error e =>
      rw [hprocess] at h
      cases h
  | ok a =>
      rw [hprocess] at h
      cases h
      rfl

/-- For an administrator, the item of any user. -/
theorem looks_adminWardrobeTexture (textureId : Nat) :
    (adminWardrobeTexture textureId).Looks textureMachine s fun t =>
      t ∈ s.textures.rows ∧ t.id = textureId ∧ t.isWardrobeItem = true := by
  refine looks_rejectIf.bind fun _ _ => (looks_query rfl).bind fun found hfound => ?_
  refine looks_required.mono fun t ht => ?_
  rw [hfound] at ht
  obtain ⟨hfind, hwardrobe⟩ := Option.filter_eq_some_iff.mp ht
  obtain ⟨hmem, hid⟩ := textureById_eq_some hfind
  exact ⟨hmem, hid, hwardrobe⟩

/-- What is found under a binding stands in the table. -/
theorem looks_findByProfileAndType (profileId : Nat) (textureType : TextureType) :
    (findByProfileAndType profileId textureType).Looks textureMachine s fun found =>
      ∀ x ∈ found, x.texture ∈ s.textures.rows := by
  refine (looks_query rfl).bind fun found _ => ?_
  cases found with
  | none => exact looks_ok fun x hx => by cases hx
  | some binding =>
      refine Looks.bind (K := fun t => t ∈ s.textures.rows) ?_ fun t ht => looks_ok ?_
      · refine (looks_query rfl).bind fun found hfound => looks_required.mono fun t ht => ?_
        rw [hfound] at ht
        exact (textureById_eq_some ht).1
      · rintro x ⟨rfl⟩
        exact ht

/-! ## Kinds of statements -/

/-- What a statement does to textures, to what refers to them, and to the object
store. -/
inductive StmtKind
  | plain | insert | mark | metadata | content | review | remove | bind | unbind | prefer
  | put | erase | dropProfile | account
  deriving DecidableEq

def TextureStmt.kind : TextureStmt → StmtKind
  | .service (.db (.profileDelete _)) => .dropProfile
  | .service i => if i.keepsProfiles then .plain else .account
  | .textureInsert _ => .insert
  | .textureMarkAsWardrobeItem _ => .mark
  | .textureUpdateMetadata _ _ => .metadata
  | .textureReplaceContent _ _ _ _ => .content
  | .textureUpdateReview _ _ => .review
  | .textureDelete _ => .remove
  | .bindingInsert _ _ _ | .bindingSetTexture _ _ => .bind
  | .bindingDelete _ => .unbind
  | .preferenceInsert _ _ _ | .preferenceSetTexture _ _ => .prefer
  | .objectPut _ _ => .put
  | .objectDelete _ => .erase
  | .textureFindById _ | .textureFindByIdForUser _ _ | .textureFindPublicWardrobeById _
  | .textureFindWardrobeByFingerprint _ _ | .textureFindWardrobeByDisplayName _ _
  | .textureListByHash _ | .textureCountByStorageKey _
  | .bindingFindByProfileAndType _ _ | .bindingListAll | .bindingListByProfile _
  | .bindingListByTexture _ | .bindingListByHash _ | .bindingCountByTexture _
  | .preferenceFindByProfileAndType _ _ | .reportFindById _ | .reportFindPending _ _
  | .reportInsert _ | .reportHandle _ _ | .reportListPendingForTexture _
  | .tagFindByIds _ | .tagListForTexture _ | .tagDeleteForTexture _
  | .tagInsert _ _ _
  | .objectListKeys => .plain

/-- What a plain statement leaves as it is. -/
structure SameTextures (s s' : TextureState) : Prop where
  textures : s'.textures = s.textures
  bindings : s'.bindings = s.bindings
  preferences : s'.preferences = s.preferences
  objects : s'.objects = s.objects
  profiles : s'.service.db.profiles.rows = s.service.db.profiles.rows

/-- What keeps the profiles cascades to no binding. -/
theorem cascade_of_keeps {i : ServiceStmt} (hi : i.keepsProfiles = true)
    (s : TextureState) : TextureState.cascade i s = s := by
  cases i with
  | db i =>
      cases i with
      | profileDelete | userDelete => cases hi
      | _ => rfl
  | _ => rfl

/-- A plain statement leaves the texture tables alone. -/
theorem exec_plain {i : TextureStmt} (hi : i.kind = .plain) (s : TextureState) :
    SameTextures s (i.exec s).2 := by
  cases i with
  | service i =>
      have hkeeps : i.keepsProfiles = true := by
        unfold TextureStmt.kind at hi
        grind
      simp only [TextureStmt.exec, cascade_of_keeps hkeeps]
      exact ⟨rfl, rfl, rfl, rfl, exec_profiles hkeeps s.service⟩
  | reportInsert input =>
      simp only [TextureStmt.exec, TextureState.insertReport]
      split
      · split <;> exact ⟨rfl, rfl, rfl, rfl, rfl⟩
      · exact ⟨rfl, rfl, rfl, rfl, rfl⟩
  | tagInsert textureId tagId createdAt =>
      simp only [TextureStmt.exec, TextureState.insertTagBinding]
      split
      · split <;> exact ⟨rfl, rfl, rfl, rfl, rfl⟩
      · exact ⟨rfl, rfl, rfl, rfl, rfl⟩
  | textureInsert | textureMarkAsWardrobeItem | textureUpdateMetadata
  | textureReplaceContent | textureUpdateReview | textureDelete | bindingInsert
  | bindingSetTexture | bindingDelete | preferenceInsert | preferenceSetTexture | objectPut
  | objectDelete => cases hi
  | _ => exact ⟨rfl, rfl, rfl, rfl, rfl⟩

/-- The statements that write neither texture rows nor objects. -/
def StmtKind.still : StmtKind → Bool
  | .plain | .bind | .unbind | .prefer | .dropProfile => true
  | _ => false

/-- A still one leaves the textures and the objects. -/
theorem exec_still {i : TextureStmt} (hi : i.kind.still = true) (s : TextureState) :
    (i.exec s).2.textures = s.textures ∧ (i.exec s).2.objects = s.objects := by
  by_cases hplain : i.kind = .plain
  · exact ⟨(exec_plain hplain s).textures, (exec_plain hplain s).objects⟩
  cases i with
  | service i =>
      cases i with
      | db i =>
          cases i with
          | profileDelete id => exact ⟨rfl, rfl⟩
          | _ => first | exact absurd rfl hplain | cases hi
      | txn t => cases hi
      | _ => exact absurd rfl hplain
  | bindingInsert profileId textureId textureType =>
      simp only [TextureStmt.exec, TextureState.insertBinding]
      split
      · split <;> exact ⟨rfl, rfl⟩
      · exact ⟨rfl, rfl⟩
  | bindingSetTexture id textureId =>
      simp only [TextureStmt.exec, TextureState.setBindingTexture]
      split <;> exact ⟨rfl, rfl⟩
  | preferenceInsert profileId textureId textureType =>
      simp only [TextureStmt.exec, TextureState.insertPreference]
      split
      · split <;> exact ⟨rfl, rfl⟩
      · exact ⟨rfl, rfl⟩
  | preferenceSetTexture id textureId =>
      simp only [TextureStmt.exec, TextureState.setPreferenceTexture]
      split <;> exact ⟨rfl, rfl⟩
  | bindingDelete id => exact ⟨rfl, rfl⟩
  | textureInsert | textureMarkAsWardrobeItem | textureUpdateMetadata
  | textureReplaceContent | textureUpdateReview | textureDelete | objectPut
  | objectDelete => cases hi
  | _ => exact absurd rfl hplain

/-- The statements that write texture rows or take them away. -/
def StmtKind.writesTextures : StmtKind → Bool
  | .insert | .mark | .metadata | .content | .review | .remove | .account => true
  | _ => false

/-- One that writes no texture leaves the textures. -/
theorem exec_keepsTextures {i : TextureStmt} (hi : i.kind.writesTextures = false)
    (s : TextureState) : (i.exec s).2.textures = s.textures := by
  by_cases hstill : i.kind.still = true
  · exact (exec_still hstill s).1
  have hkind : i.kind = .put ∨ i.kind = .erase := by
    revert hi hstill
    cases i.kind <;> decide
  cases i with
  | objectPut storageKey bytes => rfl
  | objectDelete storageKey => rfl
  | service i =>
      unfold TextureStmt.kind at hkind
      grind
  | _ => simp [TextureStmt.kind] at hkind

/-- A program of plain statements and statements of the given kinds. -/
abbrev Touches {α : Type} (kinds : List StmtKind) (p : TextureProg α) : Prop :=
  p.Within fun i : TextureStmt => i.kind = .plain ∨ i.kind ∈ kinds

section Touches

variable {α β : Type} {kinds kinds' : List StmtKind}

/-- More kinds may be named. -/
theorem Touches.mono {p : TextureProg α} (hp : Touches kinds p) (h : kinds ⊆ kinds') :
    Touches kinds' p := Within.mono hp fun _ hi => hi.imp_right fun hk => h hk

/-- A plain program in front. -/
theorem Touches.after {p : TextureProg α} {f : α → TextureProg β} (hp : Touches [] p)
    (hf : ∀ a, Touches kinds (f a)) : Touches kinds (p.bind f) :=
  (hp.mono (List.nil_subset _)).bind hf

/-- A plain statement in front. -/
theorem Touches.query {i : TextureStmt} {f : i.Reply → TextureProg β}
    (hi : i.kind = .plain) (hf : ∀ r, Touches kinds (f r)) :
    Touches kinds ((Textures.query i).bind f) := ⟨Or.inl hi, hf⟩

/-- A check touches nothing. -/
theorem touches_rejectIf {c : Bool} {e : TextureFailure} :
    Touches kinds (Prog.rejectIf c e) := Within.rejectIf

/-- Nor does looking at an expected row. -/
theorem touches_required {e : TextureFailure} {found : Option α} :
    Touches kinds (required e found) := by
  cases found <;> trivial

/-- Nor does a pure check. -/
theorem touches_checked {r : Except AsterError α} : Touches kinds (checked r) :=
  Within.ofExcept

/-- A statement touches what its kind says. -/
theorem touches_query {i : TextureStmt} (hi : kinds.contains i.kind = true) :
    Touches kinds (Textures.query i) :=
  ⟨Or.inr (List.contains_iff_mem.mp hi), fun _ => trivial⟩

/-- A plain statement touches nothing. -/
theorem touches_look {i : TextureStmt} (hi : i.kind = .plain) :
    Touches kinds (Textures.query i) := ⟨Or.inl hi, fun _ => trivial⟩

/-- A service program that keeps the profiles touches no texture. -/
theorem touches_service {p : Service α} {g : ServiceError → TextureFailure}
    (hp : KeepsProfiles p) : Touches kinds (ofService g p) := by
  refine Within.hoist (hp.mono fun i hi => Or.inl ?_)
  cases i with
  | db i =>
      cases i with
      | profileInsert | profileUpdateName | profileDelete | userDelete => cases hi
      | _ => rfl
  | txn t => cases hi
  | _ => rfl

/-- A program that writes no texture rows. -/
theorem Touches.keeps_textures {p : TextureProg α} (hp : Touches kinds p)
    (h : ∀ k ∈ kinds, k.writesTextures = false) (textures : Table textureSchema) :
    p.Keeps textureMachine (fun s => s.textures = textures) fun _ => True := by
  refine Within.keeps (Within.mono hp fun i hi s hs => ?_)
  have hkind : i.kind.writesTextures = false := by
    rcases hi with hplain | hmem
    · rw [hplain]
      rfl
    · exact h _ hmem
  exact (exec_keepsTextures hkind s).trans hs

/-- What follows a program that writes neither texture rows nor objects. -/
theorem Touches.bind_still {K : β → TextureState → Prop} {p : TextureProg α}
    {f : α → TextureProg β} (hp : Touches kinds p) (h : ∀ k ∈ kinds, k.still = true)
    (hf : ∀ a s', s'.textures = s.textures → s'.objects = s.objects →
      (f a).Wp textureMachine (OnSuccess K) s') :
    (p.bind f).Wp textureMachine (OnSuccess K) s := by
  have hkeeps : p.Keeps textureMachine
      (fun s' => s'.textures = s.textures ∧ s'.objects = s.objects) fun _ => True := by
    refine Within.keeps (Within.mono hp fun i hi s' hs' => ?_)
    have hkind : i.kind.still = true := by
      rcases hi with hplain | hmem
      · rw [hplain]
        rfl
      · exact h _ hmem
    obtain ⟨htextures, hobjects⟩ := exec_still hkind s'
    exact ⟨htextures.trans hs'.1, hobjects.trans hs'.2⟩
  exact hkeeps.wp_bind ⟨rfl, rfl⟩ (fun e _ _ => onSuccess_error e)
    fun a s' hs' _ => hf a s' hs'.1 hs'.2

end Touches

/-! ## The library -/

/-- The ban check touches nothing. -/
theorem touches_ensureUserNotBanned (g : AsterError → TextureFailure) (userId : Nat)
    (scope : UserBanScope) : Touches [] (ensureUserNotBanned g userId scope) :=
  Touches.query rfl fun _ => touches_rejectIf

/-- Nor does finding an item of a wardrobe. -/
theorem touches_userWardrobeTexture (userId textureId : Nat) :
    Touches [] (userWardrobeTexture userId textureId) :=
  touches_rejectIf.bind fun _ => Touches.query rfl fun _ => touches_required

/-- For an administrator neither. -/
theorem touches_adminWardrobeTexture (textureId : Nat) :
    Touches [] (adminWardrobeTexture textureId) :=
  touches_rejectIf.bind fun _ => Touches.query rfl fun _ => touches_required

/-- A pending report is found. -/
theorem touches_pendingAdminTextureReport (reportId : Nat) :
    Touches [] (pendingAdminTextureReport reportId) := by
  have hreport : Touches [] (adminTextureReport reportId) :=
    touches_rejectIf.bind fun _ => Touches.query rfl fun _ => touches_required
  exact hreport.bind fun _ => touches_rejectIf.bind fun _ => trivial

/-- One update of the review columns. -/
theorem touches_updateLibraryReview (texture : MinecraftTexture) (input : UpdateReview) :
    Touches [.review] (updateLibraryReview texture input) :=
  (touches_query rfl).bind fun _ => touches_required

/-- Tags are rows of their own. -/
theorem touches_replaceTextureTags (textureId : Nat) (tagIds : List Nat) :
    Touches [] (replaceTextureTags textureId tagIds) := by
  refine Touches.query rfl fun _ => Touches.query rfl fun now => ?_
  exact Within.forEach (fun tagId => Touches.query rfl fun _ => touches_rejectIf) tagIds

/-- Whether tags are given or not. -/
theorem touches_replaceGivenTags (textureId : Nat) (tagIds : Option (List Nat)) :
    Touches [] (replaceGivenTags textureId tagIds) := by
  cases tagIds with
  | none => trivial
  | some tagIds =>
      refine touches_checked.bind fun uniqueTagIds => Touches.query rfl fun _ => ?_
      exact touches_rejectIf.bind fun _ => touches_replaceTextureTags _ _

/-- Reports are rows of their own too. -/
theorem touches_handlePendingForTexture (textureId : Nat) (input : HandleReport) :
    Touches [] (handlePendingForTexture textureId input) := by
  refine Touches.query rfl fun reports => Within.forEach (fun report => ?_) reports
  exact Touches.query rfl fun _ => touches_required.bind fun _ => trivial

/-- An update of the metadata leaves review and content alone. -/
theorem touches_updateWardrobeTextureMetadata (userId textureId : Nat)
    (displayName : Option (Bans.NullablePatch String))
    (textureModel : Option MinecraftTextureModel) (visibility : Option Visibility) :
    Touches [.metadata]
      (updateWardrobeTextureMetadata userId textureId displayName textureModel visibility) := by
  refine (touches_ensureUserNotBanned _ _ _).after fun _ => ?_
  refine (touches_userWardrobeTexture _ _).after fun texture => ?_
  refine touches_checked.bind fun _ => ?_
  exact (touches_query rfl).bind fun _ => touches_required

/-- The check that the library is enabled touches nothing. -/
theorem touches_ensureTextureLibraryEnabled (policy : TexturePolicy) :
    Touches [] (ensureTextureLibraryEnabled policy) := touches_rejectIf

/-- Submitting writes the review columns. -/
theorem touches_submitTextureLibraryReview (policy : TexturePolicy)
    (userId textureId : Nat) :
    Touches [.review] (submitTextureLibraryReview policy userId textureId) := by
  refine (touches_ensureTextureLibraryEnabled policy).after fun _ => ?_
  refine (touches_ensureUserNotBanned _ _ _).after fun _ => ?_
  refine (touches_userWardrobeTexture _ _).after fun texture => ?_
  refine touches_rejectIf.bind fun _ => Touches.query rfl fun now => ?_
  exact touches_updateLibraryReview _ _

/-- So does withdrawing. -/
theorem touches_withdrawTextureLibrarySubmission (policy : TexturePolicy)
    (userId textureId : Nat) :
    Touches [.review] (withdrawTextureLibrarySubmission policy userId textureId) := by
  refine (touches_ensureTextureLibraryEnabled policy).after fun _ => ?_
  refine (touches_ensureUserNotBanned _ _ _).after fun _ => ?_
  refine (touches_userWardrobeTexture _ _).after fun texture => ?_
  exact touches_updateLibraryReview _ _

/-- So does an approval, besides the tags. -/
theorem touches_approveTextureLibraryTexture (policy : TexturePolicy)
    (reviewerUserId textureId : Nat) (reviewNote : Option String)
    (tagIds : Option (List Nat)) :
    Touches [.review]
      (approveTextureLibraryTexture policy reviewerUserId textureId reviewNote tagIds) := by
  refine (touches_ensureTextureLibraryEnabled policy).after fun _ => ?_
  refine (touches_adminWardrobeTexture _).after fun texture => ?_
  refine touches_rejectIf.bind fun _ => touches_rejectIf.bind fun _ => ?_
  refine (touches_replaceGivenTags _ _).after fun _ => Touches.query rfl fun now => ?_
  exact touches_checked.bind fun _ => touches_updateLibraryReview _ _

/-- So does a rejection. -/
theorem touches_rejectTextureLibraryTexture (policy : TexturePolicy)
    (reviewerUserId textureId : Nat) (reviewNote : Option String) :
    Touches [.review]
      (rejectTextureLibraryTexture policy reviewerUserId textureId reviewNote) := by
  refine (touches_ensureTextureLibraryEnabled policy).after fun _ => ?_
  refine (touches_adminWardrobeTexture _).after fun texture => ?_
  refine touches_rejectIf.bind fun _ => touches_checked.bind fun _ => ?_
  exact Touches.query rfl fun now => touches_updateLibraryReview _ _

/-- So does taking a texture out of the library. -/
theorem touches_unpublishTextureLibraryTexture (policy : TexturePolicy)
    (reviewerUserId textureId : Nat) (reviewNote : Option String) :
    Touches [.review]
      (unpublishTextureLibraryTexture policy reviewerUserId textureId reviewNote) := by
  refine (touches_ensureTextureLibraryEnabled policy).after fun _ => ?_
  refine (touches_adminWardrobeTexture _).after fun texture => ?_
  refine touches_rejectIf.bind fun _ => touches_checked.bind fun _ => ?_
  refine Touches.query rfl fun now => (touches_updateLibraryReview _ _).bind fun _ => ?_
  exact (touches_handlePendingForTexture _ _).after fun _ => trivial

/-- A report leaves the textures as they are. -/
theorem touches_createTextureLibraryReport (policy : TexturePolicy)
    (reporterUserId textureId : Nat) (reason : ReportReason) (message : Option String) :
    Touches [] (createTextureLibraryReport policy reporterUserId textureId reason message) := by
  refine (touches_ensureTextureLibraryEnabled policy).after fun _ => ?_
  refine (touches_ensureUserNotBanned _ _ _).after fun _ => ?_
  have htexture : Touches [] (publicReportableTexture textureId) :=
    touches_rejectIf.bind fun _ => Touches.query rfl fun _ => touches_required
  refine htexture.bind fun texture => touches_rejectIf.bind fun _ => ?_
  refine Touches.query rfl fun pending => touches_rejectIf.bind fun _ => ?_
  exact touches_checked.bind fun _ => Touches.query rfl fun _ => touches_required

/-- Accepting one unpublishes its texture. -/
theorem touches_acceptTextureLibraryReport (policy : TexturePolicy)
    (handlerUserId reportId : Nat) (adminNote : Option String) :
    Touches [.review]
      (acceptTextureLibraryReport policy handlerUserId reportId adminNote) := by
  refine (touches_ensureTextureLibraryEnabled policy).after fun _ => ?_
  refine (touches_pendingAdminTextureReport _).after fun report => ?_
  refine (touches_adminWardrobeTexture _).after fun texture => ?_
  refine touches_checked.bind fun _ => Touches.query rfl fun now => ?_
  refine (touches_updateLibraryReview _ _).bind fun _ => ?_
  exact Touches.query rfl fun _ => touches_required

/-! ## The wardrobe -/

/-- Processing an upload touches nothing. -/
theorem touches_processUpload (codecs : TextureCodecs) (policy : TexturePolicy)
    (textureType : TextureType) (upload : List UInt8) :
    Touches [] (processUpload codecs policy textureType upload) := Within.ofExcept

/-- Nor does the check that its numbers fit their columns. -/
theorem touches_fitColumns (processing : TextureProcessingResult) :
    Touches [] (fitColumns processing) :=
  touches_rejectIf.bind fun _ => touches_rejectIf.bind fun _ => touches_rejectIf

/-- A cleanup erases objects and nothing else. -/
theorem touches_cleanupTextureBlobIfUnreferenced (storageKey : String) :
    Touches [.erase] (cleanupTextureBlobIfUnreferenced storageKey) := by
  refine Touches.query rfl fun refCount => ?_
  split
  · trivial
  · exact touches_query rfl

/-- Key by key. -/
theorem touches_cleanupStorageKeys (storageKeys : List String)
    (result : OrphanTextureCleanupResult) :
    Touches [.erase] (cleanupStorageKeys storageKeys result) := by
  induction storageKeys generalizing result with
  | nil => trivial
  | cons storageKey storageKeys ih =>
      refine Touches.query rfl fun references => ?_
      split
      · exact ih _
      · exact (touches_query rfl).bind fun _ => ih _

/-- So does the background task. -/
theorem touches_cleanupOrphanTextureBlobs :
    Touches [.erase] cleanupOrphanTextureBlobs :=
  Touches.query rfl fun _ => touches_cleanupStorageKeys _ _

/-- A new texture is an object and a row; a failed insert is cleaned up. -/
theorem touches_storeNewTexture (input : StoreTextureAsset)
    (processing : TextureProcessingResult) :
    Touches [.put, .insert, .erase] (storeNewTexture input processing) := by
  refine (touches_query rfl).bind fun _ => ?_
  refine (touches_fitColumns processing).after fun _ => (touches_query rfl).bind fun found => ?_
  cases found with
  | some texture => trivial
  | none =>
      refine Within.bind ?_ fun _ => trivial
      exact (touches_cleanupTextureBlobIfUnreferenced _).mono (by decide)

/-- A reused one is neither. -/
theorem touches_storeOrReuseWardrobeTexture (codecs : TextureCodecs)
    (policy : TexturePolicy) (input : StoreTextureAsset) :
    Touches [.put, .insert, .erase] (storeOrReuseWardrobeTexture codecs policy input) := by
  refine (touches_processUpload _ _ _ _).after fun processing => Touches.query rfl fun found => ?_
  cases found with
  | some existing => trivial
  | none => exact touches_storeNewTexture input processing

/-- A wardrobe upload stores or reuses. -/
theorem touches_storeWardrobeTexture (codecs : TextureCodecs) (policy : TexturePolicy)
    (userId : Nat) (textureType : TextureType) (textureModel : MinecraftTextureModel)
    (visibility : Visibility) (upload : List UInt8) :
    Touches [.put, .insert, .erase] (storeWardrobeTexture codecs policy userId textureType
      textureModel visibility upload) :=
  (touches_ensureUserNotBanned _ _ _).after fun _ =>
    touches_storeOrReuseWardrobeTexture codecs policy _

/-- The content columns of one texture. -/
theorem touches_replaceWardrobeContentForUser (texture : MinecraftTexture) (userId : Nat)
    (input : ReplaceContent) :
    Touches [.content] (replaceWardrobeContentForUser texture userId input) := by
  refine (touches_query rfl).bind fun replaced => ?_
  cases replaced with
  | false => trivial
  | true => exact touches_look rfl

/-- Attempt by attempt; the last one cleans up. -/
theorem touches_replaceAttempts (userId textureId : Nat) (input : ReplaceContent)
    (left : Nat) (existing : MinecraftTexture) :
    Touches [.content, .erase] (replaceAttempts userId textureId input left existing) := by
  have hcleanup : Touches [.content, .erase]
      (cleanupTextureBlobIfUnreferenced input.storageKey) :=
    (touches_cleanupTextureBlobIfUnreferenced _).mono (by decide)
  have hwrite : ∀ existing, Touches [.content, .erase]
      (replaceWardrobeContentForUser existing userId input) := fun existing =>
    (touches_replaceWardrobeContentForUser existing userId input).mono (by decide)
  induction left generalizing existing with
  | zero =>
      rw [replaceAttempts]
      refine (hwrite existing).bind fun written => ?_
      cases written with
      | some texture => trivial
      | none =>
          refine Touches.query rfl fun found => ?_
          dsimp only
          split
          · exact hcleanup.bind fun _ => trivial
          · split
            · trivial
            · exact hcleanup.bind fun _ => trivial
  | succ left ih =>
      rw [replaceAttempts]
      refine (hwrite existing).bind fun written => ?_
      cases written with
      | some texture => trivial
      | none =>
          refine Touches.query rfl fun found => ?_
          dsimp only
          split
          · exact hcleanup.bind fun _ => trivial
          · split
            · trivial
            · exact ih _

/-- The new content is an object. -/
theorem touches_putNewContent (existing : MinecraftTexture)
    (processing : TextureProcessingResult) :
    Touches [.put] (putNewContent existing processing) := by
  unfold putNewContent
  split
  · exact touches_query rfl
  · trivial

/-- The replaced one is erased where nothing refers to it. -/
theorem touches_cleanupReplaced (existing updated : MinecraftTexture) :
    Touches [.erase] (cleanupReplaced existing updated) := by
  unfold cleanupReplaced
  split
  · exact touches_cleanupTextureBlobIfUnreferenced _
  · trivial

/-- Content first, columns next, cleanup last. -/
theorem touches_replaceWith (userId textureId : Nat) (existing : MinecraftTexture)
    (processing : TextureProcessingResult) (textureModel : MinecraftTextureModel) :
    Touches [.put, .content, .erase]
      (replaceWith userId textureId existing processing textureModel) := by
  refine (touches_fitColumns processing).after fun _ => ?_
  refine ((touches_putNewContent existing processing).mono (by decide)).bind fun _ => ?_
  refine Touches.query rfl fun _ => ?_
  refine ((touches_replaceAttempts _ _ _ _ _).mono (by decide)).bind fun (replaced, updated) => ?_
  exact ((touches_cleanupReplaced replaced updated).mono (by decide)).bind fun _ => trivial

/-- So a replacement inserts and removes no row. -/
theorem touches_replaceWardrobeTextureContent (codecs : TextureCodecs)
    (policy : TexturePolicy) (userId textureId : Nat)
    (textureModel : MinecraftTextureModel) (upload : List UInt8) :
    Touches [.put, .content, .erase] (replaceWardrobeTextureContent codecs policy userId
      textureId textureModel upload) := by
  refine (touches_ensureUserNotBanned _ _ _).after fun _ => touches_rejectIf.bind fun _ => ?_
  refine Touches.query rfl fun found => touches_required.bind fun existing => ?_
  refine (touches_processUpload _ _ _ _).after fun processing => ?_
  dsimp only
  split
  · trivial
  · exact touches_replaceWith _ _ _ _ _

/-- The check of a display name touches nothing. -/
theorem touches_ensureDisplayNameFree (userId : Nat) (displayName : Option String) :
    Touches [] (ensureDisplayNameFree userId displayName) := by
  cases displayName with
  | none => trivial
  | some displayName => exact Touches.query rfl fun _ => touches_rejectIf

/-- A copy is a new row over the same object. -/
theorem touches_copyPublicTextureToWardrobe (policy : TexturePolicy)
    (userId textureId : Nat) (displayName : Option (Bans.NullablePatch String)) :
    Touches [.insert]
      (copyPublicTextureToWardrobe policy userId textureId displayName) := by
  refine (touches_ensureTextureLibraryEnabled policy).after fun _ => ?_
  refine (touches_ensureUserNotBanned _ _ _).after fun _ => touches_rejectIf.bind fun _ => ?_
  refine Touches.query rfl fun found => touches_required.bind fun source => ?_
  refine Touches.query rfl fun own => ?_
  cases own with
  | some existing => trivial
  | none =>
      refine touches_checked.bind fun displayName => ?_
      refine (touches_ensureDisplayNameFree _ _).after fun _ => (touches_query rfl).bind fun _ => ?_
      refine touches_required.bind fun copied => Touches.query rfl fun tagIds => ?_
      split
      · trivial
      · exact (touches_replaceTextureTags _ _).after fun _ => trivial

/-- The row of the user. -/
theorem touches_deleteByIdForUser (id userId : Nat) :
    Touches [.remove] (deleteByIdForUser id userId) := by
  refine Touches.query rfl fun found => ?_
  cases found with
  | none => trivial
  | some texture => exact (touches_query rfl).bind fun _ => trivial

/-- The row of anyone. -/
theorem touches_deleteWardrobeById (id : Nat) :
    Touches [.remove] (deleteWardrobeById id) := by
  refine Touches.query rfl fun found => ?_
  split
  · trivial
  · exact (touches_query rfl).bind fun _ => trivial

/-- A deletion, and the cleanup of the object. -/
theorem touches_deleteWardrobeTexture (userId wardrobeTextureId : Nat) :
    Touches [.remove, .erase] (deleteWardrobeTexture userId wardrobeTextureId) := by
  refine (touches_ensureUserNotBanned _ _ _).after fun _ => Touches.query rfl fun _ => ?_
  refine ((touches_deleteByIdForUser _ _).mono (by decide)).bind fun deleted => ?_
  refine touches_required.bind fun deleted => ?_
  exact ((touches_cleanupTextureBlobIfUnreferenced _).mono (by decide)).bind fun _ => trivial

/-- An administrator's deletion unbinds before it removes. -/
theorem touches_deleteTextureLibraryTexture (textureId : Nat) :
    Touches [.unbind, .remove, .erase] (deleteTextureLibraryTexture textureId) := by
  have hbindings : Touches [.unbind] (deleteBindingsByTextureId textureId) := by
    refine Touches.query rfl fun bindings => ?_
    exact (Within.forEach (fun b => touches_query rfl) bindings).bind fun _ => trivial
  refine touches_rejectIf.bind fun _ => Touches.query rfl fun found => ?_
  refine touches_required.bind fun _ => (hbindings.mono (by decide)).bind fun bindings => ?_
  refine ((touches_deleteWardrobeById _).mono (by decide)).bind fun deleted => ?_
  refine touches_required.bind fun deleted => ?_
  exact ((touches_cleanupTextureBlobIfUnreferenced _).mono (by decide)).bind fun _ => trivial

/-! ## Profiles -/

/-- Looking at what is bound touches nothing. -/
theorem touches_boundTexture (textureId : Nat) : Touches [] (boundTexture textureId) :=
  Touches.query rfl fun _ => touches_required

/-- One binding is inserted or updated. -/
theorem touches_writeBinding (profileId textureId : Nat) (textureType : TextureType) :
    Touches [.bind] (writeBinding profileId textureId textureType) := by
  refine Touches.query rfl fun found => ?_
  cases found <;> exact touches_query rfl

/-- And read again. -/
theorem touches_upsertForProfile (profileId textureId : Nat) (textureType : TextureType) :
    Touches [.bind] (upsertForProfile profileId textureId textureType) := by
  refine (touches_writeBinding _ _ _).bind fun written => touches_required.bind fun binding => ?_
  exact (touches_boundTexture _).after fun _ => trivial

/-- Looking for a binding touches nothing. -/
theorem touches_findByProfileAndType (profileId : Nat) (textureType : TextureType) :
    Touches [] (findByProfileAndType profileId textureType) := by
  refine Touches.query rfl fun found => ?_
  cases found with
  | none => trivial
  | some binding => exact (touches_boundTexture _).bind fun _ => trivial

/-- One binding is deleted. -/
theorem touches_deleteForProfile (profileId : Nat) (textureType : TextureType) :
    Touches [.unbind] (deleteForProfile profileId textureType) := by
  refine (touches_findByProfileAndType _ _).after fun found => ?_
  cases found with
  | none => trivial
  | some existing => exact (touches_query rfl).bind fun _ => trivial

/-- A texture that is no wardrobe item goes with its last binding. -/
theorem touches_cleanupTextureAssetIfUnreferenced (texture : MinecraftTexture) :
    Touches [.remove, .erase] (cleanupTextureAssetIfUnreferenced texture) := by
  unfold cleanupTextureAssetIfUnreferenced
  split
  · trivial
  · refine Touches.query rfl fun refCount => ?_
    split
    · trivial
    · refine ((touches_deleteByIdForUser _ _).mono (by decide)).bind fun _ => ?_
      exact (touches_cleanupTextureBlobIfUnreferenced _).mono (by decide)

/-- So does the one that was bound before. -/
theorem touches_cleanupPrevious (previous : Option ProfileTexture) (bound : ProfileTexture) :
    Touches [.remove, .erase] (cleanupPrevious previous bound) := by
  unfold cleanupPrevious
  split
  · split
    · exact touches_cleanupTextureAssetIfUnreferenced _
    · trivial
  · trivial

/-- A preset is a preference of the profile. -/
theorem touches_rememberLocalTexturePreset (profile : MinecraftProfile)
    (texture : MinecraftTexture) :
    Touches [.prefer] (rememberLocalTexturePreset profile texture) := by
  have hupsert : Touches [.prefer]
      (upsertPreference profile.id texture.id texture.textureType) := by
    refine Touches.query rfl fun found => ?_
    cases found <;> exact touches_query rfl
  unfold rememberLocalTexturePreset
  split
  · trivial
  · exact hupsert.bind fun _ => touches_required.bind fun _ => trivial

/-- The check that a profile may change its textures touches nothing. -/
theorem touches_ensureTextureChangeAllowed (policy : TexturePolicy) (userId : Nat)
    (profile : MinecraftProfile) (textureType : TextureType) :
    Touches [] (ensureTextureChangeAllowed policy userId profile textureType) := by
  refine (touches_ensureUserNotBanned _ _ _).after fun _ => ?_
  refine (touches_ensureUserNotBanned _ _ _).after fun _ => ?_
  exact touches_rejectIf.bind fun _ => touches_rejectIf

/-- Looking up a token deletes no profile. -/
theorem keepsProfiles_activeToken (accessToken : String) (clientToken : Option String) :
    KeepsProfiles (activeToken accessToken clientToken) := by
  have hlookup : KeepsProfiles (lookupToken accessToken) := by
    refine Within.stmt_bind rfl fun cached => ?_
    cases cached with
    | some token => trivial
    | none =>
        refine Within.stmt_bind rfl fun row => ?_
        cases row <;> trivial
  refine hlookup.bind fun token => Within.stmt_bind rfl fun now => ?_
  refine Within.rejectIf.bind fun _ => Within.stmt_bind rfl fun _ => ?_
  refine Within.rejectIf.bind fun _ => Within.rejectIf.bind fun _ => ?_
  exact Within.stmt_bind rfl fun ban => Within.rejectIf.bind fun _ => trivial

/-- Authenticating touches nothing. -/
theorem touches_authenticateTextureAccess (accessToken profileUuid : String) :
    Touches [] (authenticateTextureAccess accessToken profileUuid) := by
  refine (touches_service (keepsProfiles_activeToken _ _)).after fun token => ?_
  refine touches_required.bind fun _ => Touches.query rfl fun _ => ?_
  exact touches_required.bind fun profile => touches_rejectIf.bind fun _ => trivial

/-- Binding, remembering, and the cleanup of what was bound before. -/
theorem touches_bindTexture (profile : MinecraftProfile)
    (wardrobeTexture : MinecraftTexture) (textureType : TextureType) :
    Touches [.bind, .prefer, .remove, .erase]
      (bindTexture profile wardrobeTexture textureType) := by
  refine (touches_findByProfileAndType _ _).after fun previous => ?_
  refine ((touches_upsertForProfile _ _ _).mono (by decide)).bind fun texture => ?_
  refine ((touches_rememberLocalTexturePreset _ _).mono (by decide)).bind fun _ => ?_
  exact ((touches_cleanupPrevious _ _).mono (by decide)).bind fun _ => trivial

/-- From the user's wardrobe. -/
theorem touches_bindWardrobeTextureToProfile (policy : TexturePolicy) (userId : Nat)
    (profile : MinecraftProfile) (wardrobeTextureId : Nat) (textureType : TextureType) :
    Touches [.bind, .prefer, .remove, .erase]
      (bindWardrobeTextureToProfile policy userId profile wardrobeTextureId textureType) := by
  refine (touches_ensureTextureChangeAllowed _ _ _ _).after fun _ => Touches.query rfl fun _ => ?_
  refine touches_required.bind fun wardrobeTexture => touches_rejectIf.bind fun _ => ?_
  exact touches_bindTexture _ _ _

/-- An upload for a profile is stored and bound. -/
theorem touches_storeTexture (codecs : TextureCodecs) (policy : TexturePolicy)
    (profile : MinecraftProfile) (textureType : TextureType)
    (textureModel : MinecraftTextureModel) (upload : List UInt8) :
    Touches [.put, .insert, .bind, .prefer, .remove, .erase]
      (storeTexture codecs policy profile textureType textureModel upload) := by
  refine (touches_ensureTextureChangeAllowed _ _ _ _).after fun _ => ?_
  refine ((touches_storeOrReuseWardrobeTexture _ _ _).mono (by decide)).bind fun _ => ?_
  exact (touches_bindTexture _ _ _).mono (by decide)

/-- An imported texture is stored, and bound if asked. -/
theorem touches_importOfficialTextureToProfileWithMode (codecs : TextureCodecs)
    (policy : TexturePolicy) (profile : MinecraftProfile) (textureType : TextureType)
    (textureModel : MinecraftTextureModel) (sourceUrl : String)
    (bindingMode : OfficialTextureBindingMode) :
    Touches [.put, .insert, .bind, .remove, .erase]
      (importOfficialTextureToProfileWithMode codecs policy profile textureType textureModel
        sourceUrl bindingMode) := by
  refine Within.bind Within.ofExcept fun upload => ?_
  refine ((touches_storeOrReuseWardrobeTexture _ _ _).mono (by decide)).bind fun texture => ?_
  refine (touches_findByProfileAndType _ _).after fun previous => ?_
  split
  · trivial
  · refine ((touches_upsertForProfile _ _ _).mono (by decide)).bind fun bound => ?_
    exact (touches_cleanupPrevious _ _).mono (by decide)

/-- Looking for a preset touches nothing. -/
theorem touches_localTexturePreset (userId : Nat) (profile : MinecraftProfile)
    (textureType : TextureType) :
    Touches [] (localTexturePreset userId profile textureType) := by
  refine Touches.query rfl fun found => ?_
  cases found with
  | none => trivial
  | some preference => exact Touches.query rfl fun _ => trivial

/-- Applying one binds it. -/
theorem touches_applyPreset (policy : TexturePolicy) (userId : Nat)
    (profile : MinecraftProfile) (textureType : TextureType) :
    Touches [.bind, .prefer, .remove, .erase]
      (applyPreset policy userId profile textureType) := by
  refine (touches_localTexturePreset _ _ _).after fun found => ?_
  cases found with
  | none => trivial
  | some texture =>
      exact (touches_bindWardrobeTextureToProfile _ _ _ _ _).bind fun _ => trivial

/-- For both kinds of textures. -/
theorem touches_applyLocalTexturePresetsToProfile (policy : TexturePolicy) (userId : Nat)
    (profile : MinecraftProfile) :
    Touches [.bind, .prefer, .remove, .erase]
      (applyLocalTexturePresetsToProfile policy userId profile) := by
  refine touches_rejectIf.bind fun _ => ?_
  refine (touches_applyPreset _ _ _ _).bind fun skins => ?_
  refine (touches_applyPreset _ _ _ _).bind fun capes => touches_rejectIf.bind fun _ => ?_
  exact touches_look rfl

/-- Unbinding, and the cleanup of what was bound. -/
theorem touches_deleteTextureForProfileUnchecked (profile : MinecraftProfile)
    (textureType : TextureType) :
    Touches [.unbind, .remove, .erase]
      (deleteTextureForProfileUnchecked profile textureType) := by
  refine ((touches_deleteForProfile _ _).mono (by decide)).bind fun found => ?_
  cases found with
  | none => trivial
  | some deleted =>
      refine Within.bind ?_ fun _ => trivial
      exact (touches_cleanupTextureAssetIfUnreferenced _).mono (by decide)

/-- Only where it is an official one. -/
theorem touches_deleteOfficialTextureForProfileIfBound (profile : MinecraftProfile)
    (textureType : TextureType) :
    Touches [.unbind, .remove, .erase]
      (deleteOfficialTextureForProfileIfBound profile textureType) := by
  refine (touches_findByProfileAndType _ _).after fun current => ?_
  split
  · exact touches_deleteTextureForProfileUnchecked _ _
  · trivial

/-- For all textures with the hash. -/
theorem touches_deleteTexturesByHash (hash : String) :
    Touches [.unbind, .remove, .erase] (deleteTexturesByHash hash) := by
  have hbound : ∀ b, Touches [.unbind, .remove, .erase] (deleteBoundByHash b) := by
    refine fun b => Touches.query rfl fun _ => touches_required.bind fun profile => ?_
    exact (touches_deleteTextureForProfileUnchecked _ _).bind fun _ => trivial
  have hall : ∀ bound, Touches [.unbind, .remove, .erase] (deleteAllBoundByHash bound) := by
    intro bound
    induction bound with
    | nil => trivial
    | cons b bound ih => exact (hbound b).bind fun _ => ih.bind fun _ => trivial
  unfold deleteTexturesByHash
  split
  · trivial
  · refine Touches.query rfl fun bound => (hall bound).bind fun _ => ?_
    refine Touches.query rfl fun textures => ?_
    refine (Within.forEach (fun _ => touches_query rfl) textures).bind fun _ => ?_
    refine (Within.forEach (fun texture => ?_) textures).bind fun _ => trivial
    exact (touches_cleanupTextureBlobIfUnreferenced _).mono (by decide)

/-- For both kinds of textures. -/
theorem touches_deleteAllTexturesForProfile (profile : MinecraftProfile) :
    Touches [.unbind, .remove, .erase] (deleteAllTexturesForProfile profile) := by
  refine Touches.query rfl fun textures => Within.forEach (fun b => ?_) textures
  exact (touches_deleteTextureForProfileUnchecked _ _).bind fun _ => trivial

/-- The textures go before the profile. -/
theorem touches_deleteProfileForUser (userId : Nat) (uuid : String) :
    Touches [.unbind, .remove, .erase, .dropProfile] (deleteProfileForUser userId uuid) := by
  refine (touches_ensureUserNotBanned _ _ _).after fun _ => Touches.query rfl fun found => ?_
  cases found with
  | none => trivial
  | some profile =>
      refine touches_rejectIf.bind fun _ => ?_
      refine (touches_service (keeps_invalidateForProfile _)).after fun _ => ?_
      refine Within.bind ?_ fun _ => ?_
      · exact Within.hoist ((touches_deleteAllTexturesForProfile profile).mono (by decide))
      · refine Touches.query rfl fun _ => Touches.query rfl fun found => ?_
        dsimp only
        split
        · exact (touches_query rfl).bind fun _ => trivial
        · trivial

/-- A binding moves to the wardrobe's copy, and the former texture is cleaned up. -/
theorem touches_rebindToWardrobe (b : ProfileTexture) (existing : MinecraftTexture)
    (result : WardrobeRegistrationResult) :
    Touches [.bind, .remove, .erase] (rebindToWardrobe b existing result) := by
  refine ((touches_upsertForProfile _ _ _).mono (by decide)).bind fun _ => ?_
  refine ((touches_deleteByIdForUser _ _).mono (by decide)).bind fun found => ?_
  cases found with
  | none => trivial
  | some deleted =>
      refine Within.bind ?_ fun _ => trivial
      exact (touches_cleanupTextureBlobIfUnreferenced _).mono (by decide)

/-- A binding is marked, or moved to a copy that is there. -/
theorem touches_registerBinding (b : ProfileTexture) (result : WardrobeRegistrationResult) :
    Touches [.mark, .bind, .remove, .erase] (registerBinding b result) := by
  unfold registerBinding
  split
  · trivial
  · refine Touches.query rfl fun found => ?_
    cases found with
    | none =>
        refine (touches_query rfl).bind fun _ => touches_required.bind fun _ => trivial
    | some existing => exact (touches_rebindToWardrobe _ _ _).mono (by decide)

/-- So the registration inserts no texture. -/
theorem touches_registerBoundTexturesInWardrobe :
    Touches [.mark, .bind, .remove, .erase] registerBoundTexturesInWardrobe := by
  refine Touches.query rfl fun bindings => ?_
  generalize (⟨bindings.length, 0, 0, 0⟩ : WardrobeRegistrationResult) = result
  induction bindings generalizing result with
  | nil => trivial
  | cons b bindings ih => exact (touches_registerBinding _ _).bind fun result => ih result

/-! ## Calls -/

/-- What a call does besides plain statements. -/
def TextureCall.kinds : TextureCall → List StmtKind
  | .storeWardrobe _ _ _ _ _ _ => [.put, .insert, .erase]
  | .storeTexture _ _ _ _ _ _ => [.put, .insert, .bind, .prefer, .remove, .erase]
  | .importOfficial _ _ _ _ _ _ => [.put, .insert, .bind, .remove, .erase]
  | .replace _ _ _ _ _ => [.put, .content, .erase]
  | .copy _ _ _ _ => [.insert]
  | .updateMetadata _ _ _ _ _ => [.metadata]
  | .submit _ _ _ | .withdraw _ _ _ | .approve _ _ _ _ _ | .reject _ _ _ _
  | .unpublish _ _ _ _ | .acceptReport _ _ _ _ => [.review]
  | .bind _ _ _ _ _ | .applyLocalPresets _ _ _ => [.bind, .prefer, .remove, .erase]
  | .unbind _ _ _ _ | .deleteProfileTexture _ _ | .deleteOfficialIfBound _ _
  | .deleteLibrary _ | .deleteByHash _ => [.unbind, .remove, .erase]
  | .deleteWardrobe _ _ => [.remove, .erase]
  | .deleteProfile _ _ => [.unbind, .remove, .erase, .dropProfile]
  | .registerBound => [.mark, .bind, .remove, .erase]
  | .cleanupOrphans => [.erase]
  | .createReport _ _ _ _ _ | .wait _ => []

/-- Finding a profile touches nothing. -/
theorem touches_profileOfUser (uuid : String) (userId : Nat) :
    Touches [] (profileOfUser uuid userId) := Touches.query rfl fun _ => touches_required

/-- By its UUID neither. -/
theorem touches_profileByUuid (uuid : String) : Touches [] (profileByUuid uuid) :=
  Touches.query rfl fun _ => touches_required

/-- **What a call can do.** -/
theorem TextureCall.touches_body (codecs : TextureCodecs) (call : TextureCall) :
    Touches call.kinds (call.body codecs) := by
  cases call with
  | storeWardrobe => exact (touches_storeWardrobeTexture _ _ _ _ _ _ _).bind fun _ => trivial
  | storeTexture =>
      refine (touches_authenticateTextureAccess _ _).after fun profile => ?_
      exact (touches_storeTexture _ _ _ _ _ _).bind fun _ => trivial
  | importOfficial =>
      refine (touches_profileByUuid _).after fun profile => ?_
      exact (touches_importOfficialTextureToProfileWithMode _ _ _ _ _ _ _).bind
        fun _ => trivial
  | replace => exact (touches_replaceWardrobeTextureContent _ _ _ _ _ _).bind fun _ => trivial
  | copy => exact (touches_copyPublicTextureToWardrobe _ _ _ _).bind fun _ => trivial
  | updateMetadata =>
      exact (touches_updateWardrobeTextureMetadata _ _ _ _ _).bind fun _ => trivial
  | submit => exact (touches_submitTextureLibraryReview _ _ _).bind fun _ => trivial
  | withdraw => exact (touches_withdrawTextureLibrarySubmission _ _ _).bind fun _ => trivial
  | approve => exact (touches_approveTextureLibraryTexture _ _ _ _ _).bind fun _ => trivial
  | reject => exact (touches_rejectTextureLibraryTexture _ _ _ _).bind fun _ => trivial
  | unpublish => exact (touches_unpublishTextureLibraryTexture _ _ _ _).bind fun _ => trivial
  | createReport => exact (touches_createTextureLibraryReport _ _ _ _ _).bind fun _ => trivial
  | acceptReport => exact (touches_acceptTextureLibraryReport _ _ _ _).bind fun _ => trivial
  | bind =>
      refine (touches_profileOfUser _ _).after fun profile => ?_
      exact (touches_bindWardrobeTextureToProfile _ _ _ _ _).bind fun _ => trivial
  | unbind =>
      refine (touches_profileOfUser _ _).after fun profile => ?_
      refine Within.bind ?_ fun _ => trivial
      refine (touches_ensureTextureChangeAllowed _ _ _ _).after fun _ => ?_
      exact touches_deleteTextureForProfileUnchecked _ _
  | applyLocalPresets =>
      refine (touches_profileOfUser _ _).after fun profile => ?_
      exact (touches_applyLocalTexturePresetsToProfile _ _ _).bind fun _ => trivial
  | deleteProfileTexture =>
      refine (touches_profileByUuid _).after fun profile => ?_
      exact (touches_deleteTextureForProfileUnchecked _ _).bind fun _ => trivial
  | deleteOfficialIfBound =>
      refine (touches_profileByUuid _).after fun profile => ?_
      exact (touches_deleteOfficialTextureForProfileIfBound _ _).bind fun _ => trivial
  | deleteWardrobe => exact (touches_deleteWardrobeTexture _ _).bind fun _ => trivial
  | deleteLibrary => exact (touches_deleteTextureLibraryTexture _).bind fun _ => trivial
  | deleteByHash => exact (touches_deleteTexturesByHash _).bind fun _ => trivial
  | deleteProfile => exact (touches_deleteProfileForUser _ _).bind fun _ => trivial
  | registerBound => exact touches_registerBoundTexturesInWardrobe.bind fun _ => trivial
  | cleanupOrphans => exact touches_cleanupOrphanTextureBlobs.bind fun _ => trivial
  | wait ms => exact (touches_look rfl).bind fun _ => trivial

/-! ## A replacement alone -/

/-- Nobody has written over the row since it was read: the update hits it. -/
theorem replaceTexture_hits {userId textureId : Nat} {existing : MinecraftTexture}
    (h : OwnWardrobe s userId textureId existing) (input : ReplaceContent) :
    (s.replaceTexture existing.id userId existing.updatedAt input).1 = true := by
  have hsel : existing ∈ s.textures.select fun t : MinecraftTexture =>
      t.id = existing.id && t.userId = userId && t.isWardrobeItem &&
        decide (t.updatedAt = existing.updatedAt) :=
    Table.mem_select.mpr ⟨h.mem, by simp [h.user, h.wardrobe]⟩
  have hle := s.textures.length_select_le_one (p := fun t : MinecraftTexture =>
      t.id = existing.id && t.userId = userId && t.isWardrobeItem &&
        decide (t.updatedAt = existing.updatedAt)) fun a b ha hb => by
    simp only [Bool.and_eq_true, decide_eq_true_eq] at ha hb
    exact textureSchema.clash_of_ident a b (ha.1.1.1.trans hb.1.1.1.symm)
  have hpos := List.length_pos_of_mem hsel
  simp only [TextureState.replaceTexture, beq_iff_eq]
  omega

/-- The row as the replacement leaves it. -/
theorem mem_replaceTexture {userId textureId : Nat} {existing : MinecraftTexture}
    (h : OwnWardrobe s userId textureId existing) (input : ReplaceContent) :
    replaceContent s.now input existing ∈
      (s.replaceTexture existing.id userId existing.updatedAt input).2.textures.rows := by
  refine List.mem_map.mpr ⟨existing, h.mem, if_pos ?_⟩
  simp [h.user, h.wardrobe]

/-- The replacement succeeds at once, and answers the row it leaves. -/
theorem run_replaceWardrobeContentForUser {userId textureId : Nat}
    {existing : MinecraftTexture} (h : OwnWardrobe s userId textureId existing)
    (input : ReplaceContent) :
    (replaceWardrobeContentForUser existing userId input).run textureMachine s =
      (.ok (some (replaceContent s.now input existing)),
        (s.replaceTexture existing.id userId existing.updatedAt input).2) := by
  have hmem := mem_replaceTexture h input
  have hfound : ((s.replaceTexture existing.id userId existing.updatedAt
      input).2.textures.find? fun t => t.id = existing.id && t.userId = userId) =
        some (replaceContent s.now input existing) := by
    cases hfind : (s.replaceTexture existing.id userId existing.updatedAt
        input).2.textures.find? fun t => t.id = existing.id && t.userId = userId with
    | none =>
        have hnone := Table.find?_eq_none.mp hfind _ hmem
        simp [replaceContent, withdrawn, h.user] at hnone
    | some t =>
        obtain ⟨ht, hp⟩ := Table.of_find? hfind
        simp only [Bool.and_eq_true, decide_eq_true_eq] at hp
        rw [Table.eq_of_ident _ ht hmem hp.1]
  show (Prog.run textureMachine (if (s.replaceTexture existing.id userId existing.updatedAt
    input).1 = true then _ else _) _) = _
  rw [if_pos (replaceTexture_hits h input)]
  exact Prod.ext (congrArg Except.ok hfound) rfl

/-- **Alone, the first attempt of a replacement is the last one.** -/
theorem wp_replaceAttempts {userId textureId : Nat} {existing : MinecraftTexture}
    (h : OwnWardrobe s userId textureId existing) {input : ReplaceContent} (left : Nat)
    {Q : Except TextureFailure (MinecraftTexture × MinecraftTexture) → TextureState → Prop}
    (hQ : Q (.ok (existing, replaceContent s.now input existing))
      (s.replaceTexture existing.id userId existing.updatedAt input).2) :
    (replaceAttempts userId textureId input left existing).Wp textureMachine Q s := by
  have hrun := run_replaceWardrobeContentForUser h input
  cases left with
  | zero =>
      rw [replaceAttempts]
      refine wp_run_bind ?_ ?_
      · intro a s' heq
        rw [hrun] at heq
        cases heq
        exact hQ
      · intro e s' heq
        rw [hrun] at heq
        cases heq
  | succ left =>
      rw [replaceAttempts]
      refine wp_run_bind ?_ ?_
      · intro a s' heq
        rw [hrun] at heq
        cases heq
        exact hQ
      · intro e s' heq
        rw [hrun] at heq
        cases heq

end AsterYggdrasil.Textures
