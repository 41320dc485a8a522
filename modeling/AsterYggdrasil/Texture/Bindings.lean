import AsterYggdrasil.Texture.Footprint
import AsterYggdrasil.Interleave.Sequence

/-!
# What bindings and presets refer to

A binding and a preset name a profile and a texture.  `BindingsOk` says that the
texture is there, has the type of the slot and belongs to the owner of the
profile, and that a preset is a local texture.  Textures keep their owner and
type, and a local one stays local, so a reference that was right stays right
until one of its ends is deleted, which takes the reference along.  What is left
are the four statements that write a reference; their programs have read a
texture and a profile that fit.
-/

namespace AsterYggdrasil.Textures

open Interleave Relational
open Interleave.Prog

/-- The texture fits the slot of the profile. -/
structure Refers (s : TextureState) (profileId textureId : Nat) (textureType : TextureType)
    (t : MinecraftTexture) : Prop where
  mem : t ∈ s.textures.rows
  id : t.id = textureId
  type : t.textureType = textureType
  owner : ∃ p ∈ s.service.db.profiles.rows, p.id = profileId ∧ p.userId = t.userId

/-- Every binding and every preset refers to a texture that fits. -/
structure BindingsOk (s : TextureState) : Prop where
  bindings : ∀ b ∈ s.bindings.rows, ∃ t, Refers s b.profileId b.textureId b.textureType t
  presets : ∀ f ∈ s.preferences.rows, ∃ t,
    Refers s f.profileId f.textureId f.textureType t ∧ t.source = .localTexture

/-- A profile has at most one binding of each type. -/
theorem binding_unique (s : TextureState) {b b' : Binding} (hb : b ∈ s.bindings.rows)
    (hb' : b' ∈ s.bindings.rows) (hprofile : b.profileId = b'.profileId)
    (htype : b.textureType = b'.textureType) : b = b' :=
  s.bindings.eq_of_clash hb hb' (by simp [bindingSchema, hprofile, htype])

/-! ## Statements -/

/-- `t'` is the texture `t` later on. -/
structure Later (t t' : MinecraftTexture) : Prop where
  id : t'.id = t.id
  user : t'.userId = t.userId
  type : t'.textureType = t.textureType
  stays : t.source = .localTexture → t'.source = .localTexture

/-- A texture is its own later version. -/
theorem Later.refl (t : MinecraftTexture) : Later t t := ⟨rfl, rfl, rfl, fun h => h⟩

/-- After an update every texture is still there, as its later version. -/
theorem later_modifyTextures {s : TextureState} {p : MinecraftTexture → Bool}
    {f : MinecraftTexture → MinecraftTexture} {hid : ∀ t, (f t).id = t.id}
    (hf : ∀ t, Later t (f t)) {t : MinecraftTexture} (ht : t ∈ s.textures.rows) :
    ∃ t' ∈ (s.modifyTextures p f hid).textures.rows, Later t t' := by
  refine ⟨if p t then f t else t, List.mem_map_of_mem ht, ?_⟩
  split
  · exact hf t
  · exact .refl t

/-- A patch of the metadata keeps type, owner and source. -/
theorem later_patchMetadata (now : Nat) (input : UpdateMetadata) (t : MinecraftTexture) :
    Later t (patchMetadata now input t) := by
  unfold patchMetadata
  split <;> exact ⟨rfl, rfl, rfl, fun h => h⟩

/-- What a statement does to the two ends of a reference, unless it deletes. -/
structure EndsKept (s s' : TextureState) : Prop where
  textures : ∀ t ∈ s.textures.rows, ∃ t' ∈ s'.textures.rows, Later t t'
  profiles : s'.service.db.profiles.rows = s.service.db.profiles.rows

/-- Where textures and profiles stay, the ends of every reference do. -/
theorem EndsKept.of_same {s s' : TextureState} (htextures : s'.textures = s.textures)
    (hprofiles : s'.service.db.profiles.rows = s.service.db.profiles.rows) :
    EndsKept s s' :=
  ⟨fun t ht => ⟨t, htextures ▸ ht, .refl t⟩, hprofiles⟩

/-- A reference stays one while its ends are kept. -/
theorem Refers.later {s s' : TextureState} {profileId textureId : Nat}
    {textureType : TextureType} {t : MinecraftTexture}
    (h : Refers s profileId textureId textureType t) (hkept : EndsKept s s') :
    ∃ t', Refers s' profileId textureId textureType t' ∧
      (t.source = .localTexture → t'.source = .localTexture) := by
  obtain ⟨t', ht', hlater⟩ := hkept.textures t h.mem
  obtain ⟨p, hp, hid, howner⟩ := h.owner
  refine ⟨t', ⟨ht', hlater.id.trans h.id, hlater.type.trans h.type, p, ?_, hid, ?_⟩,
    hlater.stays⟩
  · rw [hkept.profiles]
    exact hp
  · rw [hlater.user, howner]

/-- Statements that neither write nor delete what references consist of. -/
def StmtKind.keepsReferences : StmtKind → Bool
  | .plain | .insert | .mark | .metadata | .content | .review | .put | .erase => true
  | _ => false

/-- A statement of these kinds keeps the ends and writes no reference. -/
theorem exec_keepsReferences {i : TextureStmt} (hi : i.kind.keepsReferences = true)
    (s : TextureState) :
    EndsKept s (i.exec s).2 ∧ (i.exec s).2.bindings = s.bindings ∧
      (i.exec s).2.preferences = s.preferences := by
  by_cases hplain : i.kind = .plain
  · have hsame := exec_plain hplain s
    exact ⟨.of_same hsame.textures hsame.profiles, hsame.bindings, hsame.preferences⟩
  cases i with
  | service i =>
      unfold TextureStmt.kind at hi hplain
      grind [StmtKind.keepsReferences]
  | textureInsert input =>
      simp only [TextureStmt.exec, TextureState.insertTexture]
      split
      · cases hins : s.textures.nextId.2.insert?
            (newTexture s.now s.textures.nextId.1 input) with
        | none => exact ⟨⟨fun t ht => ⟨t, ht, .refl t⟩, rfl⟩, rfl, rfl⟩
        | some textures =>
            refine ⟨⟨fun t ht => ⟨t, ?_, .refl t⟩, rfl⟩, rfl, rfl⟩
            show t ∈ textures.rows
            rw [(Table.insert?_eq_some hins).1]
            exact List.mem_append_left _ ht
      · exact ⟨⟨fun t ht => ⟨t, ht, .refl t⟩, rfl⟩, rfl, rfl⟩
  | textureMarkAsWardrobeItem id =>
      have hlater : ∀ t, Later t (markedAsWardrobeItem s.now t) :=
        fun t => ⟨rfl, rfl, rfl, fun h => h⟩
      exact ⟨⟨fun t => later_modifyTextures hlater, rfl⟩, rfl, rfl⟩
  | textureUpdateMetadata id input =>
      exact ⟨⟨fun t => later_modifyTextures (later_patchMetadata s.now input), rfl⟩, rfl, rfl⟩
  | textureReplaceContent id userId expectedUpdatedAt input =>
      have hlater : ∀ t, Later t (replaceContent s.now input t) :=
        fun t => ⟨rfl, rfl, rfl, fun _ => rfl⟩
      exact ⟨⟨fun t => later_modifyTextures hlater, rfl⟩, rfl, rfl⟩
  | textureUpdateReview id input =>
      have hlater : ∀ t, Later t (patchReview s.now input t) :=
        fun t => ⟨rfl, rfl, rfl, fun h => h⟩
      exact ⟨⟨fun t => later_modifyTextures hlater, rfl⟩, rfl, rfl⟩
  | objectPut | objectDelete => exact ⟨.of_same rfl rfl, rfl, rfl⟩
  | _ => first | exact absurd rfl hplain | cases hi

/-- Every reference is one of before, or it is written with two ends that fit. -/
theorem bindingsOk_kept {s s' : TextureState} (hs : BindingsOk s) (hkept : EndsKept s s')
    (hbindings : ∀ b ∈ s'.bindings.rows, b ∈ s.bindings.rows ∨
      ∃ t, Refers s b.profileId b.textureId b.textureType t)
    (hpresets : ∀ f ∈ s'.preferences.rows, f ∈ s.preferences.rows ∨
      ∃ t, Refers s f.profileId f.textureId f.textureType t ∧ t.source = .localTexture) :
    BindingsOk s' := by
  constructor
  · intro b hb
    obtain ⟨t, ht⟩ := (hbindings b hb).elim (hs.bindings b) id
    obtain ⟨t', ht', -⟩ := ht.later hkept
    exact ⟨t', ht'⟩
  · intro f hf
    obtain ⟨t, ht, hlocal⟩ := (hpresets f hf).elim (hs.presets f) id
    obtain ⟨t', ht', hstays⟩ := ht.later hkept
    exact ⟨t', ht', hstays hlocal⟩

/-- A deleted texture takes its references along. -/
theorem bindingsOk_dropTextures {s : TextureState} (hs : BindingsOk s)
    (p : MinecraftTexture → Bool) : BindingsOk (s.dropTextures p) := by
  -- what a kept reference points to is the texture that it pointed to before
  have hkept : ∀ {profileId textureId : Nat} {textureType : TextureType}
      {t : MinecraftTexture}, Refers s profileId textureId textureType t →
      ((s.textures.delete p).find? fun t => t.id = textureId).isNone = false →
        Refers (s.dropTextures p) profileId textureId textureType t := by
    intro profileId textureId textureType t ht hfound
    rw [Option.isNone_eq_false_iff, Option.isSome_iff_exists] at hfound
    obtain ⟨t', hfind⟩ := hfound
    obtain ⟨hmem, hid⟩ := Table.of_find? hfind
    rw [Table.delete_rows, List.mem_filter] at hmem
    have hsame : t = t' :=
      s.textures.eq_of_ident ht.mem hmem.1 (ht.id.trans (of_decide_eq_true hid).symm)
    subst hsame
    exact ⟨mem_dropTextures.mpr ⟨ht.mem, by simpa using hmem.2⟩, ht.id, ht.type, ht.owner⟩
  constructor
  · intro b hb
    obtain ⟨hb, hfound⟩ := List.mem_filter.mp hb
    obtain ⟨t, ht⟩ := hs.bindings b hb
    exact ⟨t, hkept ht (by simpa using hfound)⟩
  · intro f hf
    obtain ⟨hf, hfound⟩ := List.mem_filter.mp hf
    obtain ⟨t, ht, hlocal⟩ := hs.presets f hf
    exact ⟨t, hkept ht (by simpa using hfound), hlocal⟩

/-- A deleted profile takes its references along. -/
theorem bindingsOk_profileDelete {s : TextureState} (hs : BindingsOk s) (id : Nat) :
    BindingsOk ((TextureStmt.service (.db (.profileDelete id))).exec s).2 := by
  have hkept : ∀ {profileId textureId : Nat} {textureType : TextureType}
      {t : MinecraftTexture}, Refers s profileId textureId textureType t → profileId ≠ id →
        Refers ((TextureStmt.service (.db (.profileDelete id))).exec s).2 profileId textureId
          textureType t := by
    intro profileId textureId textureType t ht hne
    obtain ⟨profile, hprofile, hid, howner⟩ := ht.owner
    refine ⟨ht.mem, ht.id, ht.type, profile, ?_, hid, howner⟩
    exact List.mem_filter.mpr ⟨hprofile, by simpa [hid] using hne⟩
  constructor
  · intro b hb
    obtain ⟨hb, hne⟩ := List.mem_filter.mp hb
    obtain ⟨t, ht⟩ := hs.bindings b hb
    exact ⟨t, hkept ht (by simpa using hne)⟩
  · intro f hf
    obtain ⟨hf, hne⟩ := List.mem_filter.mp hf
    obtain ⟨t, ht, hlocal⟩ := hs.presets f hf
    exact ⟨t, hkept ht (by simpa using hne), hlocal⟩

/-! ## Writing references -/

section Writing

variable {s : TextureState} {profileId textureId : Nat} {textureType : TextureType}
  {t : MinecraftTexture}

/-- **A new binding** refers to what it was made for. -/
theorem bindingsOk_insertBinding (hs : BindingsOk s)
    (href : Refers s profileId textureId textureType t) :
    BindingsOk (s.insertBinding profileId textureId textureType).2 := by
  unfold TextureState.insertBinding
  simp only
  split
  · cases hins : s.bindings.nextId.2.insert?
        ⟨s.bindings.nextId.1, profileId, textureId, textureType, s.now, s.now⟩ with
    | none => exact bindingsOk_kept hs (.of_same rfl rfl) (fun _ => Or.inl) fun _ => Or.inl
    | some bindings =>
        refine bindingsOk_kept hs (.of_same rfl rfl) (fun b hb => ?_) fun _ => Or.inl
        rw [(Table.insert?_eq_some hins).1] at hb
        rcases List.mem_append.mp hb with hold | hnew
        · exact Or.inl hold
        · rw [List.mem_singleton.mp hnew]
          exact Or.inr ⟨t, href⟩
  · exact bindingsOk_kept hs (.of_same rfl rfl) (fun _ => Or.inl) fun _ => Or.inl

/-- So does one that is changed. -/
theorem bindingsOk_setBindingTexture (hs : BindingsOk s) {existing : Binding}
    (hexisting : existing ∈ s.bindings.rows)
    (href : Refers s existing.profileId textureId existing.textureType t) :
    BindingsOk (s.setBindingTexture existing.id textureId).2 := by
  unfold TextureState.setBindingTexture
  simp only
  split
  · refine bindingsOk_kept hs (.of_same rfl rfl) (fun b hb => ?_) fun _ => Or.inl
    obtain ⟨b₀, hb₀, rfl⟩ := List.mem_map.mp hb
    by_cases hid : b₀.id = existing.id
    · rw [s.bindings.eq_of_ident hb₀ hexisting hid, if_pos (decide_eq_true rfl)]
      exact Or.inr ⟨t, href⟩
    · rw [if_neg (by simpa using hid)]
      exact Or.inl hb₀
  · exact hs

/-- So does a new preference, to a local texture. -/
theorem bindingsOk_insertPreference (hs : BindingsOk s)
    (href : Refers s profileId textureId textureType t) (hlocal : t.source = .localTexture) :
    BindingsOk (s.insertPreference profileId textureId textureType).2 := by
  unfold TextureState.insertPreference
  simp only
  split
  · cases hins : s.preferences.nextId.2.insert?
        ⟨s.preferences.nextId.1, profileId, textureType, textureId, s.now, s.now⟩ with
    | none => exact bindingsOk_kept hs (.of_same rfl rfl) (fun _ => Or.inl) fun _ => Or.inl
    | some preferences =>
        refine bindingsOk_kept hs (.of_same rfl rfl) (fun _ => Or.inl) fun f hf => ?_
        rw [(Table.insert?_eq_some hins).1] at hf
        rcases List.mem_append.mp hf with hold | hnew
        · exact Or.inl hold
        · rw [List.mem_singleton.mp hnew]
          exact Or.inr ⟨t, href, hlocal⟩
  · exact bindingsOk_kept hs (.of_same rfl rfl) (fun _ => Or.inl) fun _ => Or.inl

/-- And one that is changed. -/
theorem bindingsOk_setPreferenceTexture (hs : BindingsOk s) {existing : Preference}
    (hexisting : existing ∈ s.preferences.rows)
    (href : Refers s existing.profileId textureId existing.textureType t)
    (hlocal : t.source = .localTexture) :
    BindingsOk (s.setPreferenceTexture existing.id textureId).2 := by
  unfold TextureState.setPreferenceTexture
  simp only
  split
  · refine bindingsOk_kept hs (.of_same rfl rfl) (fun _ => Or.inl) fun f hf => ?_
    obtain ⟨f₀, hf₀, rfl⟩ := List.mem_map.mp hf
    by_cases hid : f₀.id = existing.id
    · rw [s.preferences.eq_of_ident hf₀ hexisting hid, if_pos (decide_eq_true rfl)]
      exact Or.inr ⟨t, href, hlocal⟩
    · rw [if_neg (by simpa using hid)]
      exact Or.inl hf₀
  · exact hs

/-- Writing a reference leaves users and profiles alone. -/
theorem exec_writes_service {i : TextureStmt} (hi : i.kind = .bind ∨ i.kind = .prefer)
    (s : TextureState) : (i.exec s).2.service = s.service := by
  cases i with
  | bindingInsert profileId textureId textureType =>
      simp only [TextureStmt.exec, TextureState.insertBinding]
      split
      · split <;> rfl
      · rfl
  | bindingSetTexture id textureId =>
      simp only [TextureStmt.exec, TextureState.setBindingTexture]
      split <;> rfl
  | preferenceInsert profileId textureId textureType =>
      simp only [TextureStmt.exec, TextureState.insertPreference]
      split
      · split <;> rfl
      · rfl
  | preferenceSetTexture id textureId =>
      simp only [TextureStmt.exec, TextureState.setPreferenceTexture]
      split <;> rfl
  | service i =>
      unfold TextureStmt.kind at hi
      grind
  | _ => simp [TextureStmt.kind] at hi

/-- The binding that is returned has the texture's id. -/
theorem insertBinding_textureId {b : Binding}
    (h : (s.insertBinding profileId textureId textureType).1 = some b) :
    b.textureId = textureId := by
  unfold TextureState.insertBinding at h
  simp only at h
  split at h
  · split at h <;> cases h
    rfl
  · cases h

/-- So has the changed one. -/
theorem setBindingTexture_textureId {id : Nat} {b : Binding}
    (h : (s.setBindingTexture id textureId).1 = some b) : b.textureId = textureId := by
  unfold TextureState.setBindingTexture at h
  simp only at h
  split at h
  · obtain ⟨b₀, -, rfl⟩ := Option.map_eq_some_iff.mp h
    rfl
  · cases h

end Writing

/-! ## Programs -/

/-- Every reference is right, and the profiles are still `profiles`. -/
structure Sound (profiles : List MinecraftProfile) (s : TextureState) : Prop where
  ok : BindingsOk s
  profiles : s.service.db.profiles.rows = profiles

section Programs

variable {profiles : List MinecraftProfile} {s : TextureState}

/-- Statements that write no reference, or take one away, keep all sound. -/
theorem sound_exec {i : TextureStmt}
    (hi : i.kind.keepsReferences = true ∨ i.kind = .unbind ∨ i.kind = .remove)
    (hs : Sound profiles s) : Sound profiles (i.exec s).2 := by
  rcases hi with hi | hi | hi
  · obtain ⟨hkept, hbindings, hpresets⟩ := exec_keepsReferences hi s
    refine ⟨bindingsOk_kept hs.ok hkept ?_ ?_, hkept.profiles.trans hs.profiles⟩
    · rw [hbindings]
      exact fun _ => Or.inl
    · rw [hpresets]
      exact fun _ => Or.inl
  · cases i with
    | bindingDelete id =>
        refine ⟨bindingsOk_kept hs.ok (.of_same rfl rfl) (fun b hb => Or.inl ?_)
          fun _ => Or.inl, hs.profiles⟩
        exact (List.mem_filter.mp hb).1
    | service i =>
        unfold TextureStmt.kind at hi
        grind
    | _ => cases hi
  · cases i with
    | textureDelete id => exact ⟨bindingsOk_dropTextures hs.ok _, hs.profiles⟩
    | service i =>
        unfold TextureStmt.kind at hi
        grind
    | _ => cases hi

/-- What a program may do besides writing references and deleting profiles. -/
def StmtKind.noReference : StmtKind → Bool
  | .bind | .prefer | .dropProfile | .account => false
  | _ => true

/-- So do programs of them. -/
theorem keeps_sound {α : Type} {kinds : List StmtKind} {p : TextureProg α}
    (hp : Touches kinds p) (h : ∀ k ∈ kinds, k.noReference = true) :
    p.Keeps textureMachine (Sound profiles) fun _ => True := by
  refine Within.keeps (Within.mono hp fun i hi s hs => sound_exec ?_ hs)
  have hkind : i.kind.noReference = true := by
    rcases hi with hplain | hmem
    · rw [hplain]
      rfl
    · exact h _ hmem
  revert hkind
  cases i.kind <;> simp [StmtKind.noReference, StmtKind.keepsReferences]

/-- Also along the way to their end. -/
theorem Touches.ends {α : Type} {kinds : List StmtKind} {p : TextureProg α}
    (hp : Touches kinds p) (hs : Sound profiles s) (h : ∀ k ∈ kinds, k.noReference = true) :
    p.Ends textureMachine (Sound profiles) (fun _ _ => True) s := by
  exact (keeps_sound hp h s hs).mono fun _ _ hr => ⟨hr.1, fun _ _ => trivial⟩

/-- A reference stays while the textures do. -/
theorem Refers.of_same {s' : TextureState} {profileId textureId : Nat}
    {textureType : TextureType} {t : MinecraftTexture}
    (h : Refers s profileId textureId textureType t) (htextures : s'.textures = s.textures)
    (hs : Sound profiles s) (hs' : Sound profiles s') :
    Refers s' profileId textureId textureType t := by
  obtain ⟨p, hp, hid, howner⟩ := h.owner
  refine ⟨htextures ▸ h.mem, h.id, h.type, p, ?_, hid, howner⟩
  rw [hs'.profiles, ← hs.profiles]
  exact hp

/-- A statement that writes a reference which fits. -/
theorem sound_written {i : TextureStmt} (hi : i.kind = .bind ∨ i.kind = .prefer)
    (hs : Sound profiles s) (hok : BindingsOk (i.exec s).2) : Sound profiles (i.exec s).2 :=
  ⟨hok, by rw [exec_writes_service hi, hs.profiles]⟩

/-- Writing a binding keeps all references sound. -/
theorem ends_writeBinding {profileId textureId : Nat} {textureType : TextureType}
    {t : MinecraftTexture} (hs : Sound profiles s)
    (href : Refers s profileId textureId textureType t) :
    (writeBinding profileId textureId textureType).Ends textureMachine (Sound profiles)
      (fun written s' => s'.textures = s.textures ∧ ∀ b ∈ written, b.textureId = textureId)
      s := by
  refine (looks_query rfl).bind_ends hs fun found hfound => ?_
  cases found with
  | some existing =>
      obtain ⟨hmem, hp⟩ := Table.of_find? hfound.symm
      simp only [Bool.and_eq_true, decide_eq_true_eq] at hp
      have hslot : Refers s existing.profileId textureId existing.textureType t := by
        rw [hp.1, hp.2]
        exact href
      have hok := bindingsOk_setBindingTexture hs.ok hmem hslot
      refine ⟨sound_written (i := .bindingSetTexture existing.id textureId) (Or.inl rfl) hs hok,
        fun written hw => ⟨?_, ?_⟩⟩
      · exact (exec_still (i := .bindingSetTexture existing.id textureId) rfl s).1
      · rintro b hb
        cases hw
        exact setBindingTexture_textureId hb
  | none =>
      have hok := bindingsOk_insertBinding hs.ok href
      refine ⟨sound_written (i := .bindingInsert profileId textureId textureType) (Or.inl rfl)
        hs hok, fun written hw => ⟨?_, ?_⟩⟩
      · exact (exec_still (i := .bindingInsert profileId textureId textureType) rfl s).1
      · rintro b hb
        cases hw
        exact insertBinding_textureId hb

/-- A binding is written with a texture that fits. -/
theorem ends_upsertForProfile {profileId textureId : Nat} {textureType : TextureType}
    {t : MinecraftTexture} (hs : Sound profiles s)
    (href : Refers s profileId textureId textureType t) :
    (upsertForProfile profileId textureId textureType).Ends textureMachine (Sound profiles)
      (fun bound s' => s'.textures = s.textures ∧ bound.texture = t) s := by
  refine (ends_writeBinding hs href).bind fun written s₁ hs₁ hw => ?_
  refine looks_required.bind_ends hs₁ fun binding hbinding => ?_
  have htexture : (boundTexture binding.textureId).Looks textureMachine s₁
      fun texture => texture = t := by
    refine (looks_query rfl).bind fun found hfound => looks_required.mono fun texture ht => ?_
    have hfind : s₁.textureById t.id = some t := by
      refine textureById_of_mem ?_
      rw [hw.1]
      exact href.mem
    rw [hfound, hw.2 binding hbinding, ← href.id] at ht
    exact Option.some.inj (ht.symm.trans hfind)
  exact htexture.bind_ends hs₁ fun texture htexture => ends_ok hs₁ ⟨hw.1, htexture⟩

/-- Only a local texture is remembered. -/
theorem ends_rememberLocalTexturePreset {profile : MinecraftProfile} {t : MinecraftTexture}
    (hs : Sound profiles s) (href : Refers s profile.id t.id t.textureType t) :
    (rememberLocalTexturePreset profile t).Ends textureMachine (Sound profiles)
      (fun _ _ => True) s := by
  unfold rememberLocalTexturePreset
  split
  · exact ends_ok hs trivial
  · next hlocal =>
      simp only [Bool.or_eq_true, not_or, decide_eq_true_eq, ne_eq, not_not] at hlocal
      have hwritten : (upsertPreference profile.id t.id t.textureType).Ends textureMachine
          (Sound profiles) (fun _ _ => True) s := by
        refine (looks_query rfl).bind_ends hs fun found hfound => ?_
        cases found with
        | some existing =>
            obtain ⟨hmem, hp⟩ := Table.of_find? hfound.symm
            simp only [Bool.and_eq_true, decide_eq_true_eq] at hp
            have hslot : Refers s existing.profileId t.id existing.textureType t := by
              rw [hp.1, hp.2]
              exact href
            have hok := bindingsOk_setPreferenceTexture hs.ok hmem hslot hlocal.1
            exact ⟨sound_written (i := .preferenceSetTexture existing.id t.id) (Or.inr rfl)
              hs hok, fun _ _ => trivial⟩
        | none =>
            have hok := bindingsOk_insertPreference hs.ok href hlocal.1
            exact ⟨sound_written (i := .preferenceInsert profile.id t.id t.textureType)
              (Or.inr rfl) hs hok, fun _ _ => trivial⟩
      refine hwritten.bind fun written s₁ hs₁ _ => ?_
      exact looks_required.bind_ends hs₁ fun _ _ => ends_ok hs₁ trivial

/-- Binding a texture does. -/
theorem ends_bindTexture {profile : MinecraftProfile} {wardrobeTexture : MinecraftTexture}
    {textureType : TextureType} (hs : Sound profiles s)
    (href : Refers s profile.id wardrobeTexture.id textureType wardrobeTexture) :
    (bindTexture profile wardrobeTexture textureType).Ends textureMachine (Sound profiles)
      (fun _ _ => True) s := by
  refine (looks_findByProfileAndType _ _).bind_ends hs fun previous _ => ?_
  refine (ends_upsertForProfile hs href).bind fun bound s₁ hs₁ hbound => ?_
  obtain ⟨htextures, rfl⟩ := hbound
  have href₁ : Refers s₁ profile.id bound.texture.id bound.texture.textureType
      bound.texture := by
    rw [href.type]
    exact href.of_same htextures hs hs₁
  refine (ends_rememberLocalTexturePreset hs₁ href₁).bind fun _ s₂ hs₂ _ => ?_
  refine ((touches_cleanupPrevious _ _).ends hs₂ (by simp [StmtKind.noReference])).bind ?_
  exact fun _ s₃ hs₃ _ => ends_ok hs₃ trivial

/-- A texture of the profile's owner. -/
theorem refers_of_owner {profile : MinecraftProfile} {t : MinecraftTexture}
    (hs : Sound profiles s) (hprofile : profile ∈ profiles) (ht : t ∈ s.textures.rows)
    (howner : profile.userId = t.userId) : Refers s profile.id t.id t.textureType t :=
  ⟨ht, rfl, rfl, profile, hs.profiles ▸ hprofile, rfl, howner⟩

/-- So does binding one of the user's wardrobe. -/
theorem ends_bindWardrobeTextureToProfile {policy : TexturePolicy} {userId : Nat}
    {profile : MinecraftProfile} {wardrobeTextureId : Nat} {textureType : TextureType}
    (hs : Sound profiles s) (hprofile : profile ∈ profiles) (huser : profile.userId = userId) :
    (bindWardrobeTextureToProfile policy userId profile wardrobeTextureId textureType).Ends
      textureMachine (Sound profiles) (fun _ _ => True) s := by
  refine ((touches_ensureTextureChangeAllowed _ _ _ _).ends hs (by simp)).bind
    fun _ s₁ hs₁ _ => ?_
  refine (looks_query rfl).bind_ends hs₁ fun found hfound => ?_
  refine looks_required.bind_ends hs₁ fun t ht => ?_
  refine looks_rejectIf.bind_ends hs₁ fun _ htype => ?_
  rw [hfound] at ht
  obtain ⟨hmem, hp⟩ := Table.of_find? ht
  simp only [Bool.and_eq_true, decide_eq_true_eq] at hp
  have href := refers_of_owner hs₁ hprofile hmem (huser.trans hp.2.symm)
  have heq : t.textureType = textureType := by simpa using htype
  rw [heq] at href
  exact ends_bindTexture hs₁ href

/-- An upload ends in a texture of its user, of the type that was asked for. -/
theorem ends_storeOrReuseWardrobeTexture {codecs : TextureCodecs} {policy : TexturePolicy}
    {input : StoreTextureAsset} (hs : Sound profiles s) :
    (storeOrReuseWardrobeTexture codecs policy input).Ends textureMachine (Sound profiles)
      (fun t s' => t ∈ s'.textures.rows ∧ t.userId = input.userId ∧
        t.textureType = input.textureType) s := by
  refine (looks_processUpload codecs policy _ _).bind_ends hs fun processing _ => ?_
  refine (looks_query rfl).bind_ends hs fun found hfound => ?_
  cases found with
  | some t =>
      obtain ⟨hmem, hp⟩ := Table.of_find? hfound.symm
      simp only [Bool.and_eq_true, decide_eq_true_eq] at hp
      exact ends_ok hs ⟨hmem, hp.1.1, congrArg Fingerprint.textureType hp.1.2⟩
  | none =>
      have hput : Sound profiles (s.putObject (objectStorageKey processing.hash)
          processing.bytes) :=
        sound_exec (i := .objectPut (objectStorageKey processing.hash) processing.bytes)
          (Or.inl rfl) hs
      refine wp_stmt_bind.mpr ?_
      refine Ends.bind ((touches_fitColumns processing).ends hput (by simp))
        fun _ s₁ hs₁ _ => wp_reply_bind fun reply hreply => ?_
      have hinserted := sound_exec (i := .textureInsert (input.row processing)) (Or.inl rfl) hs₁
      cases reply with
      | some t =>
          obtain ⟨ht, hrows, -⟩ := insertTexture_some hreply.symm
          refine ends_ok hinserted ⟨?_, by rw [ht]; rfl, by rw [ht]; rfl⟩
          show t ∈ (s₁.insertTexture (input.row processing)).2.textures.rows
          rw [hrows]
          exact List.mem_append_right _ (List.mem_singleton.mpr rfl)
      | none =>
          refine Ends.bind ((touches_cleanupTextureBlobIfUnreferenced _).ends hinserted
            (by simp [StmtKind.noReference])) fun _ s₂ hs₂ _ => ends_err hs₂ _

/-- Authenticating yields a profile that is there. -/
theorem ends_authenticateTextureAccess {accessToken profileUuid : String}
    (hs : Sound profiles s) :
    (authenticateTextureAccess accessToken profileUuid).Ends textureMachine (Sound profiles)
      (fun profile _ => profile ∈ profiles) s := by
  have hactive : Touches [] (ofService (fun _ => .new .invalidToken)
      (activeToken accessToken none)) := touches_service (keepsProfiles_activeToken _ _)
  refine (hactive.ends hs (by simp)).bind fun token s₁ hs₁ _ => ?_
  refine looks_required.bind_ends hs₁ fun selectedProfileId _ => ?_
  refine (looks_query rfl).bind_ends hs₁ fun found hfound => ?_
  refine looks_required.bind_ends hs₁ fun profile hprofile => ?_
  refine looks_rejectIf.bind_ends hs₁ fun _ _ => ends_ok hs₁ ?_
  rw [hfound] at hprofile
  rw [← hs₁.profiles]
  exact (Table.of_find? hprofile).1

/-- An upload of a launcher binds a texture of the profile's owner. -/
theorem ends_storeTexture {codecs : TextureCodecs} {policy : TexturePolicy}
    {profile : MinecraftProfile} {textureType : TextureType}
    {textureModel : MinecraftTextureModel} {upload : List UInt8} (hs : Sound profiles s)
    (hprofile : profile ∈ profiles) :
    (storeTexture codecs policy profile textureType textureModel upload).Ends textureMachine
      (Sound profiles) (fun _ _ => True) s := by
  refine ((touches_ensureTextureChangeAllowed _ _ _ _).ends hs (by simp)).bind
    fun _ s₁ hs₁ _ => ?_
  refine (ends_storeOrReuseWardrobeTexture hs₁).bind fun t s₂ hs₂ ht => ?_
  obtain ⟨hmem, howner, htype⟩ := ht
  have href := refers_of_owner hs₂ hprofile hmem howner.symm
  rw [htype] at href
  exact ends_bindTexture hs₂ href

/-- An import does the same, unless it preserves a local texture. -/
theorem ends_importOfficialTextureToProfileWithMode {codecs : TextureCodecs}
    {policy : TexturePolicy} {profile : MinecraftProfile} {textureType : TextureType}
    {textureModel : MinecraftTextureModel} {sourceUrl : String}
    {bindingMode : OfficialTextureBindingMode} (hs : Sound profiles s)
    (hprofile : profile ∈ profiles) :
    (importOfficialTextureToProfileWithMode codecs policy profile textureType textureModel
      sourceUrl bindingMode).Ends textureMachine (Sound profiles) (fun _ _ => True) s := by
  refine looks_ofExcept.bind_ends hs fun upload _ => ?_
  refine (ends_storeOrReuseWardrobeTexture hs).bind fun t s₁ hs₁ ht => ?_
  obtain ⟨hmem, howner, htype⟩ := ht
  refine (looks_findByProfileAndType _ _).bind_ends hs₁ fun previous _ => ?_
  split
  · exact ends_ok hs₁ trivial
  · have href := refers_of_owner hs₁ hprofile hmem howner.symm
    rw [htype] at href
    refine (ends_upsertForProfile hs₁ href).bind fun bound s₂ hs₂ _ => ?_
    exact (touches_cleanupPrevious _ _).ends hs₂ (by simp [StmtKind.noReference])

/-- A preset refers to a texture of the profile's user. -/
theorem ends_applyPreset {policy : TexturePolicy} {userId : Nat} {profile : MinecraftProfile}
    {textureType : TextureType} (hs : Sound profiles s) (hprofile : profile ∈ profiles)
    (huser : profile.userId = userId) :
    (applyPreset policy userId profile textureType).Ends textureMachine (Sound profiles)
      (fun _ _ => True) s := by
  refine ((touches_localTexturePreset _ _ _).ends hs (by simp)).bind fun found s₁ hs₁ _ => ?_
  cases found with
  | none => exact ends_ok hs₁ trivial
  | some t =>
      refine (ends_bindWardrobeTextureToProfile hs₁ hprofile huser).bind fun _ s₂ hs₂ _ => ?_
      exact ends_ok hs₂ trivial

/-- For both kinds of textures. -/
theorem ends_applyLocalTexturePresetsToProfile {policy : TexturePolicy} {userId : Nat}
    {profile : MinecraftProfile} (hs : Sound profiles s) (hprofile : profile ∈ profiles)
    (huser : profile.userId = userId) :
    (applyLocalTexturePresetsToProfile policy userId profile).Ends textureMachine
      (Sound profiles) (fun _ _ => True) s := by
  refine looks_rejectIf.bind_ends hs fun _ _ => ?_
  refine (ends_applyPreset hs hprofile huser).bind fun skins s₁ hs₁ _ => ?_
  refine (ends_applyPreset hs₁ hprofile huser).bind fun capes s₂ hs₂ _ => ?_
  refine looks_rejectIf.bind_ends hs₂ fun _ _ => ?_
  exact ⟨hs₂, fun _ _ => trivial⟩

/-! ## Registration -/

/-- What a listed binding says about its profile for as long as the profiles
stay. -/
structure Fits (profiles : List MinecraftProfile) (b : ProfileTexture) : Prop where
  owner : ∃ p ∈ profiles, p.id = b.binding.profileId ∧ p.userId = b.texture.userId
  type : b.texture.textureType = b.binding.textureType

/-- A listed binding has the profile and the texture that it names. -/
theorem fits_of_listed (hs : Sound profiles s) {b : ProfileTexture}
    (hb : b ∈ s.joined s.bindings.rows) : Fits profiles b := by
  obtain ⟨binding, hbinding, hjoin⟩ := List.mem_filterMap.mp hb
  obtain ⟨t, hfind, rfl⟩ := Option.map_eq_some_iff.mp hjoin
  obtain ⟨t', ht'⟩ := hs.ok.bindings binding hbinding
  obtain ⟨hmem, hid⟩ := textureById_eq_some hfind
  have hsame : t' = t := s.textures.eq_of_ident ht'.mem hmem (ht'.id.trans hid.symm)
  subst hsame
  obtain ⟨p, hp, hprofile, howner⟩ := ht'.owner
  exact ⟨⟨p, hs.profiles ▸ hp, hprofile, howner⟩, ht'.type⟩

/-- The texture of the wardrobe has the fingerprint of the bound one, so it fits
where that one did. -/
theorem ends_registerBinding {b : ProfileTexture} {result : WardrobeRegistrationResult}
    (hs : Sound profiles s) (hb : Fits profiles b) :
    (registerBinding b result).Ends textureMachine (Sound profiles) (fun _ _ => True) s := by
  unfold registerBinding
  split
  · exact ends_ok hs trivial
  refine (looks_query rfl).bind_ends hs fun found hfound => ?_
  cases found with
  | none =>
      have hmark : Touches [.mark] (query (.textureMarkAsWardrobeItem b.texture.id)) :=
        touches_query rfl
      refine Ends.bind (hmark.ends hs (by simp [StmtKind.noReference])) fun _ s₁ hs₁ _ => ?_
      exact looks_required.bind_ends hs₁ fun _ _ => ends_ok hs₁ trivial
  | some existing =>
      obtain ⟨hmem, hp⟩ := Table.of_find? hfound.symm
      simp only [Bool.and_eq_true, decide_eq_true_eq] at hp
      obtain ⟨p, hprofile, hid, howner⟩ := hb.owner
      have href : Refers s b.binding.profileId existing.id b.binding.textureType existing := by
        have hrefers := refers_of_owner hs hprofile hmem (howner.trans hp.1.1.symm)
        have htype : existing.textureType = b.texture.textureType :=
          congrArg Fingerprint.textureType hp.1.2
        rwa [hid, htype, hb.type] at hrefers
      refine (ends_upsertForProfile hs href).bind fun _ s₁ hs₁ _ => ?_
      refine ((touches_deleteByIdForUser _ _).ends hs₁ (by simp [StmtKind.noReference])).bind
        fun found s₂ hs₂ _ => ?_
      cases found with
      | none => exact ends_ok hs₂ trivial
      | some deleted =>
          refine ((touches_cleanupTextureBlobIfUnreferenced _).ends hs₂
            (by simp [StmtKind.noReference])).bind fun _ s₃ hs₃ _ => ends_ok hs₃ trivial

/-- So the registration keeps all references sound. -/
theorem ends_registerBindings {bindings : List ProfileTexture}
    {result : WardrobeRegistrationResult} (hs : Sound profiles s)
    (hbindings : ∀ b ∈ bindings, Fits profiles b) :
    (registerBindings bindings result).Ends textureMachine (Sound profiles)
      (fun _ _ => True) s := by
  induction bindings generalizing result s with
  | nil => exact ends_ok hs trivial
  | cons b bindings ih =>
      refine (ends_registerBinding hs (hbindings b (List.mem_cons_self ..))).bind
        fun result s₁ hs₁ _ => ?_
      exact ih hs₁ fun b hb => hbindings b (List.mem_cons_of_mem _ hb)

/-! ## Deleting a profile -/

/-- The textures of the profile go first; the row takes along what is left. -/
theorem ends_deleteProfileForUser {userId : Nat} {uuid : String} (hs : Sound profiles s) :
    (deleteProfileForUser userId uuid).Ends textureMachine BindingsOk (fun _ _ => True) s := by
  refine (looks_ensureUserNotBanned _ _ _).bind_ends hs.ok fun _ _ => ?_
  refine (looks_query rfl).bind_ends hs.ok fun found _ => ?_
  cases found with
  | none => exact ends_ok hs.ok trivial
  | some profile =>
      refine looks_rejectIf.bind_ends hs.ok fun _ _ => ?_
      have hevicted : Touches [] (ofService (fun _ => TextureFailure.aster .databaseOperation)
          (invalidateTokenCacheForSelectedProfile profile.id)) :=
        touches_service (keeps_invalidateForProfile profile.id)
      refine ((hevicted.ends hs (by simp)).weaken fun _ h => h.ok).bind
        fun _ s₁ _ hs₁ => ?_
      have hdeleted : Touches [.unbind, .remove, .erase]
          ((deleteAllTexturesForProfile profile).hoist ⟨id, fun _ r => r⟩
            TextureFailure.asInternal) :=
        Within.hoist (touches_deleteAllTexturesForProfile profile)
      refine ((hdeleted.ends hs₁.1 (by simp [StmtKind.noReference])).weaken
        fun _ h => h.ok).bind fun _ s₂ _ hs₂ => ?_
      have hrevoked : Touches [] (query (.service
          (.db (.tokenRevokeAllForSelectedProfile profile.id)))) := touches_look rfl
      refine ((hrevoked.ends hs₂.1 (by simp)).weaken fun _ h => h.ok).bind
        fun _ s₃ _ hs₃ => ?_
      refine (looks_query rfl).bind_ends hs₃.1.ok fun found _ => ?_
      dsimp only
      split
      · exact ⟨bindingsOk_profileDelete hs₃.1.ok profile.id, fun _ _ => trivial⟩
      · exact ends_ok hs₃.1.ok trivial

end Programs

/-! ## Calls -/

/-- The profile that is found is the user's. -/
theorem looks_profileOfUser {s : TextureState} {uuid : String} {userId : Nat} :
    (profileOfUser uuid userId).Looks textureMachine s fun profile =>
      profile ∈ s.service.db.profiles.rows ∧ profile.userId = userId := by
  refine (looks_query rfl).bind fun found hfound => looks_required.mono fun profile h => ?_
  rw [hfound] at h
  obtain ⟨hmem, hp⟩ := Table.of_find? h
  simp only [Bool.and_eq_true, decide_eq_true_eq] at hp
  exact ⟨hmem, hp.2⟩

/-- Or anyone's. -/
theorem looks_profileByUuid {s : TextureState} {uuid : String} :
    (profileByUuid uuid).Looks textureMachine s fun profile =>
      profile ∈ s.service.db.profiles.rows := by
  refine (looks_query rfl).bind fun found hfound => looks_required.mono fun profile h => ?_
  rw [hfound] at h
  exact (Table.of_find? h).1

/-- The answer of a call does not matter here. -/
theorem bindingsOk_of_ends {α : Type} {profiles : List MinecraftProfile} {s : TextureState}
    {p : TextureProg α} {f : α → TextureResponse}
    (hp : p.Ends textureMachine (Sound profiles) (fun _ _ => True) s) :
    (p.bind fun a => .ok (f a)).Wp textureMachine (fun _ s' => BindingsOk s') s := by
  have hdone : (p.bind fun a => .ok (f a)).Ends textureMachine (Sound profiles)
      (fun _ _ => True) s := hp.bind fun _ _ hs' _ => ends_ok hs' trivial
  exact Wp.mono hdone fun _ _ hr => hr.1.ok

/-- **Every call keeps the references right.** -/
theorem bindingsOk_call (codecs : TextureCodecs) {s : TextureState} (hs : BindingsOk s)
    (call : TextureCall) :
    BindingsOk (after textureMachine (TextureCall.body codecs) s call) := by
  suffices hcall : (call.body codecs).Wp textureMachine (fun _ s' => BindingsOk s') s from hcall
  have hsound : Sound s.service.db.profiles.rows s := ⟨hs, rfl⟩
  cases call with
  | storeTexture policy accessToken profileUuid textureType textureModel upload =>
      refine wp_bind.mpr (Wp.mono (ends_authenticateTextureAccess hsound) fun r s₁ hr => ?_)
      cases r with
      | ok profile => exact bindingsOk_of_ends (ends_storeTexture hr.1 (hr.2 profile rfl))
      | error e => exact hr.1.ok
  | importOfficial policy profileUuid textureType textureModel sourceUrl bindingMode =>
      refine looks_profileByUuid.wp_bind (fun _ => hs) fun profile hprofile => ?_
      exact bindingsOk_of_ends (ends_importOfficialTextureToProfileWithMode hsound hprofile)
  | bind policy userId profileUuid textureId textureType =>
      refine looks_profileOfUser.wp_bind (fun _ => hs) fun profile hprofile => ?_
      exact bindingsOk_of_ends
        (ends_bindWardrobeTextureToProfile hsound hprofile.1 hprofile.2)
  | applyLocalPresets policy userId profileUuid =>
      refine looks_profileOfUser.wp_bind (fun _ => hs) fun profile hprofile => ?_
      exact bindingsOk_of_ends
        (ends_applyLocalTexturePresetsToProfile hsound hprofile.1 hprofile.2)
  | deleteProfile userId profileUuid =>
      have hdeleted : (deleteProfileForUser userId profileUuid).Wp textureMachine
          (fun _ s' => BindingsOk s') s :=
        Wp.mono (ends_deleteProfileForUser hsound) fun _ _ hr => hr.1
      refine wp_bind.mpr (Wp.mono hdeleted fun r s' hs' => ?_)
      cases r with
      | ok found => exact hs'
      | error e => exact hs'
  | registerBound =>
      refine bindingsOk_of_ends ((looks_query rfl).bind_ends hsound fun listed hlisted => ?_)
      refine ends_registerBindings hsound fun b hb => fits_of_listed hsound ?_
      rw [hlisted] at hb
      exact hb
  | _ =>
      exact Wp.mono ((TextureCall.touches_body codecs _).ends hsound
        (by simp [TextureCall.kinds, StmtKind.noReference])) fun _ _ hr => hr.1.ok

/-! ## Runs -/

/-- **Bindings and presets stay right** through every sequence of calls, if they
are right at the beginning: a profile has at most one binding of each type, a
binding's texture is there, has its type and belongs to the profile's owner, and
so does a remembered texture, which is local. -/
theorem bindings_consistent (codecs : TextureCodecs) {s₀ : TextureState}
    (hs₀ : BindingsOk s₀) (calls : List TextureCall) {s : TextureState}
    (hs : s = serve textureMachine (TextureCall.body codecs) s₀ calls) :
    (∀ b ∈ s.bindings.rows, ∀ b' ∈ s.bindings.rows, b.profileId = b'.profileId →
      b.textureType = b'.textureType → b = b') ∧
    (∀ b ∈ s.bindings.rows, ∃ t ∈ s.textures.rows, t.id = b.textureId ∧
      t.textureType = b.textureType ∧
      ∃ p ∈ s.service.db.profiles.rows, p.id = b.profileId ∧ p.userId = t.userId) ∧
    ∀ f ∈ s.preferences.rows, ∃ t ∈ s.textures.rows, t.id = f.textureId ∧
      t.textureType = f.textureType ∧ t.source = .localTexture ∧
      ∃ p ∈ s.service.db.profiles.rows, p.id = f.profileId ∧ p.userId = t.userId := by
  have hok : BindingsOk s := by
    rw [hs]
    exact serve_induct (M := textureMachine) (G := fun _ _ => True)
      (P := fun _ s => BindingsOk s) hs₀ (fun _ call hdone _ => bindingsOk_call codecs hdone call)
      (guarded_of_forall (fun _ _ => trivial) _ calls)
  refine ⟨fun b hb b' hb' => binding_unique s hb hb', fun b hb => ?_, fun f hf => ?_⟩
  · obtain ⟨t, ht⟩ := hok.bindings b hb
    exact ⟨t, ht.mem, ht.id, ht.type, ht.owner⟩
  · obtain ⟨t, ht, hlocal⟩ := hok.presets f hf
    exact ⟨t, ht.mem, ht.id, ht.type, hlocal, ht.owner⟩

/-- Bob wears his skin, uploads another one and deletes the first, which he has
been wearing. -/
def bobDressesUp : List TextureCall :=
  [.storeWardrobe openPolicy 2 .skin .default .privateItem [1, 2],
    .bind openPolicy 2 "uuid2" 1 .skin,
    .storeWardrobe openPolicy 2 .cape .default .privateItem [1, 2, 3],
    .bind openPolicy 2 "uuid2" 2 .cape,
    .deleteWardrobe 2 1]

/-- The binding and the preset of the deleted skin have gone with it. -/
theorem dressed_consistent :
    let s := serve textureMachine (TextureCall.body twoImages) twoPlayers bobDressesUp
    s.bindings.rows.map (fun b => (b.profileId, b.textureId)) = [(1, 2)] ∧
      s.preferences.rows.map (fun f => (f.profileId, f.textureId)) = [(1, 2)] ∧
      ∀ b ∈ s.bindings.rows, ∃ t ∈ s.textures.rows, t.id = b.textureId ∧
        t.textureType = b.textureType ∧
        ∃ p ∈ s.service.db.profiles.rows, p.id = b.profileId ∧ p.userId = t.userId := by
  have hempty : BindingsOk twoPlayers := by
    constructor
    · intro b hb
      cases hb
    · intro f hf
      cases hf
  exact ⟨by decide +kernel, by decide +kernel,
    (bindings_consistent twoImages hempty bobDressesUp rfl).2.1⟩

end AsterYggdrasil.Textures
