import AsterYggdrasil.Texture.Footprint

/-!
# The registration of bound textures

`register_bound_textures_in_wardrobe` goes through a list of the bindings that it
has read at its start.  A texture without a duplicate in the wardrobe becomes an
item of the wardrobe; otherwise the profile is given the duplicate, and the texture
is deleted.

The list is not read again, and so a texture that has just become an item is no item
in a later entry of the list.  There it is found as its own duplicate, and deleted
with all its bindings.  `Marked` says that a texture has become an item;
`register_preserves_iff` says that nobody loses a texture exactly if no entry is about
a texture that is `Marked` by an entry before it.
-/

namespace AsterYggdrasil.Textures

open Interleave Relational
open Interleave.Prog

/-- The profile and the type, of which there is one binding. -/
def Binding.slot (b : Binding) : Nat × TextureType := (b.profileId, b.textureType)

/-- The owner and what `find_wardrobe_by_fingerprint` compares. -/
def MinecraftTexture.group (t : MinecraftTexture) : Nat × Fingerprint :=
  (t.userId, t.fingerprint)

/-- An item of the wardrobe with this owner and fingerprint. -/
def TextureState.HasWardrobe (s : TextureState) (group : Nat × Fingerprint) : Prop :=
  ∃ t ∈ s.textures.rows, t.group = group ∧ t.isWardrobeItem = true

/-- The foreign keys of the bindings. -/
structure ForeignKeys (s : TextureState) : Prop where
  textures : ∀ b ∈ s.bindings.rows, ∃ t ∈ s.textures.rows, t.id = b.textureId
  profiles : ∀ b ∈ s.bindings.rows, s.hasProfile b.profileId = true

theorem eq_of_slot (s : TextureState) {b b' : Binding} (hb : b ∈ s.bindings.rows)
    (hb' : b' ∈ s.bindings.rows) (h : b.slot = b'.slot) : b = b' := by
  obtain ⟨hprofile, htype⟩ := Prod.mk.injEq .. ▸ h
  exact s.bindings.eq_of_clash hb hb' (by simp [bindingSchema, hprofile, htype])

theorem hasTexture_of_mem {s : TextureState} {t : MinecraftTexture} (ht : t ∈ s.textures.rows) :
    s.hasTexture t.id = true := by
  unfold TextureState.hasTexture
  rw [textureById_of_mem ht]
  rfl

/-! ## Binding the duplicate -/

/-- The slot has the texture, and nothing else is different. -/
structure Upserted (slot : Nat × TextureType) (textureId : Nat) (s s' : TextureState) : Prop where
  service : s'.service = s.service
  textures : s'.textures = s.textures
  source : ∀ b ∈ s'.bindings.rows, b.slot = slot ∧ b.textureId = textureId ∨
    b ∈ s.bindings.rows ∧ b.slot ≠ slot
  kept : ∀ b ∈ s.bindings.rows, b.slot ≠ slot → b ∈ s'.bindings.rows
  bound : ∃ b ∈ s'.bindings.rows, b.slot = slot ∧ b.textureId = textureId

section Upsert

variable {s : TextureState} {profileId : Nat} {textureType : TextureType} {t : MinecraftTexture}

theorem upserted_set (ht : t ∈ s.textures.rows) {b : Binding}
    (hb : b ∈ s.bindings.rows) (hslot : b.slot = (profileId, textureType)) :
    (s.setBindingTexture b.id t.id).1 = some { b with textureId := t.id, updatedAt := s.now } ∧
      Upserted (profileId, textureType) t.id s (s.setBindingTexture b.id t.id).2 := by
  have hfind : (s.bindings.find? fun x => x.id = b.id) = some b := by
    cases hfind : s.bindings.find? fun x => x.id = b.id with
    | none =>
      have hno := Table.find?_eq_none.mp hfind b hb
      simp at hno
    | some b' =>
      obtain ⟨hb', hid⟩ := Table.of_find? hfind
      rw [s.bindings.eq_of_ident hb' hb (of_decide_eq_true hid)]
  unfold TextureState.setBindingTexture
  simp only [hasTexture_of_mem ht, if_true, hfind, Option.map_some, true_and]
  refine ⟨rfl, rfl, fun x hx => ?_, fun x hx hne => ?_, ?_⟩
  · obtain ⟨x₀, hx₀, rfl⟩ := List.mem_map.mp hx
    by_cases hid : x₀.id = b.id
    · rw [s.bindings.eq_of_ident hx₀ hb hid, if_pos (decide_eq_true rfl)]
      exact Or.inl ⟨hslot, rfl⟩
    · rw [if_neg (by simpa using hid)]
      refine Or.inr ⟨hx₀, fun hsame => hid ?_⟩
      rw [eq_of_slot s hx₀ hb (hsame.trans hslot.symm)]
  · refine List.mem_map.mpr ⟨x, hx, if_neg ?_⟩
    intro hid
    rw [s.bindings.eq_of_ident hx hb (of_decide_eq_true hid)] at hne
    exact hne hslot
  · exact ⟨_, List.mem_map.mpr ⟨b, hb, if_pos (decide_eq_true rfl)⟩, hslot, rfl⟩

theorem upserted_insert (ht : t ∈ s.textures.rows) (hprofile : s.hasProfile profileId = true)
    (hnone : ∀ b ∈ s.bindings.rows, b.slot ≠ (profileId, textureType)) :
    (s.insertBinding profileId t.id textureType).1 =
        some ⟨s.bindings.seq, profileId, t.id, textureType, s.now, s.now⟩ ∧
      Upserted (profileId, textureType) t.id s (s.insertBinding profileId t.id textureType).2 := by
  have hclash : ∀ b ∈ s.bindings.nextId.2.rows, bindingSchema.clash b
      ⟨s.bindings.seq, profileId, t.id, textureType, s.now, s.now⟩ = false := by
    intro b hb
    have hid : b.id ≠ s.bindings.seq := Nat.ne_of_lt (s.bindings.fresh b hb)
    have hslot : ¬ (b.profileId = profileId ∧ b.textureType = textureType) := by
      rintro ⟨rfl, rfl⟩
      exact hnone b hb rfl
    simp only [bindingSchema, hid, decide_false, Bool.false_or, Bool.and_eq_false_iff,
      decide_eq_false_iff_not]
    exact Decidable.not_and_iff_or_not.mp hslot
  obtain ⟨bindings, hinsert⟩ := Table.exists_insert? hclash (Nat.lt_succ_self _)
  obtain ⟨hrows, -⟩ := Table.insert?_eq_some hinsert
  unfold TextureState.insertBinding
  simp only [Table.nextId_fst, hprofile, hasTexture_of_mem ht, Bool.and_self, if_true, hinsert,
    true_and]
  refine ⟨rfl, rfl, fun x hx => ?_, fun x hx _ => ?_, ?_⟩
  · change x ∈ bindings.rows at hx
    rw [hrows] at hx
    rcases List.mem_append.mp hx with hold | hnew
    · exact Or.inr ⟨hold, hnone x hold⟩
    · rw [List.mem_singleton.mp hnew]
      exact Or.inl ⟨rfl, rfl⟩
  · change x ∈ bindings.rows
    rw [hrows]
    exact List.mem_append_left _ hx
  · refine ⟨⟨s.bindings.seq, profileId, t.id, textureType, s.now, s.now⟩, ?_, rfl, rfl⟩
    change _ ∈ bindings.rows
    rw [hrows]
    exact List.mem_append_right _ (List.mem_singleton_self _)

/-- `upsert_for_profile`, when both foreign keys hold. -/
theorem run_upsertForProfile (textureType : TextureType) (ht : t ∈ s.textures.rows)
    (hprofile : s.hasProfile profileId = true) :
    ∃ out s', (upsertForProfile profileId t.id textureType).run textureMachine s = (.ok out, s') ∧
      Upserted (profileId, textureType) t.id s s' := by
  obtain ⟨written, s', hwritten, hid, hupserted⟩ : ∃ written s',
      (writeBinding profileId t.id textureType).run textureMachine s = (.ok (some written), s') ∧
      written.textureId = t.id ∧ Upserted (profileId, textureType) t.id s s' := by
    have hread : (query (.bindingFindByProfileAndType profileId textureType)).run textureMachine s =
        (.ok (s.bindings.find? fun b => b.profileId = profileId && b.textureType = textureType),
          s) := rfl
    unfold writeBinding
    rw [bind_eq, run_bind, hread]
    dsimp only
    cases hfind : s.bindings.find? fun b =>
        b.profileId = profileId && b.textureType = textureType with
    | some b =>
      obtain ⟨hb, hp⟩ := Table.of_find? hfind
      have hslot : b.slot = (profileId, textureType) := by
        simp only [Bool.and_eq_true, decide_eq_true_eq] at hp
        exact Prod.ext hp.1 hp.2
      obtain ⟨hreply, hupserted⟩ := upserted_set (t := t) ht hb hslot
      exact ⟨{ b with textureId := t.id, updatedAt := s.now }, _,
        Prod.ext (congrArg Except.ok hreply) rfl, rfl, hupserted⟩
    | none =>
      have hnone : ∀ b ∈ s.bindings.rows, b.slot ≠ (profileId, textureType) := by
        intro b hb hslot
        have hno := Table.find?_eq_none.mp hfind b hb
        have hprofile : b.profileId = profileId := congrArg Prod.fst hslot
        have htype : b.textureType = textureType := congrArg Prod.snd hslot
        simp [hprofile, htype] at hno
      obtain ⟨hreply, hupserted⟩ := upserted_insert (t := t) ht hprofile hnone
      exact ⟨⟨s.bindings.seq, profileId, t.id, textureType, s.now, s.now⟩, _,
        Prod.ext (congrArg Except.ok hreply) rfl, rfl, hupserted⟩
  have htexture : (boundTexture written.textureId).run textureMachine s' = (.ok t, s') := by
    have hfound : s'.textureById written.textureId = some t := by
      rw [hid]
      exact textureById_of_mem (hupserted.textures ▸ ht)
    have hread : (query (.textureFindById written.textureId)).run textureMachine s' =
        (.ok (s'.textureById written.textureId), s') := rfl
    unfold boundTexture
    rw [bind_eq, run_bind, hread, hfound]
    rfl
  refine ⟨⟨written, t⟩, s', ?_, hupserted⟩
  unfold upsertForProfile
  rw [bind_eq, run_bind, hwritten]
  change ((boundTexture written.textureId).bind fun texture =>
    .ok (⟨written, texture⟩ : ProfileTexture)).run textureMachine s' = _
  rw [run_bind, htexture]
  rfl

end Upsert

/-! ## Deleting the texture -/

/-- The texture is gone, and with it what was bound to it. -/
structure Dropped (id : Nat) (s s' : TextureState) : Prop where
  service : s'.service = s.service
  textures : ∀ t, t ∈ s'.textures.rows ↔ t ∈ s.textures.rows ∧ t.id ≠ id
  bindings : ∀ b, b ∈ s'.bindings.rows ↔ b ∈ s.bindings.rows ∧ b.textureId ≠ id

section Delete

variable {s : TextureState} {id : Nat}

theorem dropped_dropTextures
    (hkeys : ∀ b ∈ s.bindings.rows, ∃ t ∈ s.textures.rows, t.id = b.textureId) :
    Dropped id s (s.dropTextures fun t => t.id = id) := by
  have htextures : ∀ t, t ∈ (s.textures.delete fun t => t.id = id).rows ↔
      t ∈ s.textures.rows ∧ t.id ≠ id := by
    intro t
    rw [Table.delete_rows, List.mem_filter]
    simp
  refine ⟨rfl, htextures, fun b => ?_⟩
  change b ∈ (s.bindings.delete _).rows ↔ _
  rw [Table.delete_rows, List.mem_filter]
  refine and_congr_right fun hb => ?_
  simp only [Bool.not_eq_true', Option.isNone_eq_false_iff]
  constructor
  · intro hsome hid
    obtain ⟨t, hfind⟩ := Option.isSome_iff_exists.mp hsome
    obtain ⟨ht, htid⟩ := Table.of_find? hfind
    exact ((htextures t).mp ht).2 ((of_decide_eq_true htid).trans hid)
  · intro hne
    obtain ⟨t, ht, htid⟩ := hkeys b hb
    cases hfind : (s.textures.delete fun t => t.id = id).find? fun t => t.id = b.textureId with
    | some _ => rfl
    | none =>
      have hno := Table.find?_eq_none.mp hfind t ((htextures t).mpr ⟨ht, htid ▸ hne⟩)
      simp [htid] at hno

theorem dropped_nothing (hgone : ∀ t ∈ s.textures.rows, t.id ≠ id)
    (hkeys : ∀ b ∈ s.bindings.rows, ∃ t ∈ s.textures.rows, t.id = b.textureId) :
    Dropped id s s := by
  refine ⟨rfl, fun t => ⟨fun ht => ⟨ht, hgone t ht⟩, And.left⟩,
    fun b => ⟨fun hb => ⟨hb, fun heq => ?_⟩, And.left⟩⟩
  obtain ⟨t, ht, htid⟩ := hkeys b hb
  exact hgone t ht (htid.trans heq)

theorem run_cleanupTextureBlob (storageKey : String) :
    ∃ s', (cleanupTextureBlobIfUnreferenced storageKey).run textureMachine s = (.ok (), s') ∧
      s'.service = s.service ∧ s'.textures = s.textures ∧ s'.bindings = s.bindings := by
  have hread : (query (.textureCountByStorageKey storageKey)).run textureMachine s =
      (.ok (s.textures.select fun t => t.storageKey = storageKey).length, s) := rfl
  unfold cleanupTextureBlobIfUnreferenced
  rw [bind_eq, run_bind, hread]
  dsimp only
  split
  · exact ⟨s, rfl, rfl, rfl, rfl⟩
  · exact ⟨s.deleteObject storageKey, rfl, rfl, rfl, rfl⟩

/-- What `rebindToWardrobe` does. -/
def Rebound (b : ProfileTexture) (existing : MinecraftTexture) (s s' : TextureState) : Prop :=
  ∃ s₁, Upserted b.binding.slot existing.id s s₁ ∧ Dropped b.texture.id s₁ s'

theorem run_rebindToWardrobe {b : ProfileTexture} {existing : MinecraftTexture}
    (result : WardrobeRegistrationResult)
    (hkeys : ∀ b ∈ s.bindings.rows, ∃ t ∈ s.textures.rows, t.id = b.textureId)
    (hexisting : existing ∈ s.textures.rows)
    (hprofile : s.hasProfile b.binding.profileId = true)
    (howner : ∀ t ∈ s.textures.rows, t.id = b.texture.id → t.userId = b.texture.userId) :
    ∃ r s', (rebindToWardrobe b existing result).run textureMachine s = (.ok r, s') ∧
      Rebound b existing s s' := by
  obtain ⟨bound, s₁, hbound, hupserted⟩ :=
    run_upsertForProfile b.binding.textureType hexisting hprofile
  have hkeys₁ : ∀ x ∈ s₁.bindings.rows, ∃ t ∈ s₁.textures.rows, t.id = x.textureId := by
    intro x hx
    rw [hupserted.textures]
    rcases hupserted.source x hx with ⟨-, hid⟩ | ⟨hold, -⟩
    · exact ⟨existing, hexisting, hid.symm⟩
    · exact hkeys x hold
  unfold rebindToWardrobe deleteByIdForUser
  simp only [bind_eq]
  rw [run_bind, hbound]
  dsimp only
  rw [run_bind, run_bind]
  have hread : (query (.textureFindByIdForUser b.texture.id b.texture.userId)).run
      textureMachine s₁ = (.ok (s₁.textures.find? fun t =>
        t.id = b.texture.id && t.userId = b.texture.userId), s₁) := rfl
  rw [hread]
  dsimp only
  cases hfind : s₁.textures.find? fun t =>
      t.id = b.texture.id && t.userId = b.texture.userId with
  | none =>
    have hgone : ∀ t ∈ s₁.textures.rows, t.id ≠ b.texture.id := by
      intro t ht hid
      have hno := Table.find?_eq_none.mp hfind t ht
      rw [hupserted.textures] at ht
      simp [hid, howner t ht hid] at hno
    exact ⟨_, s₁, rfl, s₁, hupserted, dropped_nothing hgone hkeys₁⟩
  | some t =>
    obtain ⟨-, hp⟩ := Table.of_find? hfind
    have hid : t.id = b.texture.id := by
      simp only [Bool.and_eq_true, decide_eq_true_eq] at hp
      exact hp.1
    obtain ⟨s₂, hcleaned, hservice, htextures, hbindings⟩ := run_cleanupTextureBlob
      (s := s₁.dropTextures fun x => x.id = t.id) t.storageKey
    have hdropped : Dropped t.id s₁ (s₁.dropTextures fun x => x.id = t.id) :=
      dropped_dropTextures hkeys₁
    have hrebound : Dropped b.texture.id s₁ s₂ := by
      rw [← hid]
      exact ⟨hservice.trans hdropped.service, htextures ▸ hdropped.textures,
        hbindings ▸ hdropped.bindings⟩
    refine ⟨⟨result.scannedBindings, result.convertedTextures, result.reboundBindings + 1,
      result.removedDuplicateTextures + 1⟩, s₂, ?_, s₁, hupserted, hrebound⟩
    change ((cleanupTextureBlobIfUnreferenced t.storageKey).bind fun _ => Prog.ok _).run
      textureMachine (s₁.dropTextures fun x => x.id = t.id) = _
    rw [run_bind, hcleaned]
    rfl

end Delete

/-! ## What has become an item -/

/-- The texture of the first entry with this owner and fingerprint. -/
def firstBound (xs : List ProfileTexture) (group : Nat × Fingerprint) : Option Nat :=
  (xs.find? fun x => x.texture.group = group).map fun x => x.texture.id

/-- The entries made the texture an item of the wardrobe. -/
def Marked (s₀ : TextureState) (xs : List ProfileTexture) (t : MinecraftTexture) : Prop :=
  ¬ s₀.HasWardrobe t.group ∧ firstBound xs t.group = some t.id

section Marked

variable {s₀ : TextureState} {xs : List ProfileTexture} {y : ProfileTexture}
  {t : MinecraftTexture}

theorem not_marked_nil : ¬ Marked s₀ [] t := fun h => by cases h.2

theorem exists_of_marked (h : Marked s₀ xs t) : ∃ x ∈ xs, x.texture.group = t.group := by
  obtain ⟨x, hfind, -⟩ := Option.map_eq_some_iff.mp h.2
  have hgroup := List.find?_some hfind
  exact ⟨x, List.mem_of_find?_eq_some hfind, of_decide_eq_true hgroup⟩

theorem firstBound_append (group : Nat × Fingerprint) :
    firstBound (xs ++ [y]) group = (firstBound xs group).or
      (if y.texture.group = group then some y.texture.id else none) := by
  unfold firstBound
  rw [List.find?_append]
  cases xs.find? fun x => x.texture.group = group with
  | some x => rfl
  | none =>
    by_cases hgroup : y.texture.group = group
    · simp [hgroup]
    · simp [hgroup]

/-- Only the first entry with an owner and a fingerprint marks, and only without an
item in the wardrobe. -/
theorem marked_append (h : s₀.HasWardrobe y.texture.group ∨
    ∃ x ∈ xs, x.texture.group = y.texture.group) :
    Marked s₀ (xs ++ [y]) t ↔ Marked s₀ xs t := by
  unfold Marked
  rw [firstBound_append]
  refine and_congr_right fun hno => ?_
  by_cases hgroup : y.texture.group = t.group
  · rw [if_pos hgroup]
    rcases h with hward | ⟨x, hx, hsame⟩
    · exact absurd (hgroup ▸ hward) hno
    · have hfirst : (firstBound xs t.group).isSome = true := by
        unfold firstBound
        rw [Option.isSome_map, List.find?_isSome]
        exact ⟨x, hx, decide_eq_true (hsame.trans hgroup)⟩
      obtain ⟨first, hfirst⟩ := Option.isSome_iff_exists.mp hfirst
      rw [hfirst]
      rfl
  · rw [if_neg hgroup, Option.or_none]

/-- Such an entry marks its texture. -/
theorem marked_append_first (hno : ¬ s₀.HasWardrobe y.texture.group)
    (hfirst : ∀ x ∈ xs, x.texture.group ≠ y.texture.group) :
    Marked s₀ (xs ++ [y]) t ↔
      Marked s₀ xs t ∨ t.group = y.texture.group ∧ t.id = y.texture.id := by
  unfold Marked
  rw [firstBound_append]
  by_cases hgroup : y.texture.group = t.group
  · have hnone : firstBound xs t.group = none := by
      unfold firstBound
      rw [Option.map_eq_none_iff, List.find?_eq_none]
      intro x hx
      simpa [← hgroup] using hfirst x hx
    rw [hnone, if_pos hgroup, Option.none_or, ← hgroup]
    simp [hno, eq_comm]
  · rw [if_neg hgroup, Option.or_none]
    constructor
    · exact Or.inl
    · rintro (h | ⟨h, -⟩)
      · exact h
      · exact absurd h.symm hgroup

end Marked

/-! ## The loop -/

/-- An entry of the list that was read. -/
structure Entry (s₀ : TextureState) (y : ProfileTexture) : Prop where
  binding : y.binding ∈ s₀.bindings.rows
  texture : y.texture ∈ s₀.textures.rows
  id : y.texture.id = y.binding.textureId

/-- What holds after the entries `xs`, none of which met a texture that an entry
before it had marked. -/
structure Progress (s₀ : TextureState) (xs : List ProfileTexture) (s : TextureState) : Prop where
  service : s.service = s₀.service
  keys : ∀ b ∈ s.bindings.rows, ∃ t ∈ s.textures.rows, t.id = b.textureId
  source : ∀ t ∈ s.textures.rows, ∃ t₀ ∈ s₀.textures.rows, t₀.id = t.id ∧ t₀.group = t.group ∧
    (t.isWardrobeItem = true ↔ t₀.isWardrobeItem = true ∨ Marked s₀ xs t₀)
  kept : ∀ t₀ ∈ s₀.textures.rows, t₀.isWardrobeItem = true ∨ Marked s₀ xs t₀ →
    ∃ t ∈ s.textures.rows, t.id = t₀.id
  gone : ∀ t₀ ∈ s₀.textures.rows, (∃ t ∈ s.textures.rows, t.id = t₀.id) ∨ s.HasWardrobe t₀.group
  worn : ∀ x ∈ xs, ∃ b ∈ s.bindings.rows, b.slot = x.binding.slot ∧
    ∃ t ∈ s.textures.rows, t.id = b.textureId ∧ t.group = x.texture.group ∧
      t.isWardrobeItem = true
  slots : ∀ b ∈ s.bindings.rows, (∃ x ∈ xs, x.binding.slot = b.slot) ∨ b ∈ s₀.bindings.rows
  todo : ∀ b ∈ s₀.bindings.rows, (∀ x ∈ xs, x.binding.slot ≠ b.slot) →
    (∃ t ∈ s.textures.rows, t.id = b.textureId) → b ∈ s.bindings.rows

section Step

variable {s₀ s : TextureState} {xs : List ProfileTexture} {y : ProfileTexture}

theorem progress_start (h : ForeignKeys s₀) : Progress s₀ [] s₀ where
  service := rfl
  keys := h.textures
  source t ht := ⟨t, ht, rfl, rfl, Or.inl, fun hw => hw.resolve_right not_marked_nil⟩
  kept t ht _ := ⟨t, ht, rfl⟩
  gone t ht := Or.inl ⟨t, ht, rfl⟩
  worn _ hx := absurd hx List.not_mem_nil
  slots _ hb := Or.inr hb
  todo _ hb _ _ := hb

/-- A texture of the list, as it is now. -/
theorem Progress.row (h : Progress s₀ xs s) {t₀ t : MinecraftTexture}
    (ht₀ : t₀ ∈ s₀.textures.rows) (ht : t ∈ s.textures.rows) (hid : t.id = t₀.id) :
    t.group = t₀.group ∧
      (t.isWardrobeItem = true ↔ t₀.isWardrobeItem = true ∨ Marked s₀ xs t₀) := by
  obtain ⟨t₁, ht₁, hid₁, hgroup, hitem⟩ := h.source t ht
  have hsame := s₀.textures.eq_of_ident ht₁ ht₀ (hid₁.trans hid)
  subst hsame
  exact ⟨hgroup.symm, hitem⟩

/-- Items are still there. -/
theorem Progress.item (h : Progress s₀ xs s) {t₀ : MinecraftTexture}
    (ht₀ : t₀ ∈ s₀.textures.rows) (hitem : t₀.isWardrobeItem = true ∨ Marked s₀ xs t₀) :
    ∃ t ∈ s.textures.rows, t.id = t₀.id ∧ t.group = t₀.group ∧ t.isWardrobeItem = true := by
  obtain ⟨t, ht, hid⟩ := h.kept t₀ ht₀ hitem
  obtain ⟨hgroup, hiff⟩ := h.row ht₀ ht hid
  exact ⟨t, ht, hid, hgroup, hiff.mpr hitem⟩

/-- An entry about a texture that was an item when the list was read. -/
theorem Progress.skip (h : Progress s₀ xs s) (hy : Entry s₀ y)
    (hslot : ∀ x ∈ xs, x.binding.slot ≠ y.binding.slot)
    (hitem : y.texture.isWardrobeItem = true) : Progress s₀ (xs ++ [y]) s := by
  have hmarked : ∀ t, Marked s₀ (xs ++ [y]) t ↔ Marked s₀ xs t := fun t =>
    marked_append (Or.inl ⟨y.texture, hy.texture, rfl, hitem⟩)
  refine ⟨h.service, h.keys, ?_, ?_, h.gone, ?_, ?_, ?_⟩
  · intro t ht
    simp only [hmarked]
    exact h.source t ht
  · intro t₀ ht₀
    rw [hmarked]
    exact h.kept t₀ ht₀
  · intro x hx
    rcases List.mem_append.mp hx with hx | hx
    · exact h.worn x hx
    · rw [List.mem_singleton.mp hx]
      obtain ⟨t, ht, hid, hgroup, hw⟩ := h.item hy.texture (Or.inl hitem)
      have hbound : t.id = y.binding.textureId := hid.trans hy.id
      exact ⟨y.binding, h.todo _ hy.binding hslot ⟨t, ht, hbound⟩, rfl, t, ht, hbound, hgroup, hw⟩
  · intro b hb
    refine (h.slots b hb).imp_left ?_
    rintro ⟨x, hx, hxb⟩
    exact ⟨x, List.mem_append_left _ hx, hxb⟩
  · intro b hb hno ht
    exact h.todo b hb (fun x hx => hno x (List.mem_append_left _ hx)) ht

/-- The rows after `mark_as_wardrobe_item`. -/
theorem mem_marked {id : Nat} {t' : MinecraftTexture} :
    t' ∈ ((TextureStmt.textureMarkAsWardrobeItem id).exec s).2.textures.rows ↔
      ∃ t ∈ s.textures.rows, (if t.id = id then markedAsWardrobeItem s.now t else t) = t' := by
  change t' ∈ s.textures.rows.map (fun t =>
    if decide (t.id = id) = true then markedAsWardrobeItem s.now t else t) ↔ _
  simp only [decide_eq_true_eq, List.mem_map]

/-- The first entry about an owner and a fingerprint, without an item. -/
theorem Progress.mark (h : Progress s₀ xs s) (hy : Entry s₀ y)
    (hslot : ∀ x ∈ xs, x.binding.slot ≠ y.binding.slot)
    (hno : ¬ s.HasWardrobe y.texture.group) :
    (∃ t ∈ s.textures.rows, t.id = y.texture.id) ∧
      Progress s₀ (xs ++ [y])
        ((TextureStmt.textureMarkAsWardrobeItem y.texture.id).exec s).2 := by
  have hthere : ∃ t ∈ s.textures.rows, t.id = y.texture.id :=
    (h.gone y.texture hy.texture).resolve_right hno
  refine ⟨hthere, ?_⟩
  have hno₀ : ¬ s₀.HasWardrobe y.texture.group := by
    rintro ⟨t₀, ht₀, hgroup, hitem⟩
    obtain ⟨t, ht, -, hsame, hw⟩ := h.item ht₀ (Or.inl hitem)
    exact hno ⟨t, ht, hsame.trans hgroup, hw⟩
  have hfirst : ∀ x ∈ xs, x.texture.group ≠ y.texture.group := by
    intro x hx hsame
    obtain ⟨-, -, -, t, ht, -, hgroup, hw⟩ := h.worn x hx
    exact hno ⟨t, ht, hgroup.trans hsame, hw⟩
  have hmarked : ∀ t, Marked s₀ (xs ++ [y]) t ↔
      Marked s₀ xs t ∨ t.group = y.texture.group ∧ t.id = y.texture.id := fun t =>
    marked_append_first hno₀ hfirst
  -- a row afterwards has the id and the group that it had
  have hrow : ∀ t ∈ s.textures.rows, ∃ t' ∈ ((TextureStmt.textureMarkAsWardrobeItem
      y.texture.id).exec s).2.textures.rows, t'.id = t.id ∧ t'.group = t.group ∧
        (t.isWardrobeItem = true ∨ t.id = y.texture.id → t'.isWardrobeItem = true) := by
    intro t ht
    refine ⟨_, mem_marked.mpr ⟨t, ht, rfl⟩, ?_⟩
    by_cases hid : t.id = y.texture.id
    · rw [if_pos hid]
      exact ⟨rfl, rfl, fun _ => rfl⟩
    · rw [if_neg hid]
      exact ⟨rfl, rfl, fun hw => hw.resolve_right hid⟩
  refine ⟨h.service, ?_, ?_, ?_, ?_, ?_, ?_, ?_⟩
  · intro b hb
    obtain ⟨t, ht, hid⟩ := h.keys b hb
    obtain ⟨t', ht', hid', -, -⟩ := hrow t ht
    exact ⟨t', ht', hid'.trans hid⟩
  · intro t' ht'
    obtain ⟨t, ht, rfl⟩ := mem_marked.mp ht'
    obtain ⟨t₀, ht₀, hid₀, hgroup, hitem⟩ := h.source t ht
    by_cases hid : t.id = y.texture.id
    · have hsame := s₀.textures.eq_of_ident ht₀ hy.texture (hid₀.trans hid)
      rw [if_pos hid]
      refine ⟨t₀, ht₀, hid₀, hgroup, fun _ => Or.inr ((hmarked t₀).mpr (Or.inr ?_)), fun _ => rfl⟩
      rw [hsame]
      exact ⟨rfl, rfl⟩
    · rw [if_neg hid]
      refine ⟨t₀, ht₀, hid₀, hgroup, hitem.trans (or_congr_right ?_)⟩
      rw [hmarked]
      refine ⟨Or.inl, fun hm => hm.resolve_right ?_⟩
      rintro ⟨-, hid'⟩
      exact hid (hid₀.symm.trans hid')
  · intro t₀ ht₀ hitem
    have hold : ∃ t ∈ s.textures.rows, t.id = t₀.id := by
      rw [hmarked] at hitem
      rcases hitem with hitem | hitem | ⟨-, hid⟩
      · exact h.kept t₀ ht₀ (Or.inl hitem)
      · exact h.kept t₀ ht₀ (Or.inr hitem)
      · rw [hid]
        exact hthere
    obtain ⟨t, ht, hid⟩ := hold
    obtain ⟨t', ht', hid', -, -⟩ := hrow t ht
    exact ⟨t', ht', hid'.trans hid⟩
  · intro t₀ ht₀
    rcases h.gone t₀ ht₀ with ⟨t, ht, hid⟩ | ⟨t, ht, hgroup, hw⟩
    · obtain ⟨t', ht', hid', -, -⟩ := hrow t ht
      exact Or.inl ⟨t', ht', hid'.trans hid⟩
    · obtain ⟨t', ht', -, hgroup', hw'⟩ := hrow t ht
      exact Or.inr ⟨t', ht', hgroup'.trans hgroup, hw' (Or.inl hw)⟩
  · intro x hx
    rcases List.mem_append.mp hx with hx | hx
    · obtain ⟨b, hb, hbx, t, ht, hid, hgroup, hw⟩ := h.worn x hx
      obtain ⟨t', ht', hid', hgroup', hw'⟩ := hrow t ht
      exact ⟨b, hb, hbx, t', ht', hid'.trans hid, hgroup'.trans hgroup, hw' (Or.inl hw)⟩
    · rw [List.mem_singleton.mp hx]
      obtain ⟨t, ht, hid⟩ := hthere
      have hbound : t.id = y.binding.textureId := hid.trans hy.id
      obtain ⟨t', ht', hid', hgroup', hw'⟩ := hrow t ht
      exact ⟨y.binding, h.todo _ hy.binding hslot ⟨t, ht, hbound⟩, rfl, t', ht',
        hid'.trans hbound, hgroup'.trans (h.row hy.texture ht hid).1, hw' (Or.inr hid)⟩
  · intro b hb
    refine (h.slots b hb).imp_left ?_
    rintro ⟨x, hx, hxb⟩
    exact ⟨x, List.mem_append_left _ hx, hxb⟩
  · rintro b hb hnone ⟨t', ht', hid'⟩
    obtain ⟨t, ht, rfl⟩ := mem_marked.mp ht'
    refine h.todo b hb (fun x hx => hnone x (List.mem_append_left _ hx)) ⟨t, ht, ?_⟩
    rw [← hid']
    split <;> rfl

/-- An entry whose texture has a duplicate in the wardrobe. -/
theorem Progress.rebind (h : Progress s₀ xs s) (hy : Entry s₀ y)
    (hslot : ∀ x ∈ xs, x.binding.slot ≠ y.binding.slot)
    (hitem : y.texture.isWardrobeItem = false) (hno : ¬ Marked s₀ xs y.texture)
    {existing : MinecraftTexture} (hexisting : existing ∈ s.textures.rows)
    (hgroup : existing.group = y.texture.group) (hward : existing.isWardrobeItem = true)
    {s' : TextureState} (hs' : Rebound y existing s s') : Progress s₀ (xs ++ [y]) s' := by
  obtain ⟨s₁, hup, hdrop⟩ := hs'
  -- the texture of the entry is no item, and so no item is lost
  have hother : ∀ t ∈ s.textures.rows, t.isWardrobeItem = true → t.id ≠ y.texture.id := by
    intro t ht hw hid
    rcases (h.row hy.texture ht hid).2.mp hw with hw | hm
    · rw [hitem] at hw
      cases hw
    · exact hno hm
  have hstays : ∀ t ∈ s.textures.rows, t.id ≠ y.texture.id → t ∈ s'.textures.rows := by
    intro t ht hne
    exact (hdrop.textures t).mpr ⟨hup.textures ▸ ht, hne⟩
  have hthere : existing ∈ s'.textures.rows :=
    hstays existing hexisting (hother existing hexisting hward)
  have hold : ∀ t ∈ s'.textures.rows, t ∈ s.textures.rows ∧ t.id ≠ y.texture.id := by
    intro t ht
    obtain ⟨ht, hne⟩ := (hdrop.textures t).mp ht
    exact ⟨hup.textures ▸ ht, hne⟩
  have hmarked : ∀ t, Marked s₀ (xs ++ [y]) t ↔ Marked s₀ xs t := by
    refine fun t => marked_append ?_
    obtain ⟨t₀, ht₀, -, hsame, hiff⟩ := h.source existing hexisting
    rcases hiff.mp hward with hw | hm
    · exact Or.inl ⟨t₀, ht₀, hsame.trans hgroup, hw⟩
    · obtain ⟨x, hx, hxg⟩ := exists_of_marked hm
      exact Or.inr ⟨x, hx, hxg.trans (hsame.trans hgroup)⟩
  refine ⟨?_, ?_, ?_, ?_, ?_, ?_, ?_, ?_⟩
  · rw [hdrop.service, hup.service, h.service]
  · intro b hb
    obtain ⟨hb, hne⟩ := (hdrop.bindings b).mp hb
    rcases hup.source b hb with ⟨-, hid⟩ | ⟨hb, -⟩
    · exact ⟨existing, hthere, hid.symm⟩
    · obtain ⟨t, ht, hid⟩ := h.keys b hb
      exact ⟨t, hstays t ht (hid ▸ hne), hid⟩
  · intro t ht
    simp only [hmarked]
    exact h.source t (hold t ht).1
  · intro t₀ ht₀ hw
    rw [hmarked] at hw
    obtain ⟨t, ht, hid, -, hw'⟩ := h.item ht₀ hw
    exact ⟨t, hstays t ht (hother t ht hw'), hid⟩
  · intro t₀ ht₀
    rcases h.gone t₀ ht₀ with ⟨t, ht, hid⟩ | ⟨t, ht, hsame, hw⟩
    · by_cases hne : t.id = y.texture.id
      · have hsame := s₀.textures.eq_of_ident ht₀ hy.texture (hid.symm.trans hne)
        exact Or.inr ⟨existing, hthere, hsame ▸ hgroup, hward⟩
      · exact Or.inl ⟨t, hstays t ht hne, hid⟩
    · exact Or.inr ⟨t, hstays t ht (hother t ht hw), hsame, hw⟩
  · intro x hx
    have hwears : ∀ b ∈ s₁.bindings.rows, ∀ t ∈ s'.textures.rows, t.id = b.textureId →
        b ∈ s'.bindings.rows := fun b hb t ht hid =>
      (hdrop.bindings b).mpr ⟨hb, hid ▸ (hold t ht).2⟩
    rcases List.mem_append.mp hx with hx | hx
    · obtain ⟨b, hb, hbx, t, ht, hid, hsame, hw⟩ := h.worn x hx
      have ht' := hstays t ht (hother t ht hw)
      have hne : b.slot ≠ y.binding.slot := hbx ▸ hslot x hx
      exact ⟨b, hwears b (hup.kept b hb hne) t ht' hid, hbx, t, ht', hid, hsame, hw⟩
    · rw [List.mem_singleton.mp hx]
      obtain ⟨b, hb, hslot, hid⟩ := hup.bound
      exact ⟨b, hwears b hb existing hthere hid.symm, hslot, existing, hthere, hid.symm, hgroup,
        hward⟩
  · intro b hb
    obtain ⟨hb, -⟩ := (hdrop.bindings b).mp hb
    rcases hup.source b hb with ⟨hslot, -⟩ | ⟨hb, -⟩
    · exact Or.inl ⟨y, by simp, hslot.symm⟩
    · refine (h.slots b hb).imp_left ?_
      rintro ⟨x, hx, hxb⟩
      exact ⟨x, List.mem_append_left _ hx, hxb⟩
  · rintro b hb hnone ⟨t, ht, hid⟩
    obtain ⟨hts, hne⟩ := hold t ht
    have hbs := h.todo b hb (fun x hx => hnone x (List.mem_append_left _ hx)) ⟨t, hts, hid⟩
    have hslot : b.slot ≠ y.binding.slot := fun heq => hnone y (by simp) heq.symm
    exact (hdrop.bindings b).mpr ⟨hup.kept b hbs hslot, hid ▸ hne⟩

/-- The list knows the fingerprint of every row with its id. -/
theorem Progress.owner (h : Progress s₀ xs s) (hy : Entry s₀ y) {t : MinecraftTexture}
    (ht : t ∈ s.textures.rows) (hid : t.id = y.texture.id) : t.userId = y.texture.userId :=
  congrArg Prod.fst (h.row hy.texture ht hid).1

theorem of_foundFingerprint {t : MinecraftTexture}
    (h : (s.textures.find? fun t => t.userId = y.texture.userId &&
      t.fingerprint = y.texture.fingerprint && t.isWardrobeItem) = some t) :
    t ∈ s.textures.rows ∧ t.group = y.texture.group ∧ t.isWardrobeItem = true := by
  obtain ⟨ht, hp⟩ := Table.of_find? h
  simp only [Bool.and_eq_true, decide_eq_true_eq] at hp
  exact ⟨ht, Prod.ext hp.1.1 hp.1.2, hp.2⟩

theorem no_foundFingerprint
    (h : (s.textures.find? fun t => t.userId = y.texture.userId &&
      t.fingerprint = y.texture.fingerprint && t.isWardrobeItem) = none) :
    ¬ s.HasWardrobe y.texture.group := by
  rintro ⟨t, ht, hgroup, hw⟩
  have huser : t.userId = y.texture.userId := congrArg Prod.fst hgroup
  have hprint : t.fingerprint = y.texture.fingerprint := congrArg Prod.snd hgroup
  have hno := Table.find?_eq_none.mp h t ht
  simp [huser, hprint, hw] at hno

/-- **One entry** that is not about a marked texture. -/
theorem Progress.run_registerBinding (h : Progress s₀ xs s) (hkeys : ForeignKeys s₀)
    (hy : Entry s₀ y) (hslot : ∀ x ∈ xs, x.binding.slot ≠ y.binding.slot)
    (hno : ¬ Marked s₀ xs y.texture) (result : WardrobeRegistrationResult) :
    ∃ r s', (registerBinding y result).run textureMachine s = (.ok r, s') ∧
      Progress s₀ (xs ++ [y]) s' := by
  unfold registerBinding
  cases hitem : y.texture.isWardrobeItem with
  | true => exact ⟨result, s, rfl, h.skip hy hslot hitem⟩
  | false =>
    have hread : (query (.textureFindWardrobeByFingerprint y.texture.userId
        y.texture.fingerprint)).run textureMachine s =
          (.ok (s.textures.find? fun t => t.userId = y.texture.userId &&
            t.fingerprint = y.texture.fingerprint && t.isWardrobeItem), s) := rfl
    rw [if_neg (by decide), bind_eq, run_bind, hread]
    dsimp only
    cases hfind : s.textures.find? fun t => t.userId = y.texture.userId &&
        t.fingerprint = y.texture.fingerprint && t.isWardrobeItem with
    | none =>
      obtain ⟨⟨t, ht, hid⟩, hprogress⟩ := h.mark hy hslot (no_foundFingerprint hfind)
      refine ⟨{ result with convertedTextures := result.convertedTextures + 1 }, _, ?_, hprogress⟩
      have hmark : (query (.textureMarkAsWardrobeItem y.texture.id)).run textureMachine s =
          (.ok (some (markedAsWardrobeItem s.now t)),
            ((TextureStmt.textureMarkAsWardrobeItem y.texture.id).exec s).2) := by
        have hreply : ((TextureStmt.textureMarkAsWardrobeItem y.texture.id).exec s).1 =
            some (markedAsWardrobeItem s.now t) := by
          change (s.textureById y.texture.id).map (markedAsWardrobeItem s.now) = _
          rw [← hid, textureById_of_mem ht]
          rfl
        exact Prod.ext (congrArg Except.ok hreply) rfl
      dsimp only
      rw [bind_eq, run_bind, hmark]
      rfl
    | some existing =>
      obtain ⟨hexisting, hgroup, hw⟩ := of_foundFingerprint hfind
      have hprofile : s.hasProfile y.binding.profileId = true := by
        have hprofile := hkeys.profiles _ hy.binding
        unfold TextureState.hasProfile at hprofile ⊢
        rwa [h.service]
      obtain ⟨r, s', hrun, hrebound⟩ := run_rebindToWardrobe (b := y) result h.keys hexisting
        hprofile fun t ht hid => h.owner hy ht hid
      exact ⟨r, s', hrun, h.rebind hy hslot hitem hno hexisting hgroup hw hrebound⟩

/-- **An entry about a marked texture** deletes it, and an earlier entry loses what
it bound. -/
theorem Progress.run_marked (h : Progress s₀ xs s) (hkeys : ForeignKeys s₀)
    (hy : Entry s₀ y) (hslot : ∀ x ∈ xs, x.binding.slot ≠ y.binding.slot)
    (hmarked : Marked s₀ xs y.texture) (result : WardrobeRegistrationResult) :
    ∃ x ∈ xs, ∀ b ∈ ((registerBinding y result).run textureMachine s).2.bindings.rows,
      b.slot ≠ x.binding.slot := by
  obtain ⟨t, ht, -, hgroup, hw⟩ := h.item hy.texture (Or.inr hmarked)
  -- the marked texture is the only item with its fingerprint
  have hsole : ∀ t ∈ s.textures.rows, t.group = y.texture.group → t.isWardrobeItem = true →
      t.id = y.texture.id := by
    intro t ht hgroup hw
    obtain ⟨t₀, ht₀, hid, hsame, hiff⟩ := h.source t ht
    rcases hiff.mp hw with hw₀ | hm
    · exact absurd ⟨t₀, ht₀, hsame.trans hgroup, hw₀⟩ hmarked.1
    · have hfirst := hm.2
      rw [hsame, hgroup, hmarked.2] at hfirst
      exact hid.symm.trans (Option.some.inj hfirst).symm
  have hitem : y.texture.isWardrobeItem = false := by
    cases hitem : y.texture.isWardrobeItem with
    | false => rfl
    | true => exact absurd ⟨y.texture, hy.texture, rfl, hitem⟩ hmarked.1
  obtain ⟨x, hx, hxg⟩ := exists_of_marked hmarked
  have hread : (query (.textureFindWardrobeByFingerprint y.texture.userId
      y.texture.fingerprint)).run textureMachine s =
        (.ok (s.textures.find? fun t => t.userId = y.texture.userId &&
          t.fingerprint = y.texture.fingerprint && t.isWardrobeItem), s) := rfl
  unfold registerBinding
  rw [hitem, if_neg (by decide), bind_eq, run_bind, hread]
  dsimp only
  cases hfind : s.textures.find? fun t => t.userId = y.texture.userId &&
      t.fingerprint = y.texture.fingerprint && t.isWardrobeItem with
  | none => exact absurd ⟨t, ht, hgroup, hw⟩ (no_foundFingerprint hfind)
  | some existing =>
    obtain ⟨hexisting, -, -⟩ := of_foundFingerprint hfind
    have hprofile : s.hasProfile y.binding.profileId = true := by
      have hprofile := hkeys.profiles _ hy.binding
      unfold TextureState.hasProfile at hprofile ⊢
      rwa [h.service]
    obtain ⟨r, s', hrun, s₁, hup, hdrop⟩ := run_rebindToWardrobe (b := y) result h.keys hexisting
      hprofile fun t ht hid => h.owner hy ht hid
    refine ⟨x, hx, fun b' hb' hsame => ?_⟩
    change b' ∈ ((rebindToWardrobe y existing result).run textureMachine s).2.bindings.rows at hb'
    rw [hrun] at hb'
    obtain ⟨hb₁, hne⟩ := (hdrop.bindings b').mp hb'
    rcases hup.source b' hb₁ with ⟨hslot', -⟩ | ⟨hbs, -⟩
    · exact hslot x hx (hsame.symm.trans hslot')
    · obtain ⟨b, hb, hbx, t', ht', hid', hg', hw'⟩ := h.worn x hx
      have heq : b' = b := eq_of_slot s hbs hb (hsame.trans hbx.symm)
      rw [heq, ← hid', hsole t' ht' (hg'.trans hxg) hw'] at hne
      exact hne rfl

/-! ## What is lost stays lost -/

/-- A slot that is empty stays empty. -/
def StaysEmpty (slot : Nat × TextureType) (s s' : TextureState) : Prop :=
  (∀ b ∈ s.bindings.rows, b.slot ≠ slot) → ∀ b ∈ s'.bindings.rows, b.slot ≠ slot

theorem staysEmpty_set (slot : Nat × TextureType) (id textureId : Nat) (s : TextureState) :
    StaysEmpty slot s (s.setBindingTexture id textureId).2 := by
  unfold TextureState.setBindingTexture
  simp only
  split
  · intro h b hb
    obtain ⟨b₀, hb₀, rfl⟩ := List.mem_map.mp hb
    split
    · exact h b₀ hb₀
    · exact h b₀ hb₀
  · exact fun h => h

theorem staysEmpty_insert {slot : Nat × TextureType} {profileId textureId : Nat}
    {textureType : TextureType} (hne : (profileId, textureType) ≠ slot) (s : TextureState) :
    StaysEmpty slot s (s.insertBinding profileId textureId textureType).2 := by
  unfold TextureState.insertBinding
  simp only
  split
  · split
    · next bindings hinsert =>
      intro h b hb
      change b ∈ bindings.rows at hb
      rw [(Table.insert?_eq_some hinsert).1] at hb
      rcases List.mem_append.mp hb with hold | hnew
      · exact h b hold
      · rw [List.mem_singleton.mp hnew]
        exact hne
    · exact fun h => h
  · exact fun h => h

/-- The program fills no empty slot. -/
abbrev FillsNot {α : Type} (slot : Nat × TextureType) (p : TextureProg α) : Prop :=
  p.Within fun i => ∀ s, StaysEmpty slot s (textureMachine.exec i s).2

theorem fillsNot_required {α : Type} {slot : Nat × TextureType} {e : TextureFailure}
    {found : Option α} : FillsNot slot (required e found) := by
  cases found <;> trivial

theorem fillsNot_upsertForProfile {slot : Nat × TextureType} {profileId textureId : Nat}
    {textureType : TextureType} (hne : (profileId, textureType) ≠ slot) :
    FillsNot slot (upsertForProfile profileId textureId textureType) := by
  have hwrite : FillsNot slot (writeBinding profileId textureId textureType) := by
    refine Within.stmt_bind (fun _ h => h) fun found => ?_
    cases found with
    | none => exact ⟨staysEmpty_insert hne, fun _ => trivial⟩
    | some b => exact ⟨staysEmpty_set slot _ _, fun _ => trivial⟩
  refine Within.bind hwrite fun written => Within.bind fillsNot_required fun b => ?_
  exact Within.bind (Within.stmt_bind (fun _ h => h) fun row => fillsNot_required)
    fun _ => trivial

theorem fillsNot_rebindToWardrobe {slot : Nat × TextureType} {y : ProfileTexture}
    {existing : MinecraftTexture} {result : WardrobeRegistrationResult}
    (hne : y.binding.slot ≠ slot) : FillsNot slot (rebindToWardrobe y existing result) := by
  have hdelete : FillsNot slot (deleteByIdForUser y.texture.id y.texture.userId) := by
    refine Within.stmt_bind (fun _ h => h) fun found => ?_
    cases found with
    | none => trivial
    | some t =>
      refine Within.stmt_bind (fun s h b hb => ?_) fun _ => trivial
      exact h b (List.mem_filter.mp hb).1
  refine Within.bind (fillsNot_upsertForProfile hne) fun _ => Within.bind hdelete fun found => ?_
  cases found with
  | none => trivial
  | some t =>
    refine Within.bind (Within.stmt_bind (fun _ h => h) fun count => ?_) fun _ => trivial
    split
    · trivial
    · exact ⟨fun _ h => h, fun _ => trivial⟩

theorem fillsNot_registerBindings {slot : Nat × TextureType} (ys : List ProfileTexture)
    (hne : ∀ y ∈ ys, y.binding.slot ≠ slot) (result : WardrobeRegistrationResult) :
    FillsNot slot (registerBindings ys result) := by
  induction ys generalizing result with
  | nil => trivial
  | cons y ys ih =>
    refine Within.bind ?_ fun r => ih (fun z hz => hne z (List.mem_cons_of_mem _ hz)) r
    unfold registerBinding
    split
    · trivial
    · refine Within.stmt_bind (fun _ h => h) fun found => ?_
      cases found with
      | none =>
        exact Within.stmt_bind (fun _ h => h) fun row =>
          Within.bind fillsNot_required fun _ => trivial
      | some existing => exact fillsNot_rebindToWardrobe (hne y (List.mem_cons_self ..))

/-- What no later entry is about stays lost. -/
theorem run_registerBindings_lost {slot : Nat × TextureType} {ys : List ProfileTexture}
    (hne : ∀ y ∈ ys, y.binding.slot ≠ slot) (result : WardrobeRegistrationResult)
    (h : ∀ b ∈ s.bindings.rows, b.slot ≠ slot) :
    ∀ b ∈ ((registerBindings ys result).run textureMachine s).2.bindings.rows, b.slot ≠ slot :=
  Within.run_respects (M := textureMachine) (r := StaysEmpty slot) (fun _ h => h)
    (fun _ _ _ hab hbc h => hbc (hab h)) (fillsNot_registerBindings ys hne result) s h

end Step

/-! ## The whole list -/

section Loop

variable {s₀ s : TextureState}

theorem listed_of_mem {y : ProfileTexture} (hy : y ∈ s₀.joined s₀.bindings.rows) :
    Entry s₀ y := by
  obtain ⟨b, hb, hjoin⟩ := List.mem_filterMap.mp hy
  obtain ⟨t, hfind, rfl⟩ := Option.map_eq_some_iff.mp hjoin
  obtain ⟨ht, hid⟩ := Table.of_find? hfind
  exact ⟨hb, ht, of_decide_eq_true hid⟩

theorem exists_listed (h : ForeignKeys s₀) {b : Binding} (hb : b ∈ s₀.bindings.rows) :
    ∃ y ∈ s₀.joined s₀.bindings.rows, y.binding = b := by
  obtain ⟨t, ht, hid⟩ := h.textures b hb
  refine ⟨⟨b, t⟩, List.mem_filterMap.mpr ⟨b, hb, ?_⟩, rfl⟩
  rw [← hid, textureById_of_mem ht]
  rfl

/-- The list has one entry for each slot. -/
theorem slots_distinct (s₀ : TextureState) : (s₀.joined s₀.bindings.rows).Pairwise
    fun x y => x.binding.slot ≠ y.binding.slot := by
  unfold TextureState.joined
  refine List.Pairwise.filterMap _ ?_ s₀.bindings.unique
  intro a b hclash x hx y hy hslot
  obtain ⟨_, -, rfl⟩ := Option.map_eq_some_iff.mp hx
  obtain ⟨_, -, rfl⟩ := Option.map_eq_some_iff.mp hy
  have hprofile : a.profileId = b.profileId := congrArg Prod.fst hslot
  have htype : a.textureType = b.textureType := congrArg Prod.snd hslot
  simp [bindingSchema, hprofile, htype] at hclash

/-- **Either no entry is about a marked texture, and all succeed, or one is, and an
entry loses its slot.** -/
theorem registerBindings_cases (hkeys : ForeignKeys s₀) (ys : List ProfileTexture)
    {xs : List ProfileTexture} (result : WardrobeRegistrationResult) (h : Progress s₀ xs s)
    (hlisted : ∀ y ∈ ys, Entry s₀ y)
    (hslots : (xs ++ ys).Pairwise fun x y => x.binding.slot ≠ y.binding.slot) :
    (∀ zs y us, ys = zs ++ y :: us → ¬ Marked s₀ (xs ++ zs) y.texture) ∧
        (∃ r s', (registerBindings ys result).run textureMachine s = (.ok r, s') ∧
          Progress s₀ (xs ++ ys) s') ∨
      (∃ zs y us, ys = zs ++ y :: us ∧ Marked s₀ (xs ++ zs) y.texture) ∧
        ∃ x ∈ xs ++ ys, ∀ b ∈ ((registerBindings ys result).run textureMachine s).2.bindings.rows,
          b.slot ≠ x.binding.slot := by
  induction ys generalizing xs s result with
  | nil =>
    refine Or.inl ⟨fun zs y us heq => ?_, result, s, rfl, ?_⟩
    · cases zs <;> cases heq
    · rwa [List.append_nil]
  | cons y ys ih =>
    have hy := hlisted y (List.mem_cons_self ..)
    have hbefore : ∀ x ∈ xs, x.binding.slot ≠ y.binding.slot := fun x hx =>
      (List.pairwise_append.mp hslots).2.2 x hx y (List.mem_cons_self ..)
    have hassoc : xs ++ y :: ys = xs ++ [y] ++ ys := by simp
    by_cases hmarked : Marked s₀ xs y.texture
    · obtain ⟨x, hx, hlost⟩ := h.run_marked hkeys hy hbefore hmarked result
      refine Or.inr ⟨⟨[], y, ys, rfl, by rwa [List.append_nil]⟩, x, List.mem_append_left _ hx, ?_⟩
      have hlater : ∀ z ∈ ys, z.binding.slot ≠ x.binding.slot := fun z hz heq =>
        (List.pairwise_append.mp hslots).2.2 x hx z (List.mem_cons_of_mem _ hz) heq.symm
      change ∀ b ∈ (((registerBinding y result).bind fun r => registerBindings ys r).run
        textureMachine s).2.bindings.rows, _
      rw [run_bind]
      generalize (registerBinding y result).run textureMachine s = out at hlost ⊢
      obtain ⟨r, s'⟩ := out
      cases r with
      | ok r => exact run_registerBindings_lost hlater r hlost
      | error e => exact hlost
    · obtain ⟨r, s', hrun, hprogress⟩ := h.run_registerBinding hkeys hy hbefore hmarked result
      have hrest := ih r hprogress (fun z hz => hlisted z (List.mem_cons_of_mem _ hz))
        (hassoc ▸ hslots)
      have hrun : (registerBindings (y :: ys) result).run textureMachine s =
          (registerBindings ys r).run textureMachine s' := by
        change ((registerBinding y result).bind fun r => registerBindings ys r).run
          textureMachine s = _
        rw [run_bind, hrun]
      rw [hrun, hassoc]
      rcases hrest with ⟨hnone, hok⟩ | ⟨⟨zs, z, us, heq, hm⟩, hlost⟩
      · refine Or.inl ⟨fun zs z us heq => ?_, hok⟩
        cases zs with
        | nil =>
          cases heq
          rwa [List.append_nil]
        | cons w ws =>
          cases heq
          have hno := hnone ws z us rfl
          rwa [List.append_assoc] at hno
      · refine Or.inr ⟨⟨y :: zs, z, us, by rw [heq]; rfl, ?_⟩, hlost⟩
        rwa [List.append_assoc] at hm

/-- Nothing happens to a list of items. -/
theorem run_registerBindings_items (ys : List ProfileTexture)
    (result : WardrobeRegistrationResult) (h : ∀ y ∈ ys, y.texture.isWardrobeItem = true) :
    (registerBindings ys result).run textureMachine s = (.ok result, s) := by
  induction ys with
  | nil => rfl
  | cons y ys ih =>
    change ((registerBinding y result).bind fun r => registerBindings ys r).run textureMachine s = _
    unfold registerBinding
    rw [if_pos (h y (List.mem_cons_self ..))]
    exact ih fun z hz => h z (List.mem_cons_of_mem _ hz)

end Loop

/-- No entry of the list is about a texture that an entry before it makes an item: the
texture of the first entry with an owner and a fingerprint that have no item in the
wardrobe is bound only once. -/
def MeetsNoMarked (s : TextureState) : Prop :=
  ∀ xs y ys, s.joined s.bindings.rows = xs ++ y :: ys → ¬ Marked s xs y.texture

/-- What the registration is to leave behind. -/
structure LeavesDressed (s s' : TextureState) : Prop where
  worn : ∀ b ∈ s.bindings.rows, ∀ t ∈ s.textures.rows, t.id = b.textureId →
    ∃ b' ∈ s'.bindings.rows, b'.slot = b.slot ∧ ∃ t' ∈ s'.textures.rows, t'.id = b'.textureId ∧
      t'.hash = t.hash ∧ t'.textureType = t.textureType ∧ t'.textureModel = t.textureModel
  items : ∀ b' ∈ s'.bindings.rows, ∃ t' ∈ s'.textures.rows, t'.id = b'.textureId ∧
    t'.isWardrobeItem = true
  again : (registerBoundTexturesInWardrobe.run textureMachine s').2 = s'

theorem Progress.preserves {s₀ s : TextureState} (hkeys : ForeignKeys s₀)
    (h : Progress s₀ (s₀.joined s₀.bindings.rows) s) : LeavesDressed s₀ s := by
  have hworn : ∀ b₀ ∈ s₀.bindings.rows, ∃ y, Entry s₀ y ∧ y.binding = b₀ ∧
      ∃ b ∈ s.bindings.rows, b.slot = b₀.slot ∧ ∃ t ∈ s.textures.rows, t.id = b.textureId ∧
        t.group = y.texture.group ∧ t.isWardrobeItem = true := by
    intro b₀ hb₀
    obtain ⟨y, hy, hbinding⟩ := exists_listed hkeys hb₀
    have hbound := h.worn y hy
    rw [hbinding] at hbound
    exact ⟨y, listed_of_mem hy, hbinding, hbound⟩
  have hitems : ∀ b ∈ s.bindings.rows, ∃ t ∈ s.textures.rows, t.id = b.textureId ∧
      t.isWardrobeItem = true := by
    intro b hb
    obtain ⟨b₀, hb₀, hslot⟩ : ∃ b₀ ∈ s₀.bindings.rows, b₀.slot = b.slot := by
      rcases h.slots b hb with ⟨x, hx, hslot⟩ | hb₀
      · exact ⟨x.binding, (listed_of_mem hx).binding, hslot⟩
      · exact ⟨b, hb₀, rfl⟩
    obtain ⟨_, _, _, b', hb', hslot', t, ht, hid, _, hw⟩ := hworn b₀ hb₀
    rw [eq_of_slot s hb hb' (hslot.symm.trans hslot'.symm)]
    exact ⟨t, ht, hid, hw⟩
  refine ⟨fun b₀ hb₀ t₀ ht₀ hid₀ => ?_, hitems, ?_⟩
  · obtain ⟨y, hy, hbinding, b, hb, hslot, t, ht, hid, hgroup, -⟩ := hworn b₀ hb₀
    have hsame : y.texture = t₀ := by
      refine s₀.textures.eq_of_ident hy.texture ht₀ (hy.id.trans ?_)
      rw [hbinding]
      exact hid₀.symm
    have hprint : t.fingerprint = t₀.fingerprint := hsame ▸ congrArg Prod.snd hgroup
    exact ⟨b, hb, hslot, t, ht, hid, congrArg Fingerprint.hash hprint,
      congrArg Fingerprint.textureType hprint, congrArg Fingerprint.textureModel hprint⟩
  · have hall : ∀ y ∈ s.joined s.bindings.rows, y.texture.isWardrobeItem = true := by
      intro y hy
      have hlisted := listed_of_mem hy
      obtain ⟨t, ht, hid, hw⟩ := hitems _ hlisted.binding
      rwa [s.textures.eq_of_ident hlisted.texture ht (hlisted.id.trans hid.symm)]
    exact congrArg Prod.snd (run_registerBindings_items (s := s) _
      ⟨(s.joined s.bindings.rows).length, 0, 0, 0⟩ hall)

/-- **When the registration preserves what players wear.**  From every state whose
bindings refer to a profile and a texture: every slot still has a texture of the same
hash, type and model, all that is bound is an item of the wardrobe, and a second run
changes nothing, if and only if no entry of the list is about a texture that an entry
before it has marked; and then the registration succeeds. -/
theorem register_preserves_iff (s : TextureState) (hkeys : ForeignKeys s) :
    (LeavesDressed s (registerBoundTexturesInWardrobe.run textureMachine s).2 ↔ MeetsNoMarked s) ∧
      (MeetsNoMarked s → ∃ r, (registerBoundTexturesInWardrobe.run textureMachine s).1 = .ok r) := by
  have hcases := registerBindings_cases hkeys (s.joined s.bindings.rows)
    ⟨(s.joined s.bindings.rows).length, 0, 0, 0⟩ (progress_start hkeys)
    (fun y hy => listed_of_mem hy) (slots_distinct s)
  change (LeavesDressed s ((registerBindings (s.joined s.bindings.rows)
    ⟨(s.joined s.bindings.rows).length, 0, 0, 0⟩).run textureMachine s).2 ↔ _) ∧
    (_ → ∃ r, ((registerBindings (s.joined s.bindings.rows)
      ⟨(s.joined s.bindings.rows).length, 0, 0, 0⟩).run textureMachine s).1 = .ok r)
  rcases hcases with ⟨hnone, r, s', hrun, hprogress⟩ | ⟨⟨zs, y, us, heq, hm⟩, x, hx, hlost⟩
  · rw [hrun]
    refine ⟨⟨fun _ xs y ys heq => ?_, fun _ => hprogress.preserves hkeys⟩, fun _ => ⟨r, rfl⟩⟩
    exact hnone xs y ys heq
  · have hmeets : ¬ MeetsNoMarked s := fun h => h zs y us heq hm
    refine ⟨⟨fun hpreserves => ?_, fun h => absurd h hmeets⟩, fun h => absurd h hmeets⟩
    have hlisted := listed_of_mem hx
    obtain ⟨b, hb, hslot, -⟩ := hpreserves.worn _ hlisted.binding _ hlisted.texture hlisted.id
    exact absurd hslot (hlost b hb)

/-! ## Two players with an old skin -/

/-- A skin that Bob uploaded before there was a wardrobe. -/
def oldSkin (id : Nat) : MinecraftTexture where
  id := id
  userId := 2
  textureType := .skin
  source := .localTexture
  hash := "aa"
  storageKey := "textures/aa.png"
  mimeType := "image/png"
  fileSize := 9
  width := 64
  height := 64
  textureModel := .default
  visibility := .privateItem
  isWardrobeItem := false
  displayName := none
  libraryStatus := .privateItem
  librarySubmittedAt := none
  libraryReviewedAt := none
  libraryReviewerUserId := none
  libraryReviewNote := none
  createdAt := 0
  updatedAt := 0

/-- Bob has two profiles, and two rows of the skin. -/
def twoProfiles : TextureState :=
  { twoPlayers with
    service := { twoPlayers.service with
      db := { twoPlayers.service.db with
        profiles := ⟨[⟨1, 2, "uuid2", "Bob", "bob", .localProfile, .default, "skin,cape", 0, 0, 0⟩,
            ⟨2, 2, "uuid4", "Bobby", "bobby", .localProfile, .default, "skin,cape", 0, 0, 0⟩],
          3, by decide, by decide⟩ } }
    textures := ⟨[oldSkin 1, oldSkin 2], 3, by decide, by decide⟩ }

/-- The first profile wears the first row, the second one its own or the first. -/
def dressedIn (ownRow : Bool) : TextureState :=
  { twoProfiles with
    bindings := ⟨[⟨1, 1, 1, .skin, 0, 0⟩, ⟨2, 2, if ownRow then 2 else 1, .skin, 0, 0⟩], 3,
      by cases ownRow <;> decide, by cases ownRow <;> decide⟩ }

theorem foreignKeys_dressedIn (ownRow : Bool) : ForeignKeys (dressedIn ownRow) := by
  cases ownRow
  · exact ⟨by decide, by decide⟩
  · exact ⟨by decide, by decide⟩

/-- Each profile has its own row. -/
theorem own_rows_preserved :
    LeavesDressed (dressedIn true)
      (registerBoundTexturesInWardrobe.run textureMachine (dressedIn true)).2 := by
  have hlist : (dressedIn true).joined (dressedIn true).bindings.rows =
      [⟨⟨1, 1, 1, .skin, 0, 0⟩, oldSkin 1⟩, ⟨⟨2, 2, 2, .skin, 0, 0⟩, oldSkin 2⟩] := rfl
  refine (register_preserves_iff (dressedIn true) (foreignKeys_dressedIn true)).1.mpr ?_
  intro xs y ys heq hmarked
  rw [hlist] at heq
  have hlength := congrArg List.length heq
  rw [List.length_append, List.length_cons] at hlength
  rcases xs with _ | ⟨x, _ | ⟨x', xs⟩⟩
  · exact not_marked_nil hmarked
  · cases heq
    exact absurd hmarked.2 (by decide)
  · simp only [List.length_cons, List.length_nil] at hlength
    omega

/-- **One row for both profiles**: the second entry deletes the texture that the first
has made an item of the wardrobe, and neither profile has a skin. -/
theorem shared_row_lost :
    ¬ ∀ s : TextureState, ForeignKeys s →
      LeavesDressed s (registerBoundTexturesInWardrobe.run textureMachine s).2 := by
  intro hall
  have hpreserves := hall (dressedIn false) (foreignKeys_dressedIn false)
  have hempty : (registerBoundTexturesInWardrobe.run textureMachine
      (dressedIn false)).2.bindings.rows = [] := by
    decide +kernel
  obtain ⟨b, hb, -⟩ := hpreserves.worn ⟨1, 1, 1, .skin, 0, 0⟩ (by decide) (oldSkin 1) (by decide) rfl
  rw [hempty] at hb
  exact List.not_mem_nil hb

end AsterYggdrasil.Textures
