import AsterYggdrasil.Texture.Caches
import AsterYggdrasil.Texture.Previews
import AsterYggdrasil.Texture.Registration

/-!
# Deleting by hash

`delete_textures_by_hash` takes the bindings away one by one, each of which may
take its row and the object with it, and then the rows that are left, which are
items of a wardrobe.  `Underway` says how far it has come.  The object goes with
the last row that names it (`Settled`), in either loop.

**Whatever refers to the hash is gone afterwards, and nothing else**
(`deleted_by_hash`).  Only an object that no row names is not found this way; it is
left to the orphan cleanup.
-/

namespace AsterYggdrasil.Textures

open Interleave Relational
open Interleave.Prog

/-! ## Consistent states -/

/-- Every row has a proper hash, and the key that belongs to it. -/
def Keyed (s : TextureState) : Prop :=
  ∀ t ∈ s.textures.rows,
    isValidTextureHash t.hash = true ∧ t.storageKey = objectStorageKey t.hash

/-- Rows, bindings and caches fit together. -/
structure CacheConsistent (s : CachedState) : Prop where
  foreign : ForeignKeys s.rows
  keyed : Keyed s.rows
  lookups : ∀ hash blob, s.lookups hash = some blob →
    ∃ t ∈ s.rows.textures.rows, t.hash = hash ∧ t.storageKey = blob.storageKey

/-- The binding is to a texture with the hash. -/
def Binding.RefersTo (s : TextureState) (hash : String) (b : Binding) : Prop :=
  ∃ t ∈ s.textures.rows, t.id = b.textureId ∧ t.hash = hash

/-! ## On the way -/

/-- The bindings `gone` have been removed, and rows with the hash. -/
structure Underway (hash : String) (s₀ : TextureState) (gone : List Binding)
    (s : TextureState) : Prop where
  bindings : ∀ b, b ∈ s.bindings.rows ↔ b ∈ s₀.bindings.rows ∧ b ∉ gone
  textures : ∀ t ∈ s.textures.rows, t ∈ s₀.textures.rows
  others : ∀ t ∈ s₀.textures.rows, t.hash ≠ hash → t ∈ s.textures.rows
  bound : ∀ b ∈ s.bindings.rows, ∃ t ∈ s.textures.rows, t.id = b.textureId
  profiles : ∀ id, s.hasProfile id = s₀.hasProfile id
  objects : ∀ k, k ≠ objectStorageKey hash → (k ∈ s.keys ↔ k ∈ s₀.keys)

/-- If there was a row with the hash, the object is there only as long as there is
one. -/
def Settled (hash : String) (s₀ s : TextureState) : Prop :=
  (∃ t ∈ s₀.textures.rows, t.hash = hash) → objectStorageKey hash ∈ s.keys →
    ∃ t ∈ s.textures.rows, t.hash = hash

section Steps

variable {hash : String} {s₀ s : TextureState} {gone : List Binding}

theorem underway_start (h : ForeignKeys s₀) : Underway hash s₀ [] s₀ where
  bindings := by simp
  textures := fun _ ht => ht
  others := fun _ ht _ => ht
  bound := h.textures
  profiles := fun _ => rfl
  objects := fun _ _ => Iff.rfl

theorem settled_start : Settled hash s₀ s₀ := fun h _ => h

/-- A binding is taken away. -/
theorem Underway.unbind (h : Underway hash s₀ gone s) {b : Binding}
    (hb : b ∈ s.bindings.rows) :
    Underway hash s₀ (b :: gone)
      { s with bindings := s.bindings.delete fun x => x.id = b.id } := by
  have hrows : ∀ x, x ∈ (s.bindings.delete fun x => x.id = b.id).rows ↔
      x ∈ s.bindings.rows ∧ x ≠ b := by
    intro x
    rw [Table.delete_rows, List.mem_filter]
    refine and_congr_right fun hx => ?_
    rw [Bool.not_eq_true', decide_eq_false_iff_not]
    exact not_congr ⟨fun hid => s.bindings.eq_of_ident hx hb hid, fun heq => heq ▸ rfl⟩
  refine ⟨fun x => ?_, h.textures, h.others, fun x hx => ?_, h.profiles, h.objects⟩
  · rw [hrows, h.bindings, List.mem_cons, not_or]
    tauto
  · exact h.bound x ((hrows x).mp hx).1

/-- A row with the hash goes, if no binding to it is left. -/
theorem Underway.drop (h : Underway hash s₀ gone s) {id : Nat}
    (hhash : ∀ t ∈ s.textures.rows, t.id = id → t.hash = hash)
    (hfree : ∀ b ∈ s.bindings.rows, b.textureId ≠ id) :
    Underway hash s₀ gone (s.dropTextures fun x => x.id = id) := by
  have hdropped : Dropped id s (s.dropTextures fun x => x.id = id) :=
    dropped_dropTextures h.bound
  refine ⟨fun b => ?_, fun x hx => ?_, fun x hx hne => ?_, fun b hb => ?_, h.profiles, h.objects⟩
  · rw [hdropped.bindings, ← h.bindings]
    exact ⟨fun hb => hb.1, fun hb => ⟨hb, hfree b hb⟩⟩
  · exact h.textures x ((hdropped.textures x).mp hx).1
  · have hkept := h.others x hx hne
    exact (hdropped.textures x).mpr ⟨hkept, fun hid => hne (hhash x hkept hid)⟩
  · obtain ⟨hold, hne⟩ := (hdropped.bindings b).mp hb
    obtain ⟨x, hx, hid⟩ := h.bound b hold
    exact ⟨x, (hdropped.textures x).mpr ⟨hx, hid ▸ hne⟩, hid⟩

/-- The object of the hash goes. -/
theorem Underway.erase (h : Underway hash s₀ gone s) :
    Underway hash s₀ gone (s.deleteObject (objectStorageKey hash)) := by
  refine ⟨h.bindings, h.textures, h.others, h.bound, h.profiles, fun k hk => ?_⟩
  rw [← h.objects k hk]
  simp [TextureState.keys, TextureState.deleteObject, hk]

theorem hasProfile_iff {id : Nat} :
    s.hasProfile id = true ↔ ∃ p ∈ s.service.db.profiles.rows, p.id = id := by
  simp [TextureState.hasProfile, Table.find?]

theorem Underway.touch (h : Underway hash s₀ gone s) (id : Nat) :
    Underway hash s₀ gone (s.touchProfile id) := by
  refine ⟨h.bindings, h.textures, h.others, h.bound, fun p => ?_, h.objects⟩
  have hrows : (s.touchProfile id).service.db.profiles.rows =
      s.service.db.profiles.rows.map fun q =>
        if decide (q.id = id) = true then { q with updatedAt := s.now } else q := rfl
  have hsame : ∀ q : MinecraftProfile,
      (if decide (q.id = id) = true then { q with updatedAt := s.now } else q).id = q.id := by
    intro q
    split <;> rfl
  rw [← h.profiles p, Bool.eq_iff_iff, hasProfile_iff, hasProfile_iff, hrows]
  simp only [List.mem_map, exists_exists_and_eq_and, hsame]

end Steps

/-! ## The operations -/

section Operations

variable {hash : String} {s₀ s : TextureState} {gone : List Binding}

/-- The binding of a slot is found with its texture, and removed. -/
theorem run_deleteForProfile {b : Binding} {t : MinecraftTexture} (hb : b ∈ s.bindings.rows)
    (ht : t ∈ s.textures.rows) (hid : t.id = b.textureId) :
    (deleteForProfile b.profileId b.textureType).run textureMachine s =
      (.ok (some ⟨b, t⟩), { s with bindings := s.bindings.delete fun x => x.id = b.id }) := by
  have hslot : (s.bindings.find? fun x =>
      x.profileId = b.profileId && x.textureType = b.textureType) = some b := by
    cases hfind : s.bindings.find? fun x =>
        x.profileId = b.profileId && x.textureType = b.textureType with
    | none =>
        have hno := Table.find?_eq_none.mp hfind b hb
        simp at hno
    | some x =>
        obtain ⟨hx, hp⟩ := Table.of_find? hfind
        simp only [Bool.and_eq_true, decide_eq_true_eq] at hp
        rw [eq_of_slot s hx hb (Prod.ext hp.1 hp.2)]
  have htexture : s.textureById b.textureId = some t := hid ▸ textureById_of_mem ht
  have hread : (query (.bindingFindByProfileAndType b.profileId b.textureType)).run
      textureMachine s = (.ok (some b), s) := Prod.ext (congrArg Except.ok hslot) rfl
  have hbound : (boundTexture b.textureId).run textureMachine s = (.ok t, s) := by
    have hfound : (query (.textureFindById b.textureId)).run textureMachine s =
        (.ok (some t), s) := Prod.ext (congrArg Except.ok htexture) rfl
    unfold boundTexture
    rw [bind_eq, run_bind, hfound]
    rfl
  have hfind : (findByProfileAndType b.profileId b.textureType).run textureMachine s =
      (.ok (some ⟨b, t⟩), s) := by
    unfold findByProfileAndType
    rw [bind_eq, run_bind, hread]
    dsimp only
    rw [bind_eq, run_bind, hbound]
    rfl
  unfold deleteForProfile
  rw [bind_eq, run_bind, hfind]
  rfl

/-- The object goes unless a row names it. -/
theorem succeeds_cleanupTextureBlob (h : Underway hash s₀ gone s) (hkeyed : Keyed s₀)
    (hvalid : isValidTextureHash hash = true) :
    (cleanupTextureBlobIfUnreferenced (objectStorageKey hash)).Succeeds textureMachine
      (fun _ s' => Underway hash s₀ gone s' ∧ Settled hash s₀ s' ∧ s'.textures = s.textures) s := by
  have hcount := count_ne_zero s (objectStorageKey hash)
  refine Succeeds.stmt_bind (M := textureMachine) ?_
  by_cases hnamed : s.references (objectStorageKey hash) = true
  · rw [if_pos (hcount.mpr hnamed)]
    obtain ⟨t, ht, hkey⟩ := references_eq_true.mp hnamed
    obtain ⟨hvalid', hown⟩ := hkeyed t (h.textures t ht)
    have hhash : t.hash = hash := objectStorageKey_inj hvalid' hvalid (hown.symm.trans hkey)
    exact succeeds_ok ⟨h, fun _ _ => ⟨t, ht, hhash⟩, rfl⟩
  · rw [if_neg fun hne => hnamed (hcount.mp hne)]
    have hgone : objectStorageKey hash ∉ (s.deleteObject (objectStorageKey hash)).keys := by
      simp [TextureState.keys, TextureState.deleteObject]
    exact ⟨(), rfl, h.erase, fun _ hkey => absurd hkey hgone, rfl⟩

/-- A row without bindings goes, unless it is an item of a wardrobe. -/
theorem succeeds_cleanupTextureAsset (h : Underway hash s₀ gone s) (hsettled : Settled hash s₀ s)
    (hkeyed : Keyed s₀) (hvalid : isValidTextureHash hash = true) {t : MinecraftTexture}
    (ht : t ∈ s.textures.rows) (hhash : t.hash = hash) :
    (cleanupTextureAssetIfUnreferenced t).Succeeds textureMachine
      (fun _ s' => Underway hash s₀ gone s' ∧ Settled hash s₀ s') s := by
  unfold cleanupTextureAssetIfUnreferenced
  by_cases hitem : t.isWardrobeItem = true
  · rw [if_pos hitem]
    exact succeeds_ok ⟨h, hsettled⟩
  · rw [if_neg hitem]
    refine Succeeds.stmt_bind (M := textureMachine) ?_
    change (if (s.bindings.select fun b => b.textureId = t.id).length ≠ 0 then pure () else _ :
      TextureProg Unit).Succeeds textureMachine _ s
    by_cases hcount : (s.bindings.select fun b => b.textureId = t.id).length = 0
    · have hfree : ∀ b ∈ s.bindings.rows, b.textureId ≠ t.id := by
        intro b hb hid
        have hmem : b ∈ s.bindings.select fun b => b.textureId = t.id :=
          Table.mem_select.mpr ⟨hb, decide_eq_true hid⟩
        rw [List.length_eq_zero_iff.mp hcount] at hmem
        cases hmem
      have hfound : (s.textures.find? fun x => x.id = t.id && x.userId = t.userId) = some t := by
        cases hfind : s.textures.find? fun x => x.id = t.id && x.userId = t.userId with
        | none =>
            have hno := Table.find?_eq_none.mp hfind t ht
            simp at hno
        | some x =>
            obtain ⟨hx, hp⟩ := Table.of_find? hfind
            simp only [Bool.and_eq_true, decide_eq_true_eq] at hp
            rw [s.textures.eq_of_ident hx ht hp.1]
      have hdeleted : (deleteByIdForUser t.id t.userId).run textureMachine s =
          (.ok (some t), s.dropTextures fun x => x.id = t.id) := by
        have hread : (query (.textureFindByIdForUser t.id t.userId)).run textureMachine s =
            (.ok (some t), s) := Prod.ext (congrArg Except.ok hfound) rfl
        unfold deleteByIdForUser
        rw [bind_eq, run_bind, hread]
        rfl
      have hkey : t.storageKey = objectStorageKey hash := by
        rw [(hkeyed t (h.textures t ht)).2, hhash]
      have hown : ∀ x ∈ s.textures.rows, x.id = t.id → x.hash = hash := by
        intro x hx hid
        rw [s.textures.eq_of_ident hx ht hid, hhash]
      have hclean := succeeds_cleanupTextureBlob (h.drop hown hfree) hkeyed hvalid
      rw [← hkey] at hclean
      have hrest : (do
          let _ ← deleteByIdForUser t.id t.userId
          cleanupTextureBlobIfUnreferenced t.storageKey : TextureProg Unit).Succeeds textureMachine
            (fun _ s' => Underway hash s₀ gone s' ∧ Settled hash s₀ s') s := by
        refine wp_bind_of_run hdeleted ?_
        exact hclean.mono fun _ s' hs' => ⟨hs'.1, hs'.2.1⟩
      rw [if_neg (not_not.mpr hcount)]
      exact hrest
    · rw [if_pos hcount]
      exact succeeds_ok ⟨h, hsettled⟩

end Operations

/-! ## The caches -/

theorem run_ofRows {α : Type} (p : TextureProg α) (s : CachedState) :
    (ofRows p).run cachedMachine s =
      ((p.run textureMachine s.rows).1, { s with rows := (p.run textureMachine s.rows).2 }) := by
  induction p generalizing s with
  | ok a => rfl
  | err e => rfl
  | act i k ih => exact ih _ _

theorem succeeds_ofRows {α : Type} {p : TextureProg α} {s : CachedState}
    {K : α → TextureState → Prop} (h : p.Succeeds textureMachine K s.rows) :
    (ofRows p).Succeeds cachedMachine
      (fun a s' => ∃ r, s' = { s with rows := r } ∧ K a r) s := by
  obtain ⟨a, ha, hK⟩ := h
  refine ⟨a, ?_, _, ?_, hK⟩
  · rw [run_ofRows]
    exact ha
  · rw [run_ofRows]

/-- What is cached of the profiles of `gone` and of the hash, and nothing else, may be
different. -/
structure Invalidated (hash : String) (s₀ : CachedState) (gone : List Binding)
    (s : CachedState) : Prop where
  stale : ∀ id rest, id ∈ gone.map Binding.profileId → s.properties id rest = none
  fresh : ∀ id rest, id ∉ gone.map Binding.profileId →
    s.properties id rest = s₀.properties id rest
  lookups : ∀ h, h ≠ hash → s.lookups h = s₀.lookups h

/-- The first loop is under way: as long as nothing has been removed, the object
behind the hash may be cached. -/
structure CachesUnderway (hash : String) (s₀ : CachedState) (gone : List Binding)
    (s : CachedState) : Prop where
  rows : Underway hash s₀.rows gone s.rows
  settled : Settled hash s₀.rows s.rows
  caches : Invalidated hash s₀ gone s
  lookup : s.lookups hash = none ∨ s.lookups hash = s₀.lookups hash ∧
    ∀ t ∈ s₀.rows.textures.rows, t.hash = hash → t ∈ s.rows.textures.rows

section Loop

variable {hash : String} {s₀ s : CachedState} {gone : List Binding}

theorem cachesUnderway_start (h : CacheConsistent s₀) : CachesUnderway hash s₀ [] s₀ where
  rows := underway_start h.foreign
  settled := settled_start
  caches := ⟨fun id rest hid => (by cases hid), fun _ _ _ => rfl, fun _ _ => rfl⟩
  lookup := Or.inr ⟨rfl, fun _ ht _ => ht⟩

theorem run_invalidateTextureAssetCaches {t : MinecraftTexture}
    (hvalid : isValidTextureHash t.hash = true) (s : CachedState) :
    (invalidateTextureAssetCaches t).run cachedMachine s =
      (.ok (), { s with lookups := fun h => if h = t.hash then none else s.lookups h }) := by
  unfold invalidateTextureAssetCaches
  rw [if_pos hvalid]
  rfl

theorem run_invalidateProfileTextureCaches (profileId : Nat) (s : CachedState) :
    (invalidateProfileTextureCaches profileId).run cachedMachine s =
      (.ok (), { s with
        properties := fun id rest => if id = profileId then none else s.properties id rest
        rows := s.rows.touchProfile profileId }) := rfl

/-- One binding is removed, and named. -/
theorem succeeds_deleteBoundByHashCached (h : CachesUnderway hash s₀ gone s)
    (hs₀ : CacheConsistent s₀) (hvalid : isValidTextureHash hash = true) {x : ProfileTexture}
    (hb : x.binding ∈ s.rows.bindings.rows) (ht : x.texture ∈ s₀.rows.textures.rows)
    (hid : x.texture.id = x.binding.textureId) (hhash : x.texture.hash = hash) :
    (deleteBoundByHashCached x).Succeeds cachedMachine
      (fun deleted s' => (∃ profile, deleted = some ⟨x, profile⟩ ∧
        profile.id = x.binding.profileId) ∧
        CachesUnderway hash s₀ (x.binding :: gone) s') s := by
  have hprofile : s.rows.hasProfile x.binding.profileId = true := by
    rw [h.rows.profiles]
    exact hs₀.foreign.profiles _ ((h.rows.bindings _).mp hb).1
  obtain ⟨profile, hfind⟩ := Option.isSome_iff_exists.mp hprofile
  have hpid : profile.id = x.binding.profileId := of_decide_eq_true (Table.of_find? hfind).2
  have htexture : x.texture ∈ s.rows.textures.rows := by
    obtain ⟨t, htmem, htid⟩ := h.rows.bound _ hb
    rwa [s₀.rows.textures.eq_of_ident (h.rows.textures t htmem) ht (htid.trans hid.symm)] at htmem
  have hread : (ofRows (query (.service (.db (.profileFindById x.binding.profileId))))).run
      cachedMachine s = (.ok (some profile), s) := by
    rw [run_ofRows]
    exact Prod.ext (congrArg Except.ok hfind) rfl
  have hrequired (e : TextureFailure) : (ofRows (required e (some profile))).run cachedMachine s =
      (.ok profile, s) := rfl
  have hdelete := run_deleteForProfile hb htexture hid
  rw [← hpid] at hdelete
  have hrows := h.rows.unbind hb
  have hclean := succeeds_cleanupTextureAsset hrows h.settled hs₀.keyed hvalid htexture hhash
  unfold deleteBoundByHashCached
  simp only [bind_eq]
  refine wp_bind_of_run hread ?_
  refine wp_bind_of_run (hrequired _) ?_
  refine wp_bind_of_run (by rw [run_ofRows, hdelete]) ?_
  dsimp only
  refine Succeeds.bind (succeeds_ofRows hclean) fun _ s₁ hs₁ => ?_
  obtain ⟨r, rfl, hr, hsettled⟩ := hs₁
  refine wp_bind_of_run (run_invalidateProfileTextureCaches _ _) ?_
  refine wp_bind_of_run (run_invalidateTextureAssetCaches (hhash ▸ hvalid) _) ?_
  refine succeeds_ok ⟨⟨profile, rfl, hpid⟩, hr.touch _, hsettled, ⟨?_, ?_, ?_⟩, Or.inl ?_⟩
  · intro id rest hmem
    by_cases hsame : id = profile.id
    · exact if_pos hsame
    · have hold : id ∈ gone.map Binding.profileId :=
        (List.mem_cons.mp hmem).resolve_left (hpid ▸ hsame)
      exact (if_neg hsame).trans (h.caches.stale id rest hold)
  · intro id rest hmem
    obtain ⟨hne, hold⟩ := not_or.mp (mt List.mem_cons.mpr hmem)
    exact (if_neg (hpid ▸ hne)).trans (h.caches.fresh id rest hold)
  · intro k hk
    exact (if_neg (hhash ▸ hk)).trans (h.caches.lookups k hk)
  · exact if_pos hhash.symm

/-- The first loop removes the bindings it was given, and names them in order. -/
theorem succeeds_deleteAllBoundByHashCached (hs₀ : CacheConsistent s₀)
    (hvalid : isValidTextureHash hash = true) (bound : List ProfileTexture) :
    ∀ gone s, CachesUnderway hash s₀ gone s →
      (∀ x ∈ bound, x.binding ∈ s.rows.bindings.rows ∧ x.texture ∈ s₀.rows.textures.rows ∧
        x.texture.id = x.binding.textureId ∧ x.texture.hash = hash) →
      (bound.map ProfileTexture.binding).Nodup →
      (deleteAllBoundByHashCached bound).Succeeds cachedMachine
        (fun deleted s' => deleted.map DeletedMinecraftTexture.texture = bound ∧
          (∀ d ∈ deleted, d.profile.id = d.texture.binding.profileId) ∧
          CachesUnderway hash s₀ ((bound.map ProfileTexture.binding).reverse ++ gone) s') s := by
  induction bound with
  | nil =>
      intro gone s h _ _
      exact succeeds_ok ⟨rfl, fun d hd => (by cases hd), h⟩
  | cons x bound ih =>
      intro gone s h hlisted hnodup
      obtain ⟨hb, ht, hid, hhash⟩ := hlisted x (List.mem_cons_self ..)
      obtain ⟨hfirst, hnodup⟩ := List.nodup_cons.mp hnodup
      refine Succeeds.bind (succeeds_deleteBoundByHashCached h hs₀ hvalid hb ht hid hhash)
        fun removed s₁ hs₁ => ?_
      obtain ⟨⟨profile, rfl, hpid⟩, hs₁⟩ := hs₁
      have hrest : ∀ y ∈ bound, y.binding ∈ s₁.rows.bindings.rows ∧
          y.texture ∈ s₀.rows.textures.rows ∧ y.texture.id = y.binding.textureId ∧
          y.texture.hash = hash := by
        intro y hy
        obtain ⟨hyb, hyt, hyid, hyhash⟩ := hlisted y (List.mem_cons_of_mem _ hy)
        obtain ⟨hold, hkept⟩ := (h.rows.bindings _).mp hyb
        refine ⟨(hs₁.rows.bindings _).mpr ⟨hold, fun hmem => ?_⟩, hyt, hyid, hyhash⟩
        rcases List.mem_cons.mp hmem with heq | hmem
        · exact hfirst (heq ▸ List.mem_map_of_mem hy)
        · exact hkept hmem
      refine Succeeds.bind (ih _ s₁ hs₁ hrest hnodup) fun deleted s₂ hs₂ => ?_
      obtain ⟨hnamed, hprofiles, hs₂⟩ := hs₂
      refine succeeds_ok ⟨?_, ?_, ?_⟩
      · rw [Option.toList_some, List.singleton_append, List.map_cons, hnamed]
      · intro d hd
        rcases List.mem_cons.mp hd with rfl | hd
        · exact hpid
        · exact hprofiles d hd
      · rw [List.map_cons, List.reverse_cons, List.append_assoc]
        exact hs₂

end Loop

/-! ## The rows that are left -/

/-- Rows with the hash that no binding refers to go one by one; the objects stay. -/
theorem succeeds_deleteRows {hash : String} {s₀ : TextureState} {gone : List Binding}
    (textures : List MinecraftTexture) :
    ∀ s, Underway hash s₀ gone s →
      (∀ t ∈ textures, (∀ x ∈ s.textures.rows, x.id = t.id → x.hash = hash) ∧
        ∀ b ∈ s.bindings.rows, b.textureId ≠ t.id) →
      (Prog.forEach textures fun texture => query (.textureDelete texture.id)).Succeeds
        textureMachine (fun _ s' => Underway hash s₀ gone s' ∧ s'.keys = s.keys ∧
          ∀ x ∈ s'.textures.rows, x ∈ s.textures.rows ∧ ∀ t ∈ textures, x.id ≠ t.id) s := by
  induction textures with
  | nil =>
      intro s h _
      exact succeeds_ok ⟨h, rfl, fun x hx => ⟨hx, fun t ht => (by cases ht)⟩⟩
  | cons t textures ih =>
      intro s h hfree
      obtain ⟨hhash, hunbound⟩ := hfree t (List.mem_cons_self ..)
      have hdropped : Dropped t.id s (s.dropTextures fun x => x.id = t.id) :=
        dropped_dropTextures h.bound
      have hrest : ∀ u ∈ textures, (∀ x ∈ (s.dropTextures fun x => x.id = t.id).textures.rows,
          x.id = u.id → x.hash = hash) ∧
          ∀ b ∈ (s.dropTextures fun x => x.id = t.id).bindings.rows, b.textureId ≠ u.id := by
        intro u hu
        obtain ⟨hrow, hbinding⟩ := hfree u (List.mem_cons_of_mem _ hu)
        exact ⟨fun x hx => hrow x ((hdropped.textures x).mp hx).1,
          fun b hb => hbinding b ((hdropped.bindings b).mp hb).1⟩
      refine Succeeds.stmt_bind (M := textureMachine) ?_
      refine (ih _ (h.drop hhash hunbound) hrest).mono fun _ s' hs' => ?_
      obtain ⟨hunderway, hkeys, hrows⟩ := hs'
      refine ⟨hunderway, hkeys, fun x hx => ?_⟩
      obtain ⟨hmem, hne⟩ := hrows x hx
      obtain ⟨hold, hnt⟩ := (hdropped.textures x).mp hmem
      refine ⟨hold, fun u hu => ?_⟩
      rcases List.mem_cons.mp hu with rfl | hu
      · exact hnt
      · exact hne u hu

/-- No row has the hash. -/
structure Cleared (hash : String) (s₀ : CachedState) (gone : List Binding)
    (s : CachedState) : Prop where
  rows : Underway hash s₀.rows gone s.rows
  cleared : ∀ t ∈ s.rows.textures.rows, t.hash ≠ hash
  caches : Invalidated hash s₀ gone s

/-- Nothing is cached of the hash, and its object is gone if a row named it. -/
def Vanished (hash : String) (s₀ s : CachedState) : Prop :=
  ((∃ t ∈ s₀.rows.textures.rows, t.hash = hash) → objectStorageKey hash ∉ s.rows.keys) ∧
    s.lookups hash = none

section Clear

variable {hash : String} {s₀ s : CachedState} {gone : List Binding}

theorem succeeds_cleanupDeletedAsset (h : Cleared hash s₀ gone s) (hs₀ : CacheConsistent s₀)
    (hvalid : isValidTextureHash hash = true) {t : MinecraftTexture}
    (ht : t ∈ s₀.rows.textures.rows) (hhash : t.hash = hash) :
    (cleanupDeletedAsset t).Succeeds cachedMachine
      (fun _ s' => Cleared hash s₀ gone s' ∧ Vanished hash s₀ s') s := by
  have hkey : t.storageKey = objectStorageKey hash := by
    rw [(hs₀.keyed t ht).2, hhash]
  have hclean := succeeds_cleanupTextureBlob h.rows hs₀.keyed hvalid
  rw [← hkey] at hclean
  refine Succeeds.bind (succeeds_ofRows hclean) fun _ s₁ hs₁ => ?_
  obtain ⟨r, rfl, hr, hsettled, htextures⟩ := hs₁
  have hcleared : ∀ x ∈ r.textures.rows, x.hash ≠ hash := htextures ▸ h.cleared
  have hgone : objectStorageKey hash ∉ r.keys := by
    intro hmem
    obtain ⟨x, hx, hxhash⟩ := hsettled ⟨t, ht, hhash⟩ hmem
    exact hcleared x hx hxhash
  have hlookups : ∀ k, k ≠ hash →
      (if k = t.hash then none else s.lookups k) = s₀.lookups k := by
    intro k hk
    exact (if_neg (hhash ▸ hk)).trans (h.caches.lookups k hk)
  exact succeeds_of_run (run_invalidateTextureAssetCaches (hhash ▸ hvalid) _)
    ⟨⟨hr, hcleared, h.caches.stale, h.caches.fresh, hlookups⟩, fun _ => hgone, if_pos hhash.symm⟩

/-- The second loop, over rows that are gone. -/
theorem succeeds_cleanupDeletedAssets (hs₀ : CacheConsistent s₀)
    (hvalid : isValidTextureHash hash = true) (textures : List MinecraftTexture)
    (hlisted : ∀ t ∈ textures, t ∈ s₀.rows.textures.rows ∧ t.hash = hash) :
    ∀ s, Cleared hash s₀ gone s → (textures = [] → Vanished hash s₀ s) →
      (Prog.forEach textures cleanupDeletedAsset).Succeeds cachedMachine
        (fun _ s' => Cleared hash s₀ gone s' ∧ Vanished hash s₀ s') s := by
  induction textures with
  | nil =>
      intro s h hvanished
      exact succeeds_ok ⟨h, hvanished rfl⟩
  | cons t textures ih =>
      intro s h _
      obtain ⟨ht, hhash⟩ := hlisted t (List.mem_cons_self ..)
      refine Succeeds.bind (succeeds_cleanupDeletedAsset h hs₀ hvalid ht hhash)
        fun _ s₁ hs₁ => ?_
      exact ih (fun u hu => hlisted u (List.mem_cons_of_mem _ hu)) s₁ hs₁.1 fun _ => hs₁.2

end Clear

/-! ## Everything, and nothing else -/

/-- What the deletion of a hash has done. -/
structure DeletedByHash (hash : String) (s : CachedState) (deleted : List DeletedMinecraftTexture)
    (s' : CachedState) : Prop where
  textures : ∀ t, t ∈ s'.rows.textures.rows ↔ t ∈ s.rows.textures.rows ∧ t.hash ≠ hash
  bindings : ∀ b, b ∈ s'.rows.bindings.rows ↔
    b ∈ s.rows.bindings.rows ∧ ¬ b.RefersTo s.rows hash
  named : ∀ b, b ∈ deleted.map (fun d => d.texture.binding) ↔
    b ∈ s.rows.bindings.rows ∧ b.RefersTo s.rows hash
  once : (deleted.map fun d => d.texture.binding).Nodup
  profiles : ∀ d ∈ deleted, d.texture.texture.id = d.texture.binding.textureId ∧
    d.texture.texture ∈ s.rows.textures.rows ∧ d.profile.id = d.texture.binding.profileId
  affected : ∀ d ∈ deleted, ∀ rest, s'.properties d.profile.id rest = none
  unaffected : ∀ id, (∀ d ∈ deleted, d.profile.id ≠ id) →
    ∀ rest, s'.properties id rest = s.properties id rest
  lookup : s'.lookups hash = none
  lookups : ∀ h, h ≠ hash → s'.lookups h = s.lookups h
  object : (∃ t ∈ s.rows.textures.rows, t.hash = hash) → objectStorageKey hash ∉ s'.rows.keys
  objects : ∀ k, k ≠ objectStorageKey hash → (k ∈ s'.rows.keys ↔ k ∈ s.rows.keys)

/-- The answer of `list_by_hash`. -/
def TextureState.boundTo (s : TextureState) (hash : String) : List ProfileTexture :=
  (s.joined s.bindings.rows).filter fun b => b.texture.hash = hash

theorem mem_boundTo {s : TextureState} {hash : String} {x : ProfileTexture} :
    x ∈ s.boundTo hash ↔ x.binding ∈ s.bindings.rows ∧ x.texture ∈ s.textures.rows ∧
      x.texture.id = x.binding.textureId ∧ x.texture.hash = hash := by
  unfold TextureState.boundTo TextureState.joined
  rw [List.mem_filter, List.mem_filterMap, decide_eq_true_eq]
  constructor
  · rintro ⟨⟨b, hb, hfound⟩, hhash⟩
    obtain ⟨t, ht, rfl⟩ := Option.map_eq_some_iff.mp hfound
    obtain ⟨htmem, hid⟩ := textureById_eq_some ht
    exact ⟨hb, htmem, hid, hhash⟩
  · rintro ⟨hb, ht, hid, hhash⟩
    refine ⟨⟨x.binding, hb, ?_⟩, hhash⟩
    rw [← hid, textureById_of_mem ht]
    rfl

/-- A binding is listed exactly if it refers to the hash. -/
theorem refersTo_iff {s : TextureState} {hash : String} {b : Binding} :
    b ∈ (s.boundTo hash).map ProfileTexture.binding ↔
      b ∈ s.bindings.rows ∧ b.RefersTo s hash := by
  rw [List.mem_map]
  constructor
  · rintro ⟨x, hx, rfl⟩
    obtain ⟨hb, ht, hid, hhash⟩ := mem_boundTo.mp hx
    exact ⟨hb, x.texture, ht, hid, hhash⟩
  · rintro ⟨hb, t, ht, hid, hhash⟩
    exact ⟨⟨b, t⟩, mem_boundTo.mpr ⟨hb, ht, hid, hhash⟩, rfl⟩

/-- No binding is listed twice. -/
theorem nodup_boundTo (s : TextureState) (hash : String) :
    ((s.boundTo hash).map ProfileTexture.binding).Nodup := by
  have hrows : s.bindings.rows.Nodup := by
    refine s.bindings.unique.imp fun {a b} hab heq => ?_
    have hself := bindingSchema.clash_of_ident a b (congrArg _ heq)
    rw [hab] at hself
    cases hself
  have hjoined : ∀ bs : List Binding, ((s.joined bs).map ProfileTexture.binding).Sublist bs := by
    intro bs
    induction bs with
    | nil => exact List.Sublist.refl _
    | cons b bs ih =>
        unfold TextureState.joined
        rw [List.filterMap_cons]
        cases s.textureById b.textureId with
        | none => exact ih.cons b
        | some t => exact ih.cons_cons b
  exact hrows.sublist ((List.filter_sublist.map _).trans (hjoined _))

theorem Cleared.deletedByHash {hash : String} {s s' : CachedState}
    {deleted : List DeletedMinecraftTexture}
    (h : Cleared hash s ((s.rows.boundTo hash).map ProfileTexture.binding).reverse s')
    (hnamed : deleted.map DeletedMinecraftTexture.texture = s.rows.boundTo hash)
    (hprofiles : ∀ d ∈ deleted, d.profile.id = d.texture.binding.profileId)
    (hvanished : Vanished hash s s') : DeletedByHash hash s deleted s' := by
  have hbindings : (deleted.map fun d => d.texture.binding) =
      (s.rows.boundTo hash).map ProfileTexture.binding := by
    rw [← hnamed, List.map_map]
    rfl
  have hgone : ∀ id, id ∈ ((s.rows.boundTo hash).map ProfileTexture.binding).reverse.map
      Binding.profileId ↔ ∃ d ∈ deleted, d.profile.id = id := by
    intro id
    rw [← hbindings, ← List.map_reverse, List.map_map, List.mem_map]
    refine exists_congr fun d => ?_
    rw [List.mem_reverse]
    exact and_congr_right fun hd => by rw [hprofiles d hd]; rfl
  refine ⟨fun t => ?_, fun b => ?_, fun b => ?_, ?_, fun d hd => ?_, fun d hd rest => ?_,
    fun id hid rest => ?_, hvanished.2, h.caches.lookups, hvanished.1, h.rows.objects⟩
  · constructor
    · intro ht
      exact ⟨h.rows.textures t ht, h.cleared t ht⟩
    · rintro ⟨ht, hne⟩
      exact h.rows.others t ht hne
  · rw [h.rows.bindings, List.mem_reverse, refersTo_iff]
    tauto
  · rw [hbindings, refersTo_iff]
  · rw [hbindings]
    exact nodup_boundTo _ _
  · have hmem : d.texture ∈ s.rows.boundTo hash := hnamed ▸ List.mem_map_of_mem hd
    obtain ⟨-, ht, hid, -⟩ := mem_boundTo.mp hmem
    exact ⟨hid, ht, hprofiles d hd⟩
  · exact h.caches.stale _ rest ((hgone _).mpr ⟨d, hd, rfl⟩)
  · refine h.caches.fresh id rest fun hmem => ?_
    obtain ⟨d, hd, heq⟩ := (hgone id).mp hmem
    exact hid d hd heq

/-- **Rows, bindings, caches and the object go, and everything else stays.** -/
theorem succeeds_deleteTexturesByHashCached {hash : String} {s : CachedState}
    (hs : CacheConsistent s) (hvalid : isValidTextureHash hash = true) :
    (deleteTexturesByHashCached hash).Succeeds cachedMachine
      (fun deleted s' => DeletedByHash hash s deleted s') s := by
  unfold deleteTexturesByHashCached
  rw [if_neg (by rw [hvalid]; decide)]
  simp only [bind_eq]
  have hbound : (ofRows (query (.bindingListByHash hash))).run cachedMachine s =
      (.ok (s.rows.boundTo hash), s) := run_ofRows _ s
  refine wp_bind_of_run hbound ?_
  refine Succeeds.bind (succeeds_deleteAllBoundByHashCached hs hvalid (s.rows.boundTo hash) [] s
    (cachesUnderway_start hs) (fun x hx => mem_boundTo.mp hx) (nodup_boundTo _ _))
    fun deleted s₁ hs₁ => ?_
  obtain ⟨hnamed, hprofiles, hs₁⟩ := hs₁
  rw [List.append_nil] at hs₁
  have hlisted : (ofRows (query (.textureListByHash hash))).run cachedMachine s₁ =
      (.ok (s₁.rows.textures.select fun t => t.hash = hash), s₁) := run_ofRows _ s₁
  refine wp_bind_of_run hlisted ?_
  have hunbound : ∀ b ∈ s₁.rows.bindings.rows, ¬ b.RefersTo s.rows hash := by
    intro b hb hrefers
    obtain ⟨hold, hkept⟩ := (hs₁.rows.bindings b).mp hb
    exact hkept (List.mem_reverse.mpr (refersTo_iff.mpr ⟨hold, hrefers⟩))
  have hlisted : ∀ t, t ∈ (s₁.rows.textures.select fun t => t.hash = hash) ↔
      t ∈ s₁.rows.textures.rows ∧ t.hash = hash := by
    intro t
    rw [Table.mem_select, decide_eq_true_eq]
  generalize (s₁.rows.textures.select fun t => t.hash = hash) = textures at hlisted
  have hdelete := succeeds_deleteRows textures s₁.rows hs₁.rows fun t ht => by
    obtain ⟨htmem, hhash⟩ := (hlisted t).mp ht
    refine ⟨fun x hx hid => ?_, fun b hb hid => ?_⟩
    · rw [s₁.rows.textures.eq_of_ident hx htmem hid, hhash]
    · exact hunbound b hb ⟨t, hs₁.rows.textures t htmem, hid.symm, hhash⟩
  refine Succeeds.bind (succeeds_ofRows hdelete) fun _ s₂ hs₂ => ?_
  obtain ⟨r, rfl, hr, hkeys, hrows⟩ := hs₂
  have hcleared : Cleared hash s ((s.rows.boundTo hash).map ProfileTexture.binding).reverse
      { s₁ with rows := r } := by
    refine ⟨hr, fun x hx hhash => ?_, hs₁.caches.stale, hs₁.caches.fresh, hs₁.caches.lookups⟩
    obtain ⟨hmem, hne⟩ := hrows x hx
    exact hne x ((hlisted x).mpr ⟨hmem, hhash⟩) rfl
  have hvanished : textures = [] → Vanished hash s { s₁ with rows := r } := by
    rintro rfl
    have hnone : ∀ t ∈ s₁.rows.textures.rows, t.hash ≠ hash := by
      intro t ht hhash
      cases (hlisted t).mpr ⟨ht, hhash⟩
    refine ⟨fun hsome hkey => ?_, ?_⟩
    · change objectStorageKey hash ∈ r.keys at hkey
      rw [hkeys] at hkey
      obtain ⟨t, ht, hhash⟩ := hs₁.settled hsome hkey
      exact hnone t ht hhash
    · rcases hs₁.lookup with hlookup | ⟨hlookup, hall⟩
      · exact hlookup
      · refine hlookup.trans (Option.eq_none_iff_forall_ne_some.mpr fun blob hblob => ?_)
        obtain ⟨t, ht, hhash, -⟩ := hs.lookups hash blob hblob
        exact hnone t (hall t ht hhash) hhash
  refine Succeeds.bind (succeeds_cleanupDeletedAssets hs hvalid textures (fun t ht => ?_) _
    hcleared hvanished) fun _ s₃ hs₃ => succeeds_ok ?_
  · obtain ⟨htmem, hhash⟩ := (hlisted t).mp ht
    exact ⟨hs₁.rows.textures t htmem, hhash⟩
  · exact hs₃.1.deletedByHash hnamed hprofiles hs₃.2

/-- **Deleting by hash removes everything and nothing else**: run alone in a consistent
state, it succeeds. -/
theorem deleted_by_hash {s : CachedState} (hs : CacheConsistent s) {hash : String}
    (hvalid : isValidTextureHash hash = true) :
    ∃ deleted s', (deleteTexturesByHashCached hash).run cachedMachine s = (.ok deleted, s') ∧
      DeletedByHash hash s deleted s' := by
  obtain ⟨deleted, hrun, hdeleted⟩ := succeeds_deleteTexturesByHashCached hs hvalid
  exact ⟨deleted, _, Prod.ext hrun rfl, hdeleted⟩

/-! ## A worn skin and an orphan -/

/-- Sixty-four digits. -/
def wornHash : String := String.ofList (List.replicate 64 'a')

theorem wornHash_valid : isValidTextureHash wornHash = true := by decide +kernel

/-- A skin with this hash. -/
def wornSkin (id : Nat) (isWardrobeItem : Bool) : MinecraftTexture :=
  { oldSkin id with
    hash := wornHash
    storageKey := objectStorageKey wornHash
    isWardrobeItem := isWardrobeItem }

/-- Both profiles of Bob wear the image, one of them as an item of his wardrobe;
their properties and the object are cached. -/
def wornByTwo : CachedState where
  rows :=
    { dressedIn true with
      textures := ⟨[wornSkin 1 false, wornSkin 2 true], 3, by decide, by decide⟩
      objects := [(objectStorageKey wornHash, [9])] }
  properties := fun _ _ => some []
  lookups := fun h => if h = wornHash then some ⟨objectStorageKey wornHash⟩ else none

theorem wornByTwo_consistent : CacheConsistent wornByTwo where
  foreign := ⟨by decide, by decide⟩
  keyed := by
    intro t ht
    rcases List.mem_cons.mp ht with rfl | ht
    · exact ⟨wornHash_valid, rfl⟩
    · rw [List.mem_singleton.mp ht]
      exact ⟨wornHash_valid, rfl⟩
  lookups := by
    intro hash blob h
    by_cases hhash : hash = wornHash
    · subst hhash
      have hcached : wornByTwo.lookups wornHash = some ⟨objectStorageKey wornHash⟩ := by
        simp only [wornByTwo, if_true]
      have hblob : (⟨objectStorageKey wornHash⟩ : TextureBlob) = blob :=
        Option.some.inj (hcached.symm.trans h)
      exact ⟨wornSkin 1 false, List.mem_cons_self .., rfl, by rw [← hblob]; rfl⟩
    · rw [show wornByTwo.lookups hash = none from if_neg hhash] at h
      cases h

/-- Both bindings go, and with them everything else about the image. -/
theorem worn_by_two_deleted :
    ∃ deleted s', (deleteTexturesByHashCached wornHash).run cachedMachine wornByTwo =
        (.ok deleted, s') ∧ DeletedByHash wornHash wornByTwo deleted s' :=
  deleted_by_hash wornByTwo_consistent wornHash_valid

/-- An object that no row names. -/
def orphaned : CachedState where
  rows := { twoPlayers with objects := [(objectStorageKey wornHash, [9])] }
  properties := fun _ _ => none
  lookups := fun _ => none

/-- **The orphan stays**: no row leads to it. -/
theorem orphan_object_kept :
    CacheConsistent orphaned ∧ isValidTextureHash wornHash = true ∧
      ∃ s', (deleteTexturesByHashCached wornHash).run cachedMachine orphaned = (.ok [], s') ∧
        objectStorageKey wornHash ∈ s'.rows.keys := by
  refine ⟨⟨⟨by decide, by decide⟩, fun t ht => (by cases ht), fun _ _ h => (by cases h)⟩,
    wornHash_valid, orphaned, ?_, List.mem_singleton_self _⟩
  unfold deleteTexturesByHashCached
  rw [if_neg (by rw [wornHash_valid]; decide)]
  rfl

end AsterYggdrasil.Textures
