import AsterYggdrasil.Texture.Footprint
import AsterYggdrasil.Interleave.Sequence

/-!
# Rows and objects

A row names its object, and an object is there as long as a row names it.
While a call is under way some keys are *loose*: the object has been put and
its row is still to come, or the last row has gone and the object is still to
be deleted.  `Tidy loose s` allows for them; every operation that succeeds
begins and ends without loose keys.

The orphan cleanup is described exactly, from any state
(`run_cleanupOrphanTextureBlobs`); in a tidy state it finds nothing to delete.
-/

namespace AsterYggdrasil.Textures

open Interleave Relational
open Interleave.Prog

/-- Some row names the key. -/
def TextureState.references (s : TextureState) (storageKey : String) : Bool :=
  s.textures.rows.any fun t => t.storageKey = storageKey

/-- The hashes and keys of the rows. -/
def TextureState.contents (s : TextureState) : List (String × String) :=
  s.textures.rows.map fun t => (t.hash, t.storageKey)

/-- The state without the objects whose keys satisfy `p`. -/
def TextureState.eraseObjects (s : TextureState) (p : String → Bool) : TextureState :=
  { s with objects := s.objects.filter fun o => !p o.1 }

/-- A key is referenced exactly if a texture has it. -/
theorem references_eq_true {s : TextureState} {storageKey : String} :
    s.references storageKey = true ↔ ∃ t ∈ s.textures.rows, t.storageKey = storageKey := by
  simp [TextureState.references]

/-- Which is decided by hashes and keys alone. -/
theorem references_eq_contents (s : TextureState) (storageKey : String) :
    s.references storageKey = s.contents.any fun c => c.2 = storageKey := by
  simp only [TextureState.references, TextureState.contents, List.any_map]
  rfl

/-- The count a cleanup takes. -/
theorem count_ne_zero (s : TextureState) (storageKey : String) :
    ((TextureStmt.textureCountByStorageKey storageKey).exec s).1 ≠ 0 ↔
      s.references storageKey = true := by
  show (s.textures.select fun t => t.storageKey = storageKey).length ≠ 0 ↔ _
  rw [Nat.ne_zero_iff_zero_lt, List.length_pos_iff_exists_mem, references_eq_true]
  simp

/-- The keys of the objects that are there. -/
theorem mem_keys {s : TextureState} {storageKey : String} :
    storageKey ∈ s.keys ↔ ∃ o ∈ s.objects, o.1 = storageKey := by
  simp [TextureState.keys]

/-- Deleting an object is erasing its key. -/
theorem deleteObject_eq (s : TextureState) (storageKey : String) :
    s.deleteObject storageKey = s.eraseObjects fun k => k = storageKey := by
  simp [TextureState.deleteObject, TextureState.eraseObjects]

/-! ## The orphan cleanup -/

/-- Two deletions are one. -/
theorem eraseObjects_eraseObjects (s : TextureState) (p q : String → Bool) :
    (s.eraseObjects p).eraseObjects q = s.eraseObjects fun k => p k || q k := by
  simp only [TextureState.eraseObjects, List.filter_filter, Bool.not_or]
  congr 2
  funext o
  exact Bool.and_comm ..

/-- The loop deletes what no row names, and counts it. -/
theorem run_cleanupStorageKeys (storageKeys : List String)
    (result : OrphanTextureCleanupResult) (s : TextureState) :
    (cleanupStorageKeys storageKeys result).run textureMachine s =
      (.ok { result with
          deleted := result.deleted + storageKeys.countP fun k => !s.references k
          skipped := result.skipped + storageKeys.countP s.references },
        s.eraseObjects fun k => storageKeys.contains k && !s.references k) := by
  induction storageKeys generalizing result s with
  | nil => simp [cleanupStorageKeys, TextureState.eraseObjects]
  | cons storageKey storageKeys ih =>
      have hcount := count_ne_zero s storageKey
      show (if 0 < ((TextureStmt.textureCountByStorageKey storageKey).exec s).1 then _
        else _ : TextureProg _).run textureMachine s = _
      by_cases href : s.references storageKey = true
      · have hkept : (fun k => storageKeys.contains k && !s.references k) =
            fun k => (storageKey :: storageKeys).contains k && !s.references k := by
          funext k
          by_cases hk : k = storageKey
          · simp [hk, href]
          · simp [hk]
        rw [if_pos (Nat.pos_of_ne_zero (hcount.mpr href)), ih, hkept]
        simp [href, Nat.add_assoc, Nat.add_comm 1]
      · have hfree : s.references storageKey = false := by simpa using href
        have hgone : (fun k => decide (k = storageKey) ||
            (storageKeys.contains k && !s.references k)) =
              fun k => (storageKey :: storageKeys).contains k && !s.references k := by
          funext k
          by_cases hk : k = storageKey
          · simp [hk, hfree]
          · simp [hk]
        have hsame : (s.deleteObject storageKey).references = s.references := rfl
        rw [if_neg fun h => href (hcount.mp (Nat.ne_of_gt h))]
        show (cleanupStorageKeys storageKeys _).run textureMachine
          (s.deleteObject storageKey) = _
        rw [ih, hsame, deleteObject_eq, eraseObjects_eraseObjects, hgone]
        simp [hfree, Nat.add_assoc, Nat.add_comm 1]

/-- **The orphan cleanup deletes exactly the keys of textures that no row
names**, from any state; it changes nothing else. -/
theorem run_cleanupOrphanTextureBlobs (s : TextureState) :
    ∃ result, cleanupOrphanTextureBlobs.run textureMachine s =
        (.ok result, s.eraseObjects fun k =>
          isTextureBlobStorageKey k && !s.references k) ∧
      result.deleted = s.keys.countP fun k =>
        isTextureBlobStorageKey k && !s.references k := by
  have hrun := run_cleanupStorageKeys (s.keys.filter isTextureBlobStorageKey)
    ⟨(s.keys.filter isTextureBlobStorageKey).length, 0, 0⟩ s
  have herased : (s.eraseObjects fun k =>
      (s.keys.filter isTextureBlobStorageKey).contains k && !s.references k) =
        s.eraseObjects fun k => isTextureBlobStorageKey k && !s.references k := by
    simp only [TextureState.eraseObjects]
    congr 1
    refine List.filter_congr fun o ho => ?_
    have hkey : o.1 ∈ s.keys := List.mem_map_of_mem ho
    have hlisted : (s.keys.filter isTextureBlobStorageKey).contains o.1 =
        isTextureBlobStorageKey o.1 := by
      rw [Bool.eq_iff_iff, List.contains_iff_mem, List.mem_filter]
      exact and_iff_right hkey
    rw [hlisted]
  rw [herased] at hrun
  refine ⟨_, hrun, ?_⟩
  simp only [Nat.zero_add, List.countP_filter]
  exact List.countP_congr fun k _ => by rw [Bool.and_comm]

/-! ## Loose keys -/

/-- Rows and objects fit together, up to the loose keys. -/
structure Tidy (loose : List String) (s : TextureState) : Prop where
  keyed : ∀ t ∈ s.textures.rows,
    isValidTextureHash t.hash = true ∧ t.storageKey = objectStorageKey t.hash
  stored : ∀ t ∈ s.textures.rows, t.storageKey ∈ s.keys
  named : ∀ k ∈ s.keys, isTextureBlobStorageKey k = true →
    k ∈ loose ∨ s.references k = true

section Tidy

variable {loose : List String} {s : TextureState}

/-- Tidiness depends on the hashes and keys of the rows, and on the objects. -/
theorem Tidy.of_contents {s' : TextureState} (hs : Tidy loose s)
    (hcontents : s'.contents = s.contents) (hobjects : s'.objects = s.objects) :
    Tidy loose s' := by
  have hkeys : s'.keys = s.keys := congrArg (List.map Prod.fst) hobjects
  have hrow : ∀ t ∈ s'.textures.rows, ∃ t₀ ∈ s.textures.rows,
      t₀.hash = t.hash ∧ t₀.storageKey = t.storageKey := by
    intro t ht
    have hmem : (t.hash, t.storageKey) ∈ s'.contents := List.mem_map_of_mem ht
    rw [hcontents] at hmem
    obtain ⟨t₀, ht₀, heq⟩ := List.mem_map.mp hmem
    exact ⟨t₀, ht₀, congrArg Prod.fst heq, congrArg Prod.snd heq⟩
  have hreferences : s'.references = s.references := by
    funext k
    simp only [references_eq_contents, hcontents]
  refine ⟨fun t ht => ?_, fun t ht => ?_, ?_⟩
  · obtain ⟨t₀, ht₀, hhash, hkey⟩ := hrow t ht
    rw [← hhash, ← hkey]
    exact hs.keyed t₀ ht₀
  · obtain ⟨t₀, ht₀, -, hkey⟩ := hrow t ht
    rw [← hkey, hkeys]
    exact hs.stored t₀ ht₀
  · rw [hkeys, hreferences]
    exact hs.named

/-- Storage stays tidy while textures and objects do. -/
theorem Tidy.of_same {s' : TextureState} (hs : Tidy loose s)
    (htextures : s'.textures = s.textures) (hobjects : s'.objects = s.objects) :
    Tidy loose s' :=
  hs.of_contents (congrArg (fun textures : Table textureSchema =>
    textures.rows.map fun t : MinecraftTexture => (t.hash, t.storageKey)) htextures) hobjects

/-- More keys may be loose. -/
theorem Tidy.mono {loose' : List String} (hs : Tidy loose s) (h : loose ⊆ loose') :
    Tidy loose' s :=
  ⟨hs.keyed, hs.stored, fun k hk htexture => (hs.named k hk htexture).imp_left fun h' => h h'⟩

/-- A key that a row names is not loose. -/
theorem Tidy.settle {storageKey : String} (hs : Tidy (storageKey :: loose) s)
    (h : s.references storageKey = true) : Tidy loose s := by
  refine ⟨hs.keyed, hs.stored, fun k hk htexture => ?_⟩
  rcases hs.named k hk htexture with hloose | hnamed
  · rcases List.mem_cons.mp hloose with rfl | hloose
    · exact Or.inr h
    · exact Or.inl hloose
  · exact Or.inr hnamed

/-- A write adds its key. -/
theorem mem_keys_putObject {storageKey k : String} {bytes : List UInt8} :
    k ∈ (s.putObject storageKey bytes).keys ↔ k = storageKey ∨ k ∈ s.keys := by
  by_cases hk : k = storageKey
  · simp [TextureState.keys, TextureState.putObject, hk]
  · simp [TextureState.keys, TextureState.putObject, hk]

/-- **A write** leaves a loose key, until a texture refers to it. -/
theorem Tidy.put (hs : Tidy loose s) (storageKey : String) (bytes : List UInt8) :
    Tidy (storageKey :: loose) (s.putObject storageKey bytes) := by
  refine ⟨hs.keyed, fun t ht => ?_, fun k hk htexture => ?_⟩
  · exact mem_keys_putObject.mpr (Or.inr (hs.stored t ht))
  · rcases mem_keys_putObject.mp hk with rfl | hold
    · exact Or.inl (List.mem_cons_self ..)
    · exact (hs.named k hold htexture).imp_left (List.mem_cons_of_mem _)

/-- **A deletion** takes a loose key away that no texture refers to. -/
theorem Tidy.erase {storageKey : String} (hs : Tidy (storageKey :: loose) s)
    (h : s.references storageKey = false) : Tidy loose (s.deleteObject storageKey) := by
  have hmem : ∀ k, k ∈ (s.deleteObject storageKey).keys ↔ k ∈ s.keys ∧ k ≠ storageKey := by
    intro k
    by_cases hk : k = storageKey
    · simp [TextureState.keys, TextureState.deleteObject, hk]
    · simp [TextureState.keys, TextureState.deleteObject, hk]
  refine ⟨hs.keyed, fun t ht => ?_, fun k hk htexture => ?_⟩
  · refine (hmem _).mpr ⟨hs.stored t ht, ?_⟩
    rintro rfl
    have hnamed : s.references t.storageKey = true := references_eq_true.mpr ⟨t, ht, rfl⟩
    rw [h] at hnamed
    cases hnamed
  · obtain ⟨hold, hne⟩ := (hmem k).mp hk
    refine (hs.named k hold htexture).imp_left fun hloose => ?_
    exact (List.mem_cons.mp hloose).resolve_left hne

/-- `cleanup_texture_blob_if_unreferenced` leaves its key no longer loose. -/
theorem wp_cleanupTextureBlob {storageKey : String} (hs : Tidy (storageKey :: loose) s) :
    (cleanupTextureBlobIfUnreferenced storageKey).Wp textureMachine
      (fun _ s' => Tidy loose s' ∧ s'.textures = s.textures) s := by
  have hcount := count_ne_zero s storageKey
  refine wp_reply_bind fun refCount hrefCount => ?_
  split
  · next hne =>
      rw [hrefCount] at hne
      exact ⟨hs.settle (hcount.mp hne), rfl⟩
  · next hzero =>
      rw [hrefCount] at hzero
      have hfree : s.references storageKey = false := by
        rw [← Bool.not_eq_true]
        exact fun h => hzero (hcount.mpr h)
      exact ⟨hs.erase hfree, rfl⟩

/-! ## Statements -/

/-- The statements that leave the hashes, keys and objects alone. -/
def StmtKind.keepsContents : StmtKind → Bool
  | .insert | .content | .remove | .put | .erase | .account => false
  | _ => true

/-- An update that leaves hash and key leaves the contents. -/
theorem contents_modifyTextures {p : MinecraftTexture → Bool}
    {f : MinecraftTexture → MinecraftTexture} {hid : ∀ t, (f t).id = t.id}
    (hf : ∀ t, (f t).hash = t.hash ∧ (f t).storageKey = t.storageKey) :
    (s.modifyTextures p f hid).contents = s.contents := by
  show List.map _ (List.map _ s.textures.rows) = _
  rw [List.map_map]
  refine List.map_congr_left fun t _ => ?_
  simp only [Function.comp]
  split
  · rw [(hf t).1, (hf t).2]
  · rfl

/-- So do the statements of most kinds, with the objects. -/
theorem exec_keepsContents {i : TextureStmt} (hi : i.kind.keepsContents = true)
    (s : TextureState) :
    (i.exec s).2.contents = s.contents ∧ (i.exec s).2.objects = s.objects := by
  by_cases hstill : i.kind.still = true
  · obtain ⟨htextures, hobjects⟩ := exec_still hstill s
    refine ⟨?_, hobjects⟩
    rw [TextureState.contents, htextures]
    rfl
  cases i with
  | textureMarkAsWardrobeItem id =>
      exact ⟨contents_modifyTextures fun t => ⟨rfl, rfl⟩, rfl⟩
  | textureUpdateReview id input =>
      exact ⟨contents_modifyTextures fun t => ⟨rfl, rfl⟩, rfl⟩
  | textureUpdateMetadata id input =>
      refine ⟨contents_modifyTextures fun t => ?_, rfl⟩
      unfold patchMetadata
      split <;> exact ⟨rfl, rfl⟩
  | service i =>
      unfold TextureStmt.kind at hi hstill
      grind [StmtKind.keepsContents, StmtKind.still]
  | _ => first | exact absurd rfl hstill | cases hi

/-- A program of such statements keeps storage tidy. -/
theorem keeps_tidy {α : Type} {kinds : List StmtKind} {p : TextureProg α}
    (hp : Touches kinds p) (h : ∀ k ∈ kinds, k.keepsContents = true) :
    p.Keeps textureMachine (Tidy loose) fun _ => True := by
  refine Within.keeps (Within.mono hp fun i hi s hs => ?_)
  have hkind : i.kind.keepsContents = true := by
    rcases hi with hplain | hmem
    · rw [hplain]
      rfl
    · exact h _ hmem
  obtain ⟨hcontents, hobjects⟩ := exec_keepsContents hkind s
  exact hs.of_contents hcontents hobjects

/-- The row of an insert makes its key a named one. -/
theorem Tidy.insert {input : CreateTexture} {t : MinecraftTexture}
    (hs : Tidy (input.storageKey :: loose) s) (h : (s.insertTexture input).1 = some t)
    (hvalid : isValidTextureHash input.hash = true)
    (hkey : input.storageKey = objectStorageKey input.hash)
    (hstored : input.storageKey ∈ s.keys) : Tidy loose (s.insertTexture input).2 := by
  obtain ⟨ht, hrows, hobjects⟩ := insertTexture_some h
  have hkeys : (s.insertTexture input).2.keys = s.keys := congrArg (List.map Prod.fst) hobjects
  have hcases : ∀ a ∈ (s.insertTexture input).2.textures.rows,
      a ∈ s.textures.rows ∨ a = t := by
    intro a ha
    rw [hrows] at ha
    exact (List.mem_append.mp ha).imp_right List.mem_singleton.mp
  have hnamed : (s.insertTexture input).2.references input.storageKey = true := by
    refine references_eq_true.mpr ⟨t, ?_, ?_⟩
    · rw [hrows]
      exact List.mem_append_right _ (List.mem_singleton.mpr rfl)
    · rw [ht]
      rfl
  suffices hloose : Tidy (input.storageKey :: loose) (s.insertTexture input).2 from
    hloose.settle hnamed
  refine ⟨?_, ?_, ?_⟩
  · intro a ha
    rcases hcases a ha with hold | rfl
    · exact hs.keyed a hold
    · rw [ht]
      exact ⟨hvalid, hkey⟩
  · intro a ha
    rw [hkeys]
    rcases hcases a ha with hold | rfl
    · exact hs.stored a hold
    · rw [ht]
      exact hstored
  · intro k hk htexture
    rw [hkeys] at hk
    refine (hs.named k hk htexture).imp_right fun hnamed => ?_
    obtain ⟨a, ha, rfl⟩ := references_eq_true.mp hnamed
    refine references_eq_true.mpr ⟨a, ?_, rfl⟩
    rw [hrows]
    exact List.mem_append_left _ ha

/-- Deleting rows may make their keys loose. -/
theorem Tidy.remove {p : MinecraftTexture → Bool} (hs : Tidy loose s)
    (h : ∀ t ∈ s.textures.rows, p t = true → t.storageKey ∈ loose) :
    Tidy loose (s.dropTextures p) := by
  refine ⟨fun t ht => hs.keyed t (mem_dropTextures.mp ht).1,
    fun t ht => hs.stored t (mem_dropTextures.mp ht).1, fun k hk htexture => ?_⟩
  rcases hs.named k hk htexture with hloose | hnamed
  · exact Or.inl hloose
  · obtain ⟨t, ht, rfl⟩ := references_eq_true.mp hnamed
    by_cases hp : p t = true
    · exact Or.inl (h t ht hp)
    · refine Or.inr (references_eq_true.mpr ⟨t, mem_dropTextures.mpr ⟨ht, ?_⟩, rfl⟩)
      simpa using hp

/-- Deleting one row makes at most its key loose. -/
theorem Tidy.removeRow {t : MinecraftTexture} (hs : Tidy loose s)
    (ht : t ∈ s.textures.rows) :
    Tidy (t.storageKey :: loose) (s.dropTextures fun a => a.id = t.id) := by
  refine (hs.mono (List.subset_cons_self ..)).remove fun a ha hid => ?_
  rw [s.textures.eq_of_ident ha ht (of_decide_eq_true hid)]
  exact List.mem_cons_self ..

/-- A replacement names the new key and may make the old one loose. -/
theorem Tidy.replace {userId textureId : Nat} {t : MinecraftTexture} {input : ReplaceContent}
    (hs : Tidy (input.storageKey :: loose) s) (hown : OwnWardrobe s userId textureId t)
    (hvalid : isValidTextureHash input.hash = true)
    (hkey : input.storageKey = objectStorageKey input.hash)
    (hstored : input.storageKey ∈ s.keys) :
    Tidy (t.storageKey :: loose) (s.replaceTexture t.id userId t.updatedAt input).2 := by
  have hnew := mem_replaceTexture hown input
  have hcases : ∀ a ∈ (s.replaceTexture t.id userId t.updatedAt input).2.textures.rows,
      a ∈ s.textures.rows ∨ a.hash = input.hash ∧ a.storageKey = input.storageKey := by
    intro a ha
    rcases mem_modifyTextures ha with hold | ⟨b, -, -, rfl⟩
    · exact Or.inl hold
    · exact Or.inr ⟨rfl, rfl⟩
  suffices hloose : Tidy (input.storageKey :: t.storageKey :: loose)
      (s.replaceTexture t.id userId t.updatedAt input).2 from
    hloose.settle (references_eq_true.mpr ⟨_, hnew, rfl⟩)
  refine ⟨?_, ?_, ?_⟩
  · intro a ha
    rcases hcases a ha with hold | ⟨hhash, hkey'⟩
    · exact hs.keyed a hold
    · rw [hhash, hkey']
      exact ⟨hvalid, hkey⟩
  · intro a ha
    rcases hcases a ha with hold | ⟨-, hkey'⟩
    · exact hs.stored a hold
    · rw [hkey']
      exact hstored
  · intro k hk htexture
    rcases hs.named k hk htexture with hloose | hnamed
    · rcases List.mem_cons.mp hloose with rfl | hloose
      · exact Or.inl (List.mem_cons_self ..)
      · exact Or.inl (List.mem_cons_of_mem _ (List.mem_cons_of_mem _ hloose))
    · obtain ⟨a, ha, rfl⟩ := references_eq_true.mp hnamed
      by_cases hid : a.id = t.id
      · rw [s.textures.eq_of_ident ha hown.mem hid]
        exact Or.inl (List.mem_cons_of_mem _ (List.mem_cons_self ..))
      · refine Or.inr (references_eq_true.mpr ⟨a, ?_, rfl⟩)
        exact List.mem_map.mpr ⟨a, ha, if_neg (by simp [hid])⟩

/-! ## Programs -/

/-- So it does along the way, to its success. -/
theorem Touches.tidy {α : Type} {kinds : List StmtKind} {p : TextureProg α}
    (hp : Touches kinds p) (hs : Tidy loose s) (h : ∀ k ∈ kinds, k.keepsContents = true) :
    p.Wp textureMachine (OnSuccess fun _ s' => Tidy loose s') s :=
  Wp.success (keeps_tidy hp h s hs).1

/-- Put, insert: the key is loose in between. -/
theorem tidy_storeNewTexture {input : StoreTextureAsset}
    {processing : TextureProcessingResult} (hs : Tidy loose s) :
    (storeNewTexture input processing).Wp textureMachine
      (OnSuccess fun _ s' => Tidy loose s') s := by
  have hput := hs.put (objectStorageKey processing.hash) processing.bytes
  refine wp_stmt_bind.mpr ?_
  refine (touches_fitColumns processing).bind_still (by simp) fun _ s' htextures hobjects => ?_
  have hs' : Tidy ((input.row processing).storageKey :: loose) s' :=
    hput.of_same htextures hobjects
  have hstored : objectStorageKey processing.hash ∈ s'.keys := by
    rw [TextureState.keys, hobjects]
    exact mem_keys_putObject.mpr (Or.inl rfl)
  refine wp_reply_bind fun reply hreply => ?_
  cases reply with
  | some texture =>
      exact wp_ok_success (hs'.insert hreply.symm processing.hash_valid rfl hstored)
  | none => exact wp_bind_err_success _ _

/-- An upload to the wardrobe leaves nothing loose. -/
theorem tidy_storeOrReuseWardrobeTexture {codecs : TextureCodecs} {policy : TexturePolicy}
    {input : StoreTextureAsset} (hs : Tidy loose s) :
    (storeOrReuseWardrobeTexture codecs policy input).Wp textureMachine
      (OnSuccess fun _ s' => Tidy loose s') s := by
  refine (looks_processUpload codecs policy _ _).bind_success fun processing _ => ?_
  refine (looks_query rfl).bind_success fun found _ => ?_
  cases found with
  | some existing => exact wp_ok_success hs
  | none => exact tidy_storeNewTexture hs

/-- From the put on: the new key is loose until the row names it, the old one from
then on until the cleanup. -/
theorem tidy_replaceContent {userId textureId : Nat} {existing : MinecraftTexture}
    {input : ReplaceContent} {left : Nat} (hs : Tidy (input.storageKey :: loose) s)
    (hown : OwnWardrobe s userId textureId existing)
    (hvalid : isValidTextureHash input.hash = true)
    (hkey : input.storageKey = objectStorageKey input.hash)
    (hstored : input.storageKey ∈ s.keys) :
    (Prog.bind (replaceAttempts userId textureId input left existing) fun x =>
      Prog.bind (cleanupReplaced x.1 x.2) fun _ => .ok x.2).Wp textureMachine
        (OnSuccess fun _ s' => Tidy loose s') s := by
  refine wp_bind.mpr (wp_replaceAttempts hown _ ?_)
  have hreplaced := hs.replace hown hvalid hkey hstored
  refine Wp.success (wp_bind_ok ?_)
  unfold cleanupReplaced
  split
  · exact (wp_cleanupTextureBlob hreplaced).mono fun _ _ h => h.1
  · next hsame =>
      rw [ne_eq, not_not] at hsame
      refine hreplaced.settle (references_eq_true.mpr ⟨_, mem_replaceTexture hown input, ?_⟩)
      exact hsame.symm

/-- Nor does a replacement, which erases what it replaced. -/
theorem tidy_replaceWith {userId textureId : Nat} {existing : MinecraftTexture}
    {processing : TextureProcessingResult} {textureModel : MinecraftTextureModel}
    (hs : Tidy loose s) (hown : OwnWardrobe s userId textureId existing) :
    (replaceWith userId textureId existing processing textureModel).Wp textureMachine
      (OnSuccess fun _ s' => Tidy loose s') s := by
  refine (touches_fitColumns processing).bind_still (by simp) fun _ s' htextures hobjects => ?_
  have hs' := hs.of_same htextures hobjects
  have hown' := hown.of_same htextures
  unfold putNewContent
  split
  · have hput := hs'.put (objectStorageKey processing.hash) processing.bytes
    refine wp_stmt_bind.mpr (wp_stmt_bind.mpr ?_)
    exact tidy_replaceContent hput (hown'.of_same rfl) processing.hash_valid rfl
      (mem_keys_putObject.mpr (Or.inl rfl))
  · next hsame =>
      rw [ne_eq, not_not] at hsame
      have hkey : (replacement processing textureModel).storageKey = existing.storageKey := by
        rw [(hs'.keyed existing hown'.mem).2, ← hsame]
        rfl
      refine wp_stmt_bind.mpr ?_
      refine tidy_replaceContent (hs'.mono (List.subset_cons_self ..)) hown'
        processing.hash_valid rfl ?_
      rw [hkey]
      exact hs'.stored existing hown'.mem

/-- As a request of the owner. -/
theorem tidy_replaceWardrobeTextureContent {codecs : TextureCodecs} {policy : TexturePolicy}
    {userId textureId : Nat} {textureModel : MinecraftTextureModel} {upload : List UInt8}
    (hs : Tidy loose s) :
    (replaceWardrobeTextureContent codecs policy userId textureId textureModel upload).Wp
      textureMachine (OnSuccess fun _ s' => Tidy loose s') s := by
  refine (looks_ensureUserNotBanned _ _ _).bind_success fun _ _ => ?_
  refine wp_rejectIf_success fun hgiven => ?_
  refine (looks_query rfl).bind_success fun found hfound => ?_
  refine looks_required.bind_success fun existing hexisting => ?_
  rw [hfound] at hexisting
  have hown := (ownWardrobe_iff (by simpa using hgiven)).mp hexisting
  refine (looks_processUpload codecs policy _ _).bind_success fun processing _ => ?_
  dsimp only
  split
  · exact wp_ok_success hs
  · exact tidy_replaceWith hs hown

/-- A copy refers to an object that is there. -/
theorem tidy_copyPublicTextureToWardrobe {policy : TexturePolicy} {userId textureId : Nat}
    {displayName : Option (Bans.NullablePatch String)} (hs : Tidy loose s) :
    (copyPublicTextureToWardrobe policy userId textureId displayName).Wp textureMachine
      (OnSuccess fun _ s' => Tidy loose s') s := by
  refine (looks_ensureTextureLibraryEnabled policy).bind_success fun _ _ => ?_
  refine (looks_ensureUserNotBanned _ _ _).bind_success fun _ _ => ?_
  refine wp_rejectIf_success fun _ => ?_
  refine (looks_query rfl).bind_success fun found hfound => ?_
  refine looks_required.bind_success fun source hsource => ?_
  rw [hfound] at hsource
  have hmem := (Table.of_find? hsource).1
  refine (looks_query rfl).bind_success fun own _ => ?_
  cases own with
  | some existing => exact wp_ok_success hs
  | none =>
      refine looks_checked.bind_success fun name _ => ?_
      refine (touches_ensureDisplayNameFree _ _).bind_still (by simp)
        fun _ s' htextures hobjects => ?_
      have hs' := hs.of_same htextures hobjects
      rw [← htextures] at hmem
      have hloose : Tidy ((wardrobeCopy source userId name).storageKey :: loose) s' :=
        hs'.mono (List.subset_cons_self ..)
      refine wp_reply_bind fun inserted hinserted => ?_
      cases inserted with
      | none => exact wp_err_success _
      | some copied =>
          have hcopied := hloose.insert hinserted.symm (hs'.keyed source hmem).1
            (hs'.keyed source hmem).2 (hs'.stored source hmem)
          have hrest : Touches [] ((query (.tagListForTexture source.id)).bind fun tagIds =>
              if tagIds.isEmpty then pure copied
              else (replaceTextureTags copied.id tagIds).bind fun _ => pure copied) := by
            refine Touches.query rfl fun tagIds => ?_
            split
            · trivial
            · exact (touches_replaceTextureTags _ _).bind fun _ => trivial
          exact hrest.tidy hcopied (by simp)

/-! ## Deleting -/

/-- A deletion by id has found nothing, or the row it deleted. -/
def Removed (loose : List String) (s : TextureState) (id : Nat)
    (found : Option MinecraftTexture) (s' : TextureState) : Prop :=
  match found with
  | none => Tidy loose s'
  | some t => t ∈ s.textures.rows ∧ t.id = id ∧ Tidy (t.storageKey :: loose) s'

/-- A deleted texture's key may be loose now. -/
theorem removed_deleteByIdForUser {id userId : Nat} (hs : Tidy loose s) :
    (deleteByIdForUser id userId).Wp textureMachine (OnSuccess (Removed loose s id)) s := by
  refine (looks_query rfl).bind_success fun found hfound => ?_
  cases found with
  | none => exact wp_ok_success hs
  | some t =>
      obtain ⟨hmem, hp⟩ := Table.of_find? hfound.symm
      simp only [Bool.and_eq_true, decide_eq_true_eq] at hp
      exact wp_stmt_bind.mpr (wp_ok_success ⟨hmem, hp.1, hs.removeRow hmem⟩)

/-- Whoever owned it. -/
theorem removed_deleteWardrobeById {id : Nat} (hs : Tidy loose s) :
    (deleteWardrobeById id).Wp textureMachine (OnSuccess (Removed loose s id)) s := by
  refine (looks_query rfl).bind_success fun found hfound => ?_
  rw [hfound]
  split
  · exact wp_ok_success hs
  · next t ht =>
      obtain ⟨hmem, hid⟩ := textureById_eq_some (Option.filter_eq_some_iff.mp ht).1
      exact wp_stmt_bind.mpr (wp_ok_success ⟨hmem, hid, hs.removeRow hmem⟩)

/-- A deletion that has to find the row, and the cleanup after it. -/
theorem tidy_requireRemoved {α : Type} {e : TextureFailure} {id : Nat}
    {found : Option MinecraftTexture} {s₀ : TextureState} {g : MinecraftTexture → α}
    (h : Removed loose s₀ id found s) :
    (Prog.bind (required e found) fun deleted =>
      Prog.bind (cleanupTextureBlobIfUnreferenced deleted.storageKey) fun _ =>
        .ok (g deleted)).Wp textureMachine (OnSuccess fun _ s' => Tidy loose s') s := by
  cases found with
  | none => exact wp_err_success e
  | some t =>
      obtain ⟨-, -, htidy⟩ := h
      refine Wp.success (wp_bind_ok ?_)
      exact (wp_cleanupTextureBlob htidy).mono fun _ _ h => h.1

/-- The cleanup after it erases the object. -/
theorem tidy_deleteWardrobeTexture {userId wardrobeTextureId : Nat} (hs : Tidy loose s) :
    (deleteWardrobeTexture userId wardrobeTextureId).Wp textureMachine
      (OnSuccess fun _ s' => Tidy loose s') s := by
  refine (looks_ensureUserNotBanned _ _ _).bind_success fun _ _ => wp_stmt_bind.mpr ?_
  exact (removed_deleteByIdForUser hs).bind_success fun _ _ h => tidy_requireRemoved h

/-- All bindings of a texture go. -/
theorem touches_deleteBindingsByTextureId (textureId : Nat) :
    Touches [.unbind] (deleteBindingsByTextureId textureId) := by
  refine Touches.query rfl fun bindings => ?_
  exact (Within.forEach (fun b => touches_query rfl) bindings).bind fun _ => trivial

/-- An administrator's deletion cleans up too. -/
theorem tidy_deleteTextureLibraryTexture {textureId : Nat} (hs : Tidy loose s) :
    (deleteTextureLibraryTexture textureId).Wp textureMachine
      (OnSuccess fun _ s' => Tidy loose s') s := by
  refine wp_rejectIf_success fun _ => wp_stmt_bind.mpr ?_
  refine looks_required.bind_success fun _ _ => ?_
  refine (touches_deleteBindingsByTextureId _).bind_still (by simp [StmtKind.still])
    fun bindings s' htextures hobjects => ?_
  exact (removed_deleteWardrobeById (hs.of_same htextures hobjects)).bind_success
    fun _ _ h => tidy_requireRemoved h

/-- The rows with the id of a texture that was read have its key. -/
def KeyCurrent (s : TextureState) (texture : MinecraftTexture) : Prop :=
  ∀ t ∈ s.textures.rows, t.id = texture.id → t.storageKey = texture.storageKey

/-- A texture that is stored has its own key. -/
theorem keyCurrent_of_mem {texture : MinecraftTexture} (h : texture ∈ s.textures.rows) :
    KeyCurrent s texture := by
  intro t ht hid
  rw [s.textures.eq_of_ident ht h hid]

/-- The cleanup of an asset erases its object with its row, or neither. -/
theorem tidy_cleanupTextureAsset {texture : MinecraftTexture} (hs : Tidy loose s)
    (hcurrent : KeyCurrent s texture) :
    (cleanupTextureAssetIfUnreferenced texture).Wp textureMachine
      (OnSuccess fun _ s' => Tidy loose s') s := by
  unfold cleanupTextureAssetIfUnreferenced
  split
  · exact wp_ok_success hs
  · refine wp_reply_bind fun refCount _ => ?_
    split
    · exact wp_ok_success hs
    · refine (removed_deleteByIdForUser hs).bind_success fun found s' hremoved => ?_
      have hloose : Tidy (texture.storageKey :: loose) s' := by
        cases found with
        | none => exact Tidy.mono hremoved (List.subset_cons_self ..)
        | some t =>
            obtain ⟨hmem, hid, htidy⟩ := hremoved
            exact hcurrent t hmem hid ▸ htidy
      exact Wp.success ((wp_cleanupTextureBlob hloose).mono fun _ _ h => h.1)

/-! ## Bindings -/

/-- Unbinding leaves nothing loose. -/
theorem tidy_deleteTextureForProfileUnchecked {profile : MinecraftProfile}
    {textureType : TextureType} (hs : Tidy loose s) :
    (deleteTextureForProfileUnchecked profile textureType).Wp textureMachine
      (OnSuccess fun _ s' => Tidy loose s') s := by
  have hdeleted : (deleteForProfile profile.id textureType).Wp textureMachine
      (OnSuccess fun found s' => Tidy loose s' ∧ ∀ x ∈ found, KeyCurrent s' x.texture) s := by
    refine (looks_findByProfileAndType _ _).bind_success fun found hfound => ?_
    cases found with
    | none => exact wp_ok_success ⟨hs, fun x hx => by cases hx⟩
    | some existing =>
        refine wp_stmt_bind.mpr (wp_ok_success ⟨hs.of_same rfl rfl, ?_⟩)
        rintro x ⟨rfl⟩
        exact keyCurrent_of_mem (hfound existing rfl)
  refine hdeleted.bind_success fun found s' h => ?_
  cases found with
  | none => exact wp_ok_success h.1
  | some deleted =>
      exact (tidy_cleanupTextureAsset h.1 (h.2 deleted rfl)).bind_success
        fun _ _ hs' => wp_ok_success hs'

/-- Nor does replacing what was bound. -/
theorem tidy_cleanupPrevious {previous : Option ProfileTexture} {bound : ProfileTexture}
    (hs : Tidy loose s) (hcurrent : ∀ x ∈ previous, KeyCurrent s x.texture) :
    (cleanupPrevious previous bound).Wp textureMachine
      (OnSuccess fun _ s' => Tidy loose s') s := by
  unfold cleanupPrevious
  split
  · next previous =>
      split
      · exact tidy_cleanupTextureAsset hs (hcurrent previous rfl)
      · exact wp_ok_success hs
  · exact wp_ok_success hs

/-- So a binding leaves nothing loose. -/
theorem tidy_bindTexture {profile : MinecraftProfile} {wardrobeTexture : MinecraftTexture}
    {textureType : TextureType} (hs : Tidy loose s) :
    (bindTexture profile wardrobeTexture textureType).Wp textureMachine
      (OnSuccess fun _ s' => Tidy loose s') s := by
  refine (looks_findByProfileAndType _ _).bind_success fun previous hprevious => ?_
  refine (touches_upsertForProfile _ _ _).bind_still (by simp [StmtKind.still])
    fun texture s₁ htextures₁ hobjects₁ => ?_
  refine (touches_rememberLocalTexturePreset _ _).bind_still (by simp [StmtKind.still])
    fun _ s₂ htextures₂ hobjects₂ => ?_
  have htextures := htextures₂.trans htextures₁
  refine (tidy_cleanupPrevious (hs.of_same htextures (hobjects₂.trans hobjects₁))
    fun x hx => keyCurrent_of_mem ?_).bind_success fun _ _ hs' => wp_ok_success hs'
  rw [htextures]
  exact hprevious x hx

/-- From the wardrobe. -/
theorem tidy_bindWardrobeTextureToProfile {policy : TexturePolicy} {userId : Nat}
    {profile : MinecraftProfile} {wardrobeTextureId : Nat} {textureType : TextureType}
    (hs : Tidy loose s) :
    (bindWardrobeTextureToProfile policy userId profile wardrobeTextureId textureType).Wp
      textureMachine (OnSuccess fun _ s' => Tidy loose s') s := by
  refine (touches_ensureTextureChangeAllowed _ _ _ _).bind_still (by simp)
    fun _ s' htextures hobjects => wp_stmt_bind.mpr ?_
  refine looks_required.bind_success fun wardrobeTexture _ => wp_rejectIf_success fun _ => ?_
  exact tidy_bindTexture (hs.of_same htextures hobjects)

/-- From an upload. -/
theorem tidy_storeTexture {codecs : TextureCodecs} {policy : TexturePolicy}
    {profile : MinecraftProfile} {textureType : TextureType}
    {textureModel : MinecraftTextureModel} {upload : List UInt8} (hs : Tidy loose s) :
    (storeTexture codecs policy profile textureType textureModel upload).Wp textureMachine
      (OnSuccess fun _ s' => Tidy loose s') s := by
  refine (touches_ensureTextureChangeAllowed _ _ _ _).bind_still (by simp)
    fun _ s' htextures hobjects => ?_
  refine (tidy_storeOrReuseWardrobeTexture (hs.of_same htextures hobjects)).bind_success ?_
  exact fun _ _ hs' => tidy_bindTexture hs'

/-- Or from Mojang. -/
theorem tidy_importOfficialTexture {codecs : TextureCodecs} {policy : TexturePolicy}
    {profile : MinecraftProfile} {textureType : TextureType}
    {textureModel : MinecraftTextureModel} {sourceUrl : String}
    {bindingMode : OfficialTextureBindingMode} (hs : Tidy loose s) :
    (importOfficialTextureToProfileWithMode codecs policy profile textureType textureModel
      sourceUrl bindingMode).Wp textureMachine (OnSuccess fun _ s' => Tidy loose s') s := by
  refine wp_ofExcept_success fun upload _ => ?_
  refine (tidy_storeOrReuseWardrobeTexture hs).bind_success fun texture s₁ hs₁ => ?_
  refine (looks_findByProfileAndType _ _).bind_success fun previous hprevious => ?_
  split
  · exact wp_ok_success hs₁
  · refine (touches_upsertForProfile _ _ _).bind_still (by simp [StmtKind.still])
      fun bound s₂ htextures hobjects => ?_
    refine tidy_cleanupPrevious (hs₁.of_same htextures hobjects) fun x hx => ?_
    refine keyCurrent_of_mem ?_
    rw [htextures]
    exact hprevious x hx

/-- A preset is bound like any texture. -/
theorem tidy_applyPreset {policy : TexturePolicy} {userId : Nat}
    {profile : MinecraftProfile} {textureType : TextureType} (hs : Tidy loose s) :
    (applyPreset policy userId profile textureType).Wp textureMachine
      (OnSuccess fun _ s' => Tidy loose s') s := by
  refine (touches_localTexturePreset _ _ _).bind_still (by simp)
    fun found s' htextures hobjects => ?_
  have hs' := hs.of_same htextures hobjects
  cases found with
  | none => exact wp_ok_success hs'
  | some texture =>
      exact (tidy_bindWardrobeTextureToProfile hs').bind_success
        fun _ _ hs' => wp_ok_success hs'

/-- For both kinds of textures. -/
theorem tidy_applyLocalTexturePresets {policy : TexturePolicy} {userId : Nat}
    {profile : MinecraftProfile} (hs : Tidy loose s) :
    (applyLocalTexturePresetsToProfile policy userId profile).Wp textureMachine
      (OnSuccess fun _ s' => Tidy loose s') s := by
  refine wp_rejectIf_success fun _ => (tidy_applyPreset hs).bind_success fun skins s₁ hs₁ => ?_
  refine (tidy_applyPreset hs₁).bind_success fun capes s₂ hs₂ => wp_rejectIf_success fun _ => ?_
  have hlist : Touches [] (query (.bindingListByProfile profile.id)) := touches_look rfl
  exact hlist.tidy hs₂ (by simp)

/-- An official texture is unbound like any other. -/
theorem tidy_deleteOfficialTexture {profile : MinecraftProfile} {textureType : TextureType}
    (hs : Tidy loose s) :
    (deleteOfficialTextureForProfileIfBound profile textureType).Wp textureMachine
      (OnSuccess fun _ s' => Tidy loose s') s := by
  refine (looks_findByProfileAndType _ _).bind_success fun current _ => ?_
  split
  · exact tidy_deleteTextureForProfileUnchecked hs
  · exact wp_ok_success hs

/-- All textures of a profile are unbound. -/
theorem tidy_deleteAllTexturesForProfile {profile : MinecraftProfile} (hs : Tidy loose s) :
    (deleteAllTexturesForProfile profile).Wp textureMachine
      (OnSuccess fun _ s' => Tidy loose s') s := by
  refine wp_stmt_bind.mpr ?_
  refine wp_forEach_success (M := textureMachine) (fun _ s => Tidy loose s) ?_
    (fun _ h => h) hs
  intro b bs s hs
  exact (tidy_deleteTextureForProfileUnchecked hs).bind_success fun _ _ h => wp_ok_success h

/-- One binding of a hash. -/
theorem tidy_deleteBoundByHash {b : ProfileTexture} (hs : Tidy loose s) :
    (deleteBoundByHash b).Wp textureMachine (OnSuccess fun _ s' => Tidy loose s') s := by
  refine wp_stmt_bind.mpr (looks_required.bind_success fun profile _ => ?_)
  exact (tidy_deleteTextureForProfileUnchecked (hs.of_same rfl rfl)).bind_success
    fun _ _ h => wp_ok_success h

/-- One after the other. -/
theorem tidy_deleteAllBoundByHash (bound : List ProfileTexture) (hs : Tidy loose s) :
    (deleteAllBoundByHash bound).Wp textureMachine (OnSuccess fun _ s' => Tidy loose s') s := by
  induction bound generalizing s with
  | nil => exact wp_ok_success hs
  | cons b bound ih =>
      refine (tidy_deleteBoundByHash hs).bind_success fun _ s₁ hs₁ => ?_
      exact (ih hs₁).bind_success fun _ _ h => wp_ok_success h

/-- The keys of all rows with the hash are loose from the deletions on, and settled
one by one. -/
theorem tidy_deleteTexturesByHash {hash : String} (hs : Tidy loose s) :
    (deleteTexturesByHash hash).Wp textureMachine (OnSuccess fun _ s' => Tidy loose s') s := by
  unfold deleteTexturesByHash
  split
  · exact wp_ok_success hs
  · refine wp_stmt_bind.mpr ?_
    refine (tidy_deleteAllBoundByHash _ hs).bind_success fun _ s₁ hs₁ =>
      wp_reply_bind fun textures htextures => ?_
    have hrows : ∀ t ∈ textures, t ∈ s₁.textures.rows := by
      intro t ht
      rw [htextures] at ht
      exact (Table.mem_select.mp ht).1
    -- a row that is deleted is one of the listed ones
    have hdeleted : (forEach textures fun texture => query (.textureDelete texture.id)).Wp
        textureMachine (OnSuccess fun _ s' =>
          Tidy (textures.map MinecraftTexture.storageKey ++ loose) s') s₁ := by
      refine wp_forEach_success (M := textureMachine) (fun later s' =>
        later ⊆ textures ∧ (∀ t ∈ s'.textures.rows, t ∈ s₁.textures.rows) ∧
          Tidy (textures.map MinecraftTexture.storageKey ++ loose) s') ?_ (fun _ h => h.2.2)
        ⟨List.Subset.refl _, fun _ h => h, hs₁.mono (List.subset_append_right ..)⟩
      rintro texture later s' ⟨hlater, hsub, hs'⟩
      have hlisted : texture ∈ textures := hlater (List.mem_cons_self ..)
      refine wp_ok_success ⟨fun t ht => hlater (List.mem_cons_of_mem _ ht),
        fun t ht => hsub t (mem_dropTextures.mp ht).1, hs'.remove fun t ht hid => ?_⟩
      rw [s₁.textures.eq_of_ident (hsub t ht) (hrows texture hlisted) (of_decide_eq_true hid)]
      exact List.mem_append_left _ (List.mem_map_of_mem hlisted)
    refine hdeleted.bind_success fun _ s₂ hs₂ => ?_
    have hsettled : (forEach textures fun texture =>
        cleanupTextureBlobIfUnreferenced texture.storageKey).Wp textureMachine
          (OnSuccess fun _ s' => Tidy loose s') s₂ := by
      refine wp_forEach_success (M := textureMachine) (fun later s' =>
        Tidy (later.map MinecraftTexture.storageKey ++ loose) s') ?_ (fun _ h => h) hs₂
      intro texture later s' hs'
      exact Wp.success ((wp_cleanupTextureBlob hs').mono fun _ _ h => h.1)
    exact hsettled.bind_success fun _ _ h => wp_ok_success h

/-- A profile leaves no object behind. -/
theorem tidy_deleteProfileForUser {userId : Nat} {uuid : String} (hs : Tidy loose s) :
    (deleteProfileForUser userId uuid).Wp textureMachine
      (OnSuccess fun _ s' => Tidy loose s') s := by
  refine (looks_ensureUserNotBanned _ _ _).bind_success fun _ _ => ?_
  refine (looks_query rfl).bind_success fun found _ => ?_
  cases found with
  | none => exact wp_ok_success hs
  | some profile =>
      refine wp_rejectIf_success fun _ => ?_
      have hevicted : Touches [] (ofService (fun _ => TextureFailure.aster .databaseOperation)
          (invalidateTokenCacheForSelectedProfile profile.id)) :=
        touches_service (keeps_invalidateForProfile profile.id)
      refine hevicted.bind_still (by simp) fun _ s₁ htextures hobjects => ?_
      have hdeleted : ((deleteAllTexturesForProfile profile).hoist ⟨id, fun _ r => r⟩
          TextureFailure.asInternal).Wp textureMachine (OnSuccess fun _ s' => Tidy loose s')
            s₁ := by
        refine wp_hoist.mpr ?_
        refine (tidy_deleteAllTexturesForProfile (hs.of_same htextures hobjects)).mono ?_
        intro r s' h a ha
        cases r with
        | ok b => exact h b rfl
        | error e => cases ha
      refine hdeleted.bind_success fun _ s₂ hs₂ => ?_
      refine Touches.tidy (?_ : Touches [.dropProfile] _) hs₂ (by simp [StmtKind.keepsContents])
      refine Touches.query rfl fun _ => Touches.query rfl fun found => ?_
      split
      · exact (touches_query rfl).bind fun _ => trivial
      · trivial

/-! ## Registration -/

/-- A binding that moves takes care of the texture it leaves. -/
theorem tidy_rebindToWardrobe {b : ProfileTexture} {existing : MinecraftTexture}
    {result : WardrobeRegistrationResult} (hs : Tidy loose s) :
    (rebindToWardrobe b existing result).Wp textureMachine
      (OnSuccess fun _ s' => Tidy loose s') s := by
  refine (touches_upsertForProfile _ _ _).bind_still (by simp [StmtKind.still])
    fun _ s₁ htextures hobjects => ?_
  refine (removed_deleteByIdForUser (hs.of_same htextures hobjects)).bind_success
    fun found s₂ hremoved => ?_
  cases found with
  | none => exact wp_ok_success hremoved
  | some deleted =>
      refine Wp.success (wp_bind_ok ?_)
      exact (wp_cleanupTextureBlob hremoved.2.2).mono fun _ _ h => h.1

/-- One binding of the registration. -/
theorem tidy_registerBinding {b : ProfileTexture} {result : WardrobeRegistrationResult}
    (hs : Tidy loose s) :
    (registerBinding b result).Wp textureMachine (OnSuccess fun _ s' => Tidy loose s') s := by
  unfold registerBinding
  split
  · exact wp_ok_success hs
  · refine (looks_query rfl).bind_success fun found _ => ?_
    cases found with
    | none =>
        have hmark : Touches [.mark] ((query (.textureMarkAsWardrobeItem b.texture.id)).bind
            fun marked => (required (.ofAster .databaseOperation) marked).bind fun _ =>
              .ok { result with convertedTextures := result.convertedTextures + 1 }) :=
          (touches_query rfl).bind fun _ => touches_required.bind fun _ => trivial
        exact hmark.tidy hs (by simp [StmtKind.keepsContents])
    | some existing => exact tidy_rebindToWardrobe hs

/-- And all of them. -/
theorem tidy_registerBindings {bindings : List ProfileTexture}
    {result : WardrobeRegistrationResult} (hs : Tidy loose s) :
    (registerBindings bindings result).Wp textureMachine
      (OnSuccess fun _ s' => Tidy loose s') s := by
  induction bindings generalizing result s with
  | nil => exact wp_ok_success hs
  | cons b bindings ih => exact (tidy_registerBinding hs).bind_success fun _ _ hs' => ih hs'

end Tidy

/-! ## Calls -/

/-- The call returns without an error. -/
def Succeeds (codecs : TextureCodecs) (s : TextureState) (call : TextureCall) : Prop :=
  ((call.body codecs).run textureMachine s).1.isOk = true

instance (codecs : TextureCodecs) (s : TextureState) (call : TextureCall) :
    Decidable (Succeeds codecs s call) :=
  inferInstanceAs (Decidable (_ = true))

/-- In a tidy state no texture key is without a row. -/
theorem Tidy.no_orphans {s : TextureState} (hs : Tidy [] s) {k : String} (hk : k ∈ s.keys) :
    (isTextureBlobStorageKey k && !s.references k) = false := by
  by_cases htexture : isTextureBlobStorageKey k = true
  · rcases hs.named k hk htexture with hloose | hnamed
    · cases hloose
    · simp [hnamed]
  · simp [htexture]

/-- **In a tidy state the orphan cleanup changes nothing.** -/
theorem cleanup_of_tidy {s : TextureState} (hs : Tidy [] s) :
    ∃ result, cleanupOrphanTextureBlobs.run textureMachine s = (.ok result, s) ∧
      result.deleted = 0 := by
  obtain ⟨result, hrun, hdeleted⟩ := run_cleanupOrphanTextureBlobs s
  have hsame : (s.eraseObjects fun k => isTextureBlobStorageKey k && !s.references k) = s := by
    have hall : (s.objects.filter fun o =>
        !(isTextureBlobStorageKey o.1 && !s.references o.1)) = s.objects := by
      refine List.filter_eq_self.mpr fun o ho => ?_
      rw [hs.no_orphans (List.mem_map_of_mem ho)]
      rfl
    rw [TextureState.eraseObjects, hall]
  refine ⟨result, hrun.trans (congrArg _ hsame), hdeleted.trans ?_⟩
  refine List.countP_eq_zero.mpr fun k hk => ?_
  rw [hs.no_orphans hk]
  simp

/-- **A call that succeeds leaves a tidy state tidy.** -/
theorem tidy_call (codecs : TextureCodecs) {s : TextureState} (hs : Tidy [] s)
    (call : TextureCall) :
    (call.body codecs).Wp textureMachine (OnSuccess fun _ s' => Tidy [] s') s := by
  have hlast : ∀ {α : Type} {p : TextureProg α} {f : α → TextureResponse} {s : TextureState},
      p.Wp textureMachine (OnSuccess fun _ s' => Tidy [] s') s →
        (p.bind fun a => .ok (f a)).Wp textureMachine
          (OnSuccess fun _ s' => Tidy [] s') s :=
    fun hp => hp.bind_success fun _ _ hs' => wp_ok_success hs'
  cases call with
  | storeWardrobe policy userId textureType textureModel visibility upload =>
      refine hlast ((looks_ensureUserNotBanned _ _ _).bind_success fun _ _ => ?_)
      exact tidy_storeOrReuseWardrobeTexture hs
  | storeTexture policy accessToken profileUuid textureType textureModel upload =>
      refine (touches_authenticateTextureAccess _ _).bind_still (by simp)
        fun profile s' htextures hobjects => hlast ?_
      exact tidy_storeTexture (hs.of_same htextures hobjects)
  | importOfficial policy profileUuid textureType textureModel sourceUrl bindingMode =>
      refine (touches_profileByUuid _).bind_still (by simp)
        fun profile s' htextures hobjects => hlast ?_
      exact tidy_importOfficialTexture (hs.of_same htextures hobjects)
  | replace policy userId textureId textureModel upload =>
      exact hlast (tidy_replaceWardrobeTextureContent hs)
  | copy policy userId textureId displayName =>
      exact hlast (tidy_copyPublicTextureToWardrobe hs)
  | bind policy userId profileUuid textureId textureType =>
      refine (touches_profileOfUser _ _).bind_still (by simp)
        fun profile s' htextures hobjects => hlast ?_
      exact tidy_bindWardrobeTextureToProfile (hs.of_same htextures hobjects)
  | unbind policy userId profileUuid textureType =>
      refine (touches_profileOfUser _ _).bind_still (by simp)
        fun profile s₁ htextures hobjects => hlast ?_
      have hs₁ := hs.of_same htextures hobjects
      refine (touches_ensureTextureChangeAllowed _ _ _ _).bind_still (by simp)
        fun _ s₂ htextures hobjects => ?_
      exact tidy_deleteTextureForProfileUnchecked (hs₁.of_same htextures hobjects)
  | applyLocalPresets policy userId profileUuid =>
      refine (touches_profileOfUser _ _).bind_still (by simp)
        fun profile s' htextures hobjects => hlast ?_
      exact tidy_applyLocalTexturePresets (hs.of_same htextures hobjects)
  | deleteProfileTexture profileUuid textureType =>
      refine (touches_profileByUuid _).bind_still (by simp)
        fun profile s' htextures hobjects => hlast ?_
      exact tidy_deleteTextureForProfileUnchecked (hs.of_same htextures hobjects)
  | deleteOfficialIfBound profileUuid textureType =>
      refine (touches_profileByUuid _).bind_still (by simp)
        fun profile s' htextures hobjects => hlast ?_
      exact tidy_deleteOfficialTexture (hs.of_same htextures hobjects)
  | deleteWardrobe userId textureId => exact hlast (tidy_deleteWardrobeTexture hs)
  | deleteLibrary textureId => exact hlast (tidy_deleteTextureLibraryTexture hs)
  | deleteByHash hash => exact hlast (tidy_deleteTexturesByHash hs)
  | deleteProfile userId profileUuid => exact hlast (tidy_deleteProfileForUser hs)
  | registerBound => exact hlast (wp_stmt_bind.mpr (tidy_registerBindings hs))
  | cleanupOrphans =>
      obtain ⟨result, hrun, -⟩ := cleanup_of_tidy hs
      exact wp_bind_of_run hrun (wp_ok_success hs)
  | _ =>
      exact (TextureCall.touches_body codecs _).tidy hs
        (by simp [TextureCall.kinds, StmtKind.keepsContents])

/-! ## Runs -/

/-- **Rows and objects fit together after every sequence of calls that succeed**:
every row's object is there, every object under a texture key has a row, and the
orphan cleanup deletes nothing.  From any state at all the cleanup deletes the
texture keys that no row names, and nothing else. -/
theorem storage_consistent (codecs : TextureCodecs) {s₀ : TextureState} (hs₀ : Tidy [] s₀)
    {calls : List TextureCall}
    (hsuccess : Guarded textureMachine (TextureCall.body codecs) (Succeeds codecs) s₀ calls)
    {s : TextureState} (hs : s = serve textureMachine (TextureCall.body codecs) s₀ calls) :
    (∀ t ∈ s.textures.rows, t.storageKey ∈ s.keys) ∧
    (∀ k ∈ s.keys, isTextureBlobStorageKey k = true →
      ∃ t ∈ s.textures.rows, t.storageKey = k) ∧
    (∃ result, cleanupOrphanTextureBlobs.run textureMachine s = (.ok result, s) ∧
      result.deleted = 0) ∧
    ∀ s' : TextureState, (cleanupOrphanTextureBlobs.run textureMachine s').2 =
      s'.eraseObjects fun k => isTextureBlobStorageKey k && !s'.references k := by
  have htidy : Tidy [] s := by
    rw [hs]
    refine serve_induct (M := textureMachine) (P := fun _ s => Tidy [] s) hs₀ ?_ hsuccess
    intro done call hdone hok
    have hcall := tidy_call codecs hdone call
    unfold Succeeds at hok
    cases hr : ((call.body codecs).run textureMachine
        (serve textureMachine (TextureCall.body codecs) s₀ done)).1 with
    | ok response => exact hcall response hr
    | error e =>
        rw [hr] at hok
        cases hok
  refine ⟨htidy.stored, fun k hk htexture => ?_, cleanup_of_tidy htidy, fun s' => ?_⟩
  · rcases htidy.named k hk htexture with hloose | hnamed
    · cases hloose
    · exact references_eq_true.mp hnamed
  · obtain ⟨result, hrun, -⟩ := run_cleanupOrphanTextureBlobs s'
    exact congrArg Prod.snd hrun

/-- Bob and Eve upload the same skin; Bob's is deleted; an avatar lies beside. -/
def twoUploads : List TextureCall :=
  [.storeWardrobe openPolicy 2 .skin .default .privateItem [1, 2],
    .storeWardrobe openPolicy 3 .skin .default .privateItem [1, 2],
    .deleteWardrobe 2 1]

def withAvatar : TextureState := { twoPlayers with objects := [("avatar/1.png", [9])] }

/-- Eve's skin keeps its object, and the avatar stays. -/
theorem shared_object_kept :
    let s := serve textureMachine (TextureCall.body twoImages) withAvatar twoUploads
    s.textures.rows.map MinecraftTexture.id = [2] ∧ s.keys.length = 2 ∧
    (∀ t ∈ s.textures.rows, t.storageKey ∈ s.keys) ∧
    (∀ k ∈ s.keys, isTextureBlobStorageKey k = true →
      ∃ t ∈ s.textures.rows, t.storageKey = k) ∧
    (∃ result, cleanupOrphanTextureBlobs.run textureMachine s = (.ok result, s) ∧
      result.deleted = 0) ∧
    ∀ s' : TextureState, (cleanupOrphanTextureBlobs.run textureMachine s').2 =
      s'.eraseObjects fun k => isTextureBlobStorageKey k && !s'.references k := by
  have htidy : Tidy [] withAvatar := by
    refine ⟨fun _ h => (by cases h), fun _ h => (by cases h), fun k hk htexture => ?_⟩
    have havatar : isTextureBlobStorageKey "avatar/1.png" = false := by decide +kernel
    rw [List.mem_singleton.mp hk] at htexture
    cases havatar.symm.trans htexture
  have hsuccess : Guarded textureMachine (TextureCall.body twoImages) (Succeeds twoImages)
      withAvatar twoUploads :=
    ⟨by decide +kernel, by decide +kernel, by decide +kernel, trivial⟩
  exact ⟨by decide +kernel, by decide +kernel,
    storage_consistent twoImages htidy hsuccess rfl⟩

end AsterYggdrasil.Textures
