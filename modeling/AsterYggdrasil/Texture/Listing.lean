import AsterYggdrasil.Paging.Keyset
import AsterYggdrasil.Texture.Library

/-!
# The lists of textures

A user's wardrobe, the public library and the administrators' view of it are
three queries over the texture table that are read in pages in one way: by
`updated_at` and, where it ties, by id, both descending.  A page shows what a
reader may see of each of its rows, row by row.

`like` is the pattern matching of the database, `column LIKE '%keyword%'`,
`metadata` is what is shown of a row, and `lib` cuts the pages.
-/

namespace AsterYggdrasil.Textures

open Relational Paging
open External (trim)

inductive TextureTagSearchMethod
  | all | any
  deriving DecidableEq, Repr

structure WardrobeTextureListFilter where
  textureType : Option TextureType
  tagIds : List Nat
  tagSearchMethod : TextureTagSearchMethod
  keyword : Option String
  deriving DecidableEq, Repr

structure AdminTextureLibraryListFilter where
  textureType : Option TextureType
  visibility : Option Visibility
  libraryStatus : Option LibraryStatus
  published : Option Bool
  tagIds : List Nat
  tagSearchMethod : TextureTagSearchMethod
  keyword : Option String
  deriving DecidableEq, Repr

/-! ## The queries -/

section Queries

variable (like : String → String → Bool) (s : TextureState)

/-- `texture_has_tag_condition`. -/
def textureHasTag (tagId : Nat) (t : MinecraftTexture) : Bool :=
  s.textureTags.rows.any fun x => x.textureId = t.id && x.tagId = tagId

/-- `apply_tag_filter`. -/
def tagFilter (tagIds : List Nat) (method : TextureTagSearchMethod)
    (t : MinecraftTexture) : Bool :=
  if tagIds.isEmpty then true
  else
    match method with
    | .all => tagIds.all fun tagId => textureHasTag s tagId t
    | .any => tagIds.any fun tagId => textureHasTag s tagId t

/-- `texture_keyword_condition`. -/
def textureKeywordCondition (keyword : String) (t : MinecraftTexture) : Bool :=
  let normalized := toAsciiLowercase keyword
  like t.hash keyword || like t.mimeType keyword ||
    (t.displayName.any fun displayName => like displayName keyword) ||
    (normalized = "skin" && t.textureType = .skin) ||
    (normalized = "cape" && t.textureType = .cape) ||
    (normalized = "default" && t.textureModel = .default) ||
    (normalized = "slim" && t.textureModel = .slim)

/-- A keyword that is blank selects everything. -/
def keywordFilter (keyword : Option String) (t : MinecraftTexture) : Bool :=
  ((keyword.map trim).filter fun value => !value.isEmpty).all fun value =>
    textureKeywordCondition like value t

/-- `apply_wardrobe_filter`. -/
def WardrobeTextureListFilter.selects (filter : WardrobeTextureListFilter)
    (t : MinecraftTexture) : Bool :=
  (filter.textureType.all fun textureType => t.textureType = textureType) &&
    tagFilter s filter.tagIds filter.tagSearchMethod t && keywordFilter like filter.keyword t

/-- `current_user_wardrobe_query`. -/
def currentUserWardrobeQuery (userId : Nat) (filter : WardrobeTextureListFilter)
    (t : MinecraftTexture) : Bool :=
  t.userId = userId && t.isWardrobeItem && filter.selects like s t

/-- `public_wardrobe_query`. -/
def publicWardrobeQuery (filter : WardrobeTextureListFilter) (t : MinecraftTexture) : Bool :=
  t.isWardrobeItem && t.visibility = .publicItem && t.libraryStatus = .published &&
    filter.selects like s t

/-- `admin_library_query`. -/
def adminLibraryQuery (filter : AdminTextureLibraryListFilter) (t : MinecraftTexture) : Bool :=
  t.isWardrobeItem && (filter.textureType.all fun textureType => t.textureType = textureType) &&
    (filter.visibility.all fun visibility => t.visibility = visibility) &&
    (filter.libraryStatus.all fun libraryStatus => t.libraryStatus = libraryStatus) &&
    (filter.published.all fun published =>
      if published then t.visibility = .publicItem && t.libraryStatus = .published
      else t.visibility ≠ .publicItem || t.libraryStatus ≠ .published) &&
    tagFilter s filter.tagIds filter.tagSearchMethod t && keywordFilter like filter.keyword t

end Queries

/-! ## The pages -/

/-- `fetch_updated_at_cursor_slice`. -/
def fetchUpdatedAtCursorSlice (lib : SliceLibrary) (s : TextureState) (base : MinecraftTexture → Bool)
    (limit : Nat) (after : Option (Nat × Nat)) : CursorSlice MinecraftTexture :=
  let query := s.textures.select base
  let total := query.length
  if total = 0 || limit = 0 then .empty total
  else
    let items := fetch MinecraftTexture.updatedAt MinecraftTexture.id query limit after
    lib.fromOverfetch items total limit

/-- `texture_next_cursor`. -/
def textureNextCursor (textures : List MinecraftTexture) (hasMore : Bool) :
    Option DateTimeIdCursor :=
  if !hasMore then none
  else textures.getLast?.map fun texture => ⟨texture.updatedAt, texture.id⟩

section Pages

variable {β : Type} (lib : SliceLibrary) (like : String → String → Bool)
  (metadata : MinecraftTexture → β) (s : TextureState)

/-- What the three listings have in common. -/
def texturePage (base : MinecraftTexture → Bool) (limit : Nat)
    (after : Option (Nat × Nat)) : CursorPage β DateTimeIdCursor :=
  let limit := clamp 1 100 limit
  let slice := fetchUpdatedAtCursorSlice lib s base limit after
  let nextCursor := textureNextCursor slice.items slice.hasMore
  let textures := slice.items.map metadata
  ⟨textures, slice.total, limit, nextCursor⟩

/-- `list_wardrobe_textures_cursor`. -/
def listWardrobeTexturesCursor (userId limit : Nat) (after : Option (Nat × Nat))
    (filter : WardrobeTextureListFilter) : CursorPage β DateTimeIdCursor :=
  texturePage lib metadata s (currentUserWardrobeQuery like s userId filter) limit after

/-- `list_public_texture_library_cursor`. -/
def listPublicTextureLibraryCursor (policy : TexturePolicy) (limit : Nat)
    (after : Option (Nat × Nat)) (filter : WardrobeTextureListFilter) :
    Except AsterError (CursorPage β DateTimeIdCursor) :=
  if !policy.libraryEnabled then
    .error (.validation (some .textureLibraryDisabled) "public texture library is disabled")
  else .ok (texturePage lib metadata s (publicWardrobeQuery like s filter) limit after)

/-- `list_admin_texture_library_textures_cursor`. -/
def listAdminTextureLibraryTexturesCursor (limit : Nat) (after : Option (Nat × Nat))
    (filter : AdminTextureLibraryListFilter) : CursorPage β DateTimeIdCursor :=
  texturePage lib metadata s (adminLibraryQuery like s filter) limit after

/-- The selected textures, the last updated first. -/
def selectedTextures (base : MinecraftTexture → Bool) : List MinecraftTexture :=
  ordered MinecraftTexture.updatedAt MinecraftTexture.id (s.textures.select base)

theorem textureNextCursor_eq (textures : List MinecraftTexture) (hasMore : Bool) :
    textureNextCursor textures hasMore =
      if hasMore then textures.getLast?.map fun texture => ⟨texture.updatedAt, texture.id⟩
      else none := by
  cases hasMore <;> rfl

variable {lib} (hlib : lib.Lawful)

include hlib

/-- A slice is cut from what is fetched, also when there is nothing. -/
theorem fetchUpdatedAtCursorSlice_eq (base : MinecraftTexture → Bool) {limit : Nat}
    (hlimit : 0 < limit) (after : Option (Nat × Nat)) :
    ∃ total, fetchUpdatedAtCursorSlice lib s base limit after =
      lib.fromOverfetch (fetch MinecraftTexture.updatedAt MinecraftTexture.id
        (s.textures.select base) limit after) total limit := by
  refine ⟨(s.textures.select base).length, ?_⟩
  have hpositive : limit ≠ 0 := by omega
  unfold fetchUpdatedAtCursorSlice
  by_cases hnone : (s.textures.select base).length = 0
  · have hnil := List.eq_nil_of_length_eq_zero hnone
    have hfetched : fetch MinecraftTexture.updatedAt MinecraftTexture.id
        ([] : List MinecraftTexture) limit after = [] := by simp [fetch, ordered]
    rw [hnil, hfetched, hlib.empty]
    simp
  · simp only [hnone, hpositive, decide_false, Bool.or_self]
    rfl

theorem texture_pages (base : MinecraftTexture → Bool) (limit : Nat) :
    Pages (fun c : Option DateTimeIdCursor =>
        texturePage lib metadata s base limit (c.map fun c => (c.value, c.id)))
      (s.textures.select base) (columnKey MinecraftTexture.updatedAt MinecraftTexture.id)
      (fun c => toLex (c.value, c.id)) (some ∘ metadata) (clamp 1 100 limit) := by
  have hpositive : 0 < clamp 1 100 limit := by
    unfold clamp
    omega
  refine Pages.of_fetch hlib _ (fun texture => ⟨texture.updatedAt, texture.id⟩) ?_ hpositive
    (fun c => fetchUpdatedAtCursorSlice_eq s hlib base hpositive _) (fun c => ?_) (fun c => ?_)
    (fun _ => rfl)
  · refine (s.textures.unique.filter _).imp fun {a b} h => ?_
    simpa [textureSchema] using h
  · exact (congrFun (List.filterMap_eq_map (f := metadata)) _).symm
  · exact textureNextCursor_eq _ _

/-- **Following the cursors shows every selected texture once, the last updated
first.** -/
theorem follow_textures (base : MinecraftTexture → Bool) (limit : Nat) :
    ∃ n pages, follow (fun c : Option DateTimeIdCursor =>
        texturePage lib metadata s base limit (c.map fun c => (c.value, c.id))) n none =
          some pages ∧
      shown pages = (selectedTextures s base).map metadata := by
  obtain ⟨pages, hpages, hshown, -⟩ :=
    (texture_pages metadata s hlib base limit).follow_all (Nat.lt_succ_self _)
  refine ⟨_, pages, hpages, ?_⟩
  rw [hshown, ← ordered_eq]
  exact congrFun (List.filterMap_eq_map (f := metadata)) _

end Pages

end AsterYggdrasil.Textures
