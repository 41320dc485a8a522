import AsterYggdrasil.Panel.Sessions
import AsterYggdrasil.Texture.Listing
import AsterYggdrasil.Texture.Service

/-!
# The list of sessions

A user's sessions are read in pages, the last seen first; where two were seen
at one time, their ids decide.  An id is a text, and which of two texts is the
smaller one depends on the collation of the database.  `collate` gives the sort
key of a text; all that the listing needs is that different texts have
different sort keys.

`listings_complete` says of this listing and of those of the textures that
following the cursors shows every row once, in order, and comes to an end.
-/

namespace AsterYggdrasil.Panel

open Relational Paging
open Textures (MinecraftTexture TextureState WardrobeTextureListFilter
  AdminTextureLibraryListFilter selectedTextures currentUserWardrobeQuery
  publicWardrobeQuery adminLibraryQuery)

/-- `DateTimeStringCursor`. -/
abbrev DateTimeStringCursor := ColumnCursor Nat String

/-- `AuthSessionInfo`. -/
structure AuthSessionInfo where
  id : String
  isCurrent : Bool
  userAgent : Option String
  ipAddress : Option String
  createdAt : Nat
  lastSeenAt : Nat
  refreshExpiresAt : Nat
  revoked : Bool
  deriving DecidableEq, Repr

/-- `AuthSessionInfo::from_model`. -/
def AuthSessionInfo.fromModel (currentRefreshJti : Option String) (value : AuthSession) :
    AuthSessionInfo where
  id := value.id
  isCurrent := currentRefreshJti.any fun refreshJti => refreshJti = value.currentRefreshJti
  userAgent := value.userAgent
  ipAddress := value.ipAddress
  createdAt := value.createdAt
  lastSeenAt := value.lastSeenAt
  refreshExpiresAt := value.refreshExpiresAt
  revoked := value.revokedAt.isSome

section Listing

variable {κ : Type} [LinearOrder κ] (lib : SliceLibrary) (collate : String → κ)
  (s : PanelState)

/-- `auth_session_repo::list_by_user_cursor`. -/
def listByUserCursor (userId limit : Nat) (after : Option (Nat × String)) :
    CursorSlice AuthSession :=
  let limit := clamp 1 100 limit
  let query := s.sessions.select fun r => r.userId = userId
  let total := query.length
  let items := fetch AuthSession.lastSeenAt (fun r => collate r.id) query limit
    (after.map fun (lastSeenAt, id) => (lastSeenAt, collate id))
  lib.fromOverfetch items total limit

/-- `list_sessions_cursor`, with the jti of the caller's own refresh token. -/
def listSessionsCursor (userId : Nat) (currentRefreshJti : Option String) (limit : Nat)
    (cursor : Option (Nat × String)) : CursorPage AuthSessionInfo DateTimeStringCursor :=
  let limit := clamp 1 100 limit
  let page := listByUserCursor lib collate s userId limit cursor
  let nextCursor : Option DateTimeStringCursor :=
    if page.hasMore then
      page.items.getLast?.map fun session => ⟨session.lastSeenAt, session.id⟩
    else none
  let items := page.items.map (AuthSessionInfo.fromModel currentRefreshJti)
  ⟨items, page.total, limit, nextCursor⟩

/-- The sessions of a user, the last seen first. -/
def sessionsOf (userId : Nat) : List AuthSession :=
  ordered AuthSession.lastSeenAt (fun r => collate r.id)
    (s.sessions.select fun r => r.userId = userId)

variable {lib collate} (hlib : lib.Lawful)

include hlib

theorem session_pages (hcollate : Function.Injective collate) (userId limit : Nat)
    (currentRefreshJti : Option String) :
    Pages (fun c : Option DateTimeStringCursor =>
        listSessionsCursor lib collate s userId currentRefreshJti limit
          (c.map fun c => (c.value, c.id)))
      (s.sessions.select fun r => r.userId = userId)
      (columnKey AuthSession.lastSeenAt fun r => collate r.id)
      (fun c => toLex (c.value, collate c.id))
      (some ∘ AuthSessionInfo.fromModel currentRefreshJti) (clamp 1 100 limit) := by
  have hclamp : clamp 1 100 (clamp 1 100 limit) = clamp 1 100 limit := by
    unfold clamp
    omega
  refine Pages.of_fetch hlib (fun c => listByUserCursor lib collate s userId (clamp 1 100 limit)
      (c.map fun c => (c.value, c.id)))
    (fun session => ⟨session.lastSeenAt, session.id⟩) ?_ ?_ (fun c => ?_) (fun c => ?_)
    (fun c => rfl) (fun _ => rfl)
  · refine (s.sessions.unique.filter _).imp fun {a b} h hid => ?_
    have hsame : a.id = b.id := hcollate hid
    simp [sessionSchema, hsame] at h
  · unfold clamp
    omega
  · refine ⟨(s.sessions.select fun r => r.userId = userId).length, ?_⟩
    unfold listByUserCursor
    rw [hclamp, Option.map_map]
    rfl
  · exact (congrFun (List.filterMap_eq_map (f := AuthSessionInfo.fromModel
      currentRefreshJti)) _).symm

/-- Following the cursors shows every session of the user once, the last seen
first. -/
theorem follow_sessions (hcollate : Function.Injective collate) (userId limit : Nat)
    (currentRefreshJti : Option String) :
    ∃ n pages, follow (fun c : Option DateTimeStringCursor =>
        listSessionsCursor lib collate s userId currentRefreshJti limit
          (c.map fun c => (c.value, c.id))) n none = some pages ∧
      shown pages = (sessionsOf collate s userId).map
        (AuthSessionInfo.fromModel currentRefreshJti) := by
  obtain ⟨pages, hpages, hshown, -⟩ :=
    (session_pages s hlib hcollate userId limit currentRefreshJti).follow_all (Nat.lt_succ_self _)
  refine ⟨_, pages, hpages, ?_⟩
  rw [hshown, ← ordered_eq]
  exact congrFun (List.filterMap_eq_map (f := AuthSessionInfo.fromModel currentRefreshJti)) _

end Listing

/-! ## Every listing -/

/-- **Keyset pagination is complete.**  For every content of the tables, every
filter and every limit, following the cursors of the administrators' texture
library, of the public one, of a wardrobe and of the sessions of a user from
the first page on comes to an end and shows the selected rows, each once and in
the order of the listing. -/
theorem listings_complete {β κ : Type} [LinearOrder κ] {lib : SliceLibrary}
    (hlib : lib.Lawful) (like : String → String → Bool) (metadata : MinecraftTexture → β) {collate : String → κ}
    (hcollate : Function.Injective collate) (textures : TextureState) (panel : PanelState)
    (limit : Nat) :
    (∀ filter : AdminTextureLibraryListFilter,
      ∃ n pages, follow (fun c : Option DateTimeIdCursor =>
          Textures.listAdminTextureLibraryTexturesCursor lib like metadata textures limit
            (c.map fun c => (c.value, c.id)) filter) n none = some pages ∧
        shown pages = (selectedTextures textures
          (adminLibraryQuery like textures filter)).map metadata) ∧
    (∀ (policy : Textures.TexturePolicy) (filter : WardrobeTextureListFilter),
      policy.libraryEnabled = true →
      ∃ page n pages,
        (∀ c : Option DateTimeIdCursor,
          Textures.listPublicTextureLibraryCursor lib like metadata textures policy limit
            (c.map fun c => (c.value, c.id)) filter = .ok (page c)) ∧
        follow page n none = some pages ∧
        shown pages = (selectedTextures textures
          (publicWardrobeQuery like textures filter)).map metadata) ∧
    (∀ (userId : Nat) (filter : WardrobeTextureListFilter),
      ∃ n pages, follow (fun c : Option DateTimeIdCursor =>
          Textures.listWardrobeTexturesCursor lib like metadata textures userId limit
            (c.map fun c => (c.value, c.id)) filter) n none = some pages ∧
        shown pages = (selectedTextures textures
          (currentUserWardrobeQuery like textures userId filter)).map metadata) ∧
    ∀ (userId : Nat) (currentRefreshJti : Option String),
      ∃ n pages, follow (fun c : Option DateTimeStringCursor =>
          listSessionsCursor lib collate panel userId currentRefreshJti limit
            (c.map fun c => (c.value, c.id))) n none = some pages ∧
        shown pages = (sessionsOf collate panel userId).map
          (AuthSessionInfo.fromModel currentRefreshJti) := by
  refine ⟨?_, ?_, ?_, ?_⟩
  · intro filter
    exact Textures.follow_textures metadata textures hlib _ limit
  · intro policy filter henabled
    obtain ⟨n, pages, hpages, hshown⟩ := Textures.follow_textures metadata textures hlib
      (publicWardrobeQuery like textures filter) limit
    refine ⟨_, n, pages, fun c => ?_, hpages, hshown⟩
    unfold Textures.listPublicTextureLibraryCursor
    rw [henabled]
    rfl
  · intro userId filter
    exact Textures.follow_textures metadata textures hlib _ limit
  · intro userId currentRefreshJti
    exact follow_sessions panel hlib hcollate userId limit currentRefreshJti

/-- A session of a user, last seen at 200. -/
def seenAt200 (rowId userId : Nat) (id : String) : AuthSession :=
  ⟨rowId, id, userId, "jti-" ++ id, none, 900, none, none, 100, 200, none⟩

/-- Three sessions that were last seen at one time, two of them of one user. -/
def tiedSessions : PanelState where
  db := Textures.twoPlayers.service.db
  sessions :=
    { rows := [seenAt200 1 1 "a", seenAt200 2 2 "b", seenAt200 3 1 "c"]
      seq := 4
      unique := by decide
      fresh := by decide }
  contactTokens := []
  externalIdentities := []

/-- One session a page: those of the first user come with the larger id first. -/
theorem tied_sessions_listed :
    ∃ n pages, follow (fun c : Option DateTimeStringCursor =>
        listSessionsCursor firstRows id tiedSessions 1 none 1 (c.map fun c => (c.value, c.id))) n none =
          some pages ∧
      shown pages = [.fromModel none (seenAt200 3 1 "c"), .fromModel none (seenAt200 1 1 "a")] := by
  have hlisted := listings_complete firstRows_lawful (fun _ _ => false) MinecraftTexture.id
    Function.injective_id Textures.twoPlayers tiedSessions 1
  obtain ⟨n, pages, hpages, hshown⟩ := hlisted.2.2.2 1 none
  refine ⟨n, pages, hpages, ?_⟩
  rw [hshown]
  decide +kernel

end AsterYggdrasil.Panel
