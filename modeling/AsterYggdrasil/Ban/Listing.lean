import AsterYggdrasil.Ban.Info
import AsterYggdrasil.Paging.Keyset

/-!
# The list of bans

`list_user_bans` reads one page of the ban table: the newest bans first, those
of a user, of a status or the effective ones if asked.  A filter by scope comes
later: the scopes of a ban are one text column, so the service drops the bans
without the scope from the page it has read.

The bans that the pages show are right, whatever the filter: the cursor is
that of the last row read, not of the last one shown.  The total is not.  With
a scope filter it counts what this page shows, so it is the number of matching
bans only if one page holds them all, or there is none
(`listed_exactly_iff`).
-/

namespace AsterYggdrasil.Bans

open Relational Paging

/-- `UserBanListFilter`. -/
structure UserBanListFilter where
  userId : Option Nat
  status : Option UserBanStatus
  effectiveOnly : Bool
  deriving DecidableEq, Repr

/-- `ListUserBansInput`. -/
structure ListUserBansInput where
  limit : Nat
  cursor : Option (Nat × Nat)
  userId : Option Nat
  scope : Option UserBanScope
  status : Option UserBanStatus
  effectiveOnly : Bool
  deriving DecidableEq, Repr

/-- `filtered_query`: the rows that the query selects. -/
def UserBanListFilter.selects (filter : UserBanListFilter) (now : Nat)
    (ban : UserBanRow) : Bool :=
  (filter.userId.all fun userId => ban.userId = userId) &&
    (filter.status.all fun status => ban.status = status) &&
    (!filter.effectiveOnly || ban.toUserBan.effectiveAt now)

section Pages

variable (lib : SliceLibrary)

/-- `user_ban_repo::list_cursor`. -/
def listCursor (db : BanDb) (limit : Nat) (filter : UserBanListFilter)
    (after : Option (Nat × Nat)) : CursorSlice UserBanRow :=
  let limit := clamp 1 100 limit
  let query := db.bans.select (filter.selects db.now)
  let total := query.length
  let items := fetch (fun ban => ban.createdAt) (fun ban => ban.id) query limit after
  lib.fromOverfetch items total limit

def ListUserBansInput.filter (input : ListUserBansInput) : UserBanListFilter :=
  ⟨input.userId, input.status, input.effectiveOnly⟩

/-- `list_user_bans`. -/
def listUserBans (db : BanDb) (input : ListUserBansInput) :
    CursorPage UserBanInfo DateTimeIdCursor :=
  let page := listCursor lib db input.limit input.filter input.cursor
  let nextCursor :=
    if page.hasMore then
      page.items.getLast?.map fun ban => ⟨ban.createdAt, ban.id⟩
    else none
  let items := (page.items.map fun ban => banInfoAt ban db.now).filter fun ban =>
    input.scope.all fun scope => ban.scopes.contains scope
  let total := if input.scope.isSome then items.length else page.total
  { items := items
    total := total
    limit := clamp 1 100 input.limit
    nextCursor := nextCursor }

/-- The page that a cursor leads to. -/
def ListUserBansInput.page (input : ListUserBansInput) (db : BanDb)
    (cursor : Option DateTimeIdCursor) : CursorPage UserBanInfo DateTimeIdCursor :=
  listUserBans lib db { input with cursor := cursor.map fun c => (c.value, c.id) }

end Pages

/-- The bans that the filter asks for, scope included. -/
def ListUserBansInput.matches (input : ListUserBansInput) (now : Nat)
    (ban : UserBanRow) : Bool :=
  input.filter.selects now ban && input.scope.all fun scope => ban.contains scope

/-- What a complete listing shows. -/
def ListUserBansInput.expected (input : ListUserBansInput) (db : BanDb) :
    List UserBanInfo :=
  (ordered (fun ban => ban.createdAt) (fun ban => ban.id)
    (db.bans.select (input.matches db.now))).map fun ban => banInfoAt ban db.now

/-! ## The pages -/

/-- How a row is shown, if it is. -/
def ListUserBansInput.view (input : ListUserBansInput) (now : Nat) (ban : UserBanRow) :
    Option UserBanInfo :=
  if input.scope.all fun scope => ban.contains scope then some (banInfoAt ban now) else none

/-- The scopes of the record are those the row contains. -/
theorem contains_banInfoAt (ban : UserBanRow) (now : Nat) (scope : UserBanScope) :
    (banInfoAt ban now).scopes.contains scope = ban.contains scope := by
  unfold banInfoAt UserBanRow.contains scopesContain normalizeScopes
  cases normalizeUserBanScopes ban.scopes with
  | ok scopes => rfl
  | error e => rfl

theorem view_eq (input : ListUserBansInput) (now : Nat) (bans : List UserBanRow) :
    ((bans.map fun ban => banInfoAt ban now).filter fun ban =>
      input.scope.all fun scope => ban.scopes.contains scope) =
      bans.filterMap (input.view now) := by
  rw [List.filter_map, ← List.filterMap_eq_filter, ← List.filterMap_eq_map,
    List.filterMap_filterMap]
  congr 1
  funext ban
  unfold ListUserBansInput.view
  simp only [Function.comp_apply, contains_banInfoAt, Option.guard_apply]
  split <;> rfl

section Pages

variable {lib : SliceLibrary} (hlib : lib.Lawful) (db : BanDb) (input : ListUserBansInput)

/-- The rows the query reads, before the cursor. -/
def ListUserBansInput.rows : List UserBanRow := db.bans.select (input.filter.selects db.now)

include hlib in
theorem ban_pages :
    Pages (input.page lib db) (input.rows db)
      (columnKey (fun ban => ban.createdAt) (fun ban => ban.id)) (fun c => toLex (c.value, c.id))
      (input.view db.now) (clamp 1 100 input.limit) := by
  refine Pages.of_fetch hlib _ (fun ban => ⟨ban.createdAt, ban.id⟩) ?_ ?_
    (fun c => ⟨_, rfl⟩) (fun c => view_eq input db.now _) (fun c => rfl) (fun _ => rfl)
  · refine (db.bans.unique.filter _).imp fun {a b} h => ?_
    simpa [banRowSchema] using h
  · unfold clamp
    omega

include hlib in
/-- What the matching rows look like in the listing. -/
theorem expected_eq :
    input.expected db = (ordered (fun ban => ban.createdAt) (fun ban => ban.id)
      (input.rows db)).filterMap (input.view db.now) := by
  have hkeys := (ban_pages hlib db input).keys
  have hmatches : db.bans.select (input.matches db.now) =
      (input.rows db).filter fun ban => input.scope.all fun scope => ban.contains scope := by
    unfold ListUserBansInput.rows Table.select ListUserBansInput.matches
    rw [List.filter_filter]
    congr 1
    funext ban
    exact Bool.and_comm _ _
  have hview : ∀ bans : List UserBanRow, bans.filterMap (input.view db.now) =
      (bans.filter fun ban => input.scope.all fun scope => ban.contains scope).map
        fun ban => banInfoAt ban db.now := by
    intro bans
    rw [← view_eq, List.filter_map]
    congr 2
    funext ban
    simp only [Function.comp_apply, contains_banInfoAt]
  unfold ListUserBansInput.expected
  rw [hview, hmatches, ordered_eq, ordered_eq, ← listed_none, ← listed_none,
    filter_listed hkeys]

include hlib in
/-- **Following the cursors shows every matching ban once, the newest first.** -/
theorem follow_bans :
    ∃ n pages, follow (input.page lib db) n none = some pages ∧
      shown pages = input.expected db ∧ ∀ p ∈ pages, ∃ c, p = input.page lib db c := by
  obtain ⟨pages, hpages, hshown, hfrom⟩ :=
    (ban_pages hlib db input).follow_all (Nat.lt_succ_self _)
  rw [← ordered_eq, ← expected_eq hlib] at hshown
  exact ⟨_, pages, hpages, hshown, hfrom⟩

include hlib in
/-- Without a scope filter the total is that of the query. -/
theorem total_of_none (hscope : input.scope = none) (c : Option DateTimeIdCursor) :
    (input.page lib db c).total = (input.expected db).length := by
  have hview : ∀ ban, input.view db.now ban = some (banInfoAt ban db.now) := by
    intro ban
    simp [ListUserBansInput.view, hscope]
  have htotal : (input.page lib db c).total = (input.rows db).length := by
    unfold ListUserBansInput.page listUserBans
    simp only [hscope]
    exact hlib.total _ _ _
  rw [htotal, expected_eq hlib]
  simp [hview, List.filterMap_eq_map']

/-- With one, the total is the number of bans on the page. -/
theorem total_of_some {scope : UserBanScope} (hscope : input.scope = some scope)
    (c : Option DateTimeIdCursor) :
    (input.page lib db c).total = (input.page lib db c).items.length := by
  unfold ListUserBansInput.page listUserBans
  simp only [hscope]
  rfl

include hlib in
/-- The first page is the last one if it holds all rows that are read. -/
theorem next_none_iff :
    (input.page lib db none).nextCursor = none ↔
      (input.rows db).length ≤ clamp 1 100 input.limit := by
  rw [(ban_pages hlib db input).next_none_iff, Option.map_none, listed_none,
    List.length_insertionSort]

end Pages

/-! ## The total -/

/-- Following the cursors shows exactly the matching bans, and every page on
the way reports their number. -/
def ListedExactly (lib : SliceLibrary) (db : BanDb) (input : ListUserBansInput) : Prop :=
  ∃ n pages, follow (input.page lib db) n none = some pages ∧
    shown pages = input.expected db ∧
    ∀ p ∈ pages, p.total = (input.expected db).length

/-- **The listing is exact** without a scope filter, when no ban matches, and
when one page holds all bans that match the rest of the filter; and in no other
case. -/
theorem listed_exactly_iff {lib : SliceLibrary} (hlib : lib.Lawful) (db : BanDb)
    (input : ListUserBansInput) :
    ListedExactly lib db input ↔
      input.scope = none ∨
        (∀ ban ∈ db.bans.rows, input.matches db.now ban = false) ∨
        (db.bans.select (input.filter.selects db.now)).length ≤ clamp 1 100 input.limit := by
  obtain ⟨n, pages, hpages, hshown, hfrom⟩ := follow_bans hlib db input
  have hempty : (∀ ban ∈ db.bans.rows, input.matches db.now ban = false) ↔
      (input.expected db).length = 0 := by
    unfold ListUserBansInput.expected Table.select
    rw [List.length_map, length_ordered]
    simp
  obtain ⟨rest, hcons, hrest⟩ := follow_cons hpages
  rw [next_none_iff hlib] at hrest
  rw [hempty]
  constructor
  · rintro ⟨n', pages', hpages', hshown', htotal⟩
    have hsame : pages' = pages := by
      have h := follow_le (Nat.le_max_left n n') hpages
      have h' := follow_le (Nat.le_max_right n n') hpages'
      rw [h] at h'
      exact (Option.some.inj h').symm
    cases hscope : input.scope with
    | none => exact Or.inl rfl
    | some scope =>
      refine Or.inr ?_
      -- every page shows as many bans as there are in all
      have hitems : ∀ p ∈ pages, p.items.length = (input.expected db).length := by
        intro p hp
        obtain ⟨c, rfl⟩ := hfrom p hp
        rw [← total_of_some db input hscope, htotal _ (hsame ▸ hp)]
      have hsum : (shown pages).length = pages.length * (input.expected db).length := by
        unfold shown
        rw [List.length_flatMap, List.map_congr_left hitems]
        simp
      rw [hshown, hcons, List.length_cons] at hsum
      by_cases hzero : (input.expected db).length = 0
      · exact Or.inl hzero
      · have hone : rest.length = 0 := by
          rcases Nat.eq_zero_or_pos rest.length with h | h
          · exact h
          · nlinarith [Nat.pos_of_ne_zero hzero]
        exact Or.inr (hrest.mp (List.eq_nil_of_length_eq_zero hone))
  · intro h
    refine ⟨n, pages, hpages, hshown, fun p hp => ?_⟩
    obtain ⟨c, rfl⟩ := hfrom p hp
    cases hscope : input.scope with
    | none => exact total_of_none hlib db input hscope c
    | some scope =>
      rw [total_of_some db input hscope]
      rcases h with hnone | hzero | hfits
      · rw [hscope] at hnone
        cases hnone
      · have hle : (input.page lib db c).items.length ≤ (shown pages).length :=
          (List.sublist_flatten_of_mem
            (List.mem_map_of_mem (f := CursorPage.items) hp)).length_le
        rw [hshown] at hle
        omega
      · have hnil := hrest.mpr hfits
        rw [hcons, hnil, List.mem_singleton] at hp
        rw [hp, ← hshown, hcons, hnil]
        simp [shown]

/-- A ban of alice from uploading textures, and a newer one from joining
servers. -/
def twoBans : BanDb where
  users := twoUsers.users
  bans :=
    { rows :=
        [newBan 1 100 ⟨2, [.textureUpload], "spam", none, none, some 1, 100, none⟩,
          newBan 2 200 ⟨2, [.yggdrasilJoin], "cheats", none, none, some 1, 200, none⟩]
      seq := 3
      unique := by decide
      fresh := by decide }
  events := .empty
  now := 300

/-- One ban a page, those from uploading textures. -/
def uploadBans : ListUserBansInput := ⟨1, none, some 2, some .textureUpload, none, false⟩

/-- Two bans a page: they are on one. -/
theorem upload_bans_counted : ListedExactly firstRows twoBans { uploadBans with limit := 2 } :=
  (listed_exactly_iff firstRows_lawful twoBans { uploadBans with limit := 2 }).mpr
    (Or.inr (Or.inr (by decide +kernel)))

/-- **Two bans on two pages**: the first page shows none and reports a total
of 0, but the second page shows one. -/
theorem upload_bans_miscounted : ¬ ListedExactly firstRows twoBans uploadBans := by
  rintro ⟨n, pages, hpages, -, htotal⟩
  obtain ⟨rest, rfl, -⟩ := follow_cons hpages
  have hfirst := htotal (uploadBans.page firstRows twoBans none) (by simp)
  have hzero : (uploadBans.page firstRows twoBans none).total = 0 := by decide +kernel
  have hone : (uploadBans.expected twoBans).length = 1 := by decide +kernel
  omega

end AsterYggdrasil.Bans
