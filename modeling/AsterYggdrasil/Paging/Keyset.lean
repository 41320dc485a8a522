import Mathlib.Data.List.Sort
import Mathlib.Data.Prod.Lex

/-!
# Keyset pagination

A listing shows rows in descending order of a key.  A page takes the rows
below a cursor, sorts them, fetches one row more than it shows, and if there
was one more, it hands out the key of its last row as the next cursor.

A reader who follows the cursors sees every row exactly once, in order, and
comes to an end (`follow_listed`), however the rows are shown and whatever
else a page reports.  The keys have to be distinct; a column with ties gets
its key from the pair of the column and an id.
-/

namespace Paging

/-- A page, and where the next one starts. -/
structure CursorPage (β γ : Type) where
  items : List β
  total : Nat
  limit : Nat
  nextCursor : Option γ
  deriving DecidableEq, Repr

/-- The rows of a page, before they are shown. -/
structure CursorSlice (α : Type) where
  items : List α
  total : Nat
  hasMore : Bool
  deriving DecidableEq, Repr

def CursorSlice.empty {α : Type} (total : Nat) : CursorSlice α := ⟨[], total, false⟩

/-- The library function that cuts a slice from the rows fetched, of which there may be
one more than the limit. -/
structure SliceLibrary where
  fromOverfetch : {α : Type} → List α → Nat → Nat → CursorSlice α

/-- What a listing relies on: the slice has the first `limit` of the rows fetched and the
total as it was given, and there are more if more were fetched. -/
structure SliceLibrary.Lawful (lib : SliceLibrary) : Prop where
  items : ∀ {α : Type} (rows : List α) (total limit : Nat),
    (lib.fromOverfetch rows total limit).items = rows.take limit
  total : ∀ {α : Type} (rows : List α) (total limit : Nat),
    (lib.fromOverfetch rows total limit).total = total
  hasMore : ∀ {α : Type} (rows : List α) (total limit : Nat),
    (lib.fromOverfetch rows total limit).hasMore = decide (limit < rows.length)

/-- A library that does just that. -/
def firstRows : SliceLibrary :=
  ⟨fun rows total limit => ⟨rows.take limit, total, limit < rows.length⟩⟩

theorem firstRows_lawful : firstRows.Lawful :=
  ⟨fun _ _ _ => rfl, fun _ _ _ => rfl, fun _ _ _ => rfl⟩

/-- Where nothing was fetched there is nothing to show. -/
theorem SliceLibrary.Lawful.empty {lib : SliceLibrary} (hlib : lib.Lawful) {α : Type}
    (total limit : Nat) : lib.fromOverfetch ([] : List α) total limit = .empty total := by
  have hitems := hlib.items ([] : List α) total limit
  have htotal := hlib.total ([] : List α) total limit
  have hmore := hlib.hasMore ([] : List α) total limit
  cases hslice : lib.fromOverfetch ([] : List α) total limit with
  | mk items total' more =>
    rw [hslice] at hitems htotal hmore
    simp_all [CursorSlice.empty]

/-- Follow the cursors, from the page at `c` on: `none` if the listing has not
come to its end after `n` pages. -/
def follow {β γ : Type} (page : Option γ → CursorPage β γ) :
    Nat → Option γ → Option (List (CursorPage β γ))
  | 0, _ => none
  | n + 1, c =>
      match (page c).nextCursor with
      | none => some [page c]
      | some next => (follow page n (some next)).map (page c :: ·)

/-- The items of the pages, one page after the other. -/
def shown {β γ : Type} (pages : List (CursorPage β γ)) : List β :=
  pages.flatMap CursorPage.items

section Follow

variable {β γ : Type} {page : Option γ → CursorPage β γ}

/-- The walk starts with the page at its cursor, and stops there if that page
names no next one. -/
theorem follow_cons {n : Nat} {c : Option γ} {pages : List (CursorPage β γ)}
    (h : follow page n c = some pages) :
    ∃ rest, pages = page c :: rest ∧ (rest = [] ↔ (page c).nextCursor = none) := by
  induction n generalizing c pages with
  | zero => cases h
  | succ n ih =>
    unfold follow at h
    cases hnext : (page c).nextCursor with
    | none =>
      rw [hnext] at h
      cases h
      exact ⟨[], rfl, by simp⟩
    | some next =>
      rw [hnext] at h
      obtain ⟨rest, hrest, rfl⟩ := Option.map_eq_some_iff.mp h
      obtain ⟨more, rfl, -⟩ := ih hrest
      exact ⟨page (some next) :: more, rfl, by simp⟩

/-- More steps lead to the same pages. -/
theorem follow_le {n m : Nat} (hle : n ≤ m) {c : Option γ} {pages : List (CursorPage β γ)}
    (h : follow page n c = some pages) : follow page m c = some pages := by
  induction n generalizing m c pages with
  | zero => cases h
  | succ n ih =>
    obtain ⟨k, rfl⟩ : ∃ k, m = k + 1 := ⟨m - 1, by omega⟩
    unfold follow at h ⊢
    cases hnext : (page c).nextCursor with
    | none =>
      rw [hnext] at h
      exact h
    | some next =>
      rw [hnext] at h
      obtain ⟨rest, hrest, rfl⟩ := Option.map_eq_some_iff.mp h
      simp only [ih (by omega : n ≤ k) hrest, Option.map_some]

end Follow

section Listed

variable {α κ : Type} [LinearOrder κ] (key : α → κ)

/-- The rows below the cursor, in descending order of their keys. -/
def listed (rows : List α) (c : Option κ) : List α :=
  (rows.filter fun r => c.all fun k => key r < k).insertionSort fun a b => key b ≤ key a

variable {key} {rows : List α}

theorem mem_listed {c : Option κ} {r : α} :
    r ∈ listed key rows c ↔ r ∈ rows ∧ ∀ k ∈ c, key r < k := by
  unfold listed
  rw [List.mem_insertionSort, List.mem_filter]
  simp [Option.all_eq_true]

/-- Rows with distinct keys are listed in strictly descending order. -/
theorem pairwise_listed (hkeys : rows.Pairwise fun a b => key a ≠ key b) (c : Option κ) :
    (listed key rows c).Pairwise fun a b => key b < key a := by
  have htotal : Std.Total fun a b : α => key b ≤ key a :=
    ⟨fun a b => le_total (key b) (key a)⟩
  have htrans : IsTrans α fun a b => key b ≤ key a := ⟨fun a b c hab hbc => hbc.trans hab⟩
  have hsorted := List.pairwise_insertionSort (fun a b : α => key b ≤ key a)
    (rows.filter fun r => c.all fun k => key r < k)
  have hdistinct : (listed key rows c).Pairwise fun a b => key a ≠ key b := by
    refine (List.Perm.pairwise_iff ?_ (List.perm_insertionSort _ _)).mpr (hkeys.filter _)
    exact fun h => h.symm
  exact (hsorted.and hdistinct).imp fun h => lt_of_le_of_ne h.1 h.2.symm

/-- What is listed below a listed row is what is listed after it. -/
theorem listed_after (hkeys : rows.Pairwise fun a b => key a ≠ key b) {c : Option κ}
    {front rest : List α} {r : α} (h : listed key rows c = front ++ r :: rest) :
    listed key rows (some (key r)) = rest := by
  have hsorted := pairwise_listed hkeys c
  rw [h, List.pairwise_append] at hsorted
  obtain ⟨-, htail, hfront⟩ := hsorted
  obtain ⟨hbelow, hrest⟩ := List.pairwise_cons.mp htail
  have hirrefl : Std.Irrefl fun a b : α => key b < key a := ⟨fun a => lt_irrefl (key a)⟩
  have hantisymm : Std.Antisymm fun a b : α => key b < key a :=
    ⟨fun a b hab hba => absurd hab (lt_asymm hba)⟩
  refine (pairwise_listed hkeys _).eq_of_mem_iff hrest fun x => ?_
  · have hx : x ∈ listed key rows c ↔ x ∈ front ∨ x = r ∨ x ∈ rest := by
      rw [h]
      simp
    rw [mem_listed] at hx ⊢
    constructor
    · rintro ⟨hrow, hlt⟩
      have hlt' : key x < key r := hlt _ rfl
      have hr : r ∈ listed key rows c := by
        rw [h]
        simp
      have hc : ∀ k ∈ c, key x < k := fun k hk => hlt'.trans ((mem_listed.mp hr).2 k hk)
      rcases hx.mp ⟨hrow, hc⟩ with hin | heq | hin
      · have := hfront x hin r (by simp)
        exact absurd hlt' (lt_asymm this)
      · rw [heq] at hlt'
        exact absurd hlt' (lt_irrefl _)
      · exact hin
    · intro hin
      refine ⟨(hx.mpr (Or.inr (Or.inr hin))).1, fun k hk => ?_⟩
      cases hk
      exact hbelow x hin

/-- Selecting rows and listing them may be exchanged. -/
theorem filter_listed (hkeys : rows.Pairwise fun a b => key a ≠ key b) (c : Option κ)
    (p : α → Bool) : (listed key rows c).filter p = listed key (rows.filter p) c := by
  have hirrefl : Std.Irrefl fun a b : α => key b < key a := ⟨fun a => lt_irrefl (key a)⟩
  have hantisymm : Std.Antisymm fun a b : α => key b < key a :=
    ⟨fun a b hab hba => absurd hab (lt_asymm hba)⟩
  refine ((pairwise_listed hkeys c).filter p).eq_of_mem_iff
    (pairwise_listed (hkeys.filter p) c) fun x => ?_
  rw [List.mem_filter, mem_listed, mem_listed, List.mem_filter]
  tauto

theorem listed_none : listed key rows none = rows.insertionSort fun a b => key b ≤ key a := by
  simp [listed]

end Listed

/-! ## Following the cursors -/

/-- The pages show the listed rows through `view`, `limit` rows a page, and
hand out the cursor of their last row. -/
structure Pages {α β γ κ : Type} [LinearOrder κ] (page : Option γ → CursorPage β γ)
    (rows : List α) (key : α → κ) (place : γ → κ) (view : α → Option β) (limit : Nat) :
    Prop where
  keys : rows.Pairwise fun a b => key a ≠ key b
  positive : 0 < limit
  items : ∀ c, (page c).items =
    ((listed key rows (c.map place)).take limit).filterMap view
  last : ∀ c, (listed key rows (c.map place)).length ≤ limit → (page c).nextCursor = none
  more : ∀ c front r, (listed key rows (c.map place)).take limit = front ++ [r] →
    limit < (listed key rows (c.map place)).length →
    ∃ next, (page c).nextCursor = some next ∧ place next = key r

namespace Pages

variable {α β γ κ : Type} [LinearOrder κ] {page : Option γ → CursorPage β γ}
  {rows : List α} {key : α → κ} {place : γ → κ} {view : α → Option β} {limit : Nat}

/-- Pages that are cut from one more row than they show. -/
theorem of_overfetch {lib : SliceLibrary} (hlib : lib.Lawful)
    (slice : Option γ → CursorSlice α) (cursor : α → γ)
    (hkeys : rows.Pairwise fun a b => key a ≠ key b) (hpositive : 0 < limit)
    (hslice : ∀ c, ∃ total, slice c =
      lib.fromOverfetch ((listed key rows (c.map place)).take (limit + 1)) total limit)
    (hitems : ∀ c, (page c).items = (slice c).items.filterMap view)
    (hnext : ∀ c, (page c).nextCursor =
      if (slice c).hasMore then (slice c).items.getLast?.map cursor else none)
    (hcursor : ∀ r, place (cursor r) = key r) :
    Pages page rows key place view limit where
  keys := hkeys
  positive := hpositive
  items c := by
    obtain ⟨total, heq⟩ := hslice c
    rw [hitems, heq, hlib.items, List.take_take]
    simp
  last c hlength := by
    obtain ⟨total, heq⟩ := hslice c
    have hnone : (slice c).hasMore = false := by
      rw [heq, hlib.hasMore]
      simp only [List.length_take, decide_eq_false_iff_not]
      omega
    rw [hnext, hnone]
    rfl
  more c front r hfront hlength := by
    obtain ⟨total, heq⟩ := hslice c
    have hmore : (slice c).hasMore = true := by
      rw [heq, hlib.hasMore]
      simp only [List.length_take, decide_eq_true_eq]
      omega
    have hlast : (slice c).items.getLast? = some r := by
      rw [heq, hlib.items]
      simp [List.take_take, hfront]
    refine ⟨cursor r, ?_, hcursor r⟩
    rw [hnext, hmore, hlast]
    rfl

/-- A page that is not the last one is full, and the next one starts where it
ends. -/
theorem next (h : Pages page rows key place view limit) {c : Option γ}
    (hmore : limit < (listed key rows (c.map place)).length) :
    ∃ next, (page c).nextCursor = some next ∧
      listed key rows (some (place next)) = (listed key rows (c.map place)).drop limit := by
  have hlimit := h.positive
  let all := listed key rows (c.map place)
  have hlength : (all.take limit).length = limit := by
    rw [List.length_take]
    exact Nat.min_eq_left hmore.le
  have hne : all.take limit ≠ [] := by
    intro hnil
    rw [hnil] at hlength
    simp only [List.length_nil] at hlength
    omega
  have hsplit : all.take limit = (all.take limit).dropLast ++ [(all.take limit).getLast hne] :=
    (List.dropLast_append_getLast hne).symm
  obtain ⟨next, hnext, hplace⟩ := h.more c _ _ hsplit hmore
  refine ⟨next, hnext, ?_⟩
  rw [hplace]
  have heq : all = (all.take limit).dropLast ++
      (all.take limit).getLast hne :: all.drop limit := by
    calc
      all = all.take limit ++ all.drop limit := (List.take_append_drop limit all).symm
      _ = (all.take limit).dropLast ++ [(all.take limit).getLast hne] ++ all.drop limit := by
        rw [← hsplit]
      _ = _ := by rw [List.append_assoc, List.singleton_append]
  exact listed_after h.keys heq

/-- A page is the last one if it holds all the rows below its cursor. -/
theorem next_none_iff (h : Pages page rows key place view limit) (c : Option γ) :
    (page c).nextCursor = none ↔ (listed key rows (c.map place)).length ≤ limit := by
  constructor
  · intro hnone
    by_contra hlt
    obtain ⟨next, hnext, -⟩ := h.next (Nat.lt_of_not_le hlt)
    rw [hnone] at hnext
    cases hnext
  · exact h.last c

/-- **Following the cursors shows every row below the first one, once and in
order, and comes to an end.** -/
theorem follow_listed (h : Pages page rows key place view limit) {n : Nat} {c : Option γ}
    (hn : (listed key rows (c.map place)).length < n) :
    ∃ pages, follow page n c = some pages ∧
      shown pages = (listed key rows (c.map place)).filterMap view ∧
      ∀ p ∈ pages, ∃ c, p = page c := by
  induction n generalizing c with
  | zero => omega
  | succ n ih =>
    by_cases hmore : limit < (listed key rows (c.map place)).length
    · obtain ⟨next, hnext, hrest⟩ := h.next hmore
      have hlimit := h.positive
      have hshorter : (listed key rows ((some next).map place)).length < n := by
        change (listed key rows (some (place next))).length < n
        rw [hrest, List.length_drop]
        omega
      obtain ⟨pages, hpages, hshown, hfrom⟩ := ih hshorter
      refine ⟨page c :: pages, ?_, ?_, ?_⟩
      · simp only [follow, hnext, hpages, Option.map_some]
      · have hrest' : listed key rows ((some next).map place) =
            (listed key rows (c.map place)).drop limit := hrest
        unfold shown at hshown ⊢
        rw [List.flatMap_cons, hshown, hrest', h.items, ← List.filterMap_append,
          List.take_append_drop]
      · intro p hp
        rcases List.mem_cons.mp hp with rfl | hp
        · exact ⟨c, rfl⟩
        · exact hfrom p hp
    · have hfits : (listed key rows (c.map place)).length ≤ limit := Nat.le_of_not_lt hmore
      refine ⟨[page c], ?_, ?_, ?_⟩
      · simp only [follow, h.last c hfits]
      · unfold shown
        rw [List.flatMap_singleton, h.items, List.take_of_length_le hfits]
      · intro p hp
        exact ⟨c, List.mem_singleton.mp hp⟩

/-- From the first page on, everything is shown. -/
theorem follow_all (h : Pages page rows key place view limit) {n : Nat}
    (hn : rows.length < n) :
    ∃ pages, follow page n none = some pages ∧
      shown pages = (rows.insertionSort fun a b => key b ≤ key a).filterMap view ∧
      ∀ p ∈ pages, ∃ c, p = page c := by
  have hlength : (listed key rows none).length < n := by
    rw [listed_none, List.length_insertionSort]
    exact hn
  rw [← listed_none]
  exact h.follow_listed (c := none) hlength

end Pages

/-! ## A column and an id -/

/-- A cursor of a listing by a column, where an id breaks the ties. -/
structure ColumnCursor (κ ι : Type) where
  value : κ
  id : ι
  deriving DecidableEq, Repr

/-- A time and an id. -/
abbrev DateTimeIdCursor := ColumnCursor Nat Nat

/-- The number in the range that is closest to `n`. -/
def clamp (low high n : Nat) : Nat := max low (min n high)

section Columns

variable {α κ ι : Type} [LinearOrder κ] [LinearOrder ι] (column : α → κ) (id : α → ι)

/-- `ORDER BY column DESC, id DESC`. -/
def descending (a b : α) : Bool :=
  column b < column a || (column b = column a && id b ≤ id a)

/-- `column < value OR (column = value AND id < id)`. -/
def behind (after : Option (κ × ι)) (r : α) : Bool :=
  after.all fun c => column r < c.1 || (column r = c.1 && id r < c.2)

/-- The selected rows in their order. -/
def ordered (rows : List α) : List α :=
  rows.insertionSort fun a b => descending column id a b = true

/-- One row more than the page needs. -/
def fetch (rows : List α) (limit : Nat) (after : Option (κ × ι)) : List α :=
  (ordered column id (rows.filter (behind column id after))).take (limit + 1)

/-- The key of the listing. -/
def columnKey (r : α) : κ ×ₗ ι := toLex (column r, id r)

variable {column id}

@[simp] theorem length_ordered (rows : List α) :
    (ordered column id rows).length = rows.length := List.length_insertionSort _ _

theorem ordered_eq (rows : List α) :
    ordered column id rows =
      rows.insertionSort fun a b => columnKey column id b ≤ columnKey column id a := by
  have horder : ∀ a b, descending column id a b = true ↔
      columnKey column id b ≤ columnKey column id a := by
    intro a b
    unfold descending columnKey
    rw [Prod.Lex.toLex_le_toLex]
    simp
  unfold ordered
  simp only [horder]

theorem fetch_eq (rows : List α) (limit : Nat) (after : Option (κ × ι)) :
    fetch column id rows limit after =
      (listed (columnKey column id) rows (after.map toLex)).take (limit + 1) := by
  have hbehind : behind column id after =
      fun r => (after.map toLex).all fun k => decide (columnKey column id r < k) := by
    funext r
    cases after with
    | none => rfl
    | some c =>
      rw [Bool.eq_iff_iff]
      simp only [behind, Option.map_some, Option.all_some, Bool.or_eq_true, Bool.and_eq_true,
        decide_eq_true_eq]
      unfold columnKey
      rw [Prod.Lex.toLex_lt_toLex]
  unfold fetch
  rw [ordered_eq, hbehind]
  rfl

omit [LinearOrder κ] [LinearOrder ι] in
/-- Rows with distinct ids have distinct keys. -/
theorem pairwise_columnKey {rows : List α} (h : rows.Pairwise fun a b => id a ≠ id b) :
    rows.Pairwise fun a b => columnKey column id a ≠ columnKey column id b := by
  refine h.imp fun hne heq => hne ?_
  exact (Prod.mk.inj (toLex.injective heq)).2

/-- A listing by a column and an id, cut from one more row than it shows. -/
theorem Pages.of_fetch {β γ : Type} {page : Option γ → CursorPage β γ}
    {rows : List α} {place : γ → κ × ι} {view : α → Option β} {limit : Nat}
    {lib : SliceLibrary} (hlib : lib.Lawful)
    (slice : Option γ → CursorSlice α) (cursor : α → γ)
    (hids : rows.Pairwise fun a b => id a ≠ id b) (hpositive : 0 < limit)
    (hslice : ∀ c, ∃ total, slice c =
      lib.fromOverfetch (fetch column id rows limit (c.map place)) total limit)
    (hitems : ∀ c, (page c).items = (slice c).items.filterMap view)
    (hnext : ∀ c, (page c).nextCursor =
      if (slice c).hasMore then (slice c).items.getLast?.map cursor else none)
    (hcursor : ∀ r, place (cursor r) = (column r, id r)) :
    Pages page rows (columnKey column id) (fun c => toLex (place c)) view limit := by
  refine Pages.of_overfetch hlib slice cursor (pairwise_columnKey hids) hpositive (fun c => ?_) hitems
    hnext fun r => congrArg toLex (hcursor r)
  obtain ⟨total, heq⟩ := hslice c
  rw [fetch_eq, Option.map_map] at heq
  exact ⟨total, heq⟩

end Columns

end Paging
