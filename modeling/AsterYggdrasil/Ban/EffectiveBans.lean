import AsterYggdrasil.Ban.Commits
import AsterYggdrasil.Interleave.Sequence

/-!
# At most one effective ban for each user and scope

A user should not be banned twice from one capability at one time.  The check
for it, `reject_duplicate_effective_scopes`, looks for bans that are effective
at the moment of the call, so it does not see a ban that is scheduled to start
later, and an update that keeps the scopes is not checked at all.

A call is `unrivalled` when it is refused because another ban that is
effective at the moment of the call has one of its scopes, or when no other
ban has a scope and an instant in common with what the call writes.
`effective_bans_unique` says that while every call is unrivalled, no two bans
of a user are ever effective at one time for one scope, whatever the order and
the times of the calls.  `scheduled_bans_meet` is a run of two calls after
which two bans are.
-/

namespace AsterYggdrasil.Bans

open Interleave Relational
open Interleave.Prog

/-- The ban takes the capability from the user at this instant. -/
structure Takes (b : UserBanRow) (userId : Nat) (scope : UserBanScope)
    (instant : Nat) : Prop where
  user : b.userId = userId
  scope : b.contains scope = true
  effective : b.isEffective instant = true

/-- At every time, a user has at most one effective ban for each scope. -/
def AtMostOneEffective (db : BanDb) : Prop :=
  ∀ now userId scope, ∀ a ∈ db.bans.rows, ∀ b ∈ db.bans.rows,
    Takes a userId scope now → Takes b userId scope now → a = b

/-- The ban takes one of the scopes from the user at some instant of the
period. -/
def UserBanRow.meets (b : UserBanRow) (userId : Nat) (scopes : List UserBanScope)
    (startsAt : Nat) (expiresAt : Option Nat) : Bool :=
  let start := max startsAt b.startsAt
  b.userId = userId && b.status = .active && b.revokedAt.isNone &&
    scopes.any b.contains && expiresAt.all (start < ·) && b.expiresAt.all (start < ·)

/-- One of the scopes is taken now, by another ban than `excluded`. -/
def BanDb.takenNow (db : BanDb) (excluded : Option Nat) (userId : Nat)
    (scopes : List UserBanScope) : Bool :=
  db.bans.rows.any fun b =>
    some b.id ≠ excluded && b.userId = userId && scopes.any b.contains &&
      b.isEffective db.now

/-- If none of the scopes is taken now, then none is at any instant of the
period. -/
def BanDb.unrivalled (db : BanDb) (excluded : Option Nat) (userId : Nat)
    (scopes : List UserBanScope) (startsAt : Nat) (expiresAt : Option Nat) : Bool :=
  db.takenNow excluded userId scopes ||
    db.bans.rows.all fun b =>
      some b.id = excluded || !b.meets userId scopes startsAt expiresAt

/-- What an update that passes all its checks on the input gives the ban. -/
def UpdateUserBanInput.accepted (input : UpdateUserBanInput) (ban : UserBanRow) :
    Except AsterError NextValues := do
  let previousScopes ← normalizeScopes ban.scopes
  let next ← input.next ban previousScopes
  let _ ← input.changes ban previousScopes next
  pure next

/-- The call is refused as a duplicate, or what it writes meets no other ban.
A call that fails for another reason writes nothing. -/
def BanCall.unrivalled (db : BanDb) : BanCall → Bool
  | .create actor input =>
      (input.checked actor db.now).toOption.all fun ban =>
        db.unrivalled none ban.userId ban.scopes ban.startsAt ban.expiresAt
  | .update _ banId input =>
      (db.bans.find? fun b => b.id = banId).all fun ban =>
        !ban.isEffective db.now ||
          (input.accepted ban).toOption.all fun next =>
            db.unrivalled (some banId) ban.userId next.scopes next.startsAt
              next.expiresAt
  | .revoke _ _ _ | .tick _ => true

/-! ## Scopes and periods -/

/-- What a stored list contains is what its normal form lists. -/
theorem scopesContain_iff {scopes normal : List UserBanScope}
    (h : normalizeScopes scopes = .ok normal) (scope : UserBanScope) :
    scopesContain scopes scope = true ↔ scope ∈ normal := by
  unfold normalizeScopes at h
  unfold scopesContain
  cases hnormal : normalizeUserBanScopes scopes with
  | error e =>
      rw [hnormal] at h
      cases h
  | ok l =>
      rw [hnormal] at h
      cases h
      simp

/-- The repository's condition is weaker than the service's. -/
theorem effectiveAt_of_isEffective {b : UserBanRow} {now : Nat}
    (h : b.isEffective now = true) : b.toUserBan.effectiveAt now = true := by
  simp only [UserBanRow.isEffective, UserBan.effectiveAt, Bool.and_eq_true,
    decide_eq_true_eq] at h ⊢
  obtain ⟨⟨⟨hstatus, -⟩, hstart⟩, hexpires⟩ := h
  refine ⟨⟨hstatus, hstart⟩, ?_⟩
  cases hb : b.expiresAt with
  | none => rfl
  | some e => simpa [hb] using hexpires

/-- What takes a capability at an instant has the instant in its period. -/
theorem Takes.period {b : UserBanRow} {userId : Nat} {scope : UserBanScope}
    {instant : Nat} (h : Takes b userId scope instant) :
    b.startsAt ≤ instant ∧ b.expiresAt.all (instant < ·) = true := by
  have heffective := h.effective
  simp only [UserBanRow.isEffective, Bool.and_eq_true, decide_eq_true_eq] at heffective
  exact ⟨heffective.1.2, heffective.2⟩

/-- Two bans that take one capability at one time meet. -/
theorem meets_of_takes {b : UserBanRow} {userId : Nat} {scope : UserBanScope}
    {instant startsAt : Nat} {expiresAt : Option Nat} {scopes : List UserBanScope}
    (h : Takes b userId scope instant) (hscope : scope ∈ scopes)
    (hstart : startsAt ≤ instant) (hexpires : expiresAt.all (instant < ·) = true) :
    b.meets userId scopes startsAt expiresAt = true := by
  obtain ⟨hbstart, hbexpires⟩ := h.period
  obtain ⟨huser, hcontains, heffective⟩ := h
  simp only [UserBanRow.isEffective, Bool.and_eq_true, decide_eq_true_eq] at heffective
  obtain ⟨⟨⟨hstatus, hrevoked⟩, -⟩, -⟩ := heffective
  have hmax : max startsAt b.startsAt ≤ instant := by omega
  have hearlier : ∀ o : Option Nat, o.all (fun e => instant < e) = true →
      o.all (fun e => max startsAt b.startsAt < e) = true := by
    intro o ho
    cases o with
    | none => rfl
    | some e =>
        simp only [Option.all_some, decide_eq_true_eq] at ho ⊢
        omega
  simp only [UserBanRow.meets, Bool.and_eq_true, decide_eq_true_eq, List.any_eq_true]
  exact ⟨⟨⟨⟨⟨huser, hstatus⟩, hrevoked⟩, scope, hscope, hcontains⟩,
    hearlier _ hexpires⟩, hearlier _ hbexpires⟩

/-! ## The duplicate check -/

section Solo

variable {db : BanDb}

/-- The query finds a ban if there is one. -/
theorem findEffectiveForScope_isSome {b : UserBanRow} {userId : Nat}
    {scope : UserBanScope} {now : Nat} (hb : b ∈ db.bans.rows)
    (h : Takes b userId scope now) :
    ∃ found ∈ db.bans.rows, db.findEffectiveForScope userId scope now = some found ∧
      found.userId = userId ∧ found.contains scope = true := by
  obtain ⟨huser, hcontains, heffective⟩ := h
  have hselect : b ∈ db.bans.select fun b =>
      b.userId = userId && b.toUserBan.effectiveAt now := by
    rw [Table.mem_select]
    refine ⟨hb, ?_⟩
    rw [effectiveAt_of_isEffective heffective, Bool.and_true]
    exact decide_eq_true huser
  unfold BanDb.findEffectiveForScope
  simp only
  cases hfind : List.find? (fun b => b.contains scope)
      ((db.bans.select fun b =>
        b.userId = userId && b.toUserBan.effectiveAt now).insertionSort
          fun a b => b.createdAt ≤ a.createdAt) with
  | none =>
      have hnone := List.find?_eq_none.mp hfind b ((List.mem_insertionSort _).mpr hselect)
      exact absurd hcontains hnone
  | some found =>
      have hmem := (List.mem_insertionSort _).mp (List.mem_of_find?_eq_some hfind)
      obtain ⟨hrow, hcond⟩ := Table.mem_select.mp hmem
      simp only [Bool.and_eq_true, decide_eq_true_eq] at hcond
      have hcontains' := List.find?_some (p := fun b : UserBanRow => b.contains scope) hfind
      exact ⟨found, hrow, rfl, hcond.1, hcontains'⟩

/-- The duplicate check reads only, and passes if the first effective ban of
every scope is the excluded one. -/
theorem wp_rejectDuplicate (userId : Nat) (scopes : List UserBanScope)
    (excluded : Option Nat) (db : BanDb) :
    (rejectDuplicateEffectiveScopes userId scopes excluded).Wp banMachine (fun r db' =>
      db' = db ∧ (r = .ok () → ∀ scope ∈ scopes,
        ∀ found, db.findEffectiveForScope userId scope db.now = some found →
          some found.id = excluded)) db := by
  unfold rejectDuplicateEffectiveScopes
  induction scopes with
  | nil => exact ⟨rfl, fun _ _ h => by cases h⟩
  | cons scope scopes ih =>
      refine wp_bind.mpr ?_
      refine wp_stmt_bind.mpr (wp_stmt_bind.mpr ?_)
      refine wp_rejectIf_last (fun _ => ⟨rfl, fun h => by cases h⟩) fun hpass => ?_
      refine Wp.mono ih fun r db' hrest => ⟨hrest.1, fun hok s hs => ?_⟩
      rcases List.mem_cons.mp hs with rfl | hs
      · intro found hfound
        change ((db.findEffectiveForScope userId s db.now).any fun ban =>
          decide (some ban.id ≠ excluded)) = false at hpass
        rw [hfound] at hpass
        simpa using hpass
      · exact hrest.2 hok s hs

/-! ## Writes -/

variable {db' : BanDb}

/-- A new row that shares no scope and instant with the others. -/
theorem AtMostOneEffective.of_row (h : AtMostOneEffective db) (row : UserBanRow)
    (hrows : ∀ b ∈ db'.bans.rows, b ∈ db.bans.rows ∧ b.id ≠ row.id ∨ b = row)
    (hnone : ∀ b ∈ db.bans.rows, b.id ≠ row.id → ∀ scope instant,
      Takes row row.userId scope instant → ¬ Takes b row.userId scope instant) :
    AtMostOneEffective db' := by
  intro now userId scope a ha b hb htakes htakes'
  rcases hrows a ha with ⟨ha, hida⟩ | rfl
  · rcases hrows b hb with ⟨hb, -⟩ | rfl
    · exact h now userId scope a ha b hb htakes htakes'
    · have huser := htakes'.user
      subst huser
      exact absurd htakes (hnone a ha hida scope now htakes')
  · rcases hrows b hb with ⟨hb, hidb⟩ | rfl
    · have huser := htakes.user
      subst huser
      exact absurd htakes' (hnone b hb hidb scope now htakes)
    · rfl

/-- The rows are the same. -/
theorem AtMostOneEffective.of_rows (h : AtMostOneEffective db)
    (hrows : db'.bans.rows = db.bans.rows) : AtMostOneEffective db' := by
  intro now userId scope a ha b hb
  rw [hrows] at ha hb
  exact h now userId scope a ha b hb

/-- After an `UPDATE` of one row every row is an old one or the new one. -/
theorem mem_patchRow {id : Nat} {patch : BanPatch} {old : UserBanRow}
    (hold : old ∈ db.bans.rows) (hid : old.id = id)
    (hrows : db'.bans.rows = patchRow id patch db.bans.rows) :
    ∀ b ∈ db'.bans.rows,
      b ∈ db.bans.rows ∧ b.id ≠ (patchBan patch old).id ∨ b = patchBan patch old := by
  intro b hb
  rw [hrows] at hb
  obtain ⟨b₀, hb₀, rfl⟩ := List.mem_map.mp hb
  by_cases heq : b₀.id = id
  · rw [if_pos heq]
    have hsame : b₀ = old := db.bans.eq_of_ident hb₀ hold (heq.trans hid.symm)
    exact Or.inr (by rw [hsame])
  · rw [if_neg heq, patchBan_id, hid]
    exact Or.inl ⟨hb₀, heq⟩

/-- If an unrivalled call is not refused, what it writes meets no other
ban. -/
theorem not_meets_of_unrivalled {excluded : Option Nat} {userId : Nat}
    {scopes : List UserBanScope} {startsAt : Nat} {expiresAt : Option Nat}
    (h : db.unrivalled excluded userId scopes startsAt expiresAt = true)
    (hfree : ∀ b ∈ db.bans.rows, some b.id ≠ excluded → ∀ scope ∈ scopes,
      ¬ Takes b userId scope db.now)
    {b : UserBanRow} (hb : b ∈ db.bans.rows) (hid : some b.id ≠ excluded) :
    b.meets userId scopes startsAt expiresAt = false := by
  rcases Bool.or_eq_true _ _ ▸ h with htaken | hall
  · obtain ⟨c, hc, htaken⟩ := List.any_eq_true.mp htaken
    simp only [Bool.and_eq_true, decide_eq_true_eq, List.any_eq_true] at htaken
    obtain ⟨⟨⟨hcid, huser⟩, scope, hscope, hcontains⟩, heffective⟩ := htaken
    exact absurd ⟨huser, hcontains, heffective⟩ (hfree c hc hcid scope hscope)
  · have hrow := List.all_eq_true.mp hall b hb
    simp only [Bool.or_eq_true, decide_eq_true_eq, Bool.not_eq_true'] at hrow
    exact hrow.resolve_left hid

/-! ## One call -/

theorem checked_ok {input : CreateUserBanInput} {actor now : Nat} {ban : CreateUserBan}
    (h : input.checked actor now = .ok ban) :
    ban.userId = input.targetUserId ∧ normalizeScopes input.scopes = .ok ban.scopes := by
  obtain ⟨_, -, h⟩ := except_bind_ok h
  obtain ⟨_, -, h⟩ := except_bind_ok h
  obtain ⟨_, -, h⟩ := except_bind_ok h
  obtain ⟨_, -, h⟩ := except_bind_ok h
  obtain ⟨scopes, hscopes, h⟩ := except_bind_ok h
  cases h
  exact ⟨rfl, hscopes⟩

/-- A new row gets the next id, which no row has. -/
theorem not_id_seq {b : UserBanRow} (hb : b ∈ db.bans.rows) : b.id ≠ db.bans.seq :=
  Nat.ne_of_lt (db.bans.fresh b hb)

/-- If a scope is taken now, a passed duplicate check has found the excluded
ban for it. -/
theorem excluded_of_checked {scopes : List UserBanScope} {userId : Nat}
    {excluded : Option Nat}
    (hchecked : ∀ scope ∈ scopes, ∀ found,
      db.findEffectiveForScope userId scope db.now = some found →
        some found.id = excluded)
    {b : UserBanRow} (hb : b ∈ db.bans.rows) {scope : UserBanScope} (hscope : scope ∈ scopes)
    (h : Takes b userId scope db.now) :
    ∃ found ∈ db.bans.rows, some found.id = excluded ∧ found.userId = userId ∧
      found.contains scope = true := by
  obtain ⟨found, hmem, hfound, huser, hcontains⟩ := findEffectiveForScope_isSome hb h
  exact ⟨found, hmem, hchecked scope hscope found hfound, huser, hcontains⟩

theorem wp_createUserBan {actor : Nat} {input : CreateUserBanInput}
    (h : AtMostOneEffective db)
    (hun : (BanCall.create actor input).unrivalled db = true) :
    (createUserBan actor input).Wp banMachine (fun _ db' => AtMostOneEffective db') db := by
  refine wp_stmt_bind.mpr (wp_required h fun _ _ => wp_stmt_bind.mpr ?_)
  refine wp_ofExcept (fun _ _ => h) fun ban hban => ?_
  have hban' : input.checked actor db.now = .ok ban := hban
  obtain ⟨htarget, hscopes⟩ := checked_ok hban'
  have hrivals : db.unrivalled none ban.userId ban.scopes ban.startsAt ban.expiresAt =
      true := by
    simp only [BanCall.unrivalled, hban'] at hun
    exact hun
  have hcheck := wp_rejectDuplicate input.targetUserId ban.scopes none db
  refine wp_bind.mpr (hcheck.mono ?_)
  rintro r db₁ ⟨rfl, hpassed⟩
  cases r with
  | error e => exact h
  | ok _ =>
      refine wp_withTransaction (fun _ => h) fun row db' hdone => ?_
      have hfree := hpassed rfl
      rw [← htarget] at hfree
      obtain ⟨normal, hnormal, hrow⟩ := hdone.scopes
      rw [normalizeScopes_idem hscopes] at hnormal
      cases hnormal
      obtain ⟨event, -, hlogged⟩ := hdone.logged
      refine h.of_row row (fun b hb => ?_) fun b hb _ scope instant hnew hold => ?_
      · rw [hlogged.bans, List.mem_append, List.mem_singleton] at hb
        refine hb.imp (fun hb => ⟨hb, ?_⟩) id
        rw [hrow]
        exact not_id_seq hb
      · rw [hrow] at hnew hold
        have hlisted : scope ∈ ban.scopes :=
          (scopesContain_iff (normalizeScopes_idem hscopes) scope).mp hnew.scope
        obtain ⟨hstart, hexpires⟩ := hnew.period
        have hmeets := meets_of_takes hold hlisted hstart hexpires
        have hapart := not_meets_of_unrivalled hrivals (b := b)
          (fun c hc _ scope hscope htakes => ?_) hb (by simp)
        · exact absurd (hmeets.symm.trans hapart) (by decide)
        · -- a ban that takes one of the scopes now would have been found
          obtain ⟨_, -, hnone, -⟩ := excluded_of_checked hfree hc hscope htakes
          cases hnone

/-- The row `user_ban` reads, alone. -/
theorem wp_userBan {α : Type} {banId : Nat} {f : UserBanRow → BanProg α}
    {Q : Except AsterError α → BanDb → Prop} (hfail : ∀ e, Q (.error e) db)
    (hok : ∀ ban ∈ db.bans.rows, ban.id = banId →
      (db.bans.find? fun b => b.id = banId) = some ban → (f ban).Wp banMachine Q db) :
    ((userBan banId).bind f).Wp banMachine Q db := by
  unfold userBan
  simp only [bind_eq, bind_assoc]
  refine wp_rejectIf (fun _ => hfail _) fun _ => wp_stmt_bind.mpr ?_
  refine wp_required (hfail _) fun ban hfind => ?_
  have hfind' : (db.bans.find? fun b => b.id = banId) = some ban := hfind
  obtain ⟨hmem, hid⟩ := Table.of_find? hfind'
  exact hok ban hmem (of_decide_eq_true hid) hfind'

/-- The scopes an update gives a ban are in normal form. -/
theorem next_scopes {input : UpdateUserBanInput} {ban : UserBanRow}
    {previous : List UserBanScope} {next : NextValues}
    (hprevious : normalizeScopes ban.scopes = .ok previous)
    (h : input.next ban previous = .ok next) :
    normalizeScopes next.scopes = .ok next.scopes := by
  obtain ⟨scopes, hscopes, h⟩ := except_bind_ok h
  obtain ⟨_, -, h⟩ := except_bind_ok h
  cases h
  unfold UpdateUserBanInput.nextScopes at hscopes
  split at hscopes
  · exact normalizeScopes_idem hscopes
  · cases hscopes
    exact normalizeScopes_idem hprevious

/-- The row an update writes has the next scopes and the next period. -/
theorem patched_next {input : UpdateUserBanInput} {ban : UserBanRow}
    {previous : List UserBanScope} {next : NextValues} {changes : UpdateUserBan}
    (hprevious : normalizeScopes ban.scopes = .ok previous)
    (hnext : input.next ban previous = .ok next)
    (hchanges : input.changes ban previous next = .ok changes) (now : Nat) :
    (patchBan (changes.patch now) ban).startsAt = next.startsAt ∧
      (patchBan (changes.patch now) ban).expiresAt = next.expiresAt ∧
      normalizeScopes (patchBan (changes.patch now) ban).scopes = .ok next.scopes := by
  have hnormal := next_scopes hprevious hnext
  obtain ⟨scopes, hscopes, hnext⟩ := except_bind_ok hnext
  obtain ⟨_, -, hnext⟩ := except_bind_ok hnext
  obtain ⟨_, -, hchanges⟩ := except_bind_ok hchanges
  obtain ⟨_, -, hchanges⟩ := except_bind_ok hchanges
  obtain ⟨_, -, hchanges⟩ := except_bind_ok hchanges
  obtain ⟨value, hvalue, hchanges⟩ := except_bind_ok hchanges
  rw [hnormal] at hvalue
  cases hvalue
  cases hchanges
  cases hnext
  refine ⟨rfl, ?_, ?_⟩
  · simp only [UpdateUserBan.patch, patchBan]
    split
    · rfl
    · next hsame => exact (not_not.mp hsame).symm
  · simp only [UpdateUserBan.patch, patchBan] at hnormal ⊢
    split
    · exact hnormal
    · next hsame =>
        rw [not_not.mp hsame]
        exact hprevious

/-- Of an unrivalled update of an effective ban, the rest of the bans. -/
theorem unrivalled_update {actor banId : Nat} {input : UpdateUserBanInput}
    (hun : (BanCall.update actor banId input).unrivalled db = true) {ban : UserBanRow}
    (hfind : (db.bans.find? fun b => b.id = banId) = some ban)
    (heffective : ban.isEffective db.now = true) {next : NextValues}
    (hnext : input.accepted ban = .ok next) :
    db.unrivalled (some banId) ban.userId next.scopes next.startsAt next.expiresAt =
      true := by
  simp only [BanCall.unrivalled, hfind, Option.all_some, heffective, hnext, Bool.not_true,
    Bool.false_or] at hun
  exact hun

theorem wp_updateUserBan {actor banId : Nat} {input : UpdateUserBanInput}
    (h : AtMostOneEffective db)
    (hun : (BanCall.update actor banId input).unrivalled db = true) :
    (updateUserBan actor banId input).Wp banMachine
      (fun _ db' => AtMostOneEffective db') db := by
  refine wp_userBan (fun _ => h) fun ban hban hid hfind => wp_stmt_bind.mpr ?_
  refine wp_rejectIf (fun _ => h) fun heffective => ?_
  have heffective' : ban.isEffective db.now = true := by
    change (!ban.isEffective db.now) = false at heffective
    simpa using heffective
  refine wp_ofExcept (fun _ _ => h) fun previous hprevious => ?_
  refine wp_ofExcept (fun _ _ => h) fun next hnext => ?_
  have hlisted := next_scopes hprevious hnext
  extract_lets rest
  -- the write, once no other ban takes one of the next scopes now
  have hrest : (∀ b ∈ db.bans.rows, b.id ≠ banId → ∀ scope ∈ next.scopes,
        ¬ Takes b ban.userId scope db.now) →
      ∀ u, (rest u).Wp banMachine (fun _ db' => AtMostOneEffective db') db := by
    intro hfree u
    refine wp_ofExcept (fun _ _ => h) fun changes hchanges => ?_
    have haccepted : input.accepted ban = .ok next := by
      unfold UpdateUserBanInput.accepted
      rw [hprevious]
      change (input.next ban previous >>= _) = _
      rw [hnext]
      change (input.changes ban previous next >>= _) = _
      rw [hchanges]
      rfl
    have hrivals := unrivalled_update hun hfind heffective' haccepted
    refine wp_withTransaction (fun _ => h) fun row db' hdone => ?_
    obtain ⟨event, _, -, -, -, hlogged⟩ := hdone.logged
    obtain ⟨hstart, hexpires, hscopes⟩ :=
      patched_next hprevious hnext hchanges db.now
    refine h.of_row (patchBan (changes.patch db.now) ban)
      (mem_patchRow hban rfl hlogged.bans) ?_
    intro b hb hne scope instant hnew hold
    rw [patchBan_id, hid] at hne
    have hmem : scope ∈ next.scopes := (scopesContain_iff hscopes scope).mp hnew.scope
    have hperiod := hnew.period
    rw [hstart, hexpires] at hperiod
    have hmeets := meets_of_takes hold hmem hperiod.1 hperiod.2
    have hapart := not_meets_of_unrivalled hrivals
      (fun c hc hcid => hfree c hc (by simpa using hcid)) hb (by simpa using hne)
    exact absurd (hmeets.symm.trans hapart) (by decide)
  by_cases hchanged : next.scopes ≠ previous
  · rw [if_pos hchanged]
    have hcheck := wp_rejectDuplicate ban.userId next.scopes (some ban.id) db
    refine wp_bind.mpr (hcheck.mono ?_)
    rintro r db₁ ⟨rfl, hpassed⟩
    cases r with
    | error e => exact h
    | ok u =>
        refine hrest (fun b hb hne scope hscope htakes => ?_) u
        obtain ⟨found, hfound, hexcluded, huser, hcontains⟩ :=
          excluded_of_checked (hpassed rfl) hb hscope htakes
        have hsame : found = ban :=
          db₁.bans.eq_of_ident hfound hban (Option.some.inj hexcluded)
        rw [hsame] at hcontains
        have heq := h db₁.now ban.userId scope b hb ban hban htakes
          ⟨rfl, hcontains, heffective'⟩
        exact hne (heq ▸ hid)
  · rw [if_neg hchanged]
    refine hrest (fun b hb hne scope hscope htakes => ?_) ()
    rw [not_not.mp hchanged] at hscope
    have hcontains : ban.contains scope = true :=
      (scopesContain_iff hprevious scope).mpr hscope
    have heq := h db.now ban.userId scope b hb ban hban htakes
      ⟨rfl, hcontains, heffective'⟩
    exact hne (heq ▸ hid)

theorem wp_revokeUserBan (actor banId : Nat) (note : Option String)
    (h : AtMostOneEffective db) :
    (revokeUserBan actor banId note).Wp banMachine
      (fun _ db' => AtMostOneEffective db') db := by
  refine wp_userBan (fun _ => h) fun ban hban hid hfind => wp_stmt_bind.mpr ?_
  refine wp_rejectIf (fun _ => h) fun _ => ?_
  refine wp_ofExcept (fun _ _ => h) fun note' _ => ?_
  refine wp_ofExcept (fun _ _ => h) fun previous _ => wp_stmt_bind.mpr ?_
  refine wp_withTransaction (fun _ => h) fun row db' hdone => ?_
  obtain ⟨event, _, -, -, -, hlogged⟩ := hdone.logged
  refine h.of_row _ (mem_patchRow hban rfl hlogged.bans) ?_
  intro b hb hne scope instant hnew
  have heffective := hnew.effective
  simp [UserBanRow.isEffective, patchBan, revokePatch] at heffective

/-- One call keeps the bans of every user apart, if it is unrivalled. -/
theorem call_keeps (call : BanCall) (h : AtMostOneEffective db)
    (hun : call.unrivalled db = true) :
    AtMostOneEffective (after banMachine BanCall.body db call) := by
  unfold after
  cases call with
  | create actor input =>
      have hbody := wp_createUserBan h hun
      rwa [Wp, ← run_bind_ok_snd banMachine _ some] at hbody
  | update actor banId input =>
      have hbody := wp_updateUserBan h hun
      rwa [Wp, ← run_bind_ok_snd banMachine _ some] at hbody
  | revoke actor banId note =>
      have hbody := wp_revokeUserBan actor banId note h
      rwa [Wp, ← run_bind_ok_snd banMachine _ some] at hbody
  | tick ms => exact h

end Solo

/-! ## Sequences of calls -/

/-- **While every call is unrivalled, at every time a user has at most one
effective ban for each scope.** -/
theorem effective_bans_unique {db : BanDb} (hempty : db.bans.rows = [])
    {calls : List BanCall}
    (hcalls : Guarded banMachine BanCall.body
      (fun db call => call.unrivalled db = true) db calls) :
    AtMostOneEffective (serve banMachine BanCall.body db calls) := by
  refine serve_induct (P := fun _ => AtMostOneEffective) ?_ ?_ hcalls
  · intro now userId scope a ha
    rw [hempty] at ha
    cases ha
  · exact fun _ call h hun => call_keeps call h hun

/-- A ban of alice from uploading textures. -/
def uploadBan (startsAt expiresAt : Option Nat) : BanCall :=
  .create 1 ⟨2, [.textureUpload], "spam", none, none, startsAt, expiresAt⟩

/-- A ban that ends at 200, one that starts then, and an update of the first
one at 150 that makes it end earlier. -/
theorem apart_bans_unique :
    AtMostOneEffective (serve banMachine BanCall.body twoUsers
      [uploadBan none (some 200), uploadBan (some 200) none, .tick 50,
        .update 1 1 ⟨none, none, none, none, none, some (.value 180)⟩]) := by
  refine effective_bans_unique rfl ⟨?_, ?_, ?_, ?_, trivial⟩
  all_goals decide +kernel

/-- **A scheduled ban and an immediate one**: the first ban starts at 200, the
second one now, and at 300 both are effective. -/
theorem scheduled_bans_meet :
    ¬ AtMostOneEffective (serve banMachine BanCall.body twoUsers
      [uploadBan (some 200) none, uploadBan none none]) := by
  let ban (id startsAt : Nat) : UserBanRow :=
    newBan id 100 ⟨2, [.textureUpload], "spam", none, none, some 1, startsAt, none⟩
  intro h
  have hfirst : Takes (ban 1 200) 2 .textureUpload 300 := ⟨rfl, rfl, rfl⟩
  have hsecond : Takes (ban 2 100) 2 .textureUpload 300 := ⟨rfl, rfl, rfl⟩
  have heq := h 300 2 .textureUpload (ban 1 200) (by decide +kernel) (ban 2 100)
    (by decide +kernel) hfirst hsecond
  cases heq

end AsterYggdrasil.Bans
