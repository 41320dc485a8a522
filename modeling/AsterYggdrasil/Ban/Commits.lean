import AsterYggdrasil.Ban.Service

/-!
# User bans: what a transaction commits

A transaction of the ban service either leaves the database as it was, or it
writes one row of `user_bans` and appends one event.  `commit_cases` says
which row and which event, for each of the three transactions; the rest of the
development reads the service through it.
-/

namespace AsterYggdrasil.Bans

open Interleave Relational
open Interleave.Prog

/-- Normalised scopes stay as they are. -/
theorem normalizeScopes_idem {scopes normal : List UserBanScope}
    (h : normalizeScopes scopes = .ok normal) : normalizeScopes normal = .ok normal := by
  unfold normalizeScopes at h ⊢
  cases hnormal : normalizeUserBanScopes scopes with
  | error e =>
      rw [hnormal] at h
      cases h
  | ok l =>
      rw [hnormal] at h
      cases h
      rw [normalizeUserBanScopes_idem hnormal]
      rfl

theorem patchBan_id (patch : BanPatch) (b : UserBanRow) : (patchBan patch b).id = b.id := rfl

/-- The rows of the ban table are now `rows`, and one event has been
appended. -/
structure Logged (db : BanDb) (rows : List UserBanRow) (event : CreateUserBanEvent)
    (db' : BanDb) : Prop where
  now : db'.now = db.now
  bans : db'.bans.rows = rows
  events : ∃ id createdAt,
    db'.events.rows = db.events.rows ++ [newEvent id createdAt event]

/-- Only the rows of the ban table have changed. -/
structure Rewritten (db : BanDb) (rows : List UserBanRow) (db' : BanDb) : Prop where
  now : db'.now = db.now
  bans : db'.bans.rows = rows
  events : db'.events = db.events

/-- `create` appends its row. -/
theorem wp_banCreate (input : CreateUserBan) (db : BanDb) :
    (banCreate input).Wp banDbMachine (OnSuccess fun row db' =>
      row = newBan db.bans.seq db.now input ∧
        Rewritten db (db.bans.rows ++ [row]) db') db := by
  intro row h
  simp only [banCreate, banSql, Prog.stmt, bind_eq, act_bind, ok_bind, run_act,
    BanStmt.exec] at h ⊢
  split at h
  next huser =>
    simp only [if_pos huser]
    cases hins : db.bans.nextId.2.insert? (newBan db.bans.nextId.1 db.now input) with
    | none =>
        simp only [hins, required] at h
        cases h
    | some bans =>
        simp only [hins, required] at h ⊢
        cases h
        obtain ⟨hrows, -, -, -⟩ := Table.insert?_eq_some hins
        exact ⟨rfl, rfl, hrows, rfl⟩
  next => cases h

/-- The rows after an `UPDATE` of row `id`. -/
def patchRow (id : Nat) (patch : BanPatch) (rows : List UserBanRow) : List UserBanRow :=
  rows.map fun b => if b.id = id then patchBan patch b else b

/-- An `UPDATE` by primary key has to find its row. -/
theorem wp_banWrite (id : Nat) (patch : BanPatch) (db : BanDb) :
    ((banSql (.banUpdate id patch)).bind
      (required .databaseOperation)).Wp banDbMachine (OnSuccess fun row db' =>
        (∃ b ∈ db.bans.rows, b.id = id ∧ row = patchBan patch b) ∧
          Rewritten db (patchRow id patch db.bans.rows) db') db := by
  intro row h
  simp only [banSql, Prog.stmt, act_bind, ok_bind, run_act, BanStmt.exec] at h ⊢
  split at h
  next huser =>
    simp only [if_pos huser] at h ⊢
    cases hfind : db.bans.find? fun b => b.id = id with
    | none =>
        simp only [hfind, Option.map_none, required] at h
        cases h
    | some b =>
        simp only [hfind, Option.map_some, required] at h ⊢
        cases h
        obtain ⟨hb, hid⟩ := Table.of_find? hfind
        refine ⟨⟨b, hb, of_decide_eq_true hid, rfl⟩, rfl, ?_, rfl⟩
        unfold patchRow
        simp [Table.modify]
  next => cases h

/-- `create_event` appends its event. -/
theorem wp_createEvent (event : CreateUserBanEvent) (db : BanDb) :
    (createEvent event).Wp banDbMachine (OnSuccess fun _ db' =>
      Logged db db.bans.rows event db') db := by
  intro row h
  simp only [createEvent, banSql, Prog.stmt, bind_eq, act_bind, ok_bind, run_act,
    BanStmt.exec] at h ⊢
  split at h
  next hkeys =>
    simp only [if_pos hkeys]
    cases hins : db.events.nextId.2.insert?
        (newEvent db.events.nextId.1 db.now event) with
    | none =>
        simp only [hins, required] at h
        cases h
    | some events =>
        simp only [hins, required] at h ⊢
        obtain ⟨hrows, -, -, -⟩ := Table.insert?_eq_some hins
        exact ⟨rfl, rfl, _, _, hrows⟩
  next => cases h

/-- A write followed by its event. -/
theorem Rewritten.logged {db mid db' : BanDb} {rows : List UserBanRow}
    {event : CreateUserBanEvent} (h : Rewritten db rows mid)
    (h' : Logged mid mid.bans.rows event db') : Logged db rows event db' where
  now := h'.now.trans h.now
  bans := h'.bans.trans h.bans
  events := by
    obtain ⟨id, createdAt, hevents⟩ := h'.events
    exact ⟨id, createdAt, by rw [hevents, h.events]⟩

/-! ## The three transactions -/

/-- The event says what the ban has become. -/
structure Reports (event : CreateUserBanEvent) (kind : UserBanEventType)
    (row : UserBanRow) : Prop where
  banId : event.banId = row.id
  eventType : event.eventType = kind
  nextStatus : event.nextStatus = some row.status
  nextScopes : event.nextScopes = some row.scopes
  nextExpiresAt : event.nextExpiresAt = row.expiresAt

/-- The event says what the ban was. -/
structure Recalls (event : CreateUserBanEvent) (ban : UserBanRow)
    (scopes : List UserBanScope) : Prop where
  previousStatus : event.previousStatus = some ban.status
  previousScopes : event.previousScopes = some scopes
  previousExpiresAt : event.previousExpiresAt = ban.expiresAt

/-- The ban `row` has been inserted and its event appended. -/
structure Created (input : CreateUserBan) (db : BanDb) (row : UserBanRow) (db' : BanDb) :
    Prop where
  scopes : ∃ scopes, normalizeScopes input.scopes = .ok scopes ∧
    row = newBan db.bans.seq db.now { input with scopes := scopes }
  logged : ∃ event, Reports event .created row ∧
    Logged db (db.bans.rows ++ [row]) event db'

theorem wp_createTxn (actor : Nat) (input : CreateUserBan) (db : BanDb) :
    (createTxn actor input).Wp banDbMachine (OnSuccess (Created input db)) db := by
  refine wp_ofExcept_success fun scopes hscopes => ?_
  refine Wp.bind_success (wp_banCreate _ db) fun row mid hmid => ?_
  obtain ⟨hrow, hwritten⟩ := hmid
  refine Wp.bind_success (wp_createEvent _ mid) fun _ db' hlogged => ?_
  refine wp_ok_success ⟨⟨scopes, hscopes, hrow⟩, _, ?_, hwritten.logged hlogged⟩
  exact ⟨rfl, rfl, rfl, rfl, rfl⟩

/-- A row with the id of `ban` has been patched, and an event appended that
takes its previous values from `ban`. -/
structure Changed (kind : UserBanEventType) (ban : UserBanRow)
    (previousScopes : List UserBanScope) (patch : BanPatch) (db : BanDb)
    (row : UserBanRow) (db' : BanDb) : Prop where
  found : ∃ b ∈ db.bans.rows, b.id = ban.id ∧ row = patchBan patch b
  logged : ∃ event scopes, normalizeScopes previousScopes = .ok scopes ∧
    Reports event kind row ∧ Recalls event ban scopes ∧
    Logged db (patchRow ban.id patch db.bans.rows) event db'

/-- What `update` sets. -/
def UpdateUserBan.patch (input : UpdateUserBan) (now : Nat) : BanPatch :=
  { scopes := input.scopes
    reason := input.reason
    publicReason := input.publicReason
    adminNote := input.adminNote
    startsAt := input.startsAt
    expiresAt := input.expiresAt
    updatedAt := now }

/-- What `revoke` sets. -/
def revokePatch (revokedByUserId : Option Nat) (revokeNote : Option String)
    (revokedAt now : Nat) : BanPatch :=
  { status := some .revoked
    revokedAt := some (some revokedAt)
    revokedByUserId := some revokedByUserId
    revokeNote := some revokeNote
    updatedAt := now }

theorem wp_updateTxn (actor : Nat) (ban : UserBanRow)
    (previousScopes : List UserBanScope) (input : UpdateUserBan) (db : BanDb) :
    (updateTxn actor ban previousScopes input).Wp banDbMachine (OnSuccess
      (Changed .updated ban previousScopes (input.patch db.now) db)) db := by
  have hwrite := wp_banWrite ban.id (input.patch db.now) db
  refine Wp.bind_success (p := banUpdate ban input) hwrite fun row mid hmid => ?_
  obtain ⟨hfound, hwritten⟩ := hmid
  refine wp_ofExcept_success fun scopes hscopes => ?_
  refine Wp.bind_success (wp_createEvent _ mid) fun _ db' hlogged => ?_
  refine wp_ok_success ⟨hfound, _, scopes, hscopes, ?_, ?_, hwritten.logged hlogged⟩
  · exact ⟨rfl, rfl, rfl, rfl, rfl⟩
  · exact ⟨rfl, rfl, rfl⟩

theorem wp_revokeTxn (actor : Nat) (ban : UserBanRow)
    (previousScopes : List UserBanScope) (note : Option String) (revokedAt : Nat)
    (db : BanDb) :
    (revokeTxn actor ban previousScopes note revokedAt).Wp banDbMachine (OnSuccess
      (Changed .revoked ban previousScopes
        (revokePatch (some actor) note revokedAt db.now) db)) db := by
  have hwrite := wp_banWrite ban.id (revokePatch (some actor) note revokedAt db.now) db
  refine Wp.bind_success (p := banRevoke ban (some actor) note revokedAt) hwrite
    fun row mid hmid => ?_
  obtain ⟨hfound, hwritten⟩ := hmid
  refine wp_ofExcept_success fun scopes hscopes => ?_
  refine Wp.bind_success (wp_createEvent _ mid) fun _ db' hlogged => ?_
  refine wp_ok_success ⟨hfound, _, scopes, hscopes, ?_, ?_, hwritten.logged hlogged⟩
  · exact ⟨rfl, rfl, rfl, rfl, rfl⟩
  · exact ⟨rfl, rfl, rfl⟩

/-- What a committed transaction has done. -/
def BanTxn.Done (db : BanDb) (row : UserBanRow) (db' : BanDb) : BanTxn → Prop
  | .create _ input => Created input db row db'
  | .update _ ban previousScopes input =>
      Changed .updated ban previousScopes (input.patch db.now) db row db'
  | .revoke actor ban previousScopes note revokedAt =>
      Changed .revoked ban previousScopes
        (revokePatch (some actor) note revokedAt db.now) db row db'

/-- **Everything a transaction can do**: nothing, or its write with its
event. -/
theorem commit_cases (t : BanTxn) (db : BanDb) :
    (∃ e, t.commit db = (.error e, db)) ∨
      ∃ row db', t.commit db = (.ok row, db') ∧ t.Done db row db' := by
  have hbody : t.body.Wp banDbMachine (OnSuccess fun row db' => t.Done db row db') db := by
    cases t with
    | create actor input => exact wp_createTxn actor input db
    | update actor ban previousScopes input =>
        exact wp_updateTxn actor ban previousScopes input db
    | revoke actor ban previousScopes note revokedAt =>
        exact wp_revokeTxn actor ban previousScopes note revokedAt db
  unfold BanTxn.commit
  cases hrun : t.body.run banDbMachine db with
  | mk r db' =>
      cases r with
      | error e => exact Or.inl ⟨e, rfl⟩
      | ok row =>
          refine Or.inr ⟨row, db', rfl, ?_⟩
          have hdone := hbody row (by rw [hrun])
          rwa [hrun] at hdone

/-- A transaction in a solo run. -/
theorem wp_withTransaction {t : BanTxn} {db : BanDb}
    {Q : Except AsterError UserBanRow → BanDb → Prop} (hfail : ∀ e, Q (.error e) db)
    (hdone : ∀ row db', t.Done db row db' → Q (.ok row) db') :
    (withTransaction t).Wp banMachine Q db := by
  have hcommit : (withTransaction t).run banMachine db = t.commit db := by
    unfold withTransaction
    simp only [Prog.stmt, bind_eq, act_bind, ok_bind, run_act, BanServiceStmt.exec]
    cases hrun : t.commit db with
    | mk r db' =>
        cases r with
        | ok row => rfl
        | error e => rfl
  unfold Wp
  rw [hcommit]
  rcases commit_cases t db with ⟨e, heq⟩ | ⟨row, db', heq, hd⟩
  · rw [heq]
    exact hfail e
  · rw [heq]
    exact hdone row db' hd

/-- A row that has to be there, in a solo run. -/
theorem wp_required {S : Signature} {M : Machine S} {α β : Type}
    {Q : Except AsterError β → M.State → Prop} {e : AsterError} {found : Option α}
    {f : α → Prog S AsterError β} {s : M.State} (herr : Q (.error e) s)
    (hok : ∀ a, found = some a → (f a).Wp M Q s) :
    ((required e found).bind f).Wp M Q s := by
  cases found with
  | none => exact herr
  | some a => exact hok a rfl

end AsterYggdrasil.Bans
