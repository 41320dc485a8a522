import AsterYggdrasil.Ban.Commits
import AsterYggdrasil.Interleave.Pool

/-!
# The event log of a ban

Every change of a ban appends an event with the status, the scopes and the
expiry before and after it.  The values before it are those of the row the
call has read ahead of its transaction; the values after it are those of the
row the transaction has written.

`ban_log_replays` says that the log replays to the ban in every run, of any
number of calls in any interleaving, in which the row still has the values the
call has read whenever a transaction changes it.  `overlapping_calls_break_log`
is a run of two calls that overlap: an event follows the revocation, and it
does not continue where the revocation ended.
-/

namespace AsterYggdrasil.Bans

open Interleave Relational
open Interleave.Prog Interleave.Config

/-- What an event says of the ban before it is what the event before it says
of the ban after it. -/
def Continues (e e' : UserBanEvent) : Prop :=
  e'.previousStatus = e.nextStatus ∧ e'.previousScopes = e.nextScopes ∧
    e'.previousExpiresAt = e.nextExpiresAt

instance : DecidableRel Continues := fun e e' =>
  inferInstanceAs (Decidable (e'.previousStatus = e.nextStatus ∧
    e'.previousScopes = e.nextScopes ∧ e'.previousExpiresAt = e.nextExpiresAt))

def UserBanEvent.isRevocation (e : UserBanEvent) : Bool := e.eventType = .revoked

/-- **The log replays to the ban.** -/
structure Replays (ban : UserBanRow) (log : List UserBanEvent) : Prop where
  chained : log.IsChain Continues
  last : ∃ e, log.getLast? = some e ∧ e.nextStatus = some ban.status ∧
    e.nextScopes = some ban.scopes ∧ e.nextExpiresAt = ban.expiresAt
  revoked : log.countP UserBanEvent.isRevocation = if ban.status = .revoked then 1 else 0
  final : ∀ before e after, log = before ++ e :: after → e.isRevocation = true → after = []

/-- The row still has the status, scopes and expiry that the call has read. -/
def Unchanged (db : BanDb) (ban : UserBanRow) : Prop :=
  ∀ b ∈ db.bans.rows, b.id = ban.id →
    b.status = ban.status ∧ b.scopes = ban.scopes ∧ b.expiresAt = ban.expiresAt

/-- A transaction that changes a ban finds it as its call has read it. -/
def FoundAsRead (db : BanDb) : BanServiceStmt → Prop
  | .txn (.update _ ban _ _) | .txn (.revoke _ ban _ _ _) => Unchanged db ban
  | _ => True

instance (db : BanDb) (ban : UserBanRow) : Decidable (Unchanged db ban) :=
  inferInstanceAs (Decidable (∀ b ∈ db.bans.rows, b.id = ban.id →
    b.status = ban.status ∧ b.scopes = ban.scopes ∧ b.expiresAt = ban.expiresAt))

instance (db : BanDb) : (st : BanServiceStmt) → Decidable (FoundAsRead db st)
  | .txn (.update _ ban _ _) => inferInstanceAs (Decidable (Unchanged db ban))
  | .txn (.revoke _ ban _ _ _) => inferInstanceAs (Decidable (Unchanged db ban))
  | .txn (.create _ _) => isTrue trivial
  | .sql _ => isTrue trivial

/-! ## One more event -/

section Log

variable {ban ban' : UserBanRow} {log : List UserBanEvent}

/-- The log of a ban that has just been created. -/
theorem replays_created {e : UserBanEvent} (hstatus : ban.status = .active)
    (h : Reports e.toCreateUserBanEvent .created ban) : Replays ban [e] where
  chained := List.isChain_singleton e
  last := ⟨e, rfl, h.nextStatus, h.nextScopes, h.nextExpiresAt⟩
  revoked := by
    rw [hstatus]
    simp [UserBanEvent.isRevocation, h.eventType]
  final before e' after heq _ := by
    have hlen := congrArg List.length heq
    simp only [List.length_append, List.length_cons, List.length_nil] at hlen
    exact List.eq_nil_of_length_eq_zero (by omega)

/-- An event that takes the log of an active ban on to its next row. -/
theorem Replays.append (h : Replays ban log) (hactive : ban.status = .active)
    {e : UserBanEvent} {kind : UserBanEventType}
    (hrecalls : Recalls e.toCreateUserBanEvent ban ban.scopes)
    (hreports : Reports e.toCreateUserBanEvent kind ban')
    (hkind : kind = .revoked ↔ ban'.status = .revoked) : Replays ban' (log ++ [e]) := by
  obtain ⟨e₀, hlast, hstatus, hscopes, hexpires⟩ := h.last
  have hnone : log.countP UserBanEvent.isRevocation = 0 := by
    rw [h.revoked, hactive]
    rfl
  have hevent : e.isRevocation = decide (ban'.status = .revoked) := by
    unfold UserBanEvent.isRevocation
    rw [hreports.eventType]
    exact decide_eq_decide.mpr hkind
  refine ⟨?_, ?_, ?_, ?_⟩
  · refine List.isChain_append.mpr ⟨h.chained, List.isChain_singleton e, ?_⟩
    intro x hx y hy
    rw [hlast] at hx
    cases hx
    cases hy
    refine ⟨hrecalls.previousStatus.trans hstatus.symm,
      hrecalls.previousScopes.trans hscopes.symm,
      hrecalls.previousExpiresAt.trans hexpires.symm⟩
  · exact ⟨e, by simp, hreports.nextStatus, hreports.nextScopes, hreports.nextExpiresAt⟩
  · rw [List.countP_append, hnone, List.countP_singleton, hevent]
    simp
  · intro before x after heq hx
    rcases List.eq_nil_or_concat after with rfl | ⟨init, z, rfl⟩
    · rfl
    · have hmem : x ∈ log := by
        have hsplit : log ++ [e] = (before ++ x :: init) ++ [z] := by
          rw [heq]
          simp
        rw [(List.append_inj' hsplit rfl).1]
        simp
      exact absurd hx (List.countP_eq_zero.mp hnone x hmem)

end Log

/-! ## One step -/

/-- Every log replays to its ban, every event belongs to a ban, and stored
scopes are in normal form. -/
structure LogsReplay (db : BanDb) : Prop where
  replays : ∀ ban ∈ db.bans.rows, Replays ban (db.eventsOf ban.id)
  known : ∀ e ∈ db.events.rows, ∃ ban ∈ db.bans.rows, ban.id = e.banId
  normal : ∀ ban ∈ db.bans.rows, normalizeScopes ban.scopes = .ok ban.scopes

/-- The statements that write nothing. -/
def BanStmt.reads : BanStmt → Bool
  | .banInsert _ _ | .banUpdate _ _ | .eventInsert _ _ => false
  | _ => true

/-- What the service knows about the transactions it starts. -/
def Checked : BanServiceStmt → Prop
  | .sql i => i.reads = true
  | .txn (.create _ _) => True
  | .txn (.update _ ban previousScopes input) =>
      ban.status = .active ∧ normalizeScopes ban.scopes = .ok previousScopes ∧
        ∀ scopes ∈ input.scopes, normalizeScopes scopes = .ok scopes
  | .txn (.revoke _ ban previousScopes _ _) =>
      ban.status = .active ∧ normalizeScopes ban.scopes = .ok previousScopes

section Step

variable {db db' : BanDb}

theorem LogsReplay.of_tables (h : LogsReplay db) (hbans : db'.bans = db.bans)
    (hevents : db'.events = db.events) : LogsReplay db' := by
  obtain ⟨hreplays, hknown, hnormal⟩ := h
  refine ⟨?_, ?_, ?_⟩
  · unfold BanDb.eventsOf
    rw [hbans, hevents]
    exact hreplays
  · rw [hbans, hevents]
    exact hknown
  · rw [hbans]
    exact hnormal

theorem exec_reads {i : BanStmt} (hi : i.reads = true) (db : BanDb) :
    (i.exec db).2.bans = db.bans ∧ (i.exec db).2.events = db.events := by
  cases i with
  | banInsert _ _ | banUpdate _ _ | eventInsert _ _ => cases hi
  | _ => exact ⟨rfl, rfl⟩

/-- The events of a ban after one event has been appended. -/
theorem eventsOf_append {event : UserBanEvent}
    (hevents : db'.events.rows = db.events.rows ++ [event]) (banId : Nat) :
    db'.eventsOf banId =
      db.eventsOf banId ++ if event.banId = banId then [event] else [] := by
  unfold BanDb.eventsOf Table.select
  rw [hevents, List.filter_append]
  by_cases h : event.banId = banId
  · simp [h]
  · simp [h]

/-- A new ban starts its log. -/
theorem LogsReplay.create (h : LogsReplay db) {input : CreateUserBan} {row : UserBanRow}
    (hdone : Created input db row db') : LogsReplay db' := by
  obtain ⟨scopes, hscopes, hrow⟩ := hdone.scopes
  obtain ⟨event, hreports, -, hbans, id, createdAt, hevents⟩ := hdone.logged
  have hid : row.id = db.bans.seq := by rw [hrow]; rfl
  refine ⟨?_, ?_, ?_⟩
  · intro ban hban
    rw [eventsOf_append hevents]
    rw [hbans, List.mem_append, List.mem_singleton] at hban
    rcases hban with hban | rfl
    · have hne : (newEvent id createdAt event).banId ≠ ban.id := by
        have hlt := db.bans.fresh ban hban
        change event.banId ≠ ban.id
        rw [hreports.banId, hid]
        exact (Nat.ne_of_lt hlt).symm
      rw [if_neg hne, List.append_nil]
      exact h.replays ban hban
    · have hnone : db.eventsOf ban.id = [] := by
        rw [BanDb.eventsOf, Table.select, List.filter_eq_nil_iff]
        intro e he heq
        obtain ⟨b, hb, hbid⟩ := h.known e he
        have hlt := db.bans.fresh b hb
        have heq' : e.banId = ban.id := of_decide_eq_true heq
        rw [← heq', ← hbid] at hid
        exact absurd hid (Nat.ne_of_lt hlt)
      have hown : (newEvent id createdAt event).banId = ban.id := hreports.banId
      rw [hnone, if_pos hown]
      refine replays_created ?_ hreports
      rw [hrow]
      rfl
  · intro e he
    rw [hevents, List.mem_append, List.mem_singleton] at he
    rw [hbans]
    rcases he with he | rfl
    · obtain ⟨b, hb, hbid⟩ := h.known e he
      exact ⟨b, List.mem_append_left _ hb, hbid⟩
    · exact ⟨row, by simp, hreports.banId.symm⟩
  · intro ban hban
    rw [hbans, List.mem_append, List.mem_singleton] at hban
    rcases hban with hban | rfl
    · exact h.normal ban hban
    · rw [hrow]
      exact normalizeScopes_idem hscopes

/-- A change of a ban that is as it was read continues its log. -/
theorem LogsReplay.change (h : LogsReplay db) {kind : UserBanEventType}
    {ban row : UserBanRow} {previous : List UserBanScope} {patch : BanPatch}
    (hdone : Changed kind ban previous patch db row db') (hfound : Unchanged db ban)
    (hactive : ban.status = .active) (hprevious : normalizeScopes ban.scopes = .ok previous)
    (hscopes : ∀ scopes ∈ patch.scopes, normalizeScopes scopes = .ok scopes)
    (hkind : kind = .revoked ↔ (patch.status.getD .active) = .revoked) :
    LogsReplay db' := by
  obtain ⟨b, hb, hbid, hrow⟩ := hdone.found
  obtain ⟨event, scopes, hnormal, hreports, hrecalls, -, hbans, id, createdAt, hevents⟩ :=
    hdone.logged
  obtain ⟨hsame, hsameScopes, hsameExpires⟩ := hfound b hb hbid
  have hbactive : b.status = .active := hsame.trans hactive
  -- the previous scopes of the event are those of the row
  have hbscopes : scopes = b.scopes := by
    have hb' := h.normal b hb
    rw [hsameScopes, hprevious] at hb'
    cases hb'
    rw [normalizeScopes_idem hprevious] at hnormal
    cases hnormal
    exact hsameScopes.symm
  have hrecalls' : Recalls event b b.scopes := by
    rw [hbscopes] at hrecalls
    exact ⟨hrecalls.previousStatus.trans (congrArg some hsame.symm),
      hrecalls.previousScopes,
      hrecalls.previousExpiresAt.trans hsameExpires.symm⟩
  have hkind' : kind = .revoked ↔ row.status = .revoked := by
    rw [hkind, hrow]
    change _ ↔ patch.status.getD b.status = .revoked
    rw [hbactive]
  have hrowid : row.id = ban.id := by
    rw [hrow]
    exact hbid
  have hrows : ∀ x ∈ db'.bans.rows, x ∈ db.bans.rows ∧ x.id ≠ ban.id ∨ x = row := by
    intro x hx
    rw [hbans] at hx
    obtain ⟨x₀, hx₀, rfl⟩ := List.mem_map.mp hx
    by_cases heq : x₀.id = ban.id
    · have hx₀b : x₀ = b := db.bans.eq_of_ident hx₀ hb (heq.trans hbid.symm)
      rw [if_pos heq, hx₀b]
      exact Or.inr hrow.symm
    · rw [if_neg heq]
      exact Or.inl ⟨hx₀, heq⟩
  refine ⟨?_, ?_, ?_⟩
  · intro x hx
    rw [eventsOf_append hevents]
    rcases hrows x hx with ⟨hx, hne⟩ | rfl
    · have hother : (newEvent id createdAt event).banId ≠ x.id := by
        change event.banId ≠ x.id
        rw [hreports.banId, hrowid]
        exact fun h => hne h.symm
      rw [if_neg hother, List.append_nil]
      exact h.replays x hx
    · have hown : (newEvent id createdAt event).banId = x.id := hreports.banId
      rw [if_pos hown, hrowid, ← hbid]
      exact (h.replays b hb).append hbactive hrecalls' hreports hkind'
  · intro e he
    rw [hevents, List.mem_append, List.mem_singleton] at he
    have hkept : ∀ x ∈ db.bans.rows, ∃ x' ∈ db'.bans.rows, x'.id = x.id := by
      intro x hx
      refine ⟨if x.id = ban.id then patchBan patch x else x, ?_, ?_⟩
      · rw [hbans]
        exact List.mem_map_of_mem (f := fun b => if b.id = ban.id then patchBan patch b else b) hx
      · split <;> rfl
    rcases he with he | rfl
    · obtain ⟨x, hx, hid⟩ := h.known e he
      obtain ⟨x', hx', hid'⟩ := hkept x hx
      exact ⟨x', hx', hid'.trans hid⟩
    · obtain ⟨x', hx', hid'⟩ := hkept b hb
      refine ⟨x', hx', hid'.trans ?_⟩
      change b.id = event.banId
      rw [hreports.banId, hrowid, hbid]
  · intro x hx
    rcases hrows x hx with ⟨hx, -⟩ | rfl
    · exact h.normal x hx
    · rw [hrow]
      change normalizeScopes (patch.scopes.getD b.scopes) = .ok (patch.scopes.getD b.scopes)
      cases hpatch : patch.scopes with
      | none => exact h.normal b hb
      | some given => exact hscopes given hpatch

/-- **One step** of a call that has checked what it does, with the ban as the
call has read it. -/
theorem LogsReplay.exec (h : LogsReplay db) {st : BanServiceStmt} (hchecked : Checked st)
    (hfound : FoundAsRead db st) : LogsReplay (st.exec db).2 := by
  cases st with
  | sql i =>
      obtain ⟨hbans, hevents⟩ := exec_reads hchecked db
      exact h.of_tables hbans hevents
  | txn t =>
      change LogsReplay (t.commit db).2
      rcases commit_cases t db with ⟨e, heq⟩ | ⟨row, db', heq, hdone⟩
      · rw [heq]
        exact h
      rw [heq]
      cases t with
      | create actor input => exact h.create hdone
      | update actor ban previous input =>
          obtain ⟨hactive, hprevious, hscopes⟩ := hchecked
          refine h.change hdone hfound hactive hprevious hscopes ?_
          constructor <;> (intro h; cases h)
      | revoke actor ban previous note revokedAt =>
          obtain ⟨hactive, hprevious⟩ := hchecked
          refine h.change hdone hfound hactive hprevious (fun _ h => by cases h) ?_
          exact ⟨fun _ => rfl, fun _ => rfl⟩

end Step

/-! ## What the calls do -/

theorem within_reads {i : BanStmt} (hi : i.reads = true) :
    (query i).Within Checked := ⟨hi, fun _ => trivial⟩

theorem within_required {α : Type} {e : AsterError} {found : Option α} :
    (required e found : BanProg α).Within Checked := by
  cases found <;> trivial

theorem within_transaction {t : BanTxn} (ht : Checked (.txn t)) :
    (withTransaction t).Within Checked :=
  Within.stmt_bind ht fun _ => .ofExcept

theorem within_userBan (banId : Nat) : (userBan banId).Within Checked := by
  refine Within.rejectIf.bind fun _ => (within_reads rfl).bind fun _ => within_required

theorem within_rejectDuplicate (userId : Nat) (scopes : List UserBanScope)
    (excluded : Option Nat) :
    (rejectDuplicateEffectiveScopes userId scopes excluded).Within Checked := by
  refine Within.forEach (fun scope => ?_) scopes
  exact (within_reads rfl).bind fun _ => (within_reads rfl).bind fun _ => .rejectIf

/-- An effective ban is active. -/
theorem active_of_isEffective {ban : UserBanRow} {now : Nat}
    (h : (!ban.isEffective now) = false) : ban.status = .active := by
  simp only [Bool.not_eq_false', UserBanRow.isEffective, Bool.and_eq_true,
    decide_eq_true_eq] at h
  exact h.1.1.1

/-- The scopes an update writes are in normal form. -/
theorem changes_scopes {input : UpdateUserBanInput} {ban : UserBanRow}
    {previous : List UserBanScope} {next : NextValues} {changes : UpdateUserBan}
    (h : input.changes ban previous next = .ok changes) :
    ∀ scopes ∈ changes.scopes, normalizeScopes scopes = .ok scopes := by
  obtain ⟨_, -, h⟩ := except_bind_ok h
  obtain ⟨_, -, h⟩ := except_bind_ok h
  obtain ⟨_, -, h⟩ := except_bind_ok h
  obtain ⟨value, hvalue, h⟩ := except_bind_ok h
  cases h
  intro scopes hscopes
  simp only at hscopes
  split at hscopes
  · cases hscopes
    exact normalizeScopes_idem hvalue
  · cases hscopes

theorem within_createUserBan (actor : Nat) (input : CreateUserBanInput) :
    (createUserBan actor input).Within Checked := by
  refine (within_reads rfl).bind fun _ => within_required.bind fun _ => ?_
  refine (within_reads rfl).bind fun now => Within.ofExcept.bind fun ban => ?_
  refine (within_rejectDuplicate _ _ _).bind fun _ => ?_
  exact within_transaction trivial

theorem within_updateUserBan (actor banId : Nat) (input : UpdateUserBanInput) :
    (updateUserBan actor banId input).Within Checked := by
  refine (within_userBan banId).bind fun ban => (within_reads rfl).bind fun now => ?_
  refine Within.rejectIf_bind fun heffective => ?_
  refine Within.ofExcept_bind fun previous hprevious => ?_
  refine Within.ofExcept_bind fun next hnext => ?_
  extract_lets rest
  have hrest : ∀ u, (rest u).Within Checked := by
    intro u
    refine Within.ofExcept_bind fun changes hchanges => within_transaction ?_
    exact ⟨active_of_isEffective heffective, hprevious, changes_scopes hchanges⟩
  split
  · exact (within_rejectDuplicate _ _ _).bind hrest
  · exact hrest ()

theorem within_revokeUserBan (actor banId : Nat) (note : Option String) :
    (revokeUserBan actor banId note).Within Checked := by
  refine (within_userBan banId).bind fun ban => (within_reads rfl).bind fun now => ?_
  refine Within.rejectIf_bind fun heffective => ?_
  refine Within.ofExcept.bind fun note' => Within.ofExcept_bind fun previous hprevious => ?_
  refine (within_reads rfl).bind fun revokedAt => within_transaction ?_
  exact ⟨active_of_isEffective heffective, hprevious⟩

theorem within_body (call : BanCall) : call.body.Within Checked := by
  cases call with
  | create actor input => exact (within_createUserBan actor input).bind fun _ => trivial
  | update actor banId input =>
      exact (within_updateUserBan actor banId input).bind fun _ => trivial
  | revoke actor banId note =>
      exact (within_revokeUserBan actor banId note).bind fun _ => trivial
  | tick ms => exact (within_reads rfl).bind fun _ => trivial

/-! ## Runs -/

/-- The logs replay, and every statement is one its call has checked. -/
def logDiscipline : Discipline banMachine where
  inv := LogsReplay
  rely _ _ := True
  own _ st db := FoundAsRead db st
  guar _ st _ := Checked st
  refl _ := trivial
  trans _ _ _ _ _ := trivial
  step _ _ _ hinv hown hguar := ⟨hinv.exec hguar hown, trivial⟩

/-- The calls on bans that run concurrently. -/
abbrev BanPool := Config banMachine AsterError BanCall (Option UserBanRow)

/-- The pool after a schedule of calls, from a database without bans. -/
def banRun (db : BanDb) (sched : List (Action BanCall)) : BanPool :=
  (initial db).runs BanCall.body sched

/-- **The event log replays to the ban** in every run in which each transaction
that changes a ban finds it as its call has read it. -/
theorem ban_log_replays {db : BanDb} (hbans : db.bans.rows = [])
    (hevents : db.events.rows = []) {sched : List (Action BanCall)}
    (hadm : Admissible BanCall.body (fun c _ st => FoundAsRead c.shared st)
      (initial db : BanPool) sched) :
    ∀ ban ∈ (banRun db sched).shared.bans.rows,
      Replays ban ((banRun db sched).shared.eventsOf ban.id) := by
  have hstart : LogsReplay db := by
    refine ⟨?_, ?_, ?_⟩
    · rw [hbans]
      exact fun _ h => by cases h
    · rw [hevents]
      exact fun _ h => by cases h
    · rw [hbans]
      exact fun _ h => by cases h
  have hgood : Good logDiscipline (fun _ _ _ _ _ => True) (banRun db sched) := by
    refine good_runs (D := logDiscipline) (fun _ _ _ hfound _ => hfound) ?_
      (good_initial hstart) hadm
    intro _ call s _
    exact Ensures.of_within (fun _ _ _ h _ _ => h) (within_body call) [] s
  exact hgood.inv.replays

/-- Alice is banned from uploading until 200. -/
def banAlice : List (Action BanCall) :=
  .spawn (.create 1 ⟨2, [.textureUpload], "spam", none, none, none, some 200⟩) ::
    List.replicate 5 (.run 0)

/-- An extension of the ban to 300. -/
def extend : BanCall := .update 1 1 ⟨none, none, none, none, none, some (.value 300)⟩

/-- The ban is extended and then revoked. -/
def oneByOne : List (Action BanCall) :=
  banAlice ++ .spawn extend :: List.replicate 3 (.run 1) ++
    .spawn (.revoke 1 1 none) :: List.replicate 4 (.run 2)

/-- The revoked ban of that run. -/
def revokedBan : UserBanRow where
  id := 1
  userId := 2
  scopes := [.textureUpload]
  status := .revoked
  startsAt := 100
  expiresAt := some 300
  createdAt := 100
  reason := "spam"
  publicReason := none
  adminNote := none
  createdByUserId := some 1
  revokedAt := some 100
  revokedByUserId := some 1
  revokeNote := none
  updatedAt := 100

/-- An extension and a revocation, one after the other, are on the log. -/
theorem extended_then_revoked :
    Replays revokedBan ((banRun twoUsers oneByOne).shared.eventsOf 1) :=
  ban_log_replays rfl rfl (by decide +kernel) revokedBan (by decide +kernel)

/-- The extension reads the ban, the revocation runs to its end, and the
extension goes on. -/
def overlapping : List (Action BanCall) :=
  banAlice ++ [.spawn extend, .spawn (.revoke 1 1 none), .run 1, .run 1] ++
    List.replicate 4 (.run 2) ++ [.run 1]

/-- **Two overlapping calls**: the log ends with the extension of a ban that is
revoked, and says of it that it was active. -/
theorem overlapping_calls_break_log :
    ¬ ∀ ban ∈ (banRun twoUsers overlapping).shared.bans.rows,
      Replays ban ((banRun twoUsers overlapping).shared.eventsOf ban.id) := by
  intro h
  have hban : ∃ ban ∈ (banRun twoUsers overlapping).shared.bans.rows, ban.id = 1 := by
    decide +kernel
  have hbroken : ¬ ((banRun twoUsers overlapping).shared.eventsOf 1).IsChain Continues := by
    decide +kernel
  obtain ⟨ban, hmem, hid⟩ := hban
  have hchained := (h ban hmem).chained
  rw [hid] at hchained
  exact hbroken hchained

end AsterYggdrasil.Bans
