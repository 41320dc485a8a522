import AsterYggdrasil.Ban.EventLog
import AsterYggdrasil.Ban.Info

/-!
# Lifting a ban

`revoke_user_ban` asks whether the ban is effective at the moment of the call.
For a ban that has started this is the right question: if it is effective now
or at any later time, then it is effective now, so it can be lifted, and after
that it is effective at no time.  A ban that is scheduled for later is not
effective yet, and the call refuses to lift it.

`started_bans_lifted` says both for every state that calls on bans can reach,
one after the other or in any interleaving; `scheduled_ban_not_lifted` is a
run of one call that leaves a ban nobody can lift before it starts.
-/

namespace AsterYggdrasil.Bans

open Interleave Relational
open Interleave.Prog Interleave.Config

/-! ## What holds of every stored ban -/

/-- Bans have positive ids and scopes in normal form. -/
structure WellFormed (db : BanDb) : Prop where
  seq : 0 < db.bans.seq
  positive : ∀ ban ∈ db.bans.rows, 0 < ban.id
  normal : ∀ ban ∈ db.bans.rows, normalizeScopes ban.scopes = .ok ban.scopes

/-- A table that has a row with a positive id has a positive sequence. -/
theorem seq_pos {db : BanDb} {ban : UserBanRow} (hban : ban ∈ db.bans.rows)
    (hid : 0 < ban.id) : 0 < db.bans.seq := by
  have hfresh : ban.id < db.bans.seq := db.bans.fresh ban hban
  omega

theorem WellFormed.create {db db' : BanDb} (h : WellFormed db) {input : CreateUserBan}
    {row : UserBanRow} (hdone : Created input db row db') : WellFormed db' := by
  obtain ⟨scopes, hscopes, hrow⟩ := hdone.scopes
  obtain ⟨event, -, hlogged⟩ := hdone.logged
  have hid : row.id = db.bans.seq := by
    rw [hrow]
    rfl
  have hpos : 0 < row.id := by
    have := h.seq
    omega
  have hmem : row ∈ db'.bans.rows := by
    rw [hlogged.bans]
    exact List.mem_append_right _ (List.mem_singleton_self row)
  refine ⟨seq_pos hmem hpos, ?_, ?_⟩
  · intro ban hban
    rw [hlogged.bans, List.mem_append, List.mem_singleton] at hban
    rcases hban with hold | rfl
    · exact h.positive ban hold
    · exact hpos
  · intro ban hban
    rw [hlogged.bans, List.mem_append, List.mem_singleton] at hban
    rcases hban with hold | rfl
    · exact h.normal ban hold
    · rw [hrow]
      exact normalizeScopes_idem hscopes

theorem WellFormed.change {db db' : BanDb} (h : WellFormed db) {kind : UserBanEventType}
    {ban row : UserBanRow} {previous : List UserBanScope} {patch : BanPatch}
    (hdone : Changed kind ban previous patch db row db')
    (hscopes : ∀ scopes ∈ patch.scopes, normalizeScopes scopes = .ok scopes) :
    WellFormed db' := by
  obtain ⟨b, hb, hbid, -⟩ := hdone.found
  obtain ⟨event, _, -, -, -, hlogged⟩ := hdone.logged
  have hrows : ∀ x ∈ db'.bans.rows, ∃ y ∈ db.bans.rows, x.id = y.id ∧
      (x.scopes = y.scopes ∨ some x.scopes = patch.scopes) := by
    intro x hx
    rw [hlogged.bans] at hx
    obtain ⟨y, hy, rfl⟩ := List.mem_map.mp hx
    refine ⟨y, hy, ?_⟩
    by_cases heq : y.id = ban.id
    · rw [if_pos heq]
      refine ⟨rfl, ?_⟩
      cases hpatch : patch.scopes with
      | none => exact Or.inl (by simp [patchBan, hpatch])
      | some scopes => exact Or.inr (by simp [patchBan, hpatch])
    · rw [if_neg heq]
      exact ⟨rfl, Or.inl rfl⟩
  have hpositive : ∀ x ∈ db'.bans.rows, 0 < x.id := by
    intro x hx
    obtain ⟨y, hy, hid, -⟩ := hrows x hx
    rw [hid]
    exact h.positive y hy
  refine ⟨?_, hpositive, ?_⟩
  · have hkept : patchBan patch b ∈ db'.bans.rows := by
      rw [hlogged.bans]
      refine List.mem_map.mpr ⟨b, hb, ?_⟩
      rw [if_pos hbid]
    exact seq_pos hkept (hpositive _ hkept)
  · intro x hx
    obtain ⟨y, hy, -, hsame | hgiven⟩ := hrows x hx
    · rw [hsame]
      exact h.normal y hy
    · exact hscopes x.scopes hgiven.symm

/-- One step of a call that has checked what it does. -/
theorem WellFormed.exec {db : BanDb} (h : WellFormed db) {st : BanServiceStmt}
    (hchecked : Checked st) : WellFormed (st.exec db).2 := by
  cases st with
  | sql i =>
      obtain ⟨hbans, -⟩ := exec_reads hchecked db
      change WellFormed (i.exec db).2
      obtain ⟨hseq, hpositive, hnormal⟩ := h
      rw [← hbans] at hseq hpositive hnormal
      exact ⟨hseq, hpositive, hnormal⟩
  | txn t =>
      change WellFormed (t.commit db).2
      rcases commit_cases t db with ⟨e, heq⟩ | ⟨row, db', heq, hdone⟩
      · rw [heq]
        exact h
      · rw [heq]
        cases t with
        | create actor input => exact h.create hdone
        | update actor ban previous input => exact h.change hdone hchecked.2.2
        | revoke actor ban previous note revokedAt =>
            exact h.change hdone fun _ hgiven => by cases hgiven

/-- Stored bans are well formed, whatever the interleaving. -/
def formDiscipline : Discipline banMachine where
  inv := WellFormed
  rely _ _ := True
  own _ _ _ := True
  guar _ st _ := Checked st
  refl _ := trivial
  trans _ _ _ _ _ := trivial
  step _ _ _ hinv _ hguar := ⟨hinv.exec hguar, trivial⟩

theorem wellFormed_run {db : BanDb} (hbans : db.bans = .empty)
    (sched : List (Action BanCall)) : WellFormed (banRun db sched).shared := by
  have hstart : WellFormed db := by
    refine ⟨?_, ?_, ?_⟩ <;> rw [hbans]
    · decide
    · exact fun _ h => by cases h
    · exact fun _ h => by cases h
  have hgood : Good formDiscipline (fun _ _ _ _ _ => True) (banRun db sched) := by
    refine good_runs (D := formDiscipline) (G := fun _ _ _ => True)
      (fun _ _ _ _ _ => trivial) ?_ (good_initial hstart)
      (admissible_of_forall (fun _ _ _ => trivial) _ _)
    intro _ call s _
    exact Ensures.of_within (fun _ _ _ h _ _ => h) (within_body call) [] s
  exact hgood.inv

/-! ## One revocation -/

/-- A row with the next id goes into a table in which only rows with one id
clash. -/
theorem insert?_nextId {α : Type} {σ : Schema α} (t : Table σ) {r : α}
    (hid : σ.ident r = t.seq)
    (hclash : ∀ a, σ.clash a r = true → σ.ident a = σ.ident r) :
    ∃ t', t.nextId.2.insert? r = some t' := by
  have hfree : ∀ a ∈ t.rows, σ.clash a r = false := by
    intro a ha
    by_contra hne
    have hident := hclash a (by simpa using hne)
    have hfresh := t.fresh a ha
    omega
  have hnew : σ.ident r < t.nextId.2.seq := by
    change σ.ident r < t.seq + 1
    omega
  exact Table.exists_insert? hfree hnew

theorem patchBan_clash (patch : BanPatch) (a b : UserBanRow) :
    banRowSchema.clash (patchBan patch a) b = banRowSchema.clash a b := rfl

/-- The database after an `UPDATE` of one ban. -/
def BanDb.patched (db : BanDb) (id : Nat) (patch : BanPatch) : BanDb :=
  { db with
    bans := db.bans.modify (fun b => b.id = id) (patchBan patch)
      (patchBan_id patch) (patchBan_clash patch) }

theorem exec_banUpdate {db : BanDb} {id : Nat} {patch : BanPatch} {b : UserBanRow}
    (hkey : db.hasUser patch.revokedByUserId.join = true)
    (hfind : (db.bans.find? fun b => b.id = id) = some b) :
    (BanStmt.banUpdate id patch).exec db = (some (patchBan patch b), db.patched id patch) := by
  simp only [BanStmt.exec]
  rw [if_pos hkey, hfind]
  rfl

/-- An event whose foreign keys are there is written. -/
theorem succeeds_createEvent {db : BanDb} {event : CreateUserBanEvent}
    (hban : (db.bans.find? fun b => b.id = event.banId).isSome = true)
    (hactor : db.hasUser event.actorUserId = true) :
    (createEvent event).Succeeds banDbMachine (fun _ _ => True) db := by
  obtain ⟨events, hins⟩ := insert?_nextId db.events
    (r := newEvent db.events.seq db.now event) rfl
    (fun a h => by simpa [eventSchema] using h)
  have hins' : db.events.nextId.2.insert? (newEvent db.events.nextId.1 db.now event) =
      some events := hins
  have hkeys : ((db.bans.find? fun b => b.id = event.banId).isSome &&
      db.hasUser event.actorUserId) = true := by
    rw [hban, hactor]
    rfl
  have hexec : ((BanStmt.eventInsert event db.now).exec db).1 =
      some (newEvent db.events.nextId.1 db.now event) := by
    simp only [BanStmt.exec]
    rw [if_pos hkeys, hins']
  refine Succeeds.stmt_bind (Succeeds.stmt_bind ?_)
  change (required .databaseOperation ((BanStmt.eventInsert event db.now).exec db).1 :
    BanDbProg _).Succeeds _ _ _
  rw [hexec]
  exact succeeds_ok trivial

/-- A stored ban can be revoked by a user that exists. -/
theorem succeeds_revokeTxn {actor : Nat} {ban : UserBanRow} {previous : List UserBanScope}
    {note : Option String} {revokedAt : Nat} {db : BanDb} (hban : ban ∈ db.bans.rows)
    (hactor : db.hasUser (some actor) = true)
    (hprevious : normalizeScopes previous = .ok previous) :
    (revokeTxn actor ban previous note revokedAt).Succeeds banDbMachine
      (fun _ _ => True) db := by
  have hfind : ∃ b, (db.bans.find? fun b => b.id = ban.id) = some b := by
    refine Option.isSome_iff_exists.mp ?_
    exact List.find?_isSome.mpr ⟨ban, hban, by simp⟩
  obtain ⟨b, hb⟩ := hfind
  obtain ⟨hmem, hid⟩ := Table.of_find? hb
  have hbid : b.id = ban.id := of_decide_eq_true hid
  let patch := revokePatch (some actor) note revokedAt db.now
  have hwrite : (BanStmt.banUpdate ban.id patch).exec db =
      (some (patchBan patch b), db.patched ban.id patch) := exec_banUpdate hactor hb
  have hrun : (banRevoke ban (some actor) note revokedAt).run banDbMachine db =
      (.ok (patchBan patch b), db.patched ban.id patch) := by
    change ((required .databaseOperation ((BanStmt.banUpdate ban.id patch).exec db).1).run
      banDbMachine ((BanStmt.banUpdate ban.id patch).exec db).2) = _
    rw [hwrite]
    rfl
  refine wp_bind_of_run hrun ?_
  change (Prog.bind (Prog.ofExcept (normalizeScopes previous)) _).Wp _ _ _
  rw [hprevious]
  -- the event of the row that has been written
  have hknown : ((db.patched ban.id patch).bans.find? fun x =>
      x.id = (patchBan patch b).id).isSome = true := by
    refine List.find?_isSome.mpr ⟨patchBan patch b, ?_, by simp⟩
    refine List.mem_map.mpr ⟨b, hmem, ?_⟩
    rw [if_pos hid]
  change (Prog.bind (createEvent _) _).Succeeds _ _ _
  exact Succeeds.bind (succeeds_createEvent hknown hactor) fun _ _ _ => succeeds_ok trivial

/-- A transaction whose body succeeds commits. -/
theorem succeeds_withTransaction {t : BanTxn} {db : BanDb}
    {K K' : UserBanRow → BanDb → Prop} (hbody : t.body.Succeeds banDbMachine K' db)
    (hdone : ∀ row db', t.Done db row db' → K row db') :
    (withTransaction t).Succeeds banMachine K db := by
  obtain ⟨written, hrun, -⟩ := hbody
  refine Succeeds.stmt_bind (S := banSignature) ?_
  change (Prog.ofExcept (t.commit db).1).Succeeds banMachine K (t.commit db).2
  rcases commit_cases t db with ⟨e, heq⟩ | ⟨row, db', heq, hd⟩
  · have hok : (t.commit db).1 = .ok written := by
      unfold BanTxn.commit
      cases hres : t.body.run banDbMachine db with
      | mk r db' =>
          rw [hres] at hrun
          cases hrun
          rfl
    rw [heq] at hok
    cases hok
  · rw [heq]
    exact succeeds_ok (hdone row db' hd)

section Revoke

variable {db : BanDb} {ban : UserBanRow} {actor : Nat} {note : Option String}

/-- The row `user_ban` reads for a stored ban is that ban. -/
theorem run_userBan (h : WellFormed db) (hban : ban ∈ db.bans.rows) :
    (userBan ban.id).run banMachine db = (.ok ban, db) := by
  have hpos := h.positive ban hban
  have hid : decide (ban.id = 0) = false := by
    simp only [decide_eq_false_iff_not]
    omega
  have hfind : (db.bans.find? fun b => b.id = ban.id) = some ban := by
    cases hfound : db.bans.find? fun b => b.id = ban.id with
    | none =>
        have hmiss := Table.find?_eq_none.mp hfound ban hban
        simp at hmiss
    | some b =>
        obtain ⟨hb, hid⟩ := Table.of_find? hfound
        rw [db.bans.eq_of_ident hb hban (of_decide_eq_true hid)]
  unfold userBan
  simp only [hid]
  change (required _ (db.bans.find? fun b => b.id = ban.id) : BanProg _).run _ _ = _
  rw [hfind]
  rfl

/-- A ban that is effective now is lifted. -/
theorem succeeds_revokeUserBan (h : WellFormed db) (hban : ban ∈ db.bans.rows)
    (heffective : ban.isEffective db.now = true)
    (hactor : db.hasUser (some actor) = true) {note' : Option String}
    (hnote : normalizeOptionalText note noteMaxChars .userBanReasonInvalid
      "ban revoke note" = .ok note') :
    (revokeUserBan actor ban.id note).Succeeds banMachine (fun row db' =>
      row ∈ db'.bans.rows ∧ row.id = ban.id ∧ row.status = .revoked) db := by
  have hnormal := h.normal ban hban
  refine wp_bind_of_run (run_userBan h hban) (wp_stmt_bind.mpr ?_)
  change (Prog.bind (Prog.rejectIf (!ban.isEffective db.now) _) _).Wp _ _ _
  rw [heffective]
  change (Prog.bind (Prog.ofExcept (normalizeOptionalText note noteMaxChars _ _)) _).Wp _ _ _
  rw [hnote]
  change (Prog.bind (Prog.ofExcept (normalizeScopes ban.scopes)) _).Wp _ _ _
  rw [hnormal]
  refine wp_stmt_bind.mpr ?_
  have hbody : (BanTxn.revoke actor ban ban.scopes note' db.now).body.Succeeds banDbMachine
      (fun _ _ => True) db := succeeds_revokeTxn hban hactor hnormal
  refine succeeds_withTransaction hbody fun row db' hdone => ?_
  obtain ⟨b, hb, hid, hrow⟩ := hdone.found
  obtain ⟨event, _, -, -, -, hlogged⟩ := hdone.logged
  refine ⟨?_, ?_, ?_⟩
  · rw [hlogged.bans, hrow]
    refine List.mem_map.mpr ⟨b, hb, ?_⟩
    rw [if_pos hid]
  · rw [hrow]
    exact hid
  · rw [hrow]
    rfl

/-- A ban that is not effective now is not lifted. -/
theorem run_revokeUserBan_refused (h : WellFormed db) (hban : ban ∈ db.bans.rows)
    (heffective : ban.isEffective db.now = false) :
    (revokeUserBan actor ban.id note).run banMachine db =
      (.error (.validation (some .userBanNotActive) "only active user bans can be revoked"),
        db) := by
  have hread := run_userBan h hban
  unfold revokeUserBan
  simp only [bind_eq]
  rw [run_bind, hread]
  change (Prog.bind (Prog.rejectIf (!ban.isEffective db.now) _) _).run _ _ = _
  rw [heffective]
  rfl

end Revoke

/-! ## Every run -/

/-- **A started ban can be lifted, a scheduled one not yet.**  In every state
that the calls reach, a ban that has started and is effective now or later is
revoked by a call with an actor that exists and an admissible note, and then
it is effective at no time; before a ban starts the call is refused and changes
nothing.  A started ban is reported as expired only if it is effective at no
time from then on. -/
theorem started_bans_lifted {db : BanDb} (hbans : db.bans = .empty)
    (sched : List (Action BanCall)) :
    let db' := (banRun db sched).shared
    ∀ ban ∈ db'.bans.rows,
      (∀ actor note, db'.hasUser (some actor) = true →
        (normalizeOptionalText note noteMaxChars .userBanReasonInvalid
          "ban revoke note").isOk = true →
        (ban.status ≠ .revoked → ban.startsAt ≤ db'.now →
          (∃ t, db'.now ≤ t ∧ ban.isEffective t = true) →
          (revokeUserBan actor ban.id note).Succeeds banMachine (fun row db'' =>
            row ∈ db''.bans.rows ∧ row.id = ban.id ∧
              ∀ t, row.isEffective t = false) db') ∧
        (db'.now < ban.startsAt →
          (revokeUserBan actor ban.id note).run banMachine db' =
            (.error (.validation (some .userBanNotActive)
              "only active user bans can be revoked"), db'))) ∧
      ∀ now, ban.startsAt ≤ now → (banInfoAt ban now).effectiveStatus = .expired →
        ∀ t, now ≤ t → ban.isEffective t = false := by
  intro db' ban hban
  have hform : WellFormed db' := wellFormed_run hbans sched
  refine ⟨fun actor note hactor hnote => ⟨?_, ?_⟩, fun now => expired_is_final⟩
  · rintro - hstart ⟨t, ht, heffective⟩
    have hnow := isEffective_of_later hstart ht heffective
    cases hvalue : normalizeOptionalText note noteMaxChars .userBanReasonInvalid
        "ban revoke note" with
    | error e =>
        rw [hvalue] at hnote
        cases hnote
    | ok note' =>
        have hlifted := succeeds_revokeUserBan hform hban hnow hactor hvalue
        refine hlifted.mono fun row db'' hrow => ⟨hrow.1, hrow.2.1, fun t => ?_⟩
        by_contra hne
        have hactive := (isEffective_iff.mp (by simpa using hne)).1
        rw [hrow.2.2] at hactive
        cases hactive
  · intro hearly
    refine run_revokeUserBan_refused hform hban ?_
    by_contra hne
    obtain ⟨-, -, hstart, -⟩ := isEffective_iff.mp (by simpa using hne)
    omega

/-- A ban of alice that starts at 200. -/
def scheduleBan : List (Action BanCall) :=
  .spawn (.create 1 ⟨2, [.textureUpload], "spam", none, none, some 200, none⟩) ::
    List.replicate 5 (.run 0)

/-- The same, and then it is 250. -/
def scheduledBanStarts : List (Action BanCall) :=
  scheduleBan ++ [.spawn (.tick 150), .run 1]

/-- The ban that has started is effective, and the administrator lifts it. -/
theorem started_ban_lifted :
    ∃ ban ∈ (banRun twoUsers scheduledBanStarts).shared.bans.rows,
      (revokeUserBan 1 ban.id none).Succeeds banMachine
        (fun row db' => row ∈ db'.bans.rows ∧ row.id = ban.id ∧
          ∀ t, row.isEffective t = false) (banRun twoUsers scheduledBanStarts).shared := by
  have hban : ∃ ban ∈ (banRun twoUsers scheduledBanStarts).shared.bans.rows,
      ban.status ≠ .revoked ∧
      ban.isEffective (banRun twoUsers scheduledBanStarts).shared.now = true := by
    decide +kernel
  have hactor : (banRun twoUsers scheduledBanStarts).shared.hasUser (some 1) = true := by
    decide +kernel
  obtain ⟨ban, hmem, hstatus, heffective⟩ := hban
  have hstart := (isEffective_iff.mp heffective).2.2.1
  have hlifted := started_bans_lifted rfl scheduledBanStarts ban hmem
  exact ⟨ban, hmem, (hlifted.1 1 none hactor rfl).1 hstatus hstart
    ⟨_, Nat.le_refl _, heffective⟩⟩

/-- **A scheduled ban cannot be lifted**: at 100 it is stored and will be
effective at 300, the call is refused, and the ban is reported as expired. -/
theorem scheduled_ban_not_lifted :
    (¬ ∀ ban ∈ (banRun twoUsers scheduleBan).shared.bans.rows, ban.status ≠ .revoked →
      (∃ t, (banRun twoUsers scheduleBan).shared.now ≤ t ∧ ban.isEffective t = true) →
      (revokeUserBan 1 ban.id none).Succeeds banMachine
        (fun row db' => row ∈ db'.bans.rows ∧ row.id = ban.id ∧
          ∀ t, row.isEffective t = false) (banRun twoUsers scheduleBan).shared) ∧
    ∃ ban ∈ (banRun twoUsers scheduleBan).shared.bans.rows, ban.isEffective 300 = true ∧
      (banInfoAt ban (banRun twoUsers scheduleBan).shared.now).effectiveStatus = .expired := by
  have hclock : (banRun twoUsers scheduleBan).shared.now = 100 := by decide +kernel
  have hban : ∃ ban ∈ (banRun twoUsers scheduleBan).shared.bans.rows,
      ban.status = .active ∧ ban.isEffective 300 = true ∧
      ban.isEffective (banRun twoUsers scheduleBan).shared.now = false := by decide +kernel
  obtain ⟨ban, hmem, hstatus, hlater, hnow⟩ := hban
  constructor
  · intro h
    have hactive : ban.status ≠ .revoked := by simp [hstatus]
    obtain ⟨row, hrow, -⟩ := h ban hmem hactive ⟨300, by rw [hclock]; decide, hlater⟩
    rw [run_revokeUserBan_refused (wellFormed_run rfl _) hmem hnow] at hrow
    cases hrow
  · exact ⟨ban, hmem, hlater, by simp [banInfoAt, hstatus, hnow]⟩

end AsterYggdrasil.Bans
