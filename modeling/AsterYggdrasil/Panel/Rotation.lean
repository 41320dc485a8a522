import AsterYggdrasil.Interleave.Pool
import AsterYggdrasil.Panel.AuthService
import AsterYggdrasil.Yggdrasil.TokenHistory

/-!
# Refresh tokens rotate in a line

A refresh finds the session of the presented jti, looks at the account, and only
then replaces the jti with a conditional update.  `rotation_linear` shows that
this is enough for every interleaving of all requests: a jti is rotated at most
once, the current jti of a session is the last one minted for it, and a session
that was revoked accepts no jti of its line any more.

The argument is about the log of a run.  `SessionEffect` says what one statement
can do to the table; `Linear` collects what follows for the whole log, and is
carried from step to step by the one assumption that drawn ids are new.
-/

namespace AsterYggdrasil.Panel

open Interleave Relational Prog

/-! ## What a statement does to the sessions -/

/-- The jti that the statement has replaced. -/
def PanelStmt.rotated : PanelStmt → PanelState → Option String
  | .sessionRotateRefresh current next columns, s =>
      if ((PanelStmt.sessionRotateRefresh current next columns).exec s).1 = some 1 then
        some current
      else none
  | _, _ => none

/-- The session and the jti that the statement has minted for it. -/
def PanelStmt.minted : PanelStmt → PanelState → Option (Nat × String)
  | .sessionCreate input, s =>
      ((PanelStmt.sessionCreate input).exec s).1.map fun r => (r.rowId, r.currentRefreshJti)
  | .sessionRotateRefresh current next columns, s =>
      if ((PanelStmt.sessionRotateRefresh current next columns).exec s).1 = some 1 then
        (s.sessions.find? (AuthSession.isLive current)).map fun r => (r.rowId, next)
      else none
  | _, _ => none

/-- The jti that the statement brings into the table, if it succeeds. -/
def PanelStmt.fresh : PanelStmt → Option String
  | .sessionCreate input => some input.currentRefreshJti
  | .sessionRotateRefresh _ next _ => some next
  | _ => none

/-- What one statement can do to the sessions. -/
inductive SessionEffect (i : PanelStmt) (s s' : PanelState) : Prop
  | shrink (seq : s.sessions.seq ≤ s'.sessions.seq)
      (rows : ∀ r ∈ s'.sessions.rows, r ∈ s.sessions.rows)
      (minted : i.minted s = none) (rotated : i.rotated s = none)
      (revokes : i.revokes = none)
  | insert (row : AuthSession) (id : row.rowId = s.sessions.seq)
      (seq : s'.sessions.seq = s.sessions.seq + 1)
      (rows : s'.sessions.rows = s.sessions.rows ++ [row])
      (fresh : i.fresh = some row.currentRefreshJti)
      (minted : i.minted s = some (row.rowId, row.currentRefreshJti))
      (rotated : i.rotated s = none) (revokes : i.revokes = none)
  | rotate (current next : String) (columns : RotateRefresh) (r : AuthSession)
      (seq : s'.sessions.seq = s.sessions.seq)
      (row : r ∈ s.sessions.rows) (live : r.isLive current = true)
      (rows : s'.sessions.rows = s.sessions.rows.map fun r =>
        if r.isLive current then r.rotate current next columns else r)
      (fresh : i.fresh = some next)
      (minted : i.minted s = some (r.rowId, next)) (rotated : i.rotated s = some current)
      (revokes : i.revokes = none)
  | revoke (p : AuthSession → Bool) (now : Nat) (revokes : i.revokes = some p)
      (seq : s'.sessions.seq = s.sessions.seq)
      (rows : s'.sessions.rows = s.sessions.rows.map fun r =>
        if p r then { r with revokedAt := some now } else r)
      (minted : i.minted s = none) (rotated : i.rotated s = none)

theorem live_clash {current : String} (a b : AuthSession)
    (ha : a.isLive current = true) (hb : b.isLive current = true) :
    sessionSchema.clash a b = true := by
  simp only [AuthSession.isLive, Bool.and_eq_true, decide_eq_true_eq] at ha hb
  simp [sessionSchema, ha.1, hb.1]

/-- A rotation hits the one live row of its jti, or nothing. -/
theorem exec_rotate (current next : String) (columns : RotateRefresh) (s : PanelState) :
    SessionEffect (.sessionRotateRefresh current next columns) s
      ((PanelStmt.sessionRotateRefresh current next columns).exec s).2 := by
  cases hupdate : s.sessions.update? (AuthSession.isLive current)
      (AuthSession.rotate current next columns) (fun _ => rfl) with
  | none =>
      refine .shrink ?_ ?_ ?_ ?_ rfl
      · simp [PanelStmt.exec, hupdate]
      · simp [PanelStmt.exec, hupdate]
      · simp [PanelStmt.minted, PanelStmt.exec, hupdate]
      · simp [PanelStmt.rotated, PanelStmt.exec, hupdate]
  | some sessions =>
      obtain ⟨hrows, hseq⟩ := Table.update?_eq_some hupdate
      cases hfind : s.sessions.find? (AuthSession.isLive current) with
      | none =>
          have hdead := Table.find?_eq_none.mp hfind
          have hcount : s.countSessions (AuthSession.isLive current) = 0 := by
            rw [PanelState.countSessions, List.length_eq_zero_iff, Table.select,
              List.filter_eq_nil_iff]
            intro r hr
            simp [hdead r hr]
          refine .shrink ?_ ?_ ?_ ?_ rfl
          · simp [PanelStmt.exec, hupdate, hseq]
          · intro r hr
            simp only [PanelStmt.exec, hupdate, hrows] at hr
            obtain ⟨r', hr', rfl⟩ := List.mem_map.mp hr
            rw [if_neg (by simp [hdead r' hr'])]
            exact hr'
          · simp [PanelStmt.minted, PanelStmt.exec, hupdate, hcount]
          · simp [PanelStmt.rotated, PanelStmt.exec, hupdate, hcount]
      | some r =>
          obtain ⟨hr, hlive⟩ := Table.of_find? hfind
          have hle := s.sessions.length_select_le_one (p := AuthSession.isLive current)
            live_clash
          have hpos : 0 < (s.sessions.select (AuthSession.isLive current)).length :=
            List.length_pos_of_mem (Table.mem_select.mpr ⟨hr, hlive⟩)
          have hcount : s.countSessions (AuthSession.isLive current) = 1 := by
            unfold PanelState.countSessions
            omega
          refine .rotate current next columns r ?_ hr hlive ?_ rfl ?_ ?_ rfl
          · simp only [PanelStmt.exec, hupdate, hseq]
          · simp only [PanelStmt.exec, hupdate, hrows]
          · simp [PanelStmt.minted, PanelStmt.exec, hupdate, hcount, hfind]
          · simp [PanelStmt.rotated, PanelStmt.exec, hupdate, hcount]

/-- A new session takes the next place, or is refused. -/
theorem exec_create (input : CreateAuthSession) (s : PanelState) :
    SessionEffect (.sessionCreate input) s ((PanelStmt.sessionCreate input).exec s).2 := by
  cases huser : s.db.users.find? (fun u => u.id = input.userId) with
  | none =>
      refine .shrink ?_ ?_ ?_ rfl rfl
      · simp [PanelStmt.exec, huser]
      · simp [PanelStmt.exec, huser]
      · simp [PanelStmt.minted, PanelStmt.exec, huser]
  | some user =>
      cases hinsert : s.sessions.nextId.2.insert?
          (newSession s.sessions.seq input) with
      | none =>
          refine .shrink ?_ ?_ ?_ rfl rfl
          · simp [PanelStmt.exec, huser, hinsert]
          · simp [PanelStmt.exec, huser, hinsert]
          · simp [PanelStmt.minted, PanelStmt.exec, huser, hinsert]
      | some sessions =>
          obtain ⟨hrows, hseq, -, -⟩ := Table.insert?_eq_some hinsert
          refine .insert (newSession s.sessions.seq input) rfl ?_ ?_ rfl ?_ rfl rfl
          · simp [PanelStmt.exec, huser, hinsert, hseq]
          · simp [PanelStmt.exec, huser, hinsert, hrows]
          · simp [PanelStmt.minted, PanelStmt.exec, huser, hinsert]

/-- Every statement has one of the effects. -/
theorem exec_sessionEffect (i : PanelStmt) (s : PanelState) :
    SessionEffect i s (i.exec s).2 := by
  cases i with
  | db i =>
      refine .shrink ?_ ?_ rfl rfl rfl
      · cases i <;> exact Nat.le_refl _
      · intro r hr
        cases i with
        | userDelete userId => exact (List.mem_filter.mp hr).1
        | _ => exact hr
  | sessionCreate input => exact exec_create input s
  | sessionRotateRefresh current next columns => exact exec_rotate current next columns s
  | sessionRevokeByIdForUser userId id now => exact .revoke _ now rfl rfl rfl rfl rfl
  | sessionRevokeByRefreshJti jti => exact .revoke _ s.db.now rfl rfl rfl rfl rfl
  | sessionRevokeAllForUserExceptId userId keep now =>
      exact .revoke _ now rfl rfl rfl rfl rfl
  | sessionRevokeAllForUser userId => exact .revoke _ s.db.now rfl rfl rfl rfl rfl
  | sessionDeleteExpired now =>
      exact .shrink (Nat.le_refl _) (fun r hr => (List.mem_filter.mp hr).1) rfl rfl rfl
  | _ => exact .shrink (Nat.le_refl _) (fun r hr => hr) rfl rfl rfl

/-! ## Rows stay what they are -/

/-- A revoked row stays revoked. -/
def StaysRevoked (r r' : AuthSession) : Prop :=
  r.revokedAt.isSome = true → r'.revokedAt.isSome = true

/-- Rows keep their place, and a revoked row stays revoked. -/
abbrev SessionsKept (s s' : PanelState) : Prop :=
  Table.Evolves StaysRevoked s.sessions s'.sessions

theorem exec_sessionsKept (i : PanelStmt) (s : PanelState) :
    SessionsKept s (i.exec s).2 := by
  have hrefl : ∀ r, StaysRevoked r r := fun _ h => h
  cases exec_sessionEffect i s with
  | shrink seq rows => exact .of_subset hrefl seq rows
  | insert row id seq rows => exact .of_append hrefl row (by omega) (Nat.le_of_eq id.symm) rows
  | rotate current next columns r seq row live rows =>
      refine .of_map seq rows fun r _ => ?_
      split
      · exact ⟨rfl, fun h => h⟩
      · exact ⟨rfl, fun h => h⟩
  | revoke p now revokes seq rows =>
      refine .of_map seq rows fun r _ => ?_
      split
      · exact ⟨rfl, fun _ => rfl⟩
      · exact ⟨rfl, fun h => h⟩

/-- The sessions, with nobody promising anything. -/
def sessionDiscipline : Discipline panelMachine where
  inv _ := True
  rely := SessionsKept
  own _ _ _ := True
  guar _ _ _ := True
  refl s := .refl (fun _ h => h) s.sessions
  trans _ _ _ := .trans fun _ _ _ hab hbc h => hbc (hab h)
  step _ i s _ _ _ := ⟨True.intro, exec_sessionsKept i s⟩

/-! ## The log of a run -/

/-- One executed statement of the panel. -/
abbrev PanelEvent := Event panelMachine

def PanelEvent.rotated (e : PanelEvent) : Option String := PanelStmt.rotated e.stmt e.pre

def PanelEvent.minted (e : PanelEvent) : Option (Nat × String) :=
  PanelStmt.minted e.stmt e.pre

def PanelEvent.fresh (e : PanelEvent) : Option String := PanelStmt.fresh e.stmt

/-- The event revoked the row. -/
def PanelEvent.Revokes (e : PanelEvent) (r : AuthSession) : Prop :=
  r ∈ e.pre.sessions.rows ∧ ∃ p, PanelStmt.revokes e.stmt = some p ∧ p r = true

/-- The jtis minted for a session, oldest first. -/
def lineage (log : List PanelEvent) (rowId : Nat) : List String :=
  log.filterMap fun e => (e.minted.filter fun m => m.1 = rowId).map Prod.snd

theorem mem_lineage {log : List PanelEvent} {rowId : Nat} {jti : String} :
    jti ∈ lineage log rowId ↔ ∃ e ∈ log, e.minted = some (rowId, jti) := by
  simp [lineage, Option.filter_eq_some_iff]

theorem lineage_append (log : List PanelEvent) (e : PanelEvent) (rowId : Nat) :
    lineage (log ++ [e]) rowId = lineage log rowId ++ lineage [e] rowId := by
  simp [lineage]

theorem lineage_singleton_some {e : PanelEvent} {m : Nat × String}
    (h : e.minted = some m) (rowId : Nat) :
    lineage [e] rowId = if m.1 = rowId then [m.2] else [] := by
  rw [lineage, List.filterMap_cons, h]
  by_cases hid : m.1 = rowId
  · simp [Option.filter, hid]
  · simp [Option.filter, hid]

theorem lineage_singleton_none {e : PanelEvent} (h : e.minted = none) (rowId : Nat) :
    lineage [e] rowId = [] := by
  simp [lineage, h]

/-- Only a drawn jti is minted. -/
theorem PanelEvent.fresh_of_minted {e : PanelEvent} {m : Nat × String}
    (h : e.minted = some m) : e.fresh = some m.2 := by
  cases exec_sessionEffect e.stmt e.pre with
  | shrink _ _ minted => simp [PanelEvent.minted, minted] at h
  | insert row _ _ _ fresh minted =>
      rw [PanelEvent.minted, minted] at h
      cases h
      exact fresh
  | rotate _ _ _ _ _ _ _ _ fresh minted =>
      rw [PanelEvent.minted, minted] at h
      cases h
      exact fresh
  | revoke _ _ _ _ _ minted => simp [PanelEvent.minted, minted] at h

/-- **What the log knows about the sessions.** -/
structure Linear (log : List PanelEvent) (s : PanelState) : Prop where
  /-- the current jti of a session is the last one minted for it -/
  current : ∀ r ∈ s.sessions.rows,
    (lineage log r.rowId).getLast? = some r.currentRefreshJti
  /-- nothing was minted for a session that does not exist yet -/
  issued : ∀ e ∈ log, ∀ m, e.minted = some m → m.1 < s.sessions.seq
  /-- no jti was drawn twice -/
  drawn : log.Pairwise fun a b => ∀ jti, a.fresh = some jti → b.fresh ≠ some jti
  /-- a jti that was rotated is an old one, and no session has it any more -/
  retired : ∀ e ∈ log, ∀ jti, e.rotated = some jti →
    (∃ m ∈ log, m.fresh = some jti) ∧ ∀ r ∈ s.sessions.rows, r.currentRefreshJti ≠ jti
  /-- no jti was rotated twice -/
  once : log.Pairwise fun a b => ∀ jti, a.rotated = some jti → b.rotated ≠ some jti
  /-- the rows an event has seen had jtis of their own line -/
  seen : ∀ e ∈ log, ∀ r ∈ e.pre.sessions.rows, r.currentRefreshJti ∈ lineage log r.rowId

theorem linear_nil {s : PanelState} (h : s.sessions.rows = []) : Linear [] s where
  current := by simp [h]
  issued := by simp
  drawn := List.Pairwise.nil
  retired := by simp
  once := List.Pairwise.nil
  seen := by simp

section Step

variable {log : List PanelEvent} {s : PanelState} {e : PanelEvent}

theorem Linear.mem_current (h : Linear log s) {r : AuthSession}
    (hr : r ∈ s.sessions.rows) : r.currentRefreshJti ∈ lineage log r.rowId :=
  List.mem_of_getLast? (h.current r hr)

/-- The current jti of a row was drawn. -/
theorem Linear.drawn_current (h : Linear log s) {r : AuthSession}
    (hr : r ∈ s.sessions.rows) : ∃ m ∈ log, m.fresh = some r.currentRefreshJti := by
  obtain ⟨m, hm, hminted⟩ := mem_lineage.mp (h.mem_current hr)
  exact ⟨m, hm, PanelEvent.fresh_of_minted hminted⟩

/-- A jti belongs to one line. -/
theorem Linear.owner (h : Linear log s) {a b : Nat} {jti : String}
    (ha : jti ∈ lineage log a) (hb : jti ∈ lineage log b) : a = b := by
  obtain ⟨e, he, hea⟩ := mem_lineage.mp ha
  obtain ⟨m, hm, hmb⟩ := mem_lineage.mp hb
  have hfe : e.fresh = some jti := PanelEvent.fresh_of_minted hea
  have hfm : m.fresh = some jti := PanelEvent.fresh_of_minted hmb
  have heq := eq_of_pairwise_ne h.drawn he hm hfe hfm
  rw [heq, hmb] at hea
  cases hea
  rfl

/-- A row that is new in the log after `e` has the jti minted by `e`. -/
theorem Linear.current_step (h : Linear log s) (hpre : e.pre = s) :
    ∀ r ∈ e.post.sessions.rows,
      (lineage (log ++ [e]) r.rowId).getLast? = some r.currentRefreshJti := by
  subst hpre
  intro r hr
  rw [lineage_append]
  cases exec_sessionEffect e.stmt e.pre with
  | shrink _ rows minted =>
      rw [lineage_singleton_none minted, List.append_nil]
      exact h.current r (rows r hr)
  | insert row id _ rows _ minted =>
      rw [lineage_singleton_some minted]
      rw [Event.post, rows] at hr
      rcases List.mem_append.mp hr with hr | hr
      · have hlt : r.rowId < e.pre.sessions.seq := e.pre.sessions.fresh r hr
        rw [if_neg (by omega), List.append_nil]
        exact h.current r hr
      · rw [List.mem_singleton.mp hr]
        simp
  | rotate current next columns r₀ _ row live rows _ minted =>
      rw [lineage_singleton_some minted]
      rw [Event.post, rows] at hr
      obtain ⟨r', hr', rfl⟩ := List.mem_map.mp hr
      by_cases hlive : r'.isLive current = true
      · have heq : r₀ = r' := e.pre.sessions.eq_of_clash row hr' (live_clash _ _ live hlive)
        rw [if_pos hlive, ← heq]
        simp [AuthSession.rotate]
      · have hne : r₀.rowId ≠ r'.rowId := by
          intro hid
          rw [e.pre.sessions.eq_of_ident row hr' hid] at live
          exact hlive live
        rw [if_neg hlive, if_neg hne, List.append_nil]
        exact h.current r' hr'
  | revoke p now _ _ rows minted =>
      rw [lineage_singleton_none minted, List.append_nil]
      rw [Event.post, rows] at hr
      obtain ⟨r', hr', rfl⟩ := List.mem_map.mp hr
      have hcurrent := h.current r' hr'
      split
      · exact hcurrent
      · exact hcurrent

/-- The jtis of the rows after `e` are those before, or the fresh one. -/
theorem current_after {r : AuthSession} (hr : r ∈ e.post.sessions.rows) :
    (∃ r' ∈ e.pre.sessions.rows, r'.currentRefreshJti = r.currentRefreshJti ∧
      e.rotated ≠ some r.currentRefreshJti) ∨ e.fresh = some r.currentRefreshJti := by
  cases exec_sessionEffect e.stmt e.pre with
  | shrink _ rows _ rotated =>
      exact Or.inl ⟨r, rows r hr, rfl, by simp [PanelEvent.rotated, rotated]⟩
  | insert row _ _ rows fresh _ rotated =>
      rw [Event.post, rows] at hr
      rcases List.mem_append.mp hr with hr | hr
      · exact Or.inl ⟨r, hr, rfl, by simp [PanelEvent.rotated, rotated]⟩
      · rw [List.mem_singleton.mp hr]
        exact Or.inr fresh
  | rotate current next columns r₀ _ row live rows fresh _ rotated =>
      rw [Event.post, rows] at hr
      obtain ⟨r', hr', rfl⟩ := List.mem_map.mp hr
      by_cases hlive : r'.isLive current = true
      · rw [if_pos hlive]
        exact Or.inr fresh
      · rw [if_neg hlive]
        refine Or.inl ⟨r', hr', rfl, fun hrot => ?_⟩
        -- only the live row has the rotated jti
        rw [PanelEvent.rotated, rotated, Option.some.injEq] at hrot
        have hlive₀ := live
        simp only [AuthSession.isLive, Bool.and_eq_true, decide_eq_true_eq] at hlive₀
        have hclash : sessionSchema.clash r₀ r' = true := by
          simp [sessionSchema, hlive₀.1, hrot]
        rw [e.pre.sessions.eq_of_clash row hr' hclash] at live
        exact hlive live
  | revoke p now _ _ rows _ rotated =>
      rw [Event.post, rows] at hr
      obtain ⟨r', hr', rfl⟩ := List.mem_map.mp hr
      refine Or.inl ⟨r', hr', ?_, by simp [PanelEvent.rotated, rotated]⟩
      split
      · rfl
      · rfl

/-- A rotated jti was the current one of a live session. -/
theorem live_of_rotated {jti : String} (h : e.rotated = some jti) :
    ∃ r ∈ e.pre.sessions.rows, r.isLive jti = true := by
  cases exec_sessionEffect e.stmt e.pre with
  | shrink _ _ _ rotated => simp [PanelEvent.rotated, rotated] at h
  | insert _ _ _ _ _ _ rotated => simp [PanelEvent.rotated, rotated] at h
  | rotate current next columns r _ row live _ _ _ rotated =>
      rw [PanelEvent.rotated, rotated, Option.some.injEq] at h
      exact ⟨r, row, h ▸ live⟩
  | revoke _ _ _ _ _ _ rotated => simp [PanelEvent.rotated, rotated] at h

/-- Something was minted for a row that exists now. -/
theorem minted_lt {m : Nat × String} (h : e.minted = some m) :
    m.1 < e.post.sessions.seq := by
  cases exec_sessionEffect e.stmt e.pre with
  | shrink _ _ minted => simp [PanelEvent.minted, minted] at h
  | insert row id seq _ _ minted =>
      rw [PanelEvent.minted, minted] at h
      cases h
      rw [Event.post, seq, id]
      exact Nat.lt_succ_self _
  | rotate _ _ _ r seq row _ _ _ minted =>
      rw [PanelEvent.minted, minted] at h
      cases h
      rw [Event.post, seq]
      exact e.pre.sessions.fresh r row
  | revoke _ _ _ _ _ minted => simp [PanelEvent.minted, minted] at h

theorem AuthSession.current_of_isLive {r : AuthSession} {jti : String}
    (h : r.isLive jti = true) : r.currentRefreshJti = jti ∧ r.revokedAt = none := by
  simpa [AuthSession.isLive] using h

/-- **One more statement**, if the jti it draws is new. -/
theorem Linear.step (h : Linear log s) (hpre : e.pre = s)
    (hfresh : ∀ m ∈ log, ∀ jti, m.fresh = some jti → e.fresh ≠ some jti) :
    Linear (log ++ [e]) e.post := by
  have hcurrent := h.current_step hpre
  subst hpre
  have hkept : SessionsKept e.pre e.post := exec_sessionsKept e.stmt e.pre
  have hretired : ∀ jti, e.rotated = some jti →
      ∃ m ∈ log, m.fresh = some jti := by
    intro jti hjti
    obtain ⟨r, hr, hlive⟩ := live_of_rotated hjti
    exact (AuthSession.current_of_isLive hlive).1 ▸ h.drawn_current hr
  have hseen : ∀ rowId, lineage log rowId ⊆ lineage (log ++ [e]) rowId := by
    intro rowId
    rw [lineage_append]
    exact List.subset_append_left _ _
  refine ⟨hcurrent, fun a ha m hm => ?_, ?_, fun a ha jti hjti => ?_, ?_,
    fun a ha r hr => ?_⟩
  · rcases List.mem_append.mp ha with ha | ha
    · exact Nat.lt_of_lt_of_le (h.issued a ha m hm) hkept.seq
    · rw [List.mem_singleton.mp ha] at hm
      exact minted_lt hm
  · rw [List.pairwise_append]
    refine ⟨h.drawn, List.pairwise_singleton _ _, fun a ha b hb => ?_⟩
    rw [List.mem_singleton.mp hb]
    exact hfresh a ha
  · -- the rotated jti is an old one, so it is not the fresh one
    have hold : ∃ m ∈ log, m.fresh = some jti := by
      rcases List.mem_append.mp ha with ha | ha
      · exact (h.retired a ha jti hjti).1
      · rw [List.mem_singleton.mp ha] at hjti
        exact hretired jti hjti
    obtain ⟨m, hm, hmjti⟩ := hold
    refine ⟨⟨m, List.mem_append_left _ hm, hmjti⟩, fun r hr heq => ?_⟩
    rcases current_after hr with ⟨r', hr', hsame, hnot⟩ | hnew
    · rcases List.mem_append.mp ha with ha | ha
      · exact (h.retired a ha jti hjti).2 r' hr' (hsame.trans heq)
      · rw [List.mem_singleton.mp ha] at hjti
        exact hnot (heq ▸ hjti)
    · exact hfresh m hm jti hmjti (heq ▸ hnew)
  · rw [List.pairwise_append]
    refine ⟨h.once, List.pairwise_singleton _ _, fun a ha b hb jti hjti hagain => ?_⟩
    rw [List.mem_singleton.mp hb] at hagain
    obtain ⟨r, hr, hlive⟩ := live_of_rotated hagain
    exact (h.retired a ha jti hjti).2 r hr (AuthSession.current_of_isLive hlive).1
  · rcases List.mem_append.mp ha with ha | ha
    · exact hseen _ (h.seen a ha r hr)
    · rw [List.mem_singleton.mp ha] at hr
      exact hseen _ (h.mem_current hr)

end Step

/-! ## What a refresh has done -/

section Refresh

variable {tr : Trace panelMachine} {s : PanelState}

/-- A statement of the trace has rotated this jti. -/
def Rotated (jti : String) (tr : Trace panelMachine) : Prop :=
  ∃ e ∈ tr, PanelStmt.rotated e.1 e.2 = some jti

theorem ensures_liveSession (jti : String) :
    (liveSession jti).Ensures (.free panelMachine)
      (OnOk fun session _ _ => session.currentRefreshJti = jti) tr s := by
  refine Ensures.observe fun s' => ?_
  cases hlive : Option.filter (fun r : AuthSession => r.revokedAt.isNone)
      ((PanelStmt.sessionFindByRefreshJti jti).exec s').1 with
  | none =>
      refine Ensures.observe fun s'' => ?_
      split
      · exact .err _ _ _
      · exact .err _ _ _
  | some session =>
      have hfind := (Option.filter_eq_some_iff.mp hlive).1
      have hjti := (Table.of_find? hfind).2
      intro s'' _ _ a ha
      cases ha
      simpa using hjti

theorem ensures_rotateTokens (ctx : SessionContext) (user : User) (session : AuthSession) :
    (rotateTokens ctx user session).Ensures (.free panelMachine)
      (OnOk fun _ tr _ => Rotated session.currentRefreshJti tr) tr s := by
  refine Ensures.skip fun now tr s _ => ?_
  refine Ensures.skip fun tokens tr s _ => ?_
  refine Ensures.skip fun lastSeenAt tr s _ => ?_
  unfold rotateRefresh
  refine Ensures.observe fun s' => ?_
  cases hrows : ((PanelStmt.sessionRotateRefresh session.currentRefreshJti tokens.refreshJti
      { refreshExpiresAt := tokens.refreshExpiresAt
        ipAddress := ctx.peerIp.or session.ipAddress
        userAgent := ctx.userAgent.or session.userAgent
        lastSeenAt := lastSeenAt }).exec s').1 with
  | none => exact .err _ _ _
  | some rows =>
      refine Ensures.rejectIf_ok fun hone => ?_
      intro s'' _ _ a _
      refine ⟨_, List.mem_append_right _ (List.mem_singleton_self _), ?_⟩
      have hone : rows = 1 := by simpa using hone
      rw [PanelStmt.rotated, hrows, hone, if_pos rfl]

/-- **A refresh that succeeds has rotated the jti it was given.** -/
theorem ensures_refresh (decoded : Decoded) (ctx : SessionContext) :
    (refresh decoded ctx).Ensures (.free panelMachine)
      (OnOk fun _ tr _ => ∃ claims jti, decoded = .ok claims ∧ claims.jti = some jti ∧
        Rotated jti tr) tr s := by
  cases decoded with
  | error e => exact .err e tr s
  | ok claims =>
      refine Ensures.rejectIf_ok fun _ => ?_
      cases hjti : claims.jti with
      | none =>
          simp only [requireJti, hjti, required, bind_eq, err_bind]
          exact .err _ _ _
      | some jti =>
          simp only [requireJti, hjti, required, bind_eq, ok_bind]
          refine Ensures.bind_ok True.intro (ensures_liveSession jti)
            fun session tr s _ hsession => ?_
          refine Ensures.skip fun now tr s _ => ?_
          refine Ensures.rejectIf_ok fun _ => ?_
          refine Ensures.rejectIf_ok fun _ => ?_
          refine Ensures.skip fun user tr s _ => ?_
          refine Ensures.rejectIf_ok fun _ => ?_
          refine Ensures.rejectIf_ok fun _ => ?_
          refine Ensures.rejectIf_ok fun _ => ?_
          refine (ensures_rotateTokens ctx user session).mono fun tr r s hrot bundle hok => ?_
          exact ⟨claims, jti, rfl, hjti, hsession ▸ hrot bundle hok⟩

end Refresh

/-! ## Every interleaving -/

/-- Requests in progress. -/
abbrev PanelPool := Config panelMachine AsterError Request Reply

/-- The jti that the request presents, if it is a refresh. -/
def Request.presents : Request → Option String
  | .refresh (.ok claims) _ => claims.jti
  | _ => none

/-- A refresh token is not drawn a second time. -/
def FreshIds (c : PanelPool) (_ : Nat) (st : PanelStmt) : Prop :=
  ∀ e ∈ c.log, ∀ jti ∈ PanelEvent.fresh e, PanelStmt.fresh st ≠ some jti

instance (c : PanelPool) (i : Nat) (st : PanelStmt) : Decidable (FreshIds c i st) :=
  inferInstanceAs
    (Decidable (∀ e ∈ c.log, ∀ jti ∈ PanelEvent.fresh e, PanelStmt.fresh st ≠ some jti))

section Runs

open Config

variable {verifyPassword : String → String → Except AsterError Bool}
  {hashPassword : String → Except AsterError String}

/-- Every run has a linear log. -/
theorem linear_runs {s₀ : PanelState} (hempty : s₀.sessions.rows = [])
    {sched : List (Action Request)} {c : PanelPool}
    (hc : c = (initial s₀).runs (Request.body verifyPassword hashPassword) sched)
    (hadm : Admissible (Request.body verifyPassword hashPassword) FreshIds
      (initial s₀) sched) : Linear c.log c.shared := by
  rw [hc]
  refine runs_induct (P := fun c => Linear c.log c.shared) ?_ ?_ (linear_nil hempty) hadm
  · intro c call h
    exact h
  · intro c i call st k h _ _ hfresh
    exact h.step (e := ⟨i, st, c.shared⟩) rfl fun m hm jti hjti => hfresh m hm jti hjti

/-- What a request has done when it returns: a refresh has rotated its jti. -/
theorem ensures_request (call : Request) (s : PanelState) :
    (call.body verifyPassword hashPassword).Ensures (.free panelMachine)
      (fun tr r _ => ∀ jti, call.presents = some jti →
        ∀ reply, r = .ok reply → Rotated jti tr) [] s := by
  by_cases hcall : ∃ claims ctx, call = .refresh (.ok claims) ctx
  · obtain ⟨claims, ctx, rfl⟩ := hcall
    refine Ensures.bind True.intro ((ensures_refresh (.ok claims) ctx).mono ?_)
    intro tr r s hr
    cases r with
    | error e => exact fun jti _ reply hok => by cases hok
    | ok bundle =>
        intro _ s' _ _ jti hjti reply _
        obtain ⟨claims', jti', heq, hjti', hrot⟩ := hr bundle rfl
        cases heq
        rw [Request.presents, hjti', Option.some.injEq] at hjti
        exact hjti ▸ hrot
  · refine (Ensures.unguarded (M := panelMachine) (fun _ _ _ => True.intro) _ [] s).mono ?_
    intro tr r s _ jti hjti
    unfold Request.presents at hjti
    split at hjti
    · exact absurd ⟨_, _, rfl⟩ hcall
    · cases hjti

/-- A refresh that has returned tokens stands in the log as the rotation of the
jti it presented. -/
theorem rotated_of_refreshed {s₀ : PanelState} {sched : List (Action Request)}
    {c : PanelPool}
    (hc : c = (initial s₀).runs (Request.body verifyPassword hashPassword) sched)
    {i : Nat} {th : Thread panelSignature AsterError Request Reply} {jti : String}
    {reply : Reply} (hth : c.threads[i]? = some th) (hjti : th.call.presents = some jti)
    (hok : c.result? i = some (.ok reply)) :
    ∃ e ∈ c.log, e.tid = i ∧ PanelEvent.rotated e = some jti := by
  obtain ⟨⟨st, s⟩, he, hrot⟩ :=
    result_of_free ensures_request hc hth hok jti hjti reply rfl
  obtain ⟨e, hlog, htid, rfl, rfl⟩ := mem_trace.mp he
  exact ⟨e, hlog, htid, hrot⟩

/-- The states of a log follow each other. -/
theorem linked_runs {s₀ : PanelState} {sched : List (Action Request)} {c : PanelPool}
    (hc : c = (initial s₀).runs (Request.body verifyPassword hashPassword) sched) :
    c.log.Pairwise fun a b => SessionsKept a.post b.pre := by
  have hgood : Good sessionDiscipline (fun _ _ _ _ _ => True) c := by
    rw [hc]
    exact good_runs (G := fun _ _ _ => True) (fun _ _ _ _ _ => True.intro)
      (fun _ call s _ => Ensures.unguarded (fun _ _ _ => True.intro) _ [] s)
      (good_initial True.intro) (admissible_of_forall (fun _ _ _ => True.intro) _ _)
  exact hgood.linked

/-- Right after an event that revoked a row, the row is revoked. -/
theorem revoked_after {e : PanelEvent} {r₀ r : AuthSession} (h : e.Revokes r₀)
    (hr : r ∈ e.post.sessions.rows) (hid : r.rowId = r₀.rowId) :
    r.revokedAt.isSome = true := by
  obtain ⟨hr₀, p, hp, hpr₀⟩ := h
  cases exec_sessionEffect e.stmt e.pre with
  | shrink _ _ _ _ revokes => simp [revokes] at hp
  | insert _ _ _ _ _ _ _ revokes => simp [revokes] at hp
  | rotate _ _ _ _ _ _ _ _ _ _ _ revokes => simp [revokes] at hp
  | revoke q now revokes _ rows =>
      rw [revokes, Option.some.injEq] at hp
      subst hp
      rw [Event.post, rows] at hr
      obtain ⟨r', hr', rfl⟩ := List.mem_map.mp hr
      have hid' : r'.rowId = r₀.rowId := by
        rw [← hid]
        split
        · rfl
        · rfl
      rw [e.pre.sessions.eq_of_ident hr' hr₀ hid', if_pos hpr₀]
      rfl

/-- **Refresh tokens rotate in a line.**  For every interleaving of all requests,
from an empty table of sessions and with refresh jtis that are not drawn twice:

* no jti is rotated twice, and two refreshes that present one jti and both
  return tokens are one call;
* the current jti of every session is the last one minted for it;
* after a call that revoked a session has returned, no refresh that starts then
  and presents a jti of the session's line returns tokens. -/
theorem rotation_linear {s₀ : PanelState} (hempty : s₀.sessions.rows = [])
    {before later : List (Action Request)} {c₁ c₂ : PanelPool}
    (hadm : Admissible (Request.body verifyPassword hashPassword) FreshIds
      (initial s₀) (before ++ later))
    (hc₁ : c₁ = (initial s₀).runs (Request.body verifyPassword hashPassword) before)
    (hc₂ : c₂ = c₁.runs (Request.body verifyPassword hashPassword) later) :
    (c₂.log.Pairwise fun a b => ∀ jti,
      PanelEvent.rotated a = some jti → PanelEvent.rotated b ≠ some jti) ∧
    (∀ i j th th' jti reply reply', c₂.threads[i]? = some th →
      c₂.threads[j]? = some th' → th.call.presents = some jti →
      th'.call.presents = some jti → c₂.result? i = some (.ok reply) →
      c₂.result? j = some (.ok reply') → i = j) ∧
    (∀ r ∈ c₂.shared.sessions.rows,
      (lineage c₂.log r.rowId).getLast? = some r.currentRefreshJti) ∧
    (∀ e ∈ c₁.log, (c₁.result? e.tid).isSome = true → ∀ r, PanelEvent.Revokes e r →
      ∀ j th jti reply, c₁.threads.length ≤ j → c₂.threads[j]? = some th →
      th.call.presents = some jti → jti ∈ lineage c₂.log r.rowId →
      c₂.result? j ≠ some (.ok reply)) := by
  have hrun : c₂ = (initial s₀).runs (Request.body verifyPassword hashPassword)
      (before ++ later) := by
    rw [runs_append, hc₂, hc₁]
  have hlinear := linear_runs hempty hrun hadm
  refine ⟨hlinear.once, ?_, hlinear.current, ?_⟩
  · intro i j th th' jti reply reply' hi hj hpi hpj hri hrj
    obtain ⟨a, ha, rfl, harot⟩ := rotated_of_refreshed hrun hi hpi hri
    obtain ⟨b, hb, rfl, hbrot⟩ := rotated_of_refreshed hrun hj hpj hrj
    rw [eq_of_pairwise_ne hlinear.once ha hb harot hbrot]
  · intro e he _ r hrev j th jti reply hj hth hp hline hok
    obtain ⟨b, hb, rfl, hrot⟩ := rotated_of_refreshed hrun hth hp hok
    have hkept : SessionsKept e.post b.pre := by
      have hlog : c₁.log <+: c₂.log := by
        rw [hc₂]
        exact log_prefix c₁ later
      obtain ⟨rest, hlog⟩ := hlog
      have hpair := linked_runs hrun
      rw [← hlog] at hb hpair
      rcases List.mem_append.mp hb with hb | hb
      · have hlt := tid_lt hc₁ b hb
        omega
      · exact (List.pairwise_append.mp hpair).2.2 e he b hb
    -- the rotated row is the revoked one
    obtain ⟨r', hr', hlive⟩ := live_of_rotated hrot
    obtain ⟨hcurrent, hunrevoked⟩ := AuthSession.current_of_isLive hlive
    have hid : r'.rowId = r.rowId :=
      hlinear.owner (hcurrent ▸ hlinear.seen b hb r' hr') hline
    have hlt : r'.rowId < e.post.sessions.seq := by
      have hlt : r.rowId < e.pre.sessions.seq := e.pre.sessions.fresh r hrev.1
      have hle := (exec_sessionsKept e.stmt e.pre).seq
      rw [hid]
      exact Nat.lt_of_lt_of_le hlt hle
    obtain ⟨r'', hr'', hid'', hstays⟩ := hkept.rows r' hr' hlt
    have hrevoked := hstays (revoked_after hrev hr'' (hid''.trans hid))
    simp [hunrevoked] at hrevoked

/-- One account and nobody logged in. -/
def onePanel : PanelState := ⟨onePlayer.db, .empty, [], []⟩

/-- A request that draws this jti, and this id if it opens a session. -/
def drawingJti (jti id : String) : SessionContext :=
  ⟨true, 60, 3600, none, none, jti, id⟩

/-- The refresh token with this jti, at the first version of the account. -/
def refreshClaims (jti : String) : Decoded :=
  .ok ⟨1, 1, some jti, false, .refresh, 3600⟩

/-- A panel in which passwords are stored as they are. -/
def panelRun (sched : List (Action Request)) : PanelPool :=
  (initial onePanel).runs (Request.body (fun a b => .ok (a = b)) .ok) sched

/-- A session is opened with `a`, rotated to `b`, and left by logging out. -/
def openAndLeave : List (Action Request) :=
  .spawn (.issueTokensForUserId 1 (drawingJti "a" "session")) :: List.replicate 4 (.run 0) ++
    .spawn (.refresh (refreshClaims "a") (drawingJti "b" "")) :: List.replicate 6 (.run 1) ++
    .spawn (.logout (refreshClaims "b")) :: List.replicate 2 (.run 2)

/-- Two refreshes that come too late. -/
def comeBack : List (Action Request) :=
  [.spawn (.refresh (refreshClaims "a") (drawingJti "c" "")),
    .spawn (.refresh (refreshClaims "b") (drawingJti "d" ""))] ++
    List.replicate 6 (.run 3) ++ List.replicate 6 (.run 4)

/-- The session of `openAndLeave` when it is left. -/
def leftSession : AuthSession :=
  ⟨1, "session", 1, "b", some "a", 3600010, none, none, 10, 10, none⟩

/-- After the logout neither token of the line is good for a refresh. -/
theorem rotation_linear_logout :
    lineage (panelRun (openAndLeave ++ comeBack)).log 1 = ["a", "b"] ∧
      ∀ j ∈ [3, 4], ∀ reply,
        (panelRun (openAndLeave ++ comeBack)).result? j ≠ some (.ok reply) := by
  have hline : lineage (panelRun (openAndLeave ++ comeBack)).log 1 = ["a", "b"] := by
    decide +kernel
  have hadm : Admissible (Request.body (fun a b => .ok (a = b)) .ok) FreshIds
      (initial onePanel) (openAndLeave ++ comeBack) := by decide +kernel
  obtain ⟨e, he, hdone, hrow, hhit⟩ : ∃ e ∈ (panelRun openAndLeave).log,
      ((panelRun openAndLeave).result? e.tid).isSome = true ∧
        leftSession ∈ e.pre.sessions.rows ∧
        (PanelStmt.revokes e.stmt).any (fun p => p leftSession) = true := by decide +kernel
  have hrevokes : PanelEvent.Revokes e leftSession :=
    ⟨hrow, (Option.any_eq_true _ _).mp hhit⟩
  have hruns : panelRun (openAndLeave ++ comeBack) = (panelRun openAndLeave).runs
      (Request.body (fun a b => .ok (a = b)) .ok) comeBack := runs_append _ _ _
  have hlate := (rotation_linear rfl hadm rfl hruns).2.2.2 e he hdone leftSession hrevokes
  refine ⟨hline, fun j hj reply => ?_⟩
  rcases List.mem_pair.mp hj with rfl | rfl
  · exact hlate 3 _ "a" reply (by decide +kernel) rfl rfl (hline ▸ by decide)
  · exact hlate 4 _ "b" reply (by decide +kernel) rfl rfl (hline ▸ by decide)

end Runs

end AsterYggdrasil.Panel
