import AsterYggdrasil.Frontend.CrossTabRefresh

/-!
# A waiter trusts real results only

A call that does not refresh itself learns from an event how the refresh of
another tab ended.  It meets events on four ways: it finds one in the storage, a
storage event or a message brings one, or it looks again when a timer fires or the
lock is removed.  Whatever way it comes, an event has been recorded by a call whose
`refresh` had ended as the event says, and the id in it belongs to that call alone:
an event that matches the lock of the peer comes from the `refresh` under that
lock, and one that does not comes from a `refresh` without a lock, recorded since
the wait began (`peer_results_true`).
-/

namespace AsterYggdrasil.CrossTab

open Interleave

/-! ## What is claimed -/

/-- A `refresh` of another tab has ended with the outcome: under the lock that the
caller has waited for, or without a lock and recorded since its wait began. -/
def PeerRefreshed (b : Shared) (tab : Nat) (w : Wait) (outcome : Outcome) : Prop :=
  ∃ o ∈ b.settled, o.outcome = outcome ∧ o.tab ≠ tab ∧
    ((o.fallback = false ∧ o.tab = w.peerLock.ownerId ∧ o.lockId = w.peerLock.lockId) ∨
      (o.fallback = true ∧ ∃ e ∈ b.recorded, e.ownerId = o.tab ∧ e.lockId = o.lockId ∧
        e.outcome = outcome ∧ w.turn.waitStartedAt ≤ e.createdAt))

/-- What a call returns about a peer is true. -/
def Return.Truthful (b : Shared) (tab : Nat) : Return → Prop
  | .ran _ | .timedOut => True
  | .peerSucceeded w => PeerRefreshed b tab w none
  | .peerFailed w => PeerRefreshed b tab w (some .transient)
  | .peerAuthFailed w => PeerRefreshed b tab w (some .auth)

/-! ## What the tabs share -/

/-- An id that has been drawn for a lock. -/
def Shared.LockId (b : Shared) (n : Nat) : Prop := n < b.nextId ∧ n ∉ b.directIds

/-- The `refresh` that an event tells of has ended so. -/
def Shared.Backed (b : Shared) (e : RefreshEvent) : Prop :=
  ⟨e.ownerId, e.lockId, e.fallback, e.outcome⟩ ∈ b.settled

/-- Nothing recorded is made up, and ids of locks and of refreshes without a lock
differ. -/
structure Shared.Honest (b : Shared) : Prop where
  stored : ∀ e, b.event = some e → e ∈ b.recorded
  backed : ∀ e ∈ b.recorded, b.Backed e
  direct : ∀ o ∈ b.settled, o.fallback = true → o.lockId ∈ b.directIds
  drawn : ∀ n ∈ b.directIds, n < b.nextId
  locked : ∀ lock, b.lock = some lock → b.LockId lock.lockId

/-- History is only added to. -/
structure Shared.Grows (b b' : Shared) : Prop where
  settled : ∀ o ∈ b.settled, o ∈ b'.settled
  recorded : ∀ e ∈ b.recorded, e ∈ b'.recorded
  nextId : b.nextId ≤ b'.nextId
  directIds : ∀ n ∈ b.directIds, n ∈ b'.directIds
  later : ∀ n ∈ b'.directIds, n ∈ b.directIds ∨ b.nextId ≤ n

section Grows

variable {b b' : Shared} {tab : Nat}

theorem Shared.Grows.refl (b : Shared) : b.Grows b :=
  ⟨fun _ h => h, fun _ h => h, Nat.le_refl _, fun _ h => h, fun _ h => Or.inl h⟩

theorem Shared.Grows.lockId (h : b.Grows b') {n : Nat} (hn : b.LockId n) : b'.LockId n := by
  refine ⟨Nat.lt_of_lt_of_le hn.1 h.nextId, fun hdirect => ?_⟩
  rcases h.later n hdirect with hold | hnew
  · exact hn.2 hold
  · exact absurd hn.1 (Nat.not_lt.mpr hnew)

theorem Shared.Grows.peerRefreshed (h : b.Grows b') {w : Wait} {outcome : Outcome}
    (hpeer : PeerRefreshed b tab w outcome) : PeerRefreshed b' tab w outcome := by
  obtain ⟨o, ho, houtcome, htab, hunder⟩ := hpeer
  refine ⟨o, h.settled o ho, houtcome, htab, hunder.imp_right ?_⟩
  rintro ⟨hfallback, e, he, hmatch⟩
  exact ⟨hfallback, e, h.recorded e he, hmatch⟩

theorem Shared.Grows.truthful (h : b.Grows b') {r : Return} (hr : r.Truthful b tab) :
    r.Truthful b' tab := by
  cases r with
  | ran | timedOut => trivial
  | peerSucceeded | peerFailed | peerAuthFailed => exact h.peerRefreshed hr

end Grows

/-! ## What a call knows -/

/-- What the local variables of a call have to do with the history. -/
def Pc.Known (tab : Nat) (b : Shared) : Pc → Prop
  | .acquireWrite _ _ _ next => b.LockId next.lockId
  | .lookup w _ | .waiting w => b.LockId w.peerLock.lockId
  | .lookupLock w _ e | .handleLock w _ e =>
      b.LockId w.peerLock.lockId ∧ e ∈ b.recorded ∧ PeerRefreshed b tab w e.outcome
  | .renewNow _ stored => b.LockId stored.lockId
  | .renewWrite _ _ renewed => b.LockId renewed.lockId
  | .reportRead lock outcome | .reportNow lock outcome =>
      ⟨tab, lock.lockId, false, outcome⟩ ∈ b.settled
  | .reportWrite _ _ e | .directWrite e _ => b.Backed e
  | .direct lockId => lockId ∈ b.directIds
  | .directNow lockId outcome => ⟨tab, lockId, true, outcome⟩ ∈ b.settled
  | .done r => r.Truthful b tab
  | _ => True

theorem Pc.Known.grow {tab : Nat} {b b' : Shared} {pc : Pc} (hpc : pc.Known tab b)
    (h : b.Grows b') : pc.Known tab b' := by
  cases pc with
  | acquireWrite | lookup | waiting | renewNow | renewWrite => exact h.lockId hpc
  | lookupLock | handleLock =>
      obtain ⟨hid, he, hpeer⟩ := hpc
      exact ⟨h.lockId hid, h.recorded _ he, h.peerRefreshed hpeer⟩
  | reportRead | reportNow | directNow | reportWrite | directWrite => exact h.settled _ hpc
  | direct lockId => exact h.directIds lockId hpc
  | done r => exact h.truthful hpc
  | _ => trivial

/-! ## Events that match -/

section Match

variable {b : Shared} {tab now : Nat} {w : Wait} {e : RefreshEvent} {reason : Reason}

/-- **An event that matches the lock of the peer** comes from the `refresh` under
that lock. -/
theorem peerRefreshed_of_peerLock (hb : b.Honest) (he : e ∈ b.recorded)
    (hid : b.LockId w.peerLock.lockId)
    (h : e.matchesPeerLock tab w.peerLock now = true) : PeerRefreshed b tab w e.outcome := by
  simp only [RefreshEvent.matchesPeerLock, Bool.and_eq_true, decide_eq_true_eq] at h
  obtain ⟨⟨⟨howner, htab⟩, hlock⟩, -⟩ := h
  have hbacked := hb.backed e he
  cases hfallback : e.fallback with
  | false =>
      rw [Shared.Backed, hfallback] at hbacked
      exact ⟨_, hbacked, rfl, htab, Or.inl ⟨rfl, howner, hlock⟩⟩
  | true =>
      -- the id would have been drawn for a `refresh` without a lock
      have hdirect := hb.direct _ hbacked hfallback
      rw [hlock] at hdirect
      exact absurd hdirect hid.2

/-- **An event of a `refresh` without a lock**, no older than the wait. -/
theorem peerRefreshed_of_fallback (hb : b.Honest) (he : e ∈ b.recorded)
    (h : e.mayMatchFallback tab w.turn.waitStartedAt now = true) :
    PeerRefreshed b tab w e.outcome := by
  simp only [RefreshEvent.mayMatchFallback, Bool.and_eq_true, decide_eq_true_eq] at h
  obtain ⟨⟨⟨hfallback, htab⟩, hsince⟩, -⟩ := h
  exact ⟨_, hb.backed e he, rfl, htab, Or.inr ⟨hfallback, e, he, rfl, rfl, rfl, hsince⟩⟩

theorem known_finish (h : PeerRefreshed b tab w e.outcome) : (w.finish e).Known tab b := by
  unfold Wait.finish
  split
  · next houtcome => rwa [houtcome] at h
  · next houtcome => rwa [houtcome] at h
  · next houtcome => rwa [houtcome] at h

theorem known_unmatched (hid : b.LockId w.peerLock.lockId) :
    (w.unmatched reason).Known tab b := by
  cases reason with
  | install | message => exact hid
  | expiry | stale | removed => trivial

theorem known_handleEvent (hb : b.Honest) (he : e ∈ b.recorded)
    (hid : b.LockId w.peerLock.lockId) : (w.handleEvent tab now reason e).Known tab b := by
  unfold Wait.handleEvent
  split
  · next hmatch => exact known_finish (peerRefreshed_of_peerLock hb he hid hmatch)
  · split
    · next hmatch => exact ⟨hid, he, peerRefreshed_of_fallback hb he hmatch⟩
    · exact known_unmatched hid

theorem known_found (hb : b.Honest) (he : e ∈ b.recorded) (hid : b.LockId w.peerLock.lockId)
    (hpeer : PeerRefreshed b tab w e.outcome) : (w.found tab now reason e).Known tab b := by
  unfold Wait.found
  split
  · exact known_handleEvent hb he hid
  · exact known_finish hpeer

theorem known_failed (turn : Turn) (attempt : Attempt) : (attempt.failed turn).Known tab b := by
  cases attempt <;> trivial

end Match

/-! ## One call -/

/-- What a move of one call adds, and what the call knows then. -/
structure Learns (tab : Nat) (b : Shared) (pc' : Pc) (b' : Shared) : Prop where
  honest : b'.Honest
  grows : b.Grows b'
  known : pc'.Known tab b'

section Learns

variable {tab : Nat} {b : Shared} {pc' : Pc}

/-- A move that leaves alone what the tabs share. -/
theorem Learns.read (hb : b.Honest) (hknown : pc'.Known tab b) : Learns tab b pc' b :=
  ⟨hb, .refl b, hknown⟩

/-- The lock is written. -/
theorem Learns.writeLock (hb : b.Honest) {lock : Option RefreshLock}
    (hlock : ∀ l, lock = some l → b.LockId l.lockId) (hknown : pc'.Known tab b) :
    Learns tab b pc' (b.writeLock lock) := by
  have hgrows : b.Grows (b.writeLock lock) := ⟨fun _ h => h, fun _ h => h, Nat.le_refl _,
    fun _ h => h, fun _ h => Or.inl h⟩
  exact ⟨⟨hb.stored, hb.backed, hb.direct, hb.drawn, hlock⟩, hgrows, hknown.grow hgrows⟩

/-- An event is recorded. -/
theorem Learns.record (hb : b.Honest) {e : RefreshEvent} (he : b.Backed e)
    (hknown : pc'.Known tab b) : Learns tab b pc' (b.record e) := by
  have hgrows : b.Grows (b.record e) := ⟨fun _ h => h, fun _ h => List.mem_cons_of_mem _ h,
    Nat.le_refl _, fun _ h => h, fun _ h => Or.inl h⟩
  refine ⟨⟨fun e' he' => ?_, fun e' he' => ?_, hb.direct, hb.drawn, hb.locked⟩, hgrows,
    hknown.grow hgrows⟩
  · cases he'
    exact List.mem_cons_self
  · rcases List.mem_cons.mp he' with rfl | hold
    · exact he
    · exact hb.backed e' hold

/-- A `refresh` ends. -/
theorem Learns.settle (hb : b.Honest) {o : Settled}
    (ho : o.fallback = true → o.lockId ∈ b.directIds)
    (hknown : pc'.Known tab { b with settled := o :: b.settled }) :
    Learns tab b pc' { b with settled := o :: b.settled } := by
  have hgrows : b.Grows { b with settled := o :: b.settled } :=
    ⟨fun _ h => List.mem_cons_of_mem _ h, fun _ h => h, Nat.le_refl _, fun _ h => h,
      fun _ h => Or.inl h⟩
  refine ⟨⟨hb.stored, fun e he => hgrows.settled _ (hb.backed e he), fun o' ho' => ?_, hb.drawn,
    hb.locked⟩, hgrows, hknown⟩
  rcases List.mem_cons.mp ho' with rfl | hold
  · exact ho
  · exact hb.direct o' hold

end Learns

/-- An id is drawn for a lock. -/
theorem learns_draw {tab : Nat} {b : Shared} {turn : Turn} {attempt : Attempt}
    {current : Option RefreshLock} {next : RefreshLock} (hb : b.Honest)
    (hnext : next.lockId = b.nextId) :
    Learns tab b (.acquireWrite turn attempt current next) { b with nextId := b.nextId + 1 } := by
  have hgrows : b.Grows { b with nextId := b.nextId + 1 } :=
    ⟨fun _ h => h, fun _ h => h, Nat.le_succ _, fun _ h => h, fun _ h => Or.inl h⟩
  refine ⟨⟨hb.stored, hb.backed, hb.direct, fun n hn => Nat.lt_succ_of_lt (hb.drawn n hn),
    fun lock hlock => hgrows.lockId (hb.locked lock hlock)⟩, hgrows, ?_⟩
  refine ⟨by rw [hnext]; exact Nat.lt_succ_self _, fun hdirect => ?_⟩
  rw [hnext] at hdirect
  exact absurd (hb.drawn _ hdirect) (Nat.lt_irrefl _)

/-- An id is drawn for a `refresh` without a lock. -/
theorem learns_direct {tab : Nat} {b : Shared} (hb : b.Honest) :
    Learns tab b (.direct b.nextId)
      { b with nextId := b.nextId + 1, directIds := b.nextId :: b.directIds } := by
  have hgrows : b.Grows
      { b with nextId := b.nextId + 1, directIds := b.nextId :: b.directIds } := by
    refine ⟨fun _ h => h, fun _ h => h, Nat.le_succ _, fun _ h => List.mem_cons_of_mem _ h,
      fun n hn => ?_⟩
    rcases List.mem_cons.mp hn with rfl | hold
    · exact Or.inr (Nat.le_refl _)
    · exact Or.inl hold
  refine ⟨⟨hb.stored, hb.backed, fun o ho hfallback => hgrows.directIds _
    (hb.direct o ho hfallback), fun n hn => ?_,
    fun lock hlock => hgrows.lockId (hb.locked lock hlock)⟩, hgrows, List.mem_cons_self⟩
  rcases List.mem_cons.mp hn with rfl | hold
  · exact Nat.lt_succ_self _
  · exact Nat.lt_succ_of_lt (hb.drawn n hold)

/-- **The steps of a call.** -/
theorem learns_step {tab : Nat} {b b' : Shared} {pc pc' : Pc} (hb : b.Honest)
    (hpc : pc.Known tab b) (h : Pc.step tab b pc = some (pc', b')) : Learns tab b pc' b' := by
  cases pc with
  | loop deadline =>
      simp only [Pc.step] at h
      split at h <;> cases h <;> exact .read hb trivial
  | acquireNow turn attempt =>
      cases h
      exact .read hb trivial
  | acquireRead turn attempt t =>
      simp only [Pc.step] at h
      split at h <;> cases h
      · exact .read hb (known_failed turn attempt)
      · exact learns_draw hb rfl
  | acquireWrite turn attempt current next =>
      cases h
      exact .writeLock hb (fun lock hlock => Option.some.inj hlock ▸ hpc) trivial
  | acquireConfirm turn attempt next =>
      simp only [Pc.step] at h
      split at h
      · split at h <;> cases h
        · exact .read hb trivial
        · exact .read hb (known_failed turn attempt)
      · cases h
        exact .read hb trivial
  | acquireRemove turn attempt =>
      cases h
      exact .writeLock hb (fun lock hlock => by cases hlock) (known_failed turn attempt)
  | readPeer turn =>
      simp only [Pc.step] at h
      split at h
      · next peerLock hlock =>
          split at h <;> cases h
          · exact .read hb (hb.locked peerLock hlock)
          · exact .read hb trivial
      · cases h
        exact .read hb trivial
  | readAgain turn =>
      simp only [Pc.step] at h
      split at h <;> cases h
      · exact .read hb trivial
      · exact learns_direct hb
  | sleep deadline wakeAt =>
      simp only [Pc.step] at h
      split at h <;> cases h
      exact .read hb trivial
  | lookup w reason =>
      simp only [Pc.step] at h
      split at h
      · next e he =>
          have hmem := hb.stored e he
          split at h
          · next hmatch =>
              cases h
              have hpeer := peerRefreshed_of_peerLock hb hmem hpc hmatch
              exact .read hb (known_found hb hmem hpc hpeer)
          · split at h <;> cases h
            · next hmatch =>
                have hpeer := peerRefreshed_of_fallback hb hmem hmatch
                exact .read hb ⟨hpc, hmem, hpeer⟩
            · exact .read hb (known_unmatched hpc)
      · cases h
        exact .read hb (known_unmatched hpc)
  | lookupLock w reason e =>
      obtain ⟨hid, hmem, hpeer⟩ := hpc
      simp only [Pc.step] at h
      split at h <;> cases h
      · exact .read hb (known_unmatched hid)
      · exact .read hb (known_found hb hmem hid hpeer)
  | handleLock w reason e =>
      obtain ⟨hid, hmem, hpeer⟩ := hpc
      simp only [Pc.step] at h
      split at h <;> cases h
      · exact .read hb (known_unmatched hid)
      · exact .read hb (known_finish hpeer)
  | renewNow lock stored =>
      cases h
      exact .read hb hpc
  | renewWrite lock stored renewed =>
      cases h
      exact .writeLock hb (fun lock hlock => Option.some.inj hlock ▸ hpc) trivial
  | reportRead lock outcome =>
      simp only [Pc.step] at h
      split at h <;> cases h
      · exact .read hb hpc
      · exact .read hb trivial
  | reportNow lock outcome =>
      cases h
      exact .read hb hpc
  | reportWrite lock outcome e =>
      cases h
      exact .record hb hpc trivial
  | releaseRead lock outcome =>
      simp only [Pc.step] at h
      split at h
      · split at h <;> cases h <;> exact .read hb trivial
      · cases h
        exact .read hb trivial
  | releaseRemove stored outcome =>
      cases h
      exact .writeLock hb (fun lock hlock => by cases hlock) trivial
  | directNow lockId outcome =>
      cases h
      exact .read hb hpc
  | directWrite e outcome =>
      cases h
      exact .record hb hpc trivial
  | waiting | refreshing | direct | done => cases h

/-- What reaches a call from outside. -/
theorem learns_effect {a : Action} {tab : Nat} {b b' : Shared} {pc pc' : Pc} (hb : b.Honest)
    (hpc : pc.Known tab b) (h : a.effect tab b pc = some (pc', b')) : Learns tab b pc' b' := by
  cases a with
  | start | tick => cases h
  | run i => exact learns_step hb hpc h
  | heartbeat i =>
      cases pc with
      | refreshing lock =>
          simp only [Action.effect, Pc.heartbeat] at h
          split at h
          · next stored hstored =>
              split at h <;> cases h
              · exact .read hb (hb.locked stored hstored)
              · exact .read hb trivial
          · cases h
            exact .read hb trivial
      | _ => cases h
  | settle i outcome =>
      cases pc with
      | refreshing lock =>
          cases h
          exact .settle hb (fun hfallback => by cases hfallback) List.mem_cons_self
      | direct lockId =>
          cases h
          exact .settle hb (fun _ => hpc) List.mem_cons_self
      | _ => cases h
  | deliver i e =>
      cases pc with
      | waiting w =>
          simp only [Action.effect, Pc.deliver] at h
          split at h <;> cases h
          next hrecorded =>
            exact .read hb (known_handleEvent hb (List.contains_iff_mem.mp hrecorded) hpc)
      | _ => cases h
  | deliverLock i lock =>
      cases pc with
      | waiting w =>
          simp only [Action.effect, Pc.deliverLock] at h
          split at h
          · split at h
            · cases h
              exact .read hb hpc
            · split at h <;> cases h <;> exact .read hb hpc
          · cases h
      | _ => cases h
  | expiryTimer i | staleTimer i =>
      cases pc with
      | waiting w =>
          simp only [Action.effect, Pc.fire] at h
          split at h <;> cases h
          exact .read hb hpc
      | _ => cases h
  | timeoutTimer i =>
      cases pc with
      | waiting w =>
          simp only [Action.effect, Pc.fire] at h
          split at h <;> cases h
          exact .read hb trivial
      | _ => cases h

/-! ## The browser -/

/-- **The invariant.** -/
structure Informed (s : Browser) : Prop where
  honest : s.shared.Honest
  known : ∀ call ∈ s.calls, call.pc.Known call.tab s.shared

theorem informed_fresh : Informed fresh := by
  refine ⟨⟨fun e h => ?_, fun e h => ?_, fun o h => ?_, fun n h => ?_, fun l h => ?_⟩,
    fun c h => ?_⟩ <;> cases h

/-- **One step.** -/
theorem informed_step {s s' : Browser} {a : Action} (hs : Informed s) (h : step a s = some s') :
    Informed s' := by
  rcases step_cases h with ⟨tab, rfl, rfl⟩ | ⟨ms, rfl, rfl⟩ | ⟨i, call, pc, b, hmoved, rfl⟩
  · refine ⟨hs.honest, fun c hc => ?_⟩
    rcases List.mem_append.mp hc with hold | hnew
    · exact hs.known c hold
    · rw [List.mem_singleton.mp hnew]
      trivial
  · have hgrows : s.shared.Grows { s.shared with now := s.shared.now + ms } :=
      ⟨fun _ h => h, fun _ h => h, Nat.le_refl _, fun _ h => h, fun _ h => Or.inl h⟩
    obtain ⟨hstored, hbacked, hdirect, hdrawn, hlocked⟩ := hs.honest
    exact ⟨⟨hstored, hbacked, hdirect, hdrawn, hlocked⟩, fun c hc => (hs.known c hc).grow hgrows⟩
  · have hknown := hs.known call (List.mem_of_getElem? hmoved.found)
    have hlearns := learns_effect hs.honest hknown hmoved.effect
    refine ⟨hlearns.honest, fun c hc => ?_⟩
    rcases List.mem_or_eq_of_mem_set hc with hold | rfl
    · exact (hs.known c hold).grow hlearns.grows
    · exact hlearns.known

/-- **A waiter trusts real results only.**  In every state that any actions lead
to, a call that has returned `false` without a `refresh` of its own, or has thrown
a peer's failure, has done so because of a `refresh` of another tab that ended so:
under the lock it has waited for, or without a lock and recorded since its wait
began. -/
theorem peer_results_true {actions : List Action} {s : Browser}
    (h : steps step actions fresh = some s) :
    ∀ call ∈ s.calls, ∀ r, call.pc = .done r → r.Truthful s.shared call.tab := by
  have hs : Informed s :=
    steps_invariant (fun s a s' hs hstep => informed_step hs hstep) informed_fresh h
  intro call hcall r hr
  have hknown := hs.known call hcall
  rw [hr] at hknown
  exact hknown

/-- The second tab waits for the first one, whose `refresh` succeeds. -/
def peerWaits : List Action :=
  [.start 1, .start 2, .run 0, .run 0, .run 0, .run 0, .run 0,
    .run 1, .run 1, .run 1, .run 1, .run 1,
    .settle 0 none, .run 0, .run 0, .run 0, .deliver 1 ⟨1, 0, none, false, 0⟩]

theorem peerWaits_true : ∃ s w, steps step peerWaits fresh = some s ∧
    s.calls[1]? = some ⟨2, .done (.peerSucceeded w)⟩ ∧ PeerRefreshed s.shared 2 w none := by
  obtain ⟨s, hs⟩ := Option.isSome_iff_exists.mp
    (show (steps step peerWaits fresh).isSome = true by decide +kernel)
  have hcall : (steps step peerWaits fresh).bind (·.calls[1]?) = some ⟨2, .done (.peerSucceeded
      ⟨⟨45000, 0⟩, ⟨1, 0, 10000, some 0⟩, 10000, some 3000⟩)⟩ := by decide +kernel
  rw [hs, Option.bind_some] at hcall
  exact ⟨s, _, hs, hcall, peer_results_true hs _ (List.mem_of_getElem? hcall) _ rfl⟩

end AsterYggdrasil.CrossTab
