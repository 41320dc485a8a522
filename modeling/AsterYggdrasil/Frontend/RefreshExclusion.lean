import AsterYggdrasil.Frontend.CrossTabRefresh

/-!
# One tab refreshes at a time

A tab that acquires the lock reads it, writes its own over it, and reads it back;
a tab that renews or releases reads and then writes or removes.  Nothing keeps
another tab from writing in between, and then two tabs confirm their locks one
after the other (`two_tabs_refresh`).

`Current` is the condition under which that does not happen: the lock is still
what the call has read last when it writes or removes.  With it, and with
heartbeats in time, a `refresh` under a confirmed lock has that lock in the
storage until it ends, and so there is one at most (`refresh_exclusive`).
-/

namespace AsterYggdrasil.CrossTab

open Interleave

/-! ## What is claimed -/

/-- The confirmed lock under which `refresh` is pending. -/
def Pc.held : Pc → Option RefreshLock
  | .refreshing lock | .renewNow lock _ | .renewWrite lock _ _ => some lock
  | _ => none

/-- No two tabs are inside `refresh` under a confirmed lock. -/
def Exclusive (s : Browser) : Prop :=
  ∀ c ∈ s.calls, ∀ d ∈ s.calls, c.pc.held.isSome → d.pc.held.isSome → c.tab = d.tab

/-- The action does not remove or overwrite a live lock of another tab. -/
def SparesLive (s : Browser) (a : Action) (s' : Browser) : Prop :=
  ∀ lock, s.shared.lock = some lock → lockIsLive (some lock) s.shared.now = true →
    s'.shared.lock = some lock ∨
      ∃ i call, a.call? = some i ∧ s.calls[i]? = some call ∧ lock.ownerId = call.tab

/-- Heartbeats come in time: the stored lock of a pending `refresh` is live. -/
def Beating (s : Browser) : Prop :=
  ∀ c ∈ s.calls, ∀ held ∈ c.pc.held, ∀ lock ∈ s.shared.lock,
    lock.isOf c.tab held.lockId = true → lockIsLive (some lock) s.shared.now = true

instance (s : Browser) : Decidable (Exclusive s) :=
  inferInstanceAs (Decidable (∀ c ∈ s.calls, ∀ d ∈ s.calls,
    c.pc.held.isSome → d.pc.held.isSome → c.tab = d.tab))

instance (s : Browser) : Decidable (Beating s) :=
  inferInstanceAs (Decidable (∀ c ∈ s.calls, ∀ held ∈ c.pc.held, ∀ lock ∈ s.shared.lock,
    lock.isOf c.tab held.lockId = true → lockIsLive (some lock) s.shared.now = true))

/-! ## The condition -/

/-- What a call that is about to write or to remove the lock has read last. -/
def Pc.lastRead : Pc → Option (Option RefreshLock)
  | .acquireWrite _ _ current _ => some current
  | .acquireRemove _ _ => some none
  | .renewWrite _ stored _ | .releaseRemove stored _ => some (some stored)
  | _ => none

def Pc.isDone : Pc → Bool
  | .done _ => true
  | _ => false

/-- A call that writes or removes the lock finds it as it has read it, and a tab
starts no call while it has another one. -/
def Current (s : Browser) (a : Action) : Prop :=
  match a with
  | .start tab => ∀ c ∈ s.calls, c.tab = tab → c.pc.isDone = true
  | .run i => ∀ c ∈ s.calls[i]?, ∀ read ∈ c.pc.lastRead, s.shared.lock = read
  | _ => True

instance (s : Browser) : (a : Action) → Decidable (Current s a)
  | .start tab => inferInstanceAs (Decidable (∀ c ∈ s.calls, c.tab = tab → c.pc.isDone = true))
  | .run i => inferInstanceAs (Decidable
      (∀ c ∈ s.calls[i]?, ∀ read ∈ c.pc.lastRead, s.shared.lock = read))
  | .tick _ | .heartbeat _ | .settle _ _ | .deliver _ _ | .deliverLock _ _ | .expiryTimer _
  | .staleTimer _ | .timeoutTimer _ => isTrue trivial

/-! ## What a call knows -/

/-- A lock that a call may overwrite: its own, or one that is not live. -/
def Free (tab now : Nat) (lock : RefreshLock) : Prop :=
  lock.ownerId = tab ∨ lockIsLive (some lock) now = false

/-- What the local variables of a call have to do with its tab and the clock. -/
def Pc.Sound (tab now : Nat) : Pc → Prop
  | .acquireRead _ _ t => t ≤ now
  | .acquireWrite _ _ current _ => ∀ lock, current = some lock → Free tab now lock
  | .renewNow lock stored => stored.isOf tab lock.lockId = true
  | .renewWrite lock stored renewed =>
      stored.isOf tab lock.lockId = true ∧ renewed.isOf tab lock.lockId = true
  | .releaseRemove stored _ => stored.ownerId = tab
  | _ => True

theorem isOf_iff {lock : RefreshLock} {tab lockId : Nat} :
    lock.isOf tab lockId = true ↔ lock.ownerId = tab ∧ lock.lockId = lockId := by
  simp [RefreshLock.isOf]

/-- A lock that is live has been so since it was written. -/
theorem lockIsLive_of_le {lock : RefreshLock} {t now : Nat} (h : t ≤ now)
    (hlive : lockIsLive (some lock) now = true) : lockIsLive (some lock) t = true := by
  simp only [lockIsLive, Option.any_some, Bool.and_eq_true, decide_eq_true_eq] at hlive ⊢
  obtain ⟨hactive, hfresh⟩ := hlive
  refine ⟨by omega, ?_⟩
  cases hupdated : lock.updatedAt with
  | none => rfl
  | some updatedAt =>
      rw [hupdated] at hfresh
      simp only [Option.all_some, decide_eq_true_eq] at hfresh ⊢
      omega

theorem Free.later {tab t now : Nat} {lock : RefreshLock} (h : t ≤ now)
    (hfree : Free tab t lock) : Free tab now lock := by
  refine hfree.imp_right fun hdead => ?_
  cases hlive : lockIsLive (some lock) now with
  | false => rfl
  | true => rw [lockIsLive_of_le h hlive] at hdead; cases hdead

theorem Pc.Sound.later {tab t now : Nat} {pc : Pc} (h : t ≤ now) (hpc : pc.Sound tab t) :
    pc.Sound tab now := by
  cases pc with
  | acquireRead turn attempt t' => exact Nat.le_trans hpc h
  | acquireWrite turn attempt current next =>
      exact fun lock hlock => (hpc lock hlock).later h
  | _ => exact hpc

/-- What a call has read before it writes is free. -/
theorem Pc.Sound.free {tab now : Nat} {pc : Pc} {lock : RefreshLock} (hpc : pc.Sound tab now)
    (hread : pc.lastRead = some (some lock)) : Free tab now lock := by
  cases pc with
  | acquireWrite turn attempt current next => exact hpc lock (Option.some.inj hread)
  | renewWrite held stored renewed =>
      cases hread
      exact Or.inl (isOf_iff.mp hpc.1).1
  | releaseRemove stored outcome =>
      cases hread
      exact Or.inl hpc
  | _ => cases hread

/-! ## One call -/

/-- What a move of one call does to the lock. -/
structure Moves (tab : Nat) (b : Shared) (pc pc' : Pc) (b' : Shared) : Prop where
  now : b'.now = b.now
  sound : pc.Sound tab b.now → pc'.Sound tab b.now
  running : pc.isDone = false
  /-- without a write the lock stays, and is one's own where `refresh` starts -/
  keeps : pc.lastRead = none → b'.lock = b.lock
  starts : pc.lastRead = none → ∀ held, pc'.held = some held →
    (∃ lock, b.lock = some lock ∧ lock.isOf tab held.lockId = true) ∨ pc.held = some held
  /-- after a write a pending `refresh` has its lock in the storage -/
  writes : pc.lastRead.isSome = true → pc.Sound tab b.now → ∀ held, pc'.held = some held →
    ∃ lock, b'.lock = some lock ∧ lock.isOf tab held.lockId = true

section Moves

variable {tab : Nat} {b b' : Shared} {pc pc' : Pc}

/-- A move that does not write the lock. -/
theorem Moves.read (hnow : b'.now = b.now) (hlock : b'.lock = b.lock)
    (hread : pc.lastRead = none) (hrunning : pc.isDone = false)
    (hsound : pc.Sound tab b.now → pc'.Sound tab b.now)
    (hstarts : ∀ held, pc'.held = some held →
      (∃ lock, b.lock = some lock ∧ lock.isOf tab held.lockId = true) ∨ pc.held = some held) :
    Moves tab b pc pc' b' where
  now := hnow
  sound := hsound
  running := hrunning
  keeps _ := hlock
  starts _ := hstarts
  writes h := by rw [hread] at h; cases h

/-- A move that writes or removes the lock. -/
theorem Moves.write (hnow : b'.now = b.now) (hread : pc.lastRead.isSome = true)
    (hrunning : pc.isDone = false) (hsound : pc'.Sound tab b.now)
    (hwrites : pc.Sound tab b.now → ∀ held, pc'.held = some held →
      ∃ lock, b'.lock = some lock ∧ lock.isOf tab held.lockId = true) :
    Moves tab b pc pc' b' where
  now := hnow
  sound _ := hsound
  running := hrunning
  keeps h := by rw [h] at hread; cases hread
  starts h := by rw [h] at hread; cases hread
  writes _ := hwrites

/-- A move that neither writes the lock nor enters `refresh`. -/
theorem Moves.quiet (hnow : b'.now = b.now) (hlock : b'.lock = b.lock)
    (hread : pc.lastRead = none) (hheld : pc'.held = none) (hrunning : pc.isDone = false)
    (hsound : pc'.Sound tab b.now) : Moves tab b pc pc' b' :=
  .read hnow hlock hread hrunning (fun _ => hsound) fun held h => by
    rw [hheld] at h
    cases h

end Moves

theorem quiet_failed (turn : Turn) (attempt : Attempt) (tab now : Nat) :
    (attempt.failed turn).held = none ∧ (attempt.failed turn).Sound tab now := by
  cases attempt <;> exact ⟨rfl, trivial⟩

theorem quiet_unmatched (w : Wait) (reason : Reason) (tab now : Nat) :
    (w.unmatched reason).held = none ∧ (w.unmatched reason).Sound tab now := by
  cases reason <;> exact ⟨rfl, trivial⟩

theorem quiet_finish (w : Wait) (e : RefreshEvent) (tab now : Nat) :
    (w.finish e).held = none ∧ (w.finish e).Sound tab now := by
  unfold Wait.finish
  split <;> exact ⟨rfl, trivial⟩

theorem quiet_handleEvent (w : Wait) (reason : Reason) (e : RefreshEvent) (tab now now' : Nat) :
    (w.handleEvent tab now reason e).held = none ∧
      (w.handleEvent tab now reason e).Sound tab now' := by
  unfold Wait.handleEvent
  split
  · exact quiet_finish w e tab now'
  · split
    · exact ⟨rfl, trivial⟩
    · exact quiet_unmatched w reason tab now'

theorem quiet_found (w : Wait) (reason : Reason) (e : RefreshEvent) (tab now now' : Nat) :
    (w.found tab now reason e).held = none ∧ (w.found tab now reason e).Sound tab now' := by
  unfold Wait.found
  split
  · exact quiet_handleEvent w _ e tab now now'
  · exact quiet_finish w e tab now'

/-- **The steps of a call.** -/
theorem moves_step {tab : Nat} {b b' : Shared} {pc pc' : Pc}
    (h : Pc.step tab b pc = some (pc', b')) : Moves tab b pc pc' b' := by
  cases pc with
  | loop deadline =>
      simp only [Pc.step] at h
      split at h <;> cases h <;> exact .quiet rfl rfl rfl rfl rfl trivial
  | acquireNow turn attempt =>
      cases h
      exact .quiet rfl rfl rfl rfl rfl (Nat.le_refl _)
  | acquireRead turn attempt t =>
      simp only [Pc.step] at h
      split at h
      · cases h
        have hfailed := quiet_failed turn attempt tab b.now
        exact .quiet rfl rfl rfl hfailed.1 rfl hfailed.2
      · next hfree =>
          cases h
          refine .read rfl rfl rfl rfl (fun ht lock hlock => ?_) fun _ h => by cases h
          -- what was not live then is not live now
          refine Free.later ht ?_
          simp only [hlock, Option.any_some, Bool.and_eq_true, decide_eq_true_eq, not_and,
            ne_eq, Decidable.not_not] at hfree
          by_cases hlive : lockIsLive (some lock) t = true
          · exact Or.inl (hfree hlive)
          · exact Or.inr (Bool.not_eq_true _ ▸ hlive)
  | acquireWrite turn attempt current next =>
      cases h
      exact .write rfl rfl rfl trivial fun _ _ h => by cases h
  | acquireConfirm turn attempt next =>
      simp only [Pc.step] at h
      have hfailed := quiet_failed turn attempt tab b.now
      split at h
      · next stored hstored =>
          split at h
          · next hown =>
              cases h
              refine .read rfl rfl rfl rfl (fun _ => trivial) fun held hheld => ?_
              cases hheld
              have howner := (isOf_iff.mp hown).1
              exact Or.inl ⟨stored, hstored, isOf_iff.mpr ⟨howner, rfl⟩⟩
          · cases h
            exact .quiet rfl rfl rfl hfailed.1 rfl hfailed.2
      · cases h
        exact .quiet rfl rfl rfl rfl rfl trivial
  | acquireRemove turn attempt =>
      cases h
      have hfailed := quiet_failed turn attempt tab b.now
      refine .write rfl rfl rfl hfailed.2 fun _ held hheld => ?_
      rw [hfailed.1] at hheld
      cases hheld
  | readPeer turn =>
      simp only [Pc.step] at h
      split at h
      · split at h <;> cases h <;> exact .quiet rfl rfl rfl rfl rfl trivial
      · cases h
        exact .quiet rfl rfl rfl rfl rfl trivial
  | readAgain turn =>
      simp only [Pc.step] at h
      split at h <;> cases h <;> exact .quiet rfl rfl rfl rfl rfl trivial
  | sleep deadline wakeAt =>
      simp only [Pc.step] at h
      split at h <;> cases h
      exact .quiet rfl rfl rfl rfl rfl trivial
  | lookup w reason =>
      have hunmatched := quiet_unmatched w reason tab b.now
      simp only [Pc.step] at h
      split at h
      · next e _ =>
          split at h
          · cases h
            have hfound := quiet_found w reason e tab b.now b.now
            exact .quiet rfl rfl rfl hfound.1 rfl hfound.2
          · split at h <;> cases h
            · exact .quiet rfl rfl rfl rfl rfl trivial
            · exact .quiet rfl rfl rfl hunmatched.1 rfl hunmatched.2
      · cases h
        exact .quiet rfl rfl rfl hunmatched.1 rfl hunmatched.2
  | lookupLock w reason e =>
      have hunmatched := quiet_unmatched w reason tab b.now
      have hfound := quiet_found w reason e tab b.now b.now
      simp only [Pc.step] at h
      split at h <;> cases h
      · exact .quiet rfl rfl rfl hunmatched.1 rfl hunmatched.2
      · exact .quiet rfl rfl rfl hfound.1 rfl hfound.2
  | handleLock w reason e =>
      have hunmatched := quiet_unmatched w reason tab b.now
      have hfinish := quiet_finish w e tab b.now
      simp only [Pc.step] at h
      split at h <;> cases h
      · exact .quiet rfl rfl rfl hunmatched.1 rfl hunmatched.2
      · exact .quiet rfl rfl rfl hfinish.1 rfl hfinish.2
  | renewNow lock stored =>
      cases h
      exact .read rfl rfl rfl rfl (fun hs => ⟨hs, hs⟩) fun _ h => Or.inr h
  | renewWrite lock stored renewed =>
      cases h
      refine .write rfl rfl rfl trivial fun hs held hheld => ?_
      cases hheld
      exact ⟨renewed, rfl, isOf_iff.mpr ⟨(isOf_iff.mp hs.2).1, rfl⟩⟩
  | reportRead lock outcome =>
      simp only [Pc.step] at h
      split at h <;> cases h <;> exact .quiet rfl rfl rfl rfl rfl trivial
  | releaseRead lock outcome =>
      simp only [Pc.step] at h
      split at h
      · split at h
        · next hown =>
            cases h
            exact .quiet rfl rfl rfl rfl rfl (isOf_iff.mp hown).1
        · cases h
          exact .quiet rfl rfl rfl rfl rfl trivial
      · cases h
        exact .quiet rfl rfl rfl rfl rfl trivial
  | releaseRemove stored outcome =>
      cases h
      exact .write rfl rfl rfl trivial fun _ _ h => by cases h
  | reportNow | reportWrite | directNow | directWrite =>
      cases h
      exact .quiet rfl rfl rfl rfl rfl trivial
  | waiting | refreshing | direct | done => cases h

/-- What reaches a call from outside. -/
theorem moves_effect {a : Action} {tab : Nat} {b b' : Shared} {pc pc' : Pc}
    (h : a.effect tab b pc = some (pc', b')) : Moves tab b pc pc' b' := by
  cases a with
  | start | tick => cases h
  | run i => exact moves_step h
  | heartbeat i =>
      cases pc with
      | refreshing lock =>
          simp only [Action.effect, Pc.heartbeat] at h
          split at h
          · split at h
            · next hown =>
                cases h
                exact .read rfl rfl rfl rfl (fun _ => hown) fun _ h => Or.inr h
            · cases h
              exact .read rfl rfl rfl rfl (fun _ => trivial) fun _ h => Or.inr h
          · cases h
            exact .read rfl rfl rfl rfl (fun _ => trivial) fun _ h => Or.inr h
      | _ => cases h
  | settle i outcome =>
      cases pc with
      | refreshing | direct =>
          cases h
          exact .quiet rfl rfl rfl rfl rfl trivial
      | _ => cases h
  | deliver i e =>
      cases pc with
      | waiting w =>
          simp only [Action.effect, Pc.deliver] at h
          split at h <;> cases h
          have hhandled := quiet_handleEvent w .message e tab b.now b.now
          exact .quiet rfl rfl rfl hhandled.1 rfl hhandled.2
      | _ => cases h
  | deliverLock i lock =>
      cases pc with
      | waiting w =>
          simp only [Action.effect, Pc.deliverLock] at h
          split at h
          · split at h
            · cases h
              exact .quiet rfl rfl rfl rfl rfl trivial
            · split at h <;> cases h <;> exact .quiet rfl rfl rfl rfl rfl trivial
          · cases h
      | _ => cases h
  | expiryTimer i | staleTimer i | timeoutTimer i =>
      cases pc with
      | waiting w =>
          simp only [Action.effect, Pc.fire] at h
          split at h <;> cases h
          exact .quiet rfl rfl rfl rfl rfl trivial
      | _ => cases h

/-! ## The browser -/

/-- **The invariant.**  A tab runs one call at a time, and a pending `refresh` has
its lock in the storage. -/
structure Guarded (s : Browser) : Prop where
  alone : ∀ i j : Nat, ∀ c d, s.calls[i]? = some c → s.calls[j]? = some d → c.tab = d.tab →
    c.pc.isDone = false → d.pc.isDone = false → i = j
  held : ∀ c ∈ s.calls, ∀ held, c.pc.held = some held →
    ∃ lock, s.shared.lock = some lock ∧ lock.isOf c.tab held.lockId = true
  sound : ∀ c ∈ s.calls, c.pc.Sound c.tab s.shared.now

theorem guarded_fresh : Guarded fresh := by
  refine ⟨fun i j c d h => ?_, fun c hc => ?_, fun c hc => ?_⟩
  · cases h
  · cases hc
  · cases hc

theorem running_of_held {pc : Pc} {lock : RefreshLock} (h : pc.held = some lock) :
    pc.isDone = false := by
  cases pc <;> first | rfl | cases h

/-- **One lock, one tab.** -/
theorem Guarded.exclusive {s : Browser} (hs : Guarded s) : Exclusive s := by
  intro c hc d hd hinside hinside'
  obtain ⟨held, hheld⟩ := Option.isSome_iff_exists.mp hinside
  obtain ⟨held', hheld'⟩ := Option.isSome_iff_exists.mp hinside'
  obtain ⟨lock, hlock, hown⟩ := hs.held c hc held hheld
  obtain ⟨lock', hlock', hown'⟩ := hs.held d hd held' hheld'
  have hsame : lock = lock' := Option.some.inj (hlock.symm.trans hlock')
  subst hsame
  exact (isOf_iff.mp hown).1.symm.trans (isOf_iff.mp hown').1

section Run

variable {s s' : Browser} {a : Action} {i : Nat} {call : Call} {pc : Pc} {b : Shared}

/-- Nothing but its own next step reaches a call that is about to write. -/
theorem Moved.run_of_writes (h : Moved a s i call pc b)
    (hwrites : call.pc.lastRead.isSome = true) : a = .run i := by
  have heffect := h.effect
  cases hpc : call.pc with
  | acquireWrite | acquireRemove | renewWrite | releaseRemove =>
      rw [hpc] at heffect
      cases a with
      | run j =>
          cases h.reaches
          rfl
      | _ => cases heffect
  | _ =>
      rw [hpc] at hwrites
      cases hwrites

/-- What a call finds when it writes is free. -/
theorem Moved.free (h : Moved a s i call pc b) (hs : Guarded s) (hcurrent : Current s a)
    (hwrites : call.pc.lastRead.isSome = true) {lock : RefreshLock}
    (hlock : s.shared.lock = some lock) : Free call.tab s.shared.now lock := by
  obtain ⟨read, hread⟩ := Option.isSome_iff_exists.mp hwrites
  have hrun := h.run_of_writes hwrites
  subst hrun
  have hfound : s.shared.lock = read := hcurrent call h.found read hread
  refine (hs.sound call (List.mem_of_getElem? h.found)).free (hread.trans ?_)
  rw [← hfound, hlock]

/-- While a call writes, no other call is inside `refresh`. -/
theorem Moved.others_out (h : Moved a s i call pc b) (hs : Guarded s) (hbeating : Beating s)
    (hcurrent : Current s a) (hwrites : call.pc.lastRead.isSome = true)
    (hrunning : call.pc.isDone = false) {j : Nat} (hne : j ≠ i) {d : Call}
    (hd : s.calls[j]? = some d) : d.pc.held = none := by
  cases hheld : d.pc.held with
  | none => rfl
  | some held =>
      have hmem := List.mem_of_getElem? hd
      obtain ⟨lock, hlock, hown⟩ := hs.held d hmem held hheld
      rcases h.free hs hcurrent hwrites hlock with howner | hdead
      · have htab : d.tab = call.tab := (isOf_iff.mp hown).1.symm.trans howner
        exact absurd (hs.alone j i d call hd h.found htab (running_of_held hheld) hrunning) hne
      · have hlive := hbeating d hmem held hheld lock hlock hown
        rw [hdead] at hlive
        cases hlive

/-- A call among the calls after a move. -/
theorem getElem?_moved {j : Nat} {d : Call}
    (h : (s.calls.set i { call with pc := pc })[j]? = some d) :
    (j = i ∧ d = { call with pc := pc }) ∨ (j ≠ i ∧ s.calls[j]? = some d) := by
  by_cases hj : j = i
  · subst hj
    rw [List.getElem?_set] at h
    split at h
    · split at h <;> cases h
      exact Or.inl ⟨rfl, rfl⟩
    · exact absurd rfl ‹_›
  · rw [List.getElem?_set_ne (Ne.symm hj)] at h
    exact Or.inr ⟨hj, h⟩

theorem Guarded.moved (hs : Guarded s) (hbeating : Beating s) (hcurrent : Current s a)
    (h : Moved a s i call pc b) : Guarded ⟨b, s.calls.set i { call with pc := pc }⟩ := by
  have hmoves := moves_effect h.effect
  have hcall := List.mem_of_getElem? h.found
  refine ⟨fun j k c d hc hd htab hrunning hrunning' => ?_, fun d hd held hheld => ?_,
    fun d hd => ?_⟩
  · rcases getElem?_moved hc with ⟨hj, hcmoved⟩ | ⟨_, hcold⟩ <;>
      rcases getElem?_moved hd with ⟨hk, hdmoved⟩ | ⟨_, hdold⟩
    · exact hj.trans hk.symm
    · subst hj hcmoved
      exact hs.alone _ _ call d h.found hdold htab hmoves.running hrunning'
    · subst hk hdmoved
      exact hs.alone _ _ c call hcold h.found htab hrunning hmoves.running
    · exact hs.alone _ _ c d hcold hdold htab hrunning hrunning'
  · obtain ⟨j, hj⟩ := List.mem_iff_getElem?.mp hd
    cases hread : call.pc.lastRead with
    | none =>
        rw [show b.lock = s.shared.lock from hmoves.keeps hread]
        rcases getElem?_moved hj with ⟨rfl, rfl⟩ | ⟨_, hj⟩
        · rcases hmoves.starts hread held hheld with hlock | hheld'
          · exact hlock
          · exact hs.held call hcall held hheld'
        · exact hs.held d (List.mem_of_getElem? hj) held hheld
    | some read =>
        have hwrites : call.pc.lastRead.isSome = true := by rw [hread]; rfl
        rcases getElem?_moved hj with ⟨rfl, rfl⟩ | ⟨hne, hj⟩
        · exact hmoves.writes hwrites (hs.sound call hcall) held hheld
        · rw [h.others_out hs hbeating hcurrent hwrites hmoves.running hne hj] at hheld
          cases hheld
  · obtain ⟨j, hj⟩ := List.mem_iff_getElem?.mp hd
    rw [show b.now = s.shared.now from hmoves.now]
    rcases getElem?_moved hj with ⟨rfl, rfl⟩ | ⟨_, hj⟩
    · exact hmoves.sound (hs.sound call hcall)
    · exact hs.sound d (List.mem_of_getElem? hj)

/-- **One step.** -/
theorem guarded_step (hs : Guarded s) (hbeating : Beating s) (hcurrent : Current s a)
    (h : step a s = some s') : Guarded s' ∧ SparesLive s a s' := by
  rcases step_cases h with ⟨tab, rfl, rfl⟩ | ⟨ms, rfl, rfl⟩ | ⟨i, call, pc, b, hmoved, rfl⟩
  · refine ⟨⟨fun j k c d hc hd htab hc' hd' => ?_, fun c hc held hheld => ?_, fun c hc => ?_⟩,
      fun lock hlock _ => Or.inl hlock⟩
    · have hold : ∀ {j : Nat} {c : Call}, (s.calls ++ [⟨tab, .loop
          (s.shared.now + refreshWaitTimeoutMs)⟩])[j]? = some c →
          s.calls[j]? = some c ∨ (j = s.calls.length ∧ c.tab = tab) := by
        intro j c hj
        rw [List.getElem?_append] at hj
        split at hj
        · exact Or.inl hj
        · obtain ⟨hzero, hc⟩ := List.getElem?_eq_some_iff.mp hj
          simp only [List.length_singleton, Nat.lt_one_iff] at hzero
          subst hc
          exact Or.inr ⟨by omega, by simp [hzero]⟩
      rcases hold hc with hc₁ | ⟨hj, hctab⟩ <;> rcases hold hd with hd₁ | ⟨hk, hdtab⟩
      · exact hs.alone j k c d hc₁ hd₁ htab hc' hd'
      · rw [hcurrent c (List.mem_of_getElem? hc₁) (htab.trans hdtab)] at hc'
        cases hc'
      · rw [hcurrent d (List.mem_of_getElem? hd₁) (htab.symm.trans hctab)] at hd'
        cases hd'
      · rw [hj, hk]
    · rcases List.mem_append.mp hc with hc | hc
      · exact hs.held c hc held hheld
      · rw [List.mem_singleton.mp hc] at hheld
        cases hheld
    · rcases List.mem_append.mp hc with hc | hc
      · exact hs.sound c hc
      · rw [List.mem_singleton.mp hc]
        trivial
  · exact ⟨⟨hs.alone, hs.held, fun c hc => (hs.sound c hc).later (Nat.le_add_right ..)⟩,
      fun lock hlock _ => Or.inl hlock⟩
  · refine ⟨hs.moved hbeating hcurrent hmoved, fun lock hlock hlive => ?_⟩
    have hmoves := moves_effect hmoved.effect
    cases hread : call.pc.lastRead with
    | none => exact Or.inl ((hmoves.keeps hread).trans hlock)
    | some read =>
        have hwrites : call.pc.lastRead.isSome = true := by rw [hread]; rfl
        rcases hmoved.free hs hcurrent hwrites hlock with howner | hdead
        · exact Or.inr ⟨i, call, hmoved.reaches, hmoved.found, howner⟩
        · rw [hdead] at hlive
          cases hlive

/-- What the assumptions say about a step: heartbeats have come in time, and the
step meets the condition. -/
def InOrder (s : Browser) (a : Action) (_ : Browser) : Prop := Beating s ∧ Current s a

/-- **When at most one tab refreshes.**  In every run in which heartbeats come in
time and every call that writes or removes the lock finds it as it has read it,
no two tabs are ever inside `refresh` under a confirmed lock, and no tab removes
or overwrites a live lock of another one. -/
theorem refresh_exclusive {actions : List Action} (h : Along step InOrder actions fresh) :
    Along step (fun s a s' => Exclusive s' ∧ SparesLive s a s') actions fresh := by
  refine Along.invariant (I := Guarded) (fun s a s' hs hstep horder => ?_) guarded_fresh h
  obtain ⟨hs', hspares⟩ := guarded_step hs horder.1 horder.2 hstep
  exact ⟨hs', hs'.exclusive, hspares⟩

end Run

instance (s : Browser) (a : Action) (s' : Browser) : Decidable (InOrder s a s') :=
  inferInstanceAs (Decidable (Beating s ∧ Current s a))

/-- The second tab waits for the first one, which renews its lock once. -/
def inTurn : List Action :=
  [.start 1, .start 2, .run 0, .run 0, .run 0, .run 0, .run 0,
    .run 1, .run 1, .run 1, .run 1, .run 1,
    .tick 2000, .heartbeat 0, .run 0, .run 0, .tick 2000, .settle 0 none,
    .run 0, .run 0, .run 0, .run 0, .run 0,
    .deliver 1 ⟨1, 0, none, false, 4000⟩]

theorem inTurn_exclusive :
    Along step (fun s a s' => Exclusive s' ∧ SparesLive s a s') inTurn fresh ∧
      ((steps step inTurn fresh).map fun s => s.calls.map fun c => c.pc.isDone) =
        some [true, true] :=
  ⟨refresh_exclusive (by decide +kernel), by decide +kernel⟩

/-- Both tabs read the lock before one of them writes its own. -/
def bothRead : List Action :=
  [.start 1, .start 2, .run 0, .run 0, .run 0, .run 1, .run 1, .run 1,
    .run 0, .run 0, .run 1, .run 1]

/-- The second tab overwrites a lock that has just been confirmed, and confirms its
own: two tabs refresh. -/
theorem two_tabs_refresh :
    Along step (fun s _ _ => Beating s) bothRead fresh ∧
      ¬ Along step (fun _ _ s' => Exclusive s') bothRead fresh := by
  decide +kernel

end AsterYggdrasil.CrossTab
