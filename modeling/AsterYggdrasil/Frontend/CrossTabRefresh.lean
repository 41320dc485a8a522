import AsterYggdrasil.Interleave.Steps

/-!
# Refreshing the login from one tab

The tabs of a browser share one refresh cookie, so only one of them should
refresh the login at a time.  They agree on it through two keys of the local
storage: a lock, which its owner renews while the refresh is pending, and the
event that tells the others how the refresh ended.  A tab that finds the lock
taken waits for the event, or for the lock to expire or to go stale.

Storage has no compare-and-swap.  Every read, write and removal is one step, and
so is every look at the clock; between two steps of a tab the other tabs and the
time move on.  What is delivered to a tab (storage events, messages of the
broadcast channel, timers) comes as an action of its own: a recorded event may be
delivered late, in any order, more than once, or never.

Ids come from `crypto.randomUUID`; here they are counted.
-/

namespace AsterYggdrasil.CrossTab

/-! ## Locks and events -/

/-- `REFRESH_LOCK_TTL_MS`. -/
def refreshLockTtlMs : Nat := 10000

/-- `REFRESH_LOCK_STALE_MS`. -/
def refreshLockStaleMs : Nat := 3000

/-- `REFRESH_WAIT_TIMEOUT_MS`. -/
def refreshWaitTimeoutMs : Nat := 45000

inductive RefreshFailureKind
  | auth | transient
  deriving DecidableEq, Repr

structure RefreshLock where
  ownerId : Nat
  lockId : Nat
  expiresAt : Nat
  updatedAt : Option Nat
  deriving DecidableEq, Repr

/-- How a call of `refresh` ended: `none` is success. -/
abbrev Outcome := Option RefreshFailureKind

/-- An event; its `status` and `failureKind` are the outcome. -/
structure RefreshEvent where
  ownerId : Nat
  lockId : Nat
  outcome : Outcome
  fallback : Bool
  createdAt : Nat
  deriving DecidableEq, Repr

/-- `lockIsActive`. -/
def lockIsActive (lock : Option RefreshLock) (now : Nat) : Bool :=
  lock.any fun lock => now < lock.expiresAt

/-- `lockIsLive`. -/
def lockIsLive (lock : Option RefreshLock) (now : Nat) : Bool :=
  lock.any fun lock => now < lock.expiresAt &&
    lock.updatedAt.all fun updatedAt => now < updatedAt + refreshLockStaleMs

/-- `lock?.ownerId === currentTabId && lock.lockId === acquiredLock.lockId`. -/
def RefreshLock.isOf (lock : RefreshLock) (tab lockId : Nat) : Bool :=
  lock.ownerId = tab && lock.lockId = lockId

/-- `eventMatchesPeerLock`. -/
def RefreshEvent.matchesPeerLock (e : RefreshEvent) (tab : Nat) (peerLock : RefreshLock)
    (now : Nat) : Bool :=
  e.ownerId = peerLock.ownerId && e.ownerId ≠ tab && e.lockId = peerLock.lockId &&
    now ≤ e.createdAt + refreshWaitTimeoutMs

/-- `eventMatchesFallbackRefresh`, before it reads the lock. -/
def RefreshEvent.mayMatchFallback (e : RefreshEvent) (tab waitStartedAt now : Nat) : Bool :=
  e.fallback && e.ownerId ≠ tab && waitStartedAt ≤ e.createdAt &&
    now ≤ e.createdAt + refreshWaitTimeoutMs

/-! ## The place of a call -/

/-- One turn of the loop of `runWithCrossTabRefreshLock`. -/
structure Turn where
  deadline : Nat
  waitStartedAt : Nat
  deriving DecidableEq, Repr

/-- The two calls of `tryAcquireLock` in a turn. -/
inductive Attempt
  | first | recovery
  deriving DecidableEq, Repr

/-- A call of `waitForPeerRefresh`: its arguments, and when its timers are due. -/
structure Wait where
  turn : Turn
  peerLock : RefreshLock
  expiryAt : Nat
  staleAt : Option Nat
  deriving DecidableEq, Repr

/-- What a waiter does with an event, and what it does without one. -/
inductive Reason
  | install | expiry | stale | removed | message
  deriving DecidableEq, Repr

/-- How a call of `runWithCrossTabRefreshLock` ended. -/
inductive Return
  | ran (outcome : Outcome)
  | peerSucceeded (w : Wait)
  | peerFailed (w : Wait)
  | peerAuthFailed (w : Wait)
  | timedOut
  deriving DecidableEq, Repr

/-- Where a call stands: the next step it takes, with its local variables. -/
inductive Pc
  | loop (deadline : Nat)
  -- `tryAcquireLock`
  | acquireNow (turn : Turn) (attempt : Attempt)
  | acquireRead (turn : Turn) (attempt : Attempt) (now : Nat)
  | acquireWrite (turn : Turn) (attempt : Attempt) (current : Option RefreshLock)
      (next : RefreshLock)
  | acquireConfirm (turn : Turn) (attempt : Attempt) (next : RefreshLock)
  | acquireRemove (turn : Turn) (attempt : Attempt)
  -- the rest of the turn
  | readPeer (turn : Turn)
  | readAgain (turn : Turn)
  | sleep (deadline wakeAt : Nat)
  -- `waitForPeerRefresh`
  | lookup (w : Wait) (reason : Reason)
  | lookupLock (w : Wait) (reason : Reason) (e : RefreshEvent)
  | handleLock (w : Wait) (reason : Reason) (e : RefreshEvent)
  | waiting (w : Wait)
  -- `refreshWithLock`
  | refreshing (lock : RefreshLock)
  | renewNow (lock stored : RefreshLock)
  | renewWrite (lock stored renewed : RefreshLock)
  | reportRead (lock : RefreshLock) (outcome : Outcome)
  | reportNow (lock : RefreshLock) (outcome : Outcome)
  | reportWrite (lock : RefreshLock) (outcome : Outcome) (e : RefreshEvent)
  | releaseRead (lock : RefreshLock) (outcome : Outcome)
  | releaseRemove (stored : RefreshLock) (outcome : Outcome)
  -- `refreshWithoutConfirmedLock`
  | direct (lockId : Nat)
  | directNow (lockId : Nat) (outcome : Outcome)
  | directWrite (e : RefreshEvent) (outcome : Outcome)
  | done (r : Return)
  deriving DecidableEq, Repr

/-- A `refresh` that has ended. -/
structure Settled where
  tab : Nat
  lockId : Nat
  fallback : Bool
  outcome : Outcome
  deriving DecidableEq, Repr

/-- What the tabs share: the clock, the two keys of the storage, the values that
may still be delivered, and the next id.  `settled` and `directIds` are the
history: how every `refresh` ended, and the ids of those without a lock. -/
structure Shared where
  now : Nat
  lock : Option RefreshLock
  event : Option RefreshEvent
  lockValues : List (Option RefreshLock)
  recorded : List RefreshEvent
  nextId : Nat
  settled : List Settled
  directIds : List Nat
  deriving DecidableEq, Repr

/-- An item of the storage is written, or removed; the other tabs will hear. -/
def Shared.writeLock (b : Shared) (lock : Option RefreshLock) : Shared :=
  { b with lock := lock, lockValues := lock :: b.lockValues }

/-- `broadcastRefreshEvent`. -/
def Shared.record (b : Shared) (e : RefreshEvent) : Shared :=
  { b with event := some e, recorded := e :: b.recorded }

/-! ## The steps of a call -/

/-- After a failed attempt to acquire the lock. -/
def Attempt.failed (turn : Turn) : Attempt → Pc
  | .first => .readPeer turn
  | .recovery => .readAgain turn

/-- `waitForPeerRefresh(peerLock, deadline, waitStartedAt)`. -/
def Turn.wait (turn : Turn) (peerLock : RefreshLock) : Wait where
  turn := turn
  peerLock := peerLock
  expiryAt := peerLock.expiresAt
  staleAt := peerLock.updatedAt.map (· + refreshLockStaleMs)

/-- The promise is resolved with an event. -/
def Wait.finish (w : Wait) (e : RefreshEvent) : Pc :=
  match e.outcome with
  | none => .done (.peerSucceeded w)
  | some .auth => .done (.peerAuthFailed w)
  | some .transient => .done (.peerFailed w)

/-- No event has matched: the promise is resolved otherwise, or the wait goes on. -/
def Wait.unmatched (w : Wait) : Reason → Pc
  | .install | .message => .waiting w
  | .expiry | .stale | .removed => .loop w.turn.deadline

/-- `handleEvent`. -/
def Wait.handleEvent (w : Wait) (tab now : Nat) (reason : Reason) (e : RefreshEvent) : Pc :=
  if e.matchesPeerLock tab w.peerLock now then w.finish e
  else if e.mayMatchFallback tab w.turn.waitStartedAt now then .handleLock w reason e
  else w.unmatched reason

/-- `getStoredEventForLock` has found an event. -/
def Wait.found (w : Wait) (tab now : Nat) (reason : Reason) (e : RefreshEvent) : Pc :=
  match reason with
  -- the event is matched a second time
  | .removed => w.handleEvent tab now .removed e
  | _ => w.finish e

/-- The next step of a call that runs; a call that waits for something takes
none. -/
def Pc.step (tab : Nat) (b : Shared) : Pc → Option (Pc × Shared)
  | .loop deadline =>
      if b.now ≤ deadline then some (.acquireNow ⟨deadline, b.now⟩ .first, b)
      else some (.done .timedOut, b)
  | .acquireNow turn attempt => some (.acquireRead turn attempt b.now, b)
  | .acquireRead turn attempt now =>
      if lockIsLive b.lock now && b.lock.any fun lock => lock.ownerId ≠ tab then
        some (attempt.failed turn, b)
      else
        some (.acquireWrite turn attempt b.lock
          ⟨tab, b.nextId, now + refreshLockTtlMs, some now⟩, { b with nextId := b.nextId + 1 })
  | .acquireWrite turn attempt _ next =>
      some (.acquireConfirm turn attempt next, b.writeLock (some next))
  | .acquireConfirm turn attempt next =>
      match b.lock with
      | some stored =>
          if stored.isOf tab next.lockId then some (.refreshing stored, b)
          else some (attempt.failed turn, b)
      | none => some (.acquireRemove turn attempt, b)
  | .acquireRemove turn attempt => some (attempt.failed turn, b.writeLock none)
  | .readPeer turn =>
      match b.lock with
      | some peerLock =>
          if lockIsLive (some peerLock) b.now then
            some (.lookup (turn.wait peerLock) .install, b)
          else some (.acquireNow turn .recovery, b)
      | none => some (.acquireNow turn .recovery, b)
  | .readAgain turn =>
      if lockIsLive b.lock b.now then some (.sleep turn.deadline (b.now + 25), b)
      else
        some (.direct b.nextId,
          { b with nextId := b.nextId + 1, directIds := b.nextId :: b.directIds })
  | .sleep deadline wakeAt => if wakeAt ≤ b.now then some (.loop deadline, b) else none
  | .lookup w reason =>
      match b.event with
      | some e =>
          if e.matchesPeerLock tab w.peerLock b.now then some (w.found tab b.now reason e, b)
          else if e.mayMatchFallback tab w.turn.waitStartedAt b.now then
            some (.lookupLock w reason e, b)
          else some (w.unmatched reason, b)
      | none => some (w.unmatched reason, b)
  | .lookupLock w reason e =>
      if lockIsActive b.lock b.now then some (w.unmatched reason, b)
      else some (w.found tab b.now reason e, b)
  | .handleLock w reason e =>
      if lockIsActive b.lock b.now then some (w.unmatched reason, b)
      else some (w.finish e, b)
  | .renewNow lock stored =>
      some (.renewWrite lock stored { stored with
        expiresAt := b.now + refreshLockTtlMs
        updatedAt := some b.now }, b)
  | .renewWrite _ _ renewed => some (.refreshing renewed, b.writeLock (some renewed))
  | .reportRead lock outcome =>
      if b.lock.any fun stored => stored.isOf tab lock.lockId then
        some (.reportNow lock outcome, b)
      else some (.releaseRead lock outcome, b)
  | .reportNow lock outcome =>
      some (.reportWrite lock outcome ⟨tab, lock.lockId, outcome, false, b.now⟩, b)
  | .reportWrite lock outcome e => some (.releaseRead lock outcome, b.record e)
  | .releaseRead lock outcome =>
      match b.lock with
      | some stored =>
          if stored.isOf tab lock.lockId then some (.releaseRemove stored outcome, b)
          else some (.done (.ran outcome), b)
      | none => some (.done (.ran outcome), b)
  | .releaseRemove _ outcome => some (.done (.ran outcome), b.writeLock none)
  | .directNow lockId outcome =>
      some (.directWrite ⟨tab, lockId, outcome, true, b.now⟩ outcome, b)
  | .directWrite e outcome => some (.done (.ran outcome), b.record e)
  | .waiting _ | .refreshing _ | .direct _ | .done _ => none

/-! ## The browser -/

/-- A call of `runWithCrossTabRefreshLock` in a tab. -/
structure Call where
  tab : Nat
  pc : Pc
  deriving DecidableEq, Repr

structure Browser where
  shared : Shared
  calls : List Call
  deriving DecidableEq, Repr

/-- What happens in the browser.  `run` is the next step of a call; the others
reach a call from outside. -/
inductive Action
  | start (tab : Nat)
  | tick (ms : Nat)
  | run (i : Nat)
  /-- the interval of `refreshWithLock` fires -/
  | heartbeat (i : Nat)
  /-- `refresh` resolves or rejects -/
  | settle (i : Nat) (outcome : Outcome)
  /-- a storage event or a message brings a refresh event -/
  | deliver (i : Nat) (e : RefreshEvent)
  /-- a storage event brings a value of the lock -/
  | deliverLock (i : Nat) (lock : Option RefreshLock)
  | expiryTimer (i : Nat)
  | staleTimer (i : Nat)
  | timeoutTimer (i : Nat)
  deriving DecidableEq, Repr

/-- `refreshLockLease`, from its read of the lock. -/
def Pc.heartbeat (tab : Nat) (b : Shared) : Pc → Option (Pc × Shared)
  | .refreshing lock =>
      match b.lock with
      | some stored =>
          if stored.isOf tab lock.lockId then some (.renewNow lock stored, b)
          else some (.refreshing lock, b)
      | none => some (.refreshing lock, b)
  | _ => none

/-- A pending `refresh` ends. -/
def Pc.settle (outcome : Outcome) (tab : Nat) (b : Shared) : Pc → Option (Pc × Shared)
  | .refreshing lock =>
      some (.reportRead lock outcome,
        { b with settled := ⟨tab, lock.lockId, false, outcome⟩ :: b.settled })
  | .direct lockId =>
      some (.directNow lockId outcome,
        { b with settled := ⟨tab, lockId, true, outcome⟩ :: b.settled })
  | _ => none

/-- `onChannelMessage`, and `onStorage` for the event. -/
def Pc.deliver (e : RefreshEvent) (tab : Nat) (b : Shared) : Pc → Option (Pc × Shared)
  | .waiting w =>
      if b.recorded.contains e then some (w.handleEvent tab b.now .message e, b) else none
  | _ => none

/-- `onStorage` for the lock. -/
def Pc.deliverLock (lock : Option RefreshLock) (b : Shared) : Pc → Option (Pc × Shared)
  | .waiting w =>
      if b.lockValues.contains lock then
        match lock with
        | none => some (.lookup w .removed, b)
        | some updated =>
            if updated.isOf w.peerLock.ownerId w.peerLock.lockId &&
                lockIsActive (some updated) b.now then
              some (.waiting { w with
                expiryAt := updated.expiresAt
                staleAt := updated.updatedAt.map (· + refreshLockStaleMs) }, b)
            else some (.waiting w, b)
      else none
  | _ => none

/-- A timer of a waiter fires when it is due. -/
def Pc.fire (due : Wait → Option Nat) (next : Wait → Pc) (b : Shared) : Pc → Option (Pc × Shared)
  | .waiting w => if (due w).any (· ≤ b.now) then some (next w, b) else none
  | _ => none

/-- The call an action reaches. -/
def Action.call? : Action → Option Nat
  | .start _ | .tick _ => none
  | .run i | .heartbeat i | .settle i _ | .deliver i _ | .deliverLock i _ | .expiryTimer i
  | .staleTimer i | .timeoutTimer i => some i

/-- What an action does to the call it reaches, and to what the tabs share. -/
def Action.effect : Action → Nat → Shared → Pc → Option (Pc × Shared)
  | .start _ | .tick _ => fun _ _ _ => none
  | .run _ => Pc.step
  | .heartbeat _ => Pc.heartbeat
  | .settle _ outcome => Pc.settle outcome
  | .deliver _ e => Pc.deliver e
  | .deliverLock _ lock => fun _ => Pc.deliverLock lock
  | .expiryTimer _ => fun _ => Pc.fire (fun w => some w.expiryAt) fun w => .lookup w .expiry
  | .staleTimer _ => fun _ => Pc.fire Wait.staleAt fun w => .lookup w .stale
  | .timeoutTimer _ => fun _ => Pc.fire (fun w => some w.turn.deadline) fun _ => .done .timedOut

/-- One call moves. -/
def Browser.move (s : Browser) (a : Action) : Option Browser := do
  let i ← a.call?
  let call ← s.calls[i]?
  let (pc, shared) ← a.effect call.tab s.shared call.pc
  pure ⟨shared, s.calls.set i { call with pc := pc }⟩

/-- Where an action leads, if it can happen. -/
def step (a : Action) (s : Browser) : Option Browser :=
  match a with
  | .start tab =>
      some { s with calls := s.calls ++ [⟨tab, .loop (s.shared.now + refreshWaitTimeoutMs)⟩] }
  | .tick ms => some { s with shared := { s.shared with now := s.shared.now + ms } }
  | a => s.move a

/-- A call has moved. -/
structure Moved (a : Action) (s : Browser) (i : Nat) (call : Call) (pc : Pc) (shared : Shared) :
    Prop where
  reaches : a.call? = some i
  found : s.calls[i]? = some call
  effect : a.effect call.tab s.shared call.pc = some (pc, shared)

/-- **What one action does.** -/
theorem step_cases {a : Action} {s s' : Browser} (h : step a s = some s') :
    (∃ tab, a = .start tab ∧ s' = ⟨s.shared,
      s.calls ++ [⟨tab, .loop (s.shared.now + refreshWaitTimeoutMs)⟩]⟩) ∨
    (∃ ms, a = .tick ms ∧ s' = ⟨{ s.shared with now := s.shared.now + ms }, s.calls⟩) ∨
    ∃ i call pc shared, Moved a s i call pc shared ∧
      s' = ⟨shared, s.calls.set i { call with pc := pc }⟩ := by
  have hmove : s.move a = some s' → ∃ i call pc shared, Moved a s i call pc shared ∧
      s' = ⟨shared, s.calls.set i { call with pc := pc }⟩ := by
    intro h
    simp only [Browser.move, Option.bind_eq_bind, Option.bind_eq_some_iff] at h
    obtain ⟨i, hi, call, hcall, ⟨pc, shared⟩, heffect, hs'⟩ := h
    exact ⟨i, call, pc, shared, ⟨hi, hcall, heffect⟩, (Option.some.inj hs').symm⟩
  cases a with
  | start tab => exact Or.inl ⟨tab, rfl, (Option.some.inj h).symm⟩
  | tick ms => exact Or.inr (Or.inl ⟨ms, rfl, (Option.some.inj h).symm⟩)
  | _ => exact Or.inr (Or.inr (hmove h))

/-- Nothing has been stored yet. -/
def fresh : Browser := ⟨⟨0, none, none, [], [], 0, [], []⟩, []⟩

end AsterYggdrasil.CrossTab
