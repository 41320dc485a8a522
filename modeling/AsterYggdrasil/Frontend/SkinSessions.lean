import AsterYggdrasil.Frontend.SkinPage

/-!
# Sessions of the skin editor

A session is a sequence of completed edits, undos and redos.  Next to the page runs a timeline of
what was shown: an edit that commits something adds its outcome, an undo goes back and a redo goes
forth.

The indices in the history are `u32`s: **`undo_redo_inverse`** says for canvases of at most
`2 ^ 32` pixels that undos lead back along the timeline, redos lead forth again, an id has one
state, and no entry fails to be restored.  On a larger canvas a stroke may be recorded at another
pixel (`largeCanvas_notRestored`).
-/

namespace AsterYggdrasil.SkinPage

open SkinPixels SkinEditor UndoHistory

/-! ## The page -/

structure Page where
  canvas : Canvas
  model : MinecraftTextureModel
  history : List HistoryEntry
  redo : List HistoryEntry
  currentStateId : Nat
  savedStateId : Nat
  nextStateId : Nat
  dirty : Bool

namespace Page

/-- A texture has been loaded. -/
def load (canvas : Canvas) (model : MinecraftTextureModel) : Page where
  canvas := canvas
  model := model
  history := []
  redo := []
  currentStateId := 0
  savedStateId := 0
  nextStateId := 1
  dirty := false

/-- What the page shows. -/
def state (p : Page) : State := ⟨p.canvas, p.model, p.currentStateId⟩

def currentSnapshot (p : Page) : HistoryEntry := .snapshot p.canvas p.model p.currentStateId

def commitMutation (p : Page) (entry : HistoryEntry) : Page :=
  { p with
    history := pushBoundedHistory p.history entry
    redo := []
    nextStateId := p.nextStateId + 1
    currentStateId := p.nextStateId
    dirty := p.nextStateId ≠ p.savedStateId }

def restoreHistoryEntry (p : Page) (entry : HistoryEntry) :
    Except Failure (Page × HistoryEntry) :=
  (restoreSkinHistoryEntry entry p.state).map fun (restored, inverse) =>
    ({ p with
      canvas := restored.canvas
      model := restored.model
      currentStateId := restored.stateId
      dirty := restored.stateId ≠ p.savedStateId }, inverse)

/-- `undo`.  An entry that cannot be restored is gone. -/
def undo (p : Page) : Page :=
  match p.history.getLast? with
  | none => p
  | some previous =>
      let p := { p with history := p.history.dropLast }
      match p.restoreHistoryEntry previous with
      | .error _ => p
      | .ok (p, inverse) => { p with redo := pushBoundedHistory p.redo inverse }

/-- `redo`. -/
def redoUndone (p : Page) : Page :=
  match p.redo.getLast? with
  | none => p
  | some next =>
      let p := { p with redo := p.redo.dropLast }
      match p.restoreHistoryEntry next with
      | .error _ => p
      | .ok (p, inverse) => { p with history := pushBoundedHistory p.history inverse }

/-- A stroke, from `handlePointerDown` to `finishStroke`.  `Uint32Array.from` takes the indices
modulo `2 ^ 32`. -/
def stroke (p : Page) (pixels : List (Tool × Nat)) : Page :=
  let painted := pixels.foldl paintPixel ⟨p.canvas, [], false⟩
  let p := { p with canvas := painted.canvas }
  if painted.changed && !painted.before.isEmpty then
    let sorted := painted.before.insertionSort (·.1 ≤ ·.1)
    p.commitMutation (.pixels (sorted.map Prod.snd) (sorted.map fun q => UInt32.ofNat q.1) p.model
      p.canvas.size p.currentStateId)
  else p

/-- The bucket, with the canvas that it has filled. -/
def bucketFill (p : Page) (filled : Option Canvas) : Page :=
  match filled with
  | none => p
  | some canvas => { p with canvas := canvas }.commitMutation p.currentSnapshot

/-- `switchModel`, with the canvas that it has repacked. -/
def switchModel (p : Page) (nextModel : MinecraftTextureModel) (repacked : Canvas) : Page :=
  if nextModel = p.model then p
  else
    { p with
      canvas := repacked
      model := nextModel }.commitMutation p.currentSnapshot

def clearSkin (p : Page) : Page :=
  { p with canvas := p.canvas.clear }.commitMutation p.currentSnapshot

/-- `importSkin`, with the decoded canvas and its model. -/
def importSkin (p : Page) (normalized : Canvas) (detectedModel : MinecraftTextureModel) : Page :=
  { p with
    canvas := normalized
    model := detectedModel }.commitMutation p.currentSnapshot

/-- The page as stacks of entries. -/
def toStacks (p : Page) : Stacks State HistoryEntry := ⟨p.state, p.history, p.redo⟩

end Page

/-- What is done in a session. -/
inductive Step
  | stroke (pixels : List (Tool × Nat))
  | bucketFill (filled : Option Canvas)
  | switchModel (nextModel : MinecraftTextureModel) (repacked : Canvas)
  | clear
  | importSkin (normalized : Canvas) (detectedModel : MinecraftTextureModel)
  | undo
  | redo

def Page.complete (p : Page) : Step → Page
  | .stroke pixels => p.stroke pixels
  | .bucketFill filled => p.bucketFill filled
  | .switchModel nextModel repacked => p.switchModel nextModel repacked
  | .clear => p.clearSkin
  | .importSkin normalized detectedModel => p.importSkin normalized detectedModel
  | .undo => p.undo
  | .redo => p.redoUndone

/-! ## Undo and redo as steps of the stacks -/

/-- How the page restores and keeps entries. -/
def mechanism : Mechanism State HistoryEntry where
  restore entry s := (restoreSkinHistoryEntry entry s).toOption
  push := pushBoundedHistory
  Leads := HistoryEntry.Leads
  restore_leads h := by
    obtain ⟨inverse, hrestored, hback⟩ := restore_leads h
    exact ⟨inverse, by rw [hrestored]; rfl, hback⟩
  push_suffix _ _ := UndoHistory.dropOldest_suffix ..

section Stacks

variable (p : Page)

theorem toStacks_undo : p.undo.toStacks = p.toStacks.undo mechanism := by
  simp only [Page.undo, Stacks.undo, Page.toStacks, mechanism]
  cases p.history.getLast? with
  | none => rfl
  | some previous =>
      simp only [Page.restoreHistoryEntry, Page.state]
      cases restoreSkinHistoryEntry previous ⟨p.canvas, p.model, p.currentStateId⟩ <;> rfl

theorem toStacks_redoUndone : p.redoUndone.toStacks = p.toStacks.redoUndone mechanism := by
  simp only [Page.redoUndone, Stacks.redoUndone, Page.toStacks, mechanism]
  cases p.redo.getLast? with
  | none => rfl
  | some next =>
      simp only [Page.restoreHistoryEntry, Page.state]
      cases restoreSkinHistoryEntry next ⟨p.canvas, p.model, p.currentStateId⟩ <;> rfl

theorem nextStateId_undo : p.undo.nextStateId = p.nextStateId := by
  unfold Page.undo
  cases p.history.getLast? with
  | none => rfl
  | some previous =>
      simp only [Page.restoreHistoryEntry, Page.state]
      cases restoreSkinHistoryEntry previous ⟨p.canvas, p.model, p.currentStateId⟩ <;> rfl

theorem nextStateId_redoUndone : p.redoUndone.nextStateId = p.nextStateId := by
  unfold Page.redoUndone
  cases p.redo.getLast? with
  | none => rfl
  | some next =>
      simp only [Page.restoreHistoryEntry, Page.state]
      cases restoreSkinHistoryEntry next ⟨p.canvas, p.model, p.currentStateId⟩ <;> rfl

theorem toStacks_iterate_undo (k : Nat) :
    (Page.undo^[k] p).toStacks = (Stacks.undo mechanism)^[k] p.toStacks := by
  induction k with
  | zero => rfl
  | succ k ih => rw [Function.iterate_succ_apply', Function.iterate_succ_apply', toStacks_undo, ih]

theorem toStacks_iterate_redoUndone (k : Nat) :
    (Page.redoUndone^[k] p).toStacks = (Stacks.redoUndone mechanism)^[k] p.toStacks := by
  induction k with
  | zero => rfl
  | succ k ih =>
      rw [Function.iterate_succ_apply', Function.iterate_succ_apply', toStacks_redoUndone, ih]

end Stacks

/-! ## Edits -/

/-- All indices are `u32`s. -/
def Canvas.Addressable (canvas : Canvas) : Prop := canvas.size * canvas.size ≤ 2 ^ 32

/-- The canvases of a step. -/
def Step.Addressable : Step → Prop
  | .bucketFill filled => ∀ canvas ∈ filled, canvas.Addressable
  | .switchModel _ canvas | .importSkin canvas _ => canvas.Addressable
  | .stroke _ | .clear | .undo | .redo => True

/-- An edit that is committed with an entry that leads back. -/
def Commits (p p' : Page) : Prop :=
  ∃ canvas model entry, p' = { p with
      canvas := canvas
      model := model }.commitMutation entry ∧
    entry.Leads ⟨canvas, model, p.nextStateId⟩ p.state ∧ canvas.Addressable

section Edits

variable {p : Page}

/-- An edit with a snapshot of what was shown before. -/
theorem commits_snapshot {canvas : Canvas} (hcanvas : canvas.Addressable)
    (model : MinecraftTextureModel) :
    Commits p ({ p with
      canvas := canvas
      model := model }.commitMutation p.currentSnapshot) :=
  ⟨canvas, model, p.currentSnapshot, rfl, ⟨trivial, rfl, rfl⟩, hcanvas⟩

/-- Packing loses nothing where all indices are `u32`s. -/
theorem unpacked_sorted {before : List (Nat × UInt32)} (h : ∀ q ∈ before, q.1 < 2 ^ 32) :
    ((before.map fun q => UInt32.ofNat q.1).map UInt32.toNat).zip
        ((before.map Prod.snd).map UInt32.toNat) =
      before.map fun q => (q.1, q.2.toNat) := by
  rw [List.map_map, List.map_map, List.zip_map']
  apply List.map_congr_left
  intro q hq
  simp only [Function.comp_apply, UInt32.toNat_ofNat_of_lt' (h q hq)]

/-- **A stroke** changes nothing, or is committed with the colors that its pixels had. -/
theorem stroke_commits (hcanvas : p.canvas.Addressable) (pixels : List (Tool × Nat)) :
    p.stroke pixels = p ∨ Commits p (p.stroke pixels) := by
  have hsince : (pixels.foldl paintPixel ⟨p.canvas, [], false⟩).stroke.Since p.canvas.image
      (pixels.foldl paintPixel ⟨p.canvas, [], false⟩).canvas.image :=
    since_paintPixel (Stroke.Since.begun p.canvas.image) pixels
  unfold Page.stroke
  dsimp only
  generalize pixels.foldl paintPixel ⟨p.canvas, [], false⟩ = painted at *
  have hsize : p.canvas.size = painted.canvas.size := hsince.differs.size
  split
  · refine Or.inr ⟨painted.canvas, p.model, _, rfl, ⟨?_, ?_, rfl⟩, ?_⟩
    · show (List.map _ _).length = (List.map _ _).length
      rw [List.length_map, List.length_map]
    · have hperm := List.perm_insertionSort (fun q q' : Nat × UInt32 => q.1 ≤ q'.1) painted.before
      have hindices : ∀ q ∈ painted.before.insertionSort (fun q q' => q.1 ≤ q'.1),
          q.1 < 2 ^ 32 := by
        intro q hq
        have hmem : (q.1, q.2.toNat) ∈ painted.stroke.before :=
          List.mem_map_of_mem (hperm.mem_iff.mp hq)
        have hlt := hsince.differs.lt_length hmem
        rw [painted.canvas.image.filled] at hlt
        unfold Canvas.Addressable at hcanvas
        rw [hsize] at hcanvas
        exact Nat.lt_of_lt_of_le hlt hcanvas
      have hdiffers := hsince.differs.perm (hperm.map fun q => (q.1, q.2.toNat))
      refine ⟨rfl, rfl, ?_⟩
      rw [unpacked_sorted hindices]
      exact hdiffers
    · unfold Canvas.Addressable at hcanvas ⊢
      rwa [← hsize]
  · next hunchanged =>
      -- nothing was drawn
      left
      have hfalse : painted.stroke.changed = false := by
        by_contra hchanged
        have htrue : painted.stroke.changed = true := by simpa using hchanged
        have hbefore := hsince.changed.mp htrue
        apply hunchanged
        simp_all [Painted.stroke]
      have hsame : painted.canvas = p.canvas :=
        Canvas.image_injective (hsince.eq_of_unchanged hfalse)
      rw [hsame]

/-- **An edit** changes nothing, or is committed. -/
theorem complete_edit {step : Step} (hcanvas : p.canvas.Addressable) (hstep : step.Addressable)
    (hundo : step ≠ .undo) (hredo : step ≠ .redo) :
    p.complete step = p ∨ Commits p (p.complete step) := by
  cases step with
  | stroke pixels => exact stroke_commits hcanvas pixels
  | bucketFill filled =>
      cases filled with
      | none => exact Or.inl rfl
      | some canvas => exact Or.inr (commits_snapshot (hstep canvas rfl) p.model)
  | switchModel nextModel repacked =>
      simp only [Page.complete, Page.switchModel]
      split
      · exact Or.inl rfl
      · exact Or.inr (commits_snapshot hstep nextModel)
  | clear =>
      have hclear : p.canvas.clear.Addressable := hcanvas
      exact Or.inr (commits_snapshot hclear p.model)
  | importSkin normalized detectedModel => exact Or.inr (commits_snapshot hstep detectedModel)
  | undo => exact absurd rfl hundo
  | redo => exact absurd rfl hredo

end Edits

/-! ## Sessions -/

/-- The page, the timeline of what it has shown, and all that was ever shown. -/
structure Session where
  page : Page
  timeline : Timeline State
  visited : List State

namespace Session

def load (canvas : Canvas) (model : MinecraftTextureModel) : Session :=
  let page := Page.load canvas model
  ⟨page, ⟨[], page.state, []⟩, [page.state]⟩

/-- Where a step leads on the timeline. -/
def moved (s : Session) : Step → Timeline State
  | .undo => if s.page.history.isEmpty then s.timeline else s.timeline.back
  | .redo => if s.page.redo.isEmpty then s.timeline else s.timeline.forth
  | step =>
      if (s.page.complete step).currentStateId = s.page.currentStateId then s.timeline
      else s.timeline.edit (s.page.complete step).state

def step (s : Session) (step : Step) : Session :=
  ⟨s.page.complete step, s.moved step, (s.page.complete step).state :: s.visited⟩

/-- **What holds in a session.**  The stacks follow the timeline, and an id is given once. -/
structure Sound (s : Session) : Prop where
  follows : Follows mechanism s.page.toStacks s.timeline
  visited : ∀ a ∈ s.timeline.all, a ∈ s.visited
  given : ∀ a ∈ s.visited, a.stateId < s.page.nextStateId
  unique : ∀ a ∈ s.visited, ∀ b ∈ s.visited, a.stateId = b.stateId → a = b
  addressable : ∀ a ∈ s.timeline.all, a.canvas.Addressable

/-- **Undo and redo are inverse.** -/
structure Inverse (s : Session) : Prop where
  /-- Some undos restore what was shown that many steps ago. -/
  undo : ∀ k ≤ s.page.history.length,
    (s.timeline.present :: s.timeline.past)[k]? = some (Page.undo^[k] s.page).state
  /-- As many redos restore what was shown before these. -/
  redo : ∀ k ≤ s.page.history.length, ∀ j ≤ k, j ≤ (Page.undo^[k] s.page).redo.length →
    (Page.redoUndone^[j] (Page.undo^[k] s.page)).state = (Page.undo^[k - j] s.page).state
  /-- An id has one state. -/
  unique : ∀ a ∈ s.visited, ∀ b ∈ s.visited, a.stateId = b.stateId →
    a.canvas = b.canvas ∧ a.model = b.model
  /-- The entries that come next can be restored. -/
  restored : ∀ entry, s.page.history.getLast? = some entry ∨ s.page.redo.getLast? = some entry →
    ∃ result, s.page.restoreHistoryEntry entry = .ok result
  /-- Within the bounds no entry is dropped. -/
  kept : ∀ entries entry, (entries ++ [entry]).length ≤ historyLimit →
    ((entries ++ [entry]).map HistoryEntry.byteLength).sum ≤ historyMemoryLimit →
    pushBoundedHistory entries entry = entries ++ [entry]

end Session

/-- A session, from the loaded texture. -/
def session (canvas : Canvas) (model : MinecraftTextureModel) (steps : List Step) : Session :=
  steps.foldl Session.step (Session.load canvas model)

namespace Session

variable {s : Session}

theorem Sound.present_mem (h : s.Sound) : s.page.state ∈ s.timeline.all := by
  have hpresent : s.timeline.present = s.page.state := h.follows.present
  simp [Timeline.all, hpresent]

theorem sound_load {canvas : Canvas} (h : canvas.Addressable) (model : MinecraftTextureModel) :
    (load canvas model).Sound := by
  refine ⟨⟨rfl, trivial, trivial⟩, fun a ha => ha, fun a ha => ?_, fun a ha b hb _ => ?_,
    fun a ha => ?_⟩
  · obtain rfl := List.mem_singleton.mp ha
    exact Nat.one_pos
  · rw [List.mem_singleton.mp ha, List.mem_singleton.mp hb]
  · obtain rfl := List.mem_singleton.mp ha
    exact h

/-- A step that stays on the timeline. -/
theorem Sound.move (h : s.Sound) {page : Page} {timeline : Timeline State}
    (hfollows : Follows mechanism page.toStacks timeline)
    (hall : ∀ a, a ∈ timeline.all ↔ a ∈ s.timeline.all)
    (hnext : page.nextStateId = s.page.nextStateId) :
    Sound ⟨page, timeline, page.state :: s.visited⟩ := by
  have hpresent : timeline.present = page.state := hfollows.present
  have hstate : page.state ∈ s.visited := by
    apply h.visited
    rw [← hall, ← hpresent]
    simp [Timeline.all]
  have hold : ∀ a ∈ page.state :: s.visited, a ∈ s.visited := by
    intro a ha
    rcases List.mem_cons.mp ha with rfl | ha
    · exact hstate
    · exact ha
  refine ⟨hfollows, fun a ha => ?_, fun a ha => ?_, fun a ha b hb => ?_, fun a ha => ?_⟩
  · exact List.mem_cons_of_mem _ (h.visited a ((hall a).mp ha))
  · have hgiven := h.given a (hold a ha)
    rwa [← hnext] at hgiven
  · exact h.unique a (hold a ha) b (hold b hb)
  · exact h.addressable a ((hall a).mp ha)

/-- A step that commits something new. -/
theorem Sound.commit (h : s.Sound) {page : Page} (hcommits : Commits s.page page) :
    Sound ⟨page, s.timeline.edit page.state, page.state :: s.visited⟩ := by
  obtain ⟨canvas, model, entry, rfl, hleads, hcanvas⟩ := hcommits
  -- the id is new
  have hnew : ∀ a ∈ s.visited, a.stateId ≠ s.page.nextStateId :=
    fun a ha => Nat.ne_of_lt (h.given a ha)
  refine ⟨h.follows.commit hleads, fun a ha => ?_, fun a ha => ?_, fun a ha b hb hid => ?_,
    fun a ha => ?_⟩
  · rcases Timeline.mem_all_edit ha with rfl | hold
    · exact List.mem_cons_self
    · exact List.mem_cons_of_mem _ (h.visited a hold)
  · rcases List.mem_cons.mp ha with rfl | hold
    · exact Nat.lt_succ_self _
    · exact Nat.lt_succ_of_lt (h.given a hold)
  · rcases List.mem_cons.mp ha with rfl | holdA <;> rcases List.mem_cons.mp hb with rfl | holdB
    · rfl
    · exact absurd hid.symm (hnew b holdB)
    · exact absurd hid (hnew a holdA)
    · exact h.unique a holdA b holdB hid
  · rcases Timeline.mem_all_edit ha with rfl | hold
    · exact hcanvas
    · exact h.addressable a hold

/-- **An edit** keeps the session sound. -/
theorem Sound.edit (h : s.Sound) {step : Step} (hstep : step.Addressable)
    (hundo : step ≠ .undo) (hredo : step ≠ .redo) : (s.step step).Sound := by
  have hmoved : s.moved step =
      if (s.page.complete step).currentStateId = s.page.currentStateId then s.timeline
      else s.timeline.edit (s.page.complete step).state := by
    cases step <;> first | rfl | contradiction
  have hcanvas : s.page.canvas.Addressable := h.addressable _ h.present_mem
  rw [Session.step, hmoved]
  rcases complete_edit hcanvas hstep hundo hredo with hsame | hcommits
  · rw [hsame, if_pos rfl]
    exact h.move h.follows (fun a => Iff.rfl) rfl
  · have hfresh : (s.page.complete step).currentStateId ≠ s.page.currentStateId := by
      obtain ⟨canvas, model, entry, heq, -, -⟩ := hcommits
      have hold : s.page.currentStateId < s.page.nextStateId :=
        h.given _ (h.visited _ h.present_mem)
      rw [heq]
      exact Nat.ne_of_gt hold
    rw [if_neg hfresh]
    exact h.commit hcommits

/-- **A step** keeps the session sound. -/
theorem Sound.step (h : s.Sound) {step : Step} (hstep : step.Addressable) :
    (s.step step).Sound := by
  by_cases hundo : step = .undo
  · subst hundo
    simp only [Session.step, moved, Page.complete]
    by_cases hempty : s.page.history = []
    · have hsame : s.page.undo = s.page := by simp [Page.undo, hempty]
      rw [hsame, hempty]
      exact h.move h.follows (fun a => Iff.rfl) rfl
    · rw [if_neg (by simpa using hempty)]
      have hback := (h.follows.undo hempty).1
      rw [← toStacks_undo] at hback
      exact h.move hback (fun a => Timeline.mem_all_back) (nextStateId_undo s.page)
  · by_cases hredo : step = .redo
    · subst hredo
      simp only [Session.step, moved, Page.complete]
      by_cases hempty : s.page.redo = []
      · have hsame : s.page.redoUndone = s.page := by simp [Page.redoUndone, hempty]
        rw [hsame, hempty]
        exact h.move h.follows (fun a => Iff.rfl) rfl
      · rw [if_neg (by simpa using hempty)]
        have hforth := (h.follows.redoUndone hempty).1
        rw [← toStacks_redoUndone] at hforth
        exact h.move hforth (fun a => Timeline.mem_all_forth) (nextStateId_redoUndone s.page)
    · exact h.edit hstep hundo hredo

/-- **A session is sound.** -/
theorem sound_run (h : s.Sound) {steps : List Step} (hsteps : ∀ step ∈ steps, step.Addressable) :
    (steps.foldl Session.step s).Sound := by
  induction steps generalizing s with
  | nil => exact h
  | cons step steps ih =>
      have hstep := h.step (hsteps step List.mem_cons_self)
      exact ih hstep fun next hnext => hsteps next (List.mem_cons_of_mem _ hnext)

end Session

/-! ## Undo and redo -/

section Inverse

theorem state_toStacks (p : Page) : p.toStacks.state = p.state := rfl

theorem restoreHistoryEntry_leads {p : Page} {entry : HistoryEntry} {target : State}
    (h : entry.Leads p.state target) : ∃ result, p.restoreHistoryEntry entry = .ok result := by
  obtain ⟨inverse, hrestored, -⟩ := restore_leads h
  simp only [Page.restoreHistoryEntry, hrestored, Except.map]
  exact ⟨_, rfl⟩

/-- **Undo and redo are inverse** where the session is sound. -/
theorem Session.Sound.inverse {s : Session} (h : s.Sound) : s.Inverse where
  undo k hk := by
    rw [h.follows.state_iterate_undo hk, ← toStacks_iterate_undo, state_toStacks]
  redo k hk j hj hredo := by
    have hstacks : j ≤ ((Stacks.undo mechanism)^[k] s.page.toStacks).redo.length := by
      rwa [← toStacks_iterate_undo]
    have hback := h.follows.state_iterate_redoUndone hk hj hstacks
    rwa [← toStacks_iterate_undo, ← toStacks_iterate_redoUndone, ← toStacks_iterate_undo,
      state_toStacks, state_toStacks] at hback
  unique a ha b hb hid := by
    obtain rfl := h.unique a ha b hb hid
    exact ⟨rfl, rfl⟩
  restored entry hentry := by
    rcases hentry with hlast | hlast
    · obtain ⟨target, rest, -, hleads, -⟩ := h.follows.history.pop hlast
      exact restoreHistoryEntry_leads hleads
    · obtain ⟨target, rest, -, hleads, -⟩ := h.follows.redo.pop hlast
      exact restoreHistoryEntry_leads hleads
  kept _ _ hlimit hmemory := dropOldest_of_fits hlimit hmemory

/-- **Undo and redo are inverse over whole sessions** on canvases of at most `2 ^ 32` pixels. -/
theorem undo_redo_inverse {canvas : Canvas} (hcanvas : canvas.Addressable)
    (model : MinecraftTextureModel) {steps : List Step}
    (hsteps : ∀ step ∈ steps, step.Addressable) : (session canvas model steps).Inverse :=
  (Session.sound_run (Session.sound_load hcanvas model) hsteps).inverse

/-- A transparent canvas. -/
def blank (size : Nat) (h : ValidSize size) : Canvas :=
  ⟨size, List.replicate (size * size * 4) 0, h, List.length_replicate⟩

def smallCanvas : Canvas := blank 64 (validSize_iff.mpr (by decide))

theorem addressable_smallCanvas : smallCanvas.Addressable := by
  show 64 * 64 ≤ 2 ^ 32
  decide

theorem undo_redo_inverse_small :
    (session smallCanvas .default
      [.stroke [(.brush 255 0 0, 5)], .switchModel .slim smallCanvas, .undo, .redo]).Inverse :=
  undo_redo_inverse addressable_smallCanvas .default (by
    intro step hstep
    simp only [List.mem_cons, List.not_mem_nil, or_false] at hstep
    rcases hstep with rfl | rfl | rfl | rfl
    · trivial
    · exact addressable_smallCanvas
    · trivial
    · trivial)

end Inverse

/-! ## Large canvases -/

section Large

variable {canvas : Canvas} (model : MinecraftTextureModel)

/-- A white pixel at the index `2 ^ 32`. -/
def farPixel : Step := .stroke [(.brush 255 255 255, 2 ^ 32)]

/-- The entry for this pixel has the index zero. -/
theorem stroke_farPixel (hroom : 2 ^ 32 < canvas.size * canvas.size)
    (hclear : colorAt canvas.data (2 ^ 32) = ⟨0, 0, 0, 0⟩) :
    (Page.load canvas model).complete farPixel =
      { Page.load canvas model with
        canvas := canvas.setPixel (2 ^ 32) ⟨255, 255, 255, 255⟩ }.commitMutation
        (.pixels [0] [0] model canvas.size 0) := by
  have hpainted : paintPixel ⟨canvas, [], false⟩ (.brush 255 255 255, 2 ^ 32) =
      ⟨canvas.setPixel (2 ^ 32) ⟨255, 255, 255, 255⟩, [(2 ^ 32, 0)], true⟩ := by
    simp only [paintPixel, if_pos hroom, hclear]
    rfl
  simp only [farPixel, Page.complete, Page.stroke, Page.load, List.foldl_cons, List.foldl_nil,
    hpainted, List.isEmpty_cons, Bool.not_false, Bool.and_self, if_true]
  rfl

theorem state_undo {p : Page} {previous inverse : HistoryEntry} {target : State}
    (hlast : p.history.getLast? = some previous)
    (hrestored : restoreSkinHistoryEntry previous p.state = .ok (target, inverse)) :
    p.undo.state = target := by
  have hstacks : (p.toStacks.undo mechanism).state = target := by
    have hshown : restoreSkinHistoryEntry previous p.toStacks.state = .ok (target, inverse) :=
      hrestored
    have hpast : p.toStacks.history.getLast? = some previous := hlast
    simp only [Stacks.undo, hpast, mechanism, hshown, Except.toOption]
  rw [← state_toStacks, toStacks_undo, hstacks]

/-- **After an undo** the white pixel is still there. -/
theorem colorAt_undo_farPixel (hroom : 2 ^ 32 < canvas.size * canvas.size)
    (hclear : colorAt canvas.data (2 ^ 32) = ⟨0, 0, 0, 0⟩) :
    colorAt ((Page.load canvas model).complete farPixel).undo.canvas.data (2 ^ 32) =
      ⟨255, 255, 255, 255⟩ := by
  have hplace : 2 ^ 32 * 4 + 3 < canvas.data.length := by
    rw [canvas.filled]
    omega
  have hwhite : colorAt (canvas.setPixel (2 ^ 32) ⟨255, 255, 255, 255⟩).data (2 ^ 32) =
      ⟨255, 255, 255, 255⟩ := by
    rw [Canvas.setPixel, colorAt_setColor _ hplace, if_pos rfl]
  rw [stroke_farPixel model hroom hclear]
  generalize hpainted : canvas.setPixel (2 ^ 32) ⟨255, 255, 255, 255⟩ = painted at hwhite ⊢
  have hsize : canvas.size = painted.size := by
    rw [← hpainted]
    rfl
  have hinside : ∀ i ∈ [(0 : UInt32)], i.toNat < painted.size * painted.size := by
    intro i hi
    obtain rfl := List.mem_singleton.mp hi
    rw [← hsize]
    exact Nat.lt_of_le_of_lt (Nat.zero_le _) hroom
  have hlength : [(0 : UInt32)].length = [(0 : UInt32)].length := rfl
  obtain ⟨canvas', hswap, -, -, hkept⟩ :=
    swapPixelColors_ok hlength (List.nodup_singleton 0) hinside
  have hrestored : ∃ inverse, restoreSkinHistoryEntry (.pixels [0] [0] model canvas.size 0)
      ⟨painted, model, 1⟩ = .ok (⟨canvas', model, 0⟩, inverse) := by
    simp only [restoreSkinHistoryEntry, hsize, ne_eq, not_true_eq_false, if_false, hswap, bind,
      Except.bind]
    exact ⟨_, rfl⟩
  obtain ⟨inverse, hrestored⟩ := hrestored
  have hundone := state_undo (p := { Page.load canvas model with
    canvas := painted }.commitMutation (.pixels [0] [0] model canvas.size 0)) rfl hrestored
  have hzero : 2 ^ 32 ∉ [(0 : UInt32)].map UInt32.toNat := by decide
  have hcanvas : _ = canvas' := congrArg State.canvas hundone
  rw [← hkept _ hzero, ← hcanvas] at hwhite
  exact hwhite

/-- A session in which the white pixel is undone. -/
theorem farPixel_notRestored (hroom : 2 ^ 32 < canvas.size * canvas.size)
    (hclear : colorAt canvas.data (2 ^ 32) = ⟨0, 0, 0, 0⟩) :
    ¬(session canvas model [farPixel]).Inverse := by
  intro hinverse
  have hstep := stroke_farPixel model hroom hclear
  have hfresh : ((Page.load canvas model).complete farPixel).currentStateId ≠ 0 := by
    rw [hstep]
    exact Nat.one_ne_zero
  have hpast : (session canvas model [farPixel]).timeline =
      ⟨[(Page.load canvas model).state], ((Page.load canvas model).complete farPixel).state, []⟩ :=
    if_neg hfresh
  have hhistory : 1 ≤ (session canvas model [farPixel]).page.history.length := by
    show 1 ≤ ((Page.load canvas model).complete farPixel).history.length
    rw [hstep]
    exact Nat.le_refl 1
  have hrestored := hinverse.undo 1 hhistory
  rw [hpast] at hrestored
  have hsame : (Page.load canvas model).state =
      ((Page.load canvas model).complete farPixel).undo.state := Option.some.inj hrestored
  have hcanvas : canvas = ((Page.load canvas model).complete farPixel).undo.canvas :=
    congrArg State.canvas hsame
  have hwhite := colorAt_undo_farPixel model hroom hclear
  rw [← hcanvas, hclear] at hwhite
  exact absurd hwhite (by decide)

end Large

/-- **On a canvas of 65600 pixels a side** an undo leaves a pixel as it was drawn. -/
theorem largeCanvas_notRestored :
    ¬∀ (canvas : Canvas) (model : MinecraftTextureModel) (steps : List Step),
      (session canvas model steps).Inverse := by
  intro hall
  have hvalid : ValidSize 65600 := validSize_iff.mpr (by decide)
  have hroom : 2 ^ 32 < (blank 65600 hvalid).size * (blank 65600 hvalid).size := by
    show 2 ^ 32 < 65600 * 65600
    decide
  exact farPixel_notRestored .default hroom (colorAt_replicate ..) (hall _ .default [farPixel])

end AsterYggdrasil.SkinPage
