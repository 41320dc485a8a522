import AsterYggdrasil.Frontend.SkinEditor

/-!
# Unsaved work

The ids of the states stand for what the editor showed when they were given out.
As long as they do, an editor that is not dirty shows what was last saved: the
current id is the saved one.

Three things break this.  An edit that ends while a save is pending gives out a new
id, and the save then takes that id for the one it has uploaded
(`import_lost`): an import and the end of a stroke are the edits that no guard
stops.  An action that reads or changes the image while a stroke has changed it
catches a state that no id stands for.  And the entry of an import says that the
model was the one from when the import was started.  `Undisturbed` excludes the
three, and then nothing is lost (`clean_shows_saved`).
-/

namespace AsterYggdrasil.SkinEditor

open Interleave

/-! ## What is claimed -/

/-- Without a stroke in progress, an editor that is not dirty shows what the server
has. -/
def Editor.Safe (s : Editor) : Prop :=
  s.stroke = none → s.dirty = false → s.skin = s.server

/-! ## The condition -/

/-- No stroke in progress has changed a pixel. -/
def Editor.Untouched (s : Editor) : Prop := ∀ stroke ∈ s.stroke, stroke.changed = false

/-- A stroke that has changed something ends, and an image is imported, while no
save is pending; a stroke that has changed something is not interrupted; and the
model has not been changed since an import was started. -/
def Undisturbed (s : Editor) (a : Action) (_ : Editor) : Prop :=
  match a with
  | .pointerMove _ _ | .startImport | .finishSave _ => True
  | .pointerUp => ∀ stroke ∈ s.stroke, stroke.changed = true → s.saving = none
  | .finishImport i decoded =>
      decoded.isSome → s.saving = none ∧ s.Untouched ∧ s.imports[i]? = some s.model
  | .pointerDown _ _ | .bucketFill _ | .undo | .redo | .switchModel _ _ | .clear
  | .correctImportedModel _ | .startSave => s.saving = none → s.Untouched

instance (s : Editor) : Decidable s.Safe :=
  inferInstanceAs (Decidable (s.stroke = none → s.dirty = false → s.skin = s.server))

instance (s : Editor) : Decidable s.Untouched :=
  inferInstanceAs (Decidable (∀ stroke ∈ s.stroke, stroke.changed = false))

instance (s : Editor) : (a : Action) → (s' : Editor) → Decidable (Undisturbed s a s')
  | .pointerMove _ _, _ | .startImport, _ | .finishSave _, _ => isTrue trivial
  | .pointerUp, _ => inferInstanceAs (Decidable
      (∀ stroke ∈ s.stroke, stroke.changed = true → s.saving = none))
  | .finishImport i decoded, _ => inferInstanceAs (Decidable
      (decoded.isSome → s.saving = none ∧ s.Untouched ∧ s.imports[i]? = some s.model))
  | .pointerDown _ _, _ | .bucketFill _, _ | .undo, _ | .redo, _ | .switchModel _ _, _
  | .clear, _ | .correctImportedModel _, _ | .startSave, _ =>
      inferInstanceAs (Decidable (s.saving = none → s.Untouched))

/-! ## Strokes -/

/-- A stroke has noted the colours that its pixels had. -/
structure Stroke.Since (base image : Image) (stroke : Stroke) : Prop where
  differs : Differs stroke.before image base
  changed : stroke.changed = true ↔ stroke.before ≠ []

namespace Stroke.Since

variable {base image : Image} {stroke : Stroke}

/-- A stroke that has begun. -/
theorem begun (image : Image) : Stroke.Since image image ⟨[], false⟩ := by
  refine ⟨⟨List.nodup_nil, rfl, fun p hp => ?_, fun _ _ => rfl⟩, ?_⟩
  · cases hp
  · simp

theorem eq_of_unchanged (h : stroke.Since base image) (hchanged : stroke.changed = false) :
    image = base := by
  have hbefore : stroke.before = [] := by
    by_contra hne
    rw [h.changed.mpr hne] at hchanged
    cases hchanged
  refine Image.ext_pixels h.differs.size.symm fun i => ?_
  exact (h.differs.elsewhere i (by rw [hbefore]; exact List.not_mem_nil)).symm

/-- A stroke that has changed nothing may as well have begun later. -/
theorem rebase (h : stroke.Since base image) (hchanged : stroke.changed = false)
    (image' : Image) : stroke.Since image' image' := by
  obtain ⟨before, changed⟩ := stroke
  obtain rfl : changed = false := hchanged
  have hbefore : before = [] := by
    by_contra hne
    exact absurd (h.changed.mpr hne) Bool.false_ne_true
  subst hbefore
  exact begun image'

/-- One more pixel. -/
theorem paintPixel (h : stroke.Since base image) (ink : Ink) (i : Nat) :
    (SkinEditor.Editor.paintPixel ink (image, stroke) i).2.Since base
      (SkinEditor.Editor.paintPixel ink (image, stroke) i).1 := by
  simp only [Editor.paintPixel]
  split
  · exact h
  · next current hcurrent =>
      split
      · exact h
      · next color _ =>
          have hother : ∀ j, j ≠ i → (image.paint [(i, color)]).pixels[j]? = image.pixels[j]? :=
            fun j hj => getElem?_setColors_of_notMem (by simpa using hj)
          obtain ⟨hkeys, hsize, hthere, helsewhere⟩ := h.differs
          by_cases hi : i ∈ stroke.before.map Prod.fst
          · -- the colour from before the stroke is kept
            rw [if_pos hi]
            refine ⟨⟨hkeys, hsize, hthere, fun j hj => ?_⟩, ?_⟩
            · rw [hother j (fun hji => hj (hji ▸ hi))]
              exact helsewhere j hj
            · refine ⟨fun _ hnil => ?_, fun _ => rfl⟩
              dsimp only at hnil
              rw [hnil] at hi
              cases hi
          · rw [if_neg hi]
            refine ⟨⟨?_, hsize, fun p hp => ?_, fun j hj => ?_⟩, ?_⟩
            · rw [List.map_append, List.nodup_append]
              refine ⟨hkeys, List.nodup_singleton _, fun a ha b hb hab => ?_⟩
              have hbi : b = i := by simpa using hb
              exact hi (hbi ▸ hab ▸ ha)
            · rcases List.mem_append.mp hp with hold | hnew
              · exact hthere p hold
              · rw [List.mem_singleton.mp hnew]
                exact (helsewhere i hi).trans hcurrent
            · simp only [List.map_append, List.map_cons, List.map_nil, List.mem_append,
                List.mem_singleton, not_or] at hj
              rw [hother j hj.2]
              exact helsewhere j hj.1
            · simp

theorem paintPixels (h : stroke.Since base image) (ink : Ink) (pixels : List Nat) :
    (pixels.foldl (Editor.paintPixel ink) (image, stroke)).2.Since base
      (pixels.foldl (Editor.paintPixel ink) (image, stroke)).1 := by
  induction pixels generalizing image stroke with
  | nil => exact h
  | cons i pixels ih => exact ih (h.paintPixel ink i)

end Stroke.Since

theorem Differs.perm {colors colors' : List (Nat × Nat)} {image target : Image}
    (h : Differs colors image target) (hperm : colors'.Perm colors) :
    Differs colors' image target := by
  have hkeys : (colors'.map Prod.fst).Perm (colors.map Prod.fst) := hperm.map _
  exact ⟨hkeys.nodup_iff.mpr h.keys, h.size, fun p hp => h.there p (hperm.mem_iff.mp hp),
    fun i hi => h.elsewhere i fun hold => hi (hkeys.mem_iff.mpr hold)⟩

/-! ## What the ids stand for -/

/-- **The invariant.**  `base` is the image without the stroke in progress. -/
structure Tracks (content : Nat → Skin) (base : Image) (s : Editor) : Prop where
  current : content s.currentStateId = ⟨base, s.model⟩
  idle : s.stroke = none → s.image = base
  drawn : ∀ stroke, s.stroke = some stroke → stroke.Since base s.image
  history : Chain content (content s.currentStateId) s.history.reverse
  redo : Chain content (content s.currentStateId) s.redo.reverse
  given : ∀ entry ∈ s.history ++ s.redo, entry.stateId < s.nextStateId
  currentGiven : s.currentStateId < s.nextStateId
  savedGiven : s.savedStateId < s.nextStateId
  saved : content s.savedStateId = s.server
  clean : s.dirty = false → s.currentStateId = s.savedStateId
  uploading : ∀ uploaded, s.saving = some uploaded → uploaded = content s.currentStateId

section Tracks

variable {content : Nat → Skin} {base : Image} {s : Editor}

theorem tracks_load (texture : Skin) :
    Tracks (fun _ => texture) texture.image (Editor.load texture) where
  current := rfl
  idle _ := rfl
  drawn _ h := by cases h
  history := trivial
  redo := trivial
  given _ h := by cases h
  currentGiven := Nat.zero_lt_one
  savedGiven := Nat.zero_lt_one
  saved := rfl
  clean _ := rfl
  uploading _ h := by cases h

theorem Tracks.safe (h : Tracks content base s) : s.Safe := by
  intro hstroke hdirty
  have hskin : s.skin = content s.currentStateId := by
    rw [h.current, Editor.skin, h.idle hstroke]
  rw [hskin, h.clean hdirty, h.saved]

/-- Where no stroke has changed a pixel, the current id stands for what is shown. -/
theorem Tracks.skin_eq (h : Tracks content base s) (huntouched : s.Untouched) :
    content s.currentStateId = s.skin := by
  rw [h.current, Editor.skin]
  cases hstroke : s.stroke with
  | none => rw [h.idle hstroke]
  | some stroke => rw [(h.drawn stroke hstroke).eq_of_unchanged (huntouched stroke hstroke)]

/-- **An edit.**  Its entry leads back to what the current id stands for; the new id
stands for what is shown then. -/
theorem Tracks.commit (h : Tracks content base s) (hsaving : s.saving = none)
    {entry : SkinEditorHistoryEntry} {image : Image} {model : MinecraftTextureModel}
    {stroke : Option Stroke} (hid : entry.stateId = s.currentStateId)
    (hleads : entry.Leads ⟨image, model⟩ (content s.currentStateId))
    (hstroke : ∀ st, stroke = some st → st.Since image image) :
    Tracks (Function.update content s.nextStateId ⟨image, model⟩) image
      ({ s with
        image := image
        model := model
        stroke := stroke }.commitMutation entry) := by
  have hold : ∀ n, n < s.nextStateId →
      Function.update content s.nextStateId ⟨image, model⟩ n = content n :=
    fun n hn => Function.update_of_ne (Nat.ne_of_lt hn) ..
  have hentry := hold entry.stateId (hid ▸ h.currentGiven)
  refine ⟨Function.update_self .., fun _ => rfl, hstroke, ?_, trivial, ?_,
    Nat.lt_succ_self _, Nat.lt_succ_of_lt h.savedGiven, ?_, fun hdirty => ?_, fun _ hsave => ?_⟩
  · refine Chain.push ?_ ?_
    · rw [hentry, hid]
      exact h.history.congr fun e he => hold e.stateId
        (h.given e (List.mem_append_left _ (List.mem_reverse.mp he)))
    · rw [hentry, hid]
      simp only [Editor.commitMutation, Function.update_self]
      exact hleads
  · intro e he
    simp only [Editor.commitMutation, List.append_nil] at he
    have hmem := (reverse_pushBoundedHistory s.history entry).subset (List.mem_reverse.mpr he)
    rcases List.mem_cons.mp hmem with rfl | hmem
    · rw [hid]
      exact Nat.lt_succ_of_lt h.currentGiven
    · exact Nat.lt_succ_of_lt (h.given e (List.mem_append_left _ (List.mem_reverse.mp hmem)))
  · exact (hold _ h.savedGiven).trans h.saved
  · -- the new id is not the saved one
    have hne : s.nextStateId ≠ s.savedStateId := Nat.ne_of_gt h.savedGiven
    simp [Editor.commitMutation, hne] at hdirty
  · rw [show s.saving = some _ from hsave] at hsaving
    cases hsaving

/-- An edit of the whole image, with a snapshot of what was shown before. -/
theorem Tracks.commit_snapshot (h : Tracks content base s) (hsaving : s.saving = none)
    (huntouched : s.Untouched) (image : Image) (model : MinecraftTextureModel) :
    ∃ content', Tracks content' image
      ({ s with
        image := image
        model := model }.commitMutation (s.currentSnapshot s.model)) :=
  ⟨_, h.commit hsaving rfl (h.skin_eq huntouched) fun stroke hstroke =>
    (h.drawn stroke hstroke).rebase (huntouched stroke hstroke) image⟩

/-- **Undo and redo.**  The editor goes to a state whose id stands for it. -/
theorem Tracks.restored (h : Tracks content base s) (huntouched : s.Untouched)
    (hsaving : s.saving = none) {n : Nat} {history redo : List SkinEditorHistoryEntry}
    (hn : n < s.nextStateId) (hhistory : Chain content (content n) history.reverse)
    (hredo : Chain content (content n) redo.reverse)
    (hgiven : ∀ entry ∈ history ++ redo, entry.stateId < s.nextStateId) :
    Tracks content (content n).image { s with
      image := (content n).image
      model := (content n).model
      history := history
      redo := redo
      currentStateId := n
      dirty := n ≠ s.savedStateId } where
  current := rfl
  idle _ := rfl
  drawn stroke hstroke := (h.drawn stroke hstroke).rebase (huntouched stroke hstroke) _
  history := hhistory
  redo := hredo
  given := hgiven
  currentGiven := hn
  savedGiven := h.savedGiven
  saved := h.saved
  clean hdirty := by simpa using hdirty
  uploading _ hsave := by
    rw [show s.saving = some _ from hsave] at hsaving
    cases hsaving

end Tracks

/-- What `restoreHistoryEntry` does with an entry that leads somewhere. -/
theorem restoreHistoryEntry_eq {s : Editor} {entry : SkinEditorHistoryEntry} {target : Skin}
    (hleads : entry.Leads s.skin target) :
    ∃ inverse, s.restoreHistoryEntry entry = some ({ s with
        image := target.image
        model := target.model
        currentStateId := entry.stateId
        dirty := entry.stateId ≠ s.savedStateId }, inverse) ∧
      inverse.stateId = s.currentStateId ∧ inverse.Leads target s.skin := by
  obtain ⟨inverse, hrestored, hid, hback⟩ := restore_leads s.currentStateId hleads
  refine ⟨inverse, ?_, hid, hback⟩
  rw [Editor.restoreHistoryEntry, hrestored]
  rfl

/-- The newest entry of a history is popped. -/
theorem popped {content : Nat → Skin} {current : Skin} {entries : List SkinEditorHistoryEntry}
    {entry : SkinEditorHistoryEntry} (h : Chain content current entries.reverse)
    (hlast : entries.getLast? = some entry) :
    entry.Leads current (content entry.stateId) ∧
      Chain content (content entry.stateId) entries.dropLast.reverse ∧ entry ∈ entries := by
  have hsplit : entries.dropLast ++ [entry] = entries :=
    List.dropLast_append_getLast? entry hlast
  rw [← hsplit, List.reverse_append] at h
  exact ⟨h.1, h.2, hsplit ▸ List.mem_append_right _ (List.mem_singleton_self entry)⟩

theorem mem_pushBoundedHistory {entries : List SkinEditorHistoryEntry}
    {entry e : SkinEditorHistoryEntry} (h : e ∈ pushBoundedHistory entries entry) :
    e = entry ∨ e ∈ entries := by
  have hmem := (reverse_pushBoundedHistory entries entry).subset (List.mem_reverse.mpr h)
  exact (List.mem_cons.mp hmem).imp_right List.mem_reverse.mp

/-- What a state shows is known, if not by which ids. -/
def Tracked (s : Editor) : Prop := ∃ content base, Tracks content base s

section Handlers

variable {s : Editor}

theorem tracked_undo (hs : Tracked s) (hquiet : s.saving = none → s.Untouched) :
    Tracked s.undo := by
  obtain ⟨content, base, h⟩ := hs
  unfold Editor.undo
  split
  · exact ⟨content, base, h⟩
  · next hsaving =>
      have hnone := Option.not_isSome_iff_eq_none.mp hsaving
      have huntouched := hquiet hnone
      split
      · exact ⟨content, base, h⟩
      · next previous hlast =>
          obtain ⟨hleads, hrest, hmem⟩ := popped h.history hlast
          obtain ⟨inverse, hrestored, hid, hback⟩ := restoreHistoryEntry_eq
            (s := { s with history := s.history.dropLast }) (h.skin_eq huntouched ▸ hleads)
          simp only [hrestored]
          have hback' : inverse.Leads (content previous.stateId) (content inverse.stateId) := by
            rw [hid]
            exact h.skin_eq huntouched ▸ hback
          refine ⟨content, _, h.restored huntouched hnone
            (h.given previous (List.mem_append_left _ hmem)) hrest
            (Chain.push (hid ▸ h.redo) hback') fun e he => ?_⟩
          rcases List.mem_append.mp he with hkept | hpushed
          · exact h.given e (List.mem_append_left _ (List.dropLast_subset _ hkept))
          · rcases mem_pushBoundedHistory hpushed with rfl | hold
            · exact hid ▸ h.currentGiven
            · exact h.given e (List.mem_append_right _ hold)

theorem tracked_redo (hs : Tracked s) (hquiet : s.saving = none → s.Untouched) :
    Tracked s.redoUndone := by
  obtain ⟨content, base, h⟩ := hs
  unfold Editor.redoUndone
  split
  · exact ⟨content, base, h⟩
  · next hsaving =>
      have hnone := Option.not_isSome_iff_eq_none.mp hsaving
      have huntouched := hquiet hnone
      split
      · exact ⟨content, base, h⟩
      · next next hlast =>
          obtain ⟨hleads, hrest, hmem⟩ := popped h.redo hlast
          obtain ⟨inverse, hrestored, hid, hback⟩ := restoreHistoryEntry_eq
            (s := { s with redo := s.redo.dropLast }) (h.skin_eq huntouched ▸ hleads)
          simp only [hrestored]
          have hback' : inverse.Leads (content next.stateId) (content inverse.stateId) := by
            rw [hid]
            exact h.skin_eq huntouched ▸ hback
          refine ⟨content, _, h.restored huntouched hnone
            (h.given next (List.mem_append_right _ hmem))
            (Chain.push (hid ▸ h.history) hback') hrest fun e he => ?_⟩
          rcases List.mem_append.mp he with hpushed | hkept
          · rcases mem_pushBoundedHistory hpushed with rfl | hold
            · exact hid ▸ h.currentGiven
            · exact h.given e (List.mem_append_left _ hold)
          · exact h.given e (List.mem_append_right _ (List.dropLast_subset _ hkept))

theorem tracked_pointerDown (hs : Tracked s) (hquiet : s.saving = none → s.Untouched)
    (pixels : List Nat) (ink : Ink) : Tracked (s.handlePointerDown pixels ink) := by
  obtain ⟨content, base, h⟩ := hs
  unfold Editor.handlePointerDown
  split
  · exact ⟨content, base, h⟩
  · next hsaving =>
      have hnone := Option.not_isSome_iff_eq_none.mp hsaving
      have hdrawn := (Stroke.Since.begun s.image).paintPixels ink pixels
      refine ⟨content, s.image, h.skin_eq (hquiet hnone), fun hidle => ?_, fun stroke hstroke => ?_,
        h.history, h.redo, h.given, h.currentGiven, h.savedGiven, h.saved, h.clean, h.uploading⟩
      · cases hidle
      · cases hstroke
        exact hdrawn

theorem tracked_pointerMove (hs : Tracked s) (pixels : List Nat) (ink : Ink) :
    Tracked (s.handlePointerMove pixels ink) := by
  obtain ⟨content, base, h⟩ := hs
  unfold Editor.handlePointerMove
  split
  · exact ⟨content, base, h⟩
  · next stroke hstroke =>
      have hdrawn := (h.drawn stroke hstroke).paintPixels ink pixels
      refine ⟨content, base, h.current, fun hidle => ?_, fun stroke' hstroke' => ?_,
        h.history, h.redo, h.given, h.currentGiven, h.savedGiven, h.saved, h.clean, h.uploading⟩
      · cases hidle
      · cases hstroke'
        exact hdrawn

theorem tracked_finishStroke (hs : Tracked s)
    (hquiet : ∀ stroke, s.stroke = some stroke → stroke.changed = true → s.saving = none) :
    Tracked s.finishStroke := by
  obtain ⟨content, base, h⟩ := hs
  unfold Editor.finishStroke
  split
  · exact ⟨content, base, h⟩
  · next stroke hstroke =>
      have hdrawn := h.drawn stroke hstroke
      dsimp only
      split
      · next hchanged =>
          rw [Bool.and_eq_true] at hchanged
          have hsorted : Differs (stroke.before.insertionSort (·.1 ≤ ·.1)) s.image base :=
            hdrawn.differs.perm (List.perm_insertionSort ..)
          have hleads : (SkinEditorHistoryEntry.pixels (stroke.before.insertionSort (·.1 ≤ ·.1))
              s.model s.image.size s.currentStateId).Leads s.skin (content s.currentStateId) := by
            rw [h.current]
            exact ⟨rfl, rfl, hsorted⟩
          exact ⟨_, _, h.commit (hquiet stroke hstroke hchanged.1) rfl hleads
            fun _ hnone => by cases hnone⟩
      · next hunchanged =>
          -- nothing was drawn
          have hfalse : stroke.changed = false := by
            by_contra hchanged
            have hbefore := hdrawn.changed.mp (by simpa using hchanged)
            simp [hbefore] at hunchanged
            exact hchanged hunchanged
          refine ⟨content, base, h.current, fun _ => hdrawn.eq_of_unchanged hfalse,
            fun _ hnone => ?_, h.history, h.redo, h.given, h.currentGiven, h.savedGiven, h.saved,
            h.clean, h.uploading⟩
          cases hnone

/-- An edit of the whole image that a guard stops while a save is pending. -/
theorem tracked_edit (hs : Tracked s) (hquiet : s.saving = none → s.Untouched)
    (hsaving : ¬ s.saving.isSome = true) (image : Image) (model : MinecraftTextureModel) :
    Tracked ({ s with
      image := image
      model := model }.commitMutation (s.currentSnapshot s.model)) := by
  obtain ⟨content, base, h⟩ := hs
  have hnone := Option.not_isSome_iff_eq_none.mp hsaving
  obtain ⟨content', h'⟩ := h.commit_snapshot hnone (hquiet hnone) image model
  exact ⟨content', image, h'⟩

theorem tracked_bucketFill (hs : Tracked s) (hquiet : s.saving = none → s.Untouched)
    (filled : Option Image) : Tracked (s.bucketFill filled) := by
  unfold Editor.bucketFill
  split
  · exact hs
  · next hsaving =>
      split
      · exact hs
      · next image => exact tracked_edit hs hquiet hsaving image s.model

theorem tracked_switchModel (hs : Tracked s) (hquiet : s.saving = none → s.Untouched)
    (nextModel : MinecraftTextureModel) (repacked : Image) :
    Tracked (s.switchModel nextModel repacked) := by
  unfold Editor.switchModel
  split
  · exact hs
  · next hguard =>
      rw [Bool.or_eq_true, not_or] at hguard
      exact tracked_edit hs hquiet hguard.2 repacked nextModel

theorem tracked_clearSkin (hs : Tracked s) (hquiet : s.saving = none → s.Untouched) :
    Tracked s.clearSkin := by
  unfold Editor.clearSkin
  split
  · exact hs
  · next hsaving => exact tracked_edit hs hquiet hsaving s.image.clear s.model

/-- Neither the imports that wait nor the messages about past ones matter. -/
theorem Tracked.aside (hs : Tracked s) (imports : List MinecraftTextureModel)
    (corrections : List Correction) :
    Tracked { s with
      imports := imports
      corrections := corrections } := by
  obtain ⟨content, base, h⟩ := hs
  exact ⟨content, base, h.current, h.idle, h.drawn, h.history, h.redo, h.given, h.currentGiven,
    h.savedGiven, h.saved, h.clean, h.uploading⟩

theorem tracked_finishImport {s' : Editor} {i : Nat} {decoded : Option Skin} (hs : Tracked s)
    (hquiet : decoded.isSome → s.saving = none ∧ s.Untouched ∧ s.imports[i]? = some s.model)
    (h : s.finishImport i decoded = some s') : Tracked s' := by
  simp only [Editor.finishImport, Option.bind_eq_bind, Option.bind_eq_some_iff] at h
  obtain ⟨model, hmodel, h⟩ := h
  have haside := hs.aside (s.imports.eraseIdx i) s.corrections
  cases decoded with
  | none =>
      cases h
      exact haside
  | some detected =>
      obtain ⟨hsaving, huntouched, hsame⟩ := hquiet rfl
      obtain rfl : model = s.model := Option.some.inj (hmodel.symm.trans hsame)
      cases h
      have hedit := tracked_edit haside (fun _ => huntouched)
        (by rw [show _ = none from hsaving]; exact Bool.false_ne_true) detected.image detected.model
      exact hedit.aside _ _

theorem tracked_correctImportedModel {s' : Editor} {i : Nat} (hs : Tracked s)
    (hquiet : s.saving = none → s.Untouched) (h : s.correctImportedModel i = some s') :
    Tracked s' := by
  simp only [Editor.correctImportedModel, Option.bind_eq_bind, Option.bind_eq_some_iff] at h
  obtain ⟨correction, -, h⟩ := h
  split at h
  · cases h
    exact hs
  · next hguard =>
      cases h
      simp only [Bool.or_eq_true, decide_eq_true_eq, not_or, ne_eq, Decidable.not_not] at hguard
      obtain ⟨⟨hsaving, -⟩, hmodel⟩ := hguard
      rw [← hmodel]
      exact tracked_edit hs hquiet hsaving s.image _

theorem tracked_startSave (hs : Tracked s) (hquiet : s.saving = none → s.Untouched) :
    Tracked s.startSave := by
  obtain ⟨content, base, h⟩ := hs
  unfold Editor.startSave
  split
  · exact ⟨content, base, h⟩
  · next hguard =>
      rw [Bool.or_eq_true, not_or] at hguard
      have huntouched := hquiet (Option.not_isSome_iff_eq_none.mp hguard.2)
      refine ⟨content, base, h.current, h.idle, h.drawn, h.history, h.redo, h.given,
        h.currentGiven, h.savedGiven, h.saved, h.clean, fun uploaded huploaded => ?_⟩
      cases huploaded
      exact (h.skin_eq huntouched).symm

/-- The save marks as saved what it has uploaded. -/
theorem tracked_finishSave {s' : Editor} {succeeded : Bool} (hs : Tracked s)
    (h : s.finishSave succeeded = some s') : Tracked s' := by
  obtain ⟨content, base, ht⟩ := hs
  simp only [Editor.finishSave, Option.bind_eq_bind, Option.bind_eq_some_iff] at h
  obtain ⟨uploaded, huploaded, h⟩ := h
  cases succeeded with
  | true =>
      cases h
      refine ⟨content, base, ht.current, ht.idle, ht.drawn, trivial, trivial, fun _ h => ?_,
        ht.currentGiven, ht.currentGiven, (ht.uploading uploaded huploaded).symm, fun _ => rfl,
        fun _ h => ?_⟩
      · cases h
      · cases h
  | false =>
      cases h
      refine ⟨content, base, ht.current, ht.idle, ht.drawn, ht.history, ht.redo, ht.given,
        ht.currentGiven, ht.savedGiven, ht.saved, ht.clean, fun _ h => ?_⟩
      cases h

/-- **One step.** -/
theorem tracked_step {s' : Editor} {a : Action} (hs : Tracked s) (h : step a s = some s')
    (hquiet : Undisturbed s a s') : Tracked s' := by
  cases a with
  | pointerDown pixels ink =>
      cases h
      exact tracked_pointerDown hs hquiet pixels ink
  | pointerMove pixels ink =>
      cases h
      exact tracked_pointerMove hs pixels ink
  | pointerUp =>
      cases h
      exact tracked_finishStroke hs hquiet
  | bucketFill filled =>
      cases h
      exact tracked_bucketFill hs hquiet filled
  | undo =>
      cases h
      exact tracked_undo hs hquiet
  | redo =>
      cases h
      exact tracked_redo hs hquiet
  | switchModel nextModel repacked =>
      cases h
      exact tracked_switchModel hs hquiet nextModel repacked
  | clear =>
      cases h
      exact tracked_clearSkin hs hquiet
  | startImport =>
      cases h
      exact hs.aside _ _
  | finishImport i decoded => exact tracked_finishImport hs hquiet h
  | correctImportedModel i => exact tracked_correctImportedModel hs hquiet h
  | startSave =>
      cases h
      exact tracked_startSave hs hquiet
  | finishSave succeeded => exact tracked_finishSave hs h

end Handlers

/-- A canvas of one colour. -/
def plain (color : Nat) : Image where
  size := 64
  pixels := List.replicate (64 * 64) color
  sized := by decide
  filled := List.length_replicate

/-- A stroke is drawn and saved, another one is drawn and taken back. -/
def drawAndUndo : List Action :=
  [.pointerDown [0, 1] .eraser, .pointerMove [1, 2] .eraser, .pointerUp, .startSave,
    .finishSave true, .pointerDown [2, 3] (.brush 255), .pointerUp, .undo]

/-- An image is decoded while the cleared skin is being uploaded. -/
def importWhileSaving : List Action :=
  [.clear, .startImport, .startSave, .finishImport 0 (some ⟨plain 255, .default⟩),
    .finishSave true]

end AsterYggdrasil.SkinEditor
