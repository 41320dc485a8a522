import AsterYggdrasil.Frontend.SkinHistory
import AsterYggdrasil.Interleave.Steps

/-!
# The skin editor

The editor knows whether there is something to save by numbers: every edit gets a
new state id, entries of the history carry the id of the state that they lead to,
and `dirty` says whether the current id is the one last saved.

Actions are what the browser calls the page for.  A stroke is a pointer down, moves
and a pointer up; an import and a save are started, and go on when an image has been
decoded or the upload has ended, with anything in between.  What an action computes
from pixels alone comes with it: the pixels that the brush covers, the image that
the bucket has filled, the arms repacked for another model, the decoded file.
-/

namespace AsterYggdrasil.SkinEditor

/-- The two tools that draw, and the colour of the brush: red, green and blue, and
an alpha of 255. -/
inductive Ink
  | brush (rgb : Nat)
  | eraser
  deriving DecidableEq, Repr

/-- The colour that a tool leaves on a pixel; `none` if it is there already. -/
def Ink.on (current : Nat) : Ink → Option Nat
  | .eraser => if current / 2 ^ 24 = 0 then none else some 0
  | .brush rgb => if current = rgb + 255 * 2 ^ 24 then none else some (rgb + 255 * 2 ^ 24)

/-- `strokeBeforeRef` and `strokeChangedRef`. -/
structure Stroke where
  before : List (Nat × Nat)
  changed : Bool
  deriving DecidableEq, Repr

/-- `toast.success` of an import, with its action to correct the model. -/
structure Correction where
  importedStateId : Nat
  detectedModel : MinecraftTextureModel
  deriving DecidableEq, Repr

/-- The editor.  `stroke` is there while `drawingRef` is set, `saving` while a save
is pending, with what it uploads; of an import that waits for its image there is the
`model` that its closure has.  `server` is what was last loaded or uploaded. -/
structure Editor where
  image : Image
  model : MinecraftTextureModel
  history : List SkinEditorHistoryEntry
  redo : List SkinEditorHistoryEntry
  currentStateId : Nat
  savedStateId : Nat
  nextStateId : Nat
  dirty : Bool
  stroke : Option Stroke
  saving : Option Skin
  imports : List MinecraftTextureModel
  corrections : List Correction
  server : Skin
  deriving DecidableEq, Repr

namespace Editor

/-- What the editor shows. -/
def skin (s : Editor) : Skin := ⟨s.image, s.model⟩

/-- A texture has been loaded. -/
def load (texture : Skin) : Editor where
  image := texture.image
  model := texture.model
  history := []
  redo := []
  currentStateId := 0
  savedStateId := 0
  nextStateId := 1
  dirty := false
  stroke := none
  saving := none
  imports := []
  corrections := []
  server := texture

/-- `currentSnapshot`, with the model that its caller takes it to be. -/
def currentSnapshot (s : Editor) (model : MinecraftTextureModel) : SkinEditorHistoryEntry :=
  .snapshot s.image model s.currentStateId

def commitMutation (s : Editor) (entry : SkinEditorHistoryEntry) : Editor :=
  { s with
    history := pushBoundedHistory s.history entry
    redo := []
    nextStateId := s.nextStateId + 1
    currentStateId := s.nextStateId
    dirty := s.nextStateId ≠ s.savedStateId }

/-! ## Undo and redo -/

/-- `restoreHistoryEntry`; `none` if it throws. -/
def restoreHistoryEntry (s : Editor) (entry : SkinEditorHistoryEntry) :
    Option (Editor × SkinEditorHistoryEntry) :=
  (restoreSkinHistoryEntry entry s.skin s.currentStateId).map fun (restored, inverse) =>
    ({ s with
      image := restored.image
      model := restored.model
      currentStateId := entry.stateId
      dirty := entry.stateId ≠ s.savedStateId }, inverse)

/-- `undo`.  An entry that cannot be restored is gone. -/
def undo (s : Editor) : Editor :=
  if s.saving.isSome then s
  else
    match s.history.getLast? with
    | none => s
    | some previous =>
        let s := { s with history := s.history.dropLast }
        match s.restoreHistoryEntry previous with
        | none => s
        | some (s, inverse) => { s with redo := pushBoundedHistory s.redo inverse }

/-- `redo`. -/
def redoUndone (s : Editor) : Editor :=
  if s.saving.isSome then s
  else
    match s.redo.getLast? with
    | none => s
    | some next =>
        let s := { s with redo := s.redo.dropLast }
        match s.restoreHistoryEntry next with
        | none => s
        | some (s, inverse) => { s with history := pushBoundedHistory s.history inverse }

/-! ## Strokes -/

/-- `paintPixel`, for one pixel that the brush covers. -/
def paintPixel (ink : Ink) (painted : Image × Stroke) (i : Nat) : Image × Stroke :=
  match painted.1.pixels[i]? with
  | none => painted
  | some current =>
      match ink.on current with
      | none => painted
      | some color => (painted.1.paint [(i, color)], {
          before :=
            if i ∈ painted.2.before.map Prod.fst then painted.2.before
            else painted.2.before ++ [(i, current)]
          changed := true })

def handlePointerDown (s : Editor) (pixels : List Nat) (ink : Ink) : Editor :=
  if s.saving.isSome then s
  else
    let (image, stroke) := pixels.foldl (paintPixel ink) (s.image, ⟨[], false⟩)
    { s with
      image := image
      stroke := some stroke }

def handlePointerMove (s : Editor) (pixels : List Nat) (ink : Ink) : Editor :=
  match s.stroke with
  | none => s
  | some stroke =>
      let (image, stroke) := pixels.foldl (paintPixel ink) (s.image, stroke)
      { s with
        image := image
        stroke := some stroke }

def finishStroke (s : Editor) : Editor :=
  match s.stroke with
  | none => s
  | some stroke =>
      let s := { s with stroke := none }
      if stroke.changed && !stroke.before.isEmpty then
        s.commitMutation (.pixels (stroke.before.insertionSort (·.1 ≤ ·.1)) s.model s.image.size
          s.currentStateId)
      else s

/-! ## Edits of the whole image -/

/-- `handlePointerDown` with the bucket. -/
def bucketFill (s : Editor) (filled : Option Image) : Editor :=
  if s.saving.isSome then s
  else
    match filled with
    | none => s
    | some image => { s with image := image }.commitMutation (s.currentSnapshot s.model)

def switchModel (s : Editor) (nextModel : MinecraftTextureModel) (repacked : Image) : Editor :=
  if nextModel = s.model || s.saving.isSome then s
  else
    { s with
      image := repacked
      model := nextModel }.commitMutation (s.currentSnapshot s.model)

def clearSkin (s : Editor) : Editor :=
  if s.saving.isSome then s
  else { s with image := s.image.clear }.commitMutation (s.currentSnapshot s.model)

/-! ## Imports -/

/-- `importSkin`, up to the image it waits for. -/
def startImport (s : Editor) : Editor :=
  { s with imports := s.imports ++ [s.model] }

/-- `importSkin`, when its image has been decoded or turned out to be none.  Its
snapshot takes the model from the closure. -/
def finishImport (s : Editor) (i : Nat) (decoded : Option Skin) : Option Editor := do
  let model ← s.imports[i]?
  let s := { s with imports := s.imports.eraseIdx i }
  match decoded with
  | none => pure s
  | some detected =>
      let s := { s with
        image := detected.image
        model := detected.model }.commitMutation (s.currentSnapshot model)
      pure { s with corrections := s.corrections ++ [⟨s.currentStateId, detected.model⟩] }

/-- The action of the message that tells of an import. -/
def correctImportedModel (s : Editor) (i : Nat) : Option Editor := do
  let correction ← s.corrections[i]?
  if s.saving.isSome || s.currentStateId ≠ correction.importedStateId ||
      s.model ≠ correction.detectedModel then
    pure s
  else
    let correctedModel := if correction.detectedModel = .slim then .default else .slim
    pure ({ s with model := correctedModel }.commitMutation
      (s.currentSnapshot correction.detectedModel))

/-! ## Saves -/

/-- `replaceTexture` and `saveAsCopy`, up to the upload they wait for.  The buttons
are disabled while a save is pending. -/
def startSave (s : Editor) : Editor :=
  if !s.dirty || s.saving.isSome then s else { s with saving := some s.skin }

def markSaved (s : Editor) : Editor :=
  { s with
    savedStateId := s.currentStateId
    history := []
    redo := []
    dirty := false }

/-- `replaceTexture` and `saveAsCopy`, when the upload has succeeded or failed. -/
def finishSave (s : Editor) (succeeded : Bool) : Option Editor := do
  let uploaded ← s.saving
  if succeeded then
    pure { s.markSaved with
      saving := none
      server := uploaded }
  else pure { s with saving := none }

end Editor

/-! ## Runs -/

inductive Action
  | pointerDown (pixels : List Nat) (ink : Ink)
  | pointerMove (pixels : List Nat) (ink : Ink)
  | pointerUp
  | bucketFill (filled : Option Image)
  | undo
  | redo
  | switchModel (nextModel : MinecraftTextureModel) (repacked : Image)
  | clear
  | startImport
  | finishImport (i : Nat) (decoded : Option Skin)
  | correctImportedModel (i : Nat)
  | startSave
  | finishSave (succeeded : Bool)
  deriving DecidableEq, Repr

/-- Where an action leads, if it can happen. -/
def step (a : Action) (s : Editor) : Option Editor :=
  match a with
  | .pointerDown pixels ink => some (s.handlePointerDown pixels ink)
  | .pointerMove pixels ink => some (s.handlePointerMove pixels ink)
  | .pointerUp => some s.finishStroke
  | .bucketFill filled => some (s.bucketFill filled)
  | .undo => some s.undo
  | .redo => some s.redoUndone
  | .switchModel nextModel repacked => some (s.switchModel nextModel repacked)
  | .clear => some s.clearSkin
  | .startImport => some s.startImport
  | .finishImport i decoded => s.finishImport i decoded
  | .correctImportedModel i => s.correctImportedModel i
  | .startSave => some s.startSave
  | .finishSave succeeded => s.finishSave succeeded

end AsterYggdrasil.SkinEditor
